import Smiusb.Observer
import Smiusb.Texts

/-!
The lines that `observe` of `rust/src/main.rs` writes. Each line tells its
event, so the log as a text tells the events, and with them the devices.
-/

namespace Smiusb.ObserverLog
open WireProtocol Observer Texts

/-- What the observer leaves on the error stream. -/
def log (events : List Event) : List Char :=
  events.flatMap fun event => event.text.toList ++ ['\n']

/-- The line between its blanks. -/
def words : Event → List (List Char)
  | .arrived generation info =>
      ["smiusbd-rs:".toList, "generation=".toList ++ Nat.toDigits 10 generation.toNat,
        "arrived".toList, "bus=".toList ++ Nat.toDigits 10 info.key.bus.toNat,
        "address=".toList ++ Nat.toDigits 10 info.key.address.toNat,
        "port=".toList ++ Nat.toDigits 10 info.port.toNat,
        "usb=".toList ++ (formatBcd info.usbVersion).toList,
        "device=".toList ++ (formatBcd info.deviceVersion).toList,
        "speed=".toList ++ info.speed.debug.toList, "(passive;".toList, "no".toList, "open,".toList,
        "claim,".toList, "or".toList, "transfer)".toList]
  | .departed key =>
      ["smiusbd-rs:".toList, "departed".toList, "bus=".toList ++ Nat.toDigits 10 key.bus.toNat,
        "address=".toList ++ Nat.toDigits 10 key.address.toNat, "(passive".toList,
        "observer)".toList]

theorem text_words (event : Event) : event.text.toList = [' '].intercalate (words event) := by
  cases event with
  | arrived generation info =>
      change ("smiusbd-rs: generation=" ++ toString generation.toNat ++ " arrived bus=" ++
        toString info.key.bus.toNat ++ " " ++ ("address=" ++ toString info.key.address.toNat ++
        " port=" ++ toString info.port.toNat ++ " ") ++ ("usb=" ++ formatBcd info.usbVersion ++
        " device=" ++ formatBcd info.deviceVersion ++ " ") ++ ("speed=" ++ info.speed.debug ++
        " (passive; no open, claim, or transfer)")).toList = _
      simp [words, List.intercalate]
  | departed key =>
      change ("smiusbd-rs: departed bus=" ++ toString key.bus.toNat ++ " address=" ++
        toString key.address.toNat ++ " (passive observer)").toList = _
      simp [words, List.intercalate]

/-- Neither a blank nor the end of a line. -/
def Solid (word : List Char) : Prop := ' ' ∉ word ∧ '\n' ∉ word

instance (word : List Char) : Decidable (Solid word) := inferInstanceAs (Decidable (_ ∧ _))

section Words

theorem solid_append {front back : List Char} (first : Solid front) (second : Solid back) :
    Solid (front ++ back) := by
  simp [Solid, first.1, first.2, second.1, second.2]

theorem solid_decimal (number : Nat) : Solid (Nat.toDigits 10 number) :=
  ⟨not_in_decimal ' ' rfl number, not_in_decimal '\n' rfl number⟩

/-- The value of lower-case hexadecimal digits. -/
def hexValue (digits : List Char) : Nat :=
  digits.foldl (fun value digit =>
    16 * value + if digit.isDigit then digit.toNat - 48 else digit.toNat - 87) 0

theorem byte_digits_table : ∀ width ∈ [1, 2], ∀ code < 256,
    hexValue ((Nat.toDigits 16 code).leftpad width '0') = code ∧
      ((Nat.toDigits 16 code).leftpad width '0').all Char.isAlphanum = true := by
  decide +kernel

theorem bcd_digits (value : UInt16) : (formatBcd value).toList =
    (Nat.toDigits 16 (value.toNat / 2 ^ 8)).leftpad 1 '0' ++
      '.' :: (Nat.toDigits 16 (value.toNat % 2 ^ 8)).leftpad 2 '0' := by
  simp [formatBcd, lowerHex]

theorem not_in_byte_digits {width code : Nat} (known : width ∈ [1, 2]) (byte : code < 256)
    (character : Char) (other : character.isAlphanum = false) :
    character ∉ (Nat.toDigits 16 code).leftpad width '0' := by
  intro member
  have each := List.all_eq_true.mp (byte_digits_table width known code byte).2 character member
  exact Bool.false_ne_true (other.symm.trans each)

theorem bcd_injective : Function.Injective formatBcd := by
  intro one other same
  have texts := congrArg String.toList same
  have high (value : UInt16) : value.toNat / 2 ^ 8 < 256 := by
    have bound := value.toNat_lt
    omega
  have low (value : UInt16) : value.toNat % 2 ^ 8 < 256 := Nat.mod_lt _ (by decide)
  rw [bcd_digits, bcd_digits] at texts
  obtain ⟨fronts, backs⟩ := first_mark_unique
    (not_in_byte_digits (by decide) (high one) '.' rfl)
    (not_in_byte_digits (by decide) (high other) '.' rfl) texts
  have quotients := congrArg hexValue fronts
  have remainders := congrArg hexValue backs
  rw [(byte_digits_table 1 (by decide) _ (high one)).1,
    (byte_digits_table 1 (by decide) _ (high other)).1] at quotients
  rw [(byte_digits_table 2 (by decide) _ (low one)).1,
    (byte_digits_table 2 (by decide) _ (low other)).1] at remainders
  apply UInt16.toNat_inj.mp
  omega

theorem not_in_bcd (value : UInt16) (character : Char) (other : character.isAlphanum = false)
    (point : character ≠ '.') : character ∉ (formatBcd value).toList := by
  have bound := value.toNat_lt
  rw [bcd_digits, List.mem_append, List.mem_cons]
  rintro (front | same | back)
  · exact not_in_byte_digits (by decide) (by omega) character other front
  · exact point same
  · exact not_in_byte_digits (by decide) (Nat.mod_lt _ (by decide)) character other back

theorem solid_bcd (value : UInt16) : Solid (formatBcd value).toList :=
  ⟨not_in_bcd value ' ' rfl (by decide), not_in_bcd value '\n' rfl (by decide)⟩

/-- The decimal digits of an integer, behind a minus sign if it is negative. -/
def signedDigits : Int → List Char
  | .ofNat number => Nat.toDigits 10 number
  | .negSucc number => '-' :: Nat.toDigits 10 (number + 1)

theorem integer_text (number : Int) : (toString number).toList = signedDigits number := by
  cases number with
  | ofNat number => simp [toString, Int.repr, signedDigits]
  | negSucc number => simp [toString, Int.repr, signedDigits]

theorem signed_injective {one other : Int} (same : signedDigits one = signedDigits other) :
    one = other := by
  have minus (number : Nat) : '-' ∉ Nat.toDigits 10 number := not_in_decimal '-' rfl number
  cases one with
  | ofNat one =>
      cases other with
      | ofNat other => rw [decimal_injective same]
      | negSucc other =>
          apply absurd _ (minus one)
          change _ = '-' :: _ at same
          rw [show Nat.toDigits 10 one = _ from same]
          exact List.mem_cons_self
  | negSucc one =>
      cases other with
      | ofNat other =>
          apply absurd _ (minus other)
          rw [show Nat.toDigits 10 other = _ from same.symm]
          exact List.mem_cons_self
      | negSucc other =>
          have digits := decimal_injective (List.cons.inj same).2
          rw [Nat.succ.inj digits]

theorem solid_signed (number : Int) : Solid (signedDigits number) := by
  cases number with
  | ofNat number => exact solid_decimal number
  | negSucc number =>
      have sign : Solid ['-'] := by decide
      exact solid_append sign (solid_decimal (number + 1))

theorem speed_other (value : Int32) :
    (Speed.other value).debug.toList = "Other(".toList ++ signedDigits value.toInt ++ [')'] := by
  change ("Other(" ++ toString value.toInt ++ ")").toList = _
  rw [String.toList_append, String.toList_append, integer_text]
  rfl

def namedSpeeds : List Speed := [.unknown, .low, .full, .high, .super, .superPlus]

theorem speed_kinds (speed : Speed) : speed ∈ namedSpeeds ∨ ∃ value, speed = .other value := by
  cases speed with
  | other value => exact .inr ⟨value, rfl⟩
  | _ => exact .inl (by decide)

/-- Only the text of an unnamed speed begins with an O. -/
theorem named_speeds_apart : ∀ one ∈ namedSpeeds, one.debug.toList.head? ≠ some 'O' ∧
    ∀ other ∈ namedSpeeds, one.debug = other.debug → one = other := by
  decide

theorem speed_head (value : Int32) : (Speed.other value).debug.toList.head? = some 'O' := by
  rw [speed_other]
  rfl

theorem speed_injective : Function.Injective Speed.debug := by
  intro one other same
  rcases speed_kinds one with named | ⟨value, rfl⟩
  · rcases speed_kinds other with named' | ⟨value, rfl⟩
    · exact (named_speeds_apart one named).2 other named' same
    · exact absurd (same ▸ speed_head value) (named_speeds_apart one named).1
  · rcases speed_kinds other with named | ⟨value', rfl⟩
    · exact absurd (same ▸ speed_head value) (named_speeds_apart other named).1
    · have texts := congrArg String.toList same
      rw [speed_other, speed_other, List.append_left_inj, List.append_right_inj] at texts
      rw [Int32.toInt_inj.mp (signed_injective texts)]

theorem solid_speed (speed : Speed) : Solid speed.debug.toList := by
  cases speed with
  | other value =>
      rw [speed_other]
      exact solid_append (solid_append (by decide) (solid_signed _)) (by decide)
  | _ => decide

theorem words_solid (event : Event) : ∀ word ∈ words event, Solid word := by
  cases event with
  | arrived generation info =>
      simp only [words, List.forall_mem_cons]
      exact ⟨by decide, solid_append (by decide) (solid_decimal _), by decide,
        solid_append (by decide) (solid_decimal _), solid_append (by decide) (solid_decimal _),
        solid_append (by decide) (solid_decimal _), solid_append (by decide) (solid_bcd _),
        solid_append (by decide) (solid_bcd _), solid_append (by decide) (solid_speed _),
        by decide, by decide, by decide, by decide, by decide, by decide, by simp⟩
  | departed key =>
      simp only [words, List.forall_mem_cons]
      exact ⟨by decide, by decide, solid_append (by decide) (solid_decimal _),
        solid_append (by decide) (solid_decimal _), by decide, by decide, by simp⟩

theorem words_injective : Function.Injective words := by
  intro one other same
  cases one with
  | arrived generation info =>
      cases other with
      | departed key => simp [words] at same
      | arrived generation' info' =>
          simp only [words, List.cons.injEq, List.append_cancel_left_eq, true_and, and_true] at same
          obtain ⟨number, bus, address, port, usb, device, speed⟩ := same
          obtain ⟨⟨bus₁, address₁⟩, port₁, usb₁, device₁, speed₁⟩ := info
          obtain ⟨⟨bus₂, address₂⟩, port₂, usb₂, device₂, speed₂⟩ := info'
          obtain rfl := UInt64.toNat_inj.mp (decimal_injective number)
          obtain rfl := UInt8.toNat_inj.mp (decimal_injective bus)
          obtain rfl := UInt8.toNat_inj.mp (decimal_injective address)
          obtain rfl := UInt8.toNat_inj.mp (decimal_injective port)
          obtain rfl := bcd_injective (String.toList_inj.mp usb)
          obtain rfl := bcd_injective (String.toList_inj.mp device)
          obtain rfl := speed_injective (String.toList_inj.mp speed)
          rfl
  | departed key =>
      cases other with
      | arrived generation info => simp [words] at same
      | departed key' =>
          simp only [words, List.cons.injEq, List.append_cancel_left_eq, true_and, and_true] at same
          obtain ⟨bus, address⟩ := same
          obtain ⟨bus₁, address₁⟩ := key
          obtain ⟨bus₂, address₂⟩ := key'
          obtain rfl := UInt8.toNat_inj.mp (decimal_injective bus)
          obtain rfl := UInt8.toNat_inj.mp (decimal_injective address)
          rfl

end Words

theorem words_filled (event : Event) : words event ≠ [] := by
  cases event <;> simp [words]

theorem text_injective : Function.Injective fun event : Event => event.text.toList := by
  intro one other same
  have lines : [' '].intercalate (words one) = [' '].intercalate (words other) := by
    rw [← text_words, ← text_words]
    exact same
  have split := congrArg (List.splitOn ' ') lines
  rw [List.splitOn_intercalate ' ' (fun word member => (words_solid one word member).1)
      (words_filled one),
    List.splitOn_intercalate ' ' (fun word member => (words_solid other word member).1)
      (words_filled other)] at split
  exact words_injective split

theorem text_one_line (event : Event) : '\n' ∉ event.text.toList := by
  rw [text_words]
  exact not_mem_intercalate (by decide) fun word member => (words_solid event word member).2

/-- The text of a log tells its events. If no key changes its device between
two polls, it therefore tells the devices of the last poll as well. -/
theorem observer_log_determines (duration duration' : Option Nat) (polls polls' : List DeviceList)
    (same : log (observed duration polls).2.printed = log (observed duration' polls').2.printed) :
    (observed duration polls).2.printed = (observed duration' polls').2.printed ∧
      (Steady polls → arrivalsFrom .empty polls ≤ FrameQueue.u64Max →
        Steady polls' → arrivalsFrom .empty polls' ≤ FrameQueue.u64Max →
        (lastPolled polls).find = (lastPolled polls').find) := by
  have events : (observed duration polls).2.printed = (observed duration' polls').2.printed :=
    terminated_injective text_injective text_one_line same
  refine ⟨events, ?_⟩
  intro steady room steady' room'
  have replayed := (faithful_of_steady duration steady room).replays polls.length
  have replayed' := (faithful_of_steady duration' steady' room').replays polls'.length
  rw [List.take_length] at replayed replayed'
  rw [events, replayed'] at replayed
  exact (Option.some.inj replayed).symm

/-- Two adapters, of which the first leaves; libusb lists them in either order
and with null pointers between them. -/
def visit : List DeviceList :=
  [[some (adapterAt 2)], [some (adapterAt 2), some { adapterAt 3 with address := 6 }],
    [some { adapterAt 3 with address := 6 }]]

def shuffledVisit : List DeviceList :=
  [[none, some (adapterAt 2)], [some { adapterAt 3 with address := 6 }, some (adapterAt 2)],
    [some { adapterAt 3 with address := 6 }, none]]

theorem observer_log_determines_adapter :
    (observed none visit).2.printed =
      [.arrived 1 ⟨⟨1, 5⟩, 2, 0x0320, 0x0001, .super⟩,
        .arrived 2 ⟨⟨1, 6⟩, 3, 0x0320, 0x0001, .super⟩, .departed ⟨1, 5⟩] ∧
    (lastPolled visit).find = (lastPolled shuffledVisit).find := by
  have events : (observed none visit).2.printed = (observed (some 9) shuffledVisit).2.printed := by
    decide
  exact ⟨by decide, (observer_log_determines none (some 9) _ _ (congrArg log events)).2
    (by decide) (by decide) (by decide) (by decide)⟩

end Smiusb.ObserverLog
