import Mathlib.Data.List.Forall2
import Smiusb.FrameQueue
import Smiusb.PacketDecoder
import Smiusb.RequestPackets

/-!
Hexadecimal text: `parse_hex`, `read_hex_text` and `read_hex_file` of
`rust/src/main.rs`, which read captures, and `print_protocol_info`, which
prints packets. A text is taken as the characters that are left when blanks
and colons are removed; what these spell is the packet.
-/

namespace Smiusb.HexText
open Execution Bytes WireProtocol RequestPackets PacketDecoder FrameQueue

/-! The source functions. -/

/-- `char::is_ascii_whitespace`; the vertical tab does not count. -/
def isAsciiWhitespace (character : Char) : Bool :=
  character = '\t' || character = '\n' || character = Char.ofNat 0x0c || character = '\r' ||
    character = ' '

/-- `char::is_ascii_hexdigit`. -/
def isAsciiHexdigit (character : Char) : Bool :=
  ('0' ≤ character && character ≤ '9') || ('a' ≤ character && character ≤ 'f') ||
    ('A' ≤ character && character ≤ 'F')

/-- `char::to_digit(16)`. -/
def toDigit16 (character : Char) : Option Nat :=
  if '0' ≤ character && character ≤ '9' then some (character.toNat - '0'.toNat)
  else if 'a' ≤ character && character ≤ 'f' then some (10 + (character.toNat - 'a'.toNat))
  else if 'A' ≤ character && character ≤ 'F' then some (10 + (character.toNat - 'A'.toNat))
  else none

/-- Why a read of the standard library failed. -/
inductive ReadError where
  | outOfMemory
  | other (text : String)
  deriving DecidableEq, Repr

inductive HexError where
  | invalidDigit (character : Char)
  | oddDigits
  | limitOverflow
  | limitUnreadable
  | unreadable (error : ReadError)
  | exceeds (limit : Nat)
  | notUtf8 (bytes : List UInt8)
  deriving DecidableEq, Repr

/-- Texts that the standard library supplies. -/
structure StdTexts where
  debugChar : Char → String
  debugPath : String → String
  outOfMemory : String
  utf8Error : List UInt8 → String

def ReadError.display (std : StdTexts) : ReadError → String
  | .outOfMemory => std.outOfMemory
  | .other text => text

def HexError.display (std : StdTexts) : HexError → String
  | .invalidDigit character => "invalid hex digit: " ++ std.debugChar character
  | .oddDigits => "hex input must contain an even number of digits"
  | .limitOverflow => "hex text byte limit overflows this platform"
  | .limitUnreadable => "hex text byte limit does not fit the reader API"
  | .unreadable error => "cannot read hex text: " ++ error.display std
  | .exceeds limit => s!"hex text exceeds the {limit} byte safety limit (including whitespace)"
  | .notUtf8 bytes => "hex input is not valid UTF-8 text: " ++ std.utf8Error bytes

/-- The `for` loop of `parse_hex`; the `expect` panics without a digit. -/
def pushNibbles (nibbles : List UInt8) : List Char → Outcome HexError (List UInt8)
  | [] => .ok nibbles
  | character :: rest =>
      if isAsciiWhitespace character || character = ':' then pushNibbles nibbles rest
      else if !isAsciiHexdigit character then .err (.invalidDigit character)
      else
        match toDigit16 character with
        | none => .panicked
        | some digit => pushNibbles (nibbles ++ [UInt8.ofNat digit]) rest

/-- The mapping over the chunks, each of which is indexed twice. -/
def joinPairs : List (List UInt8) → Outcome HexError (List UInt8)
  | [] => .ok []
  | pair :: rest => do
      let high ← index pair 0
      let low ← index pair 1
      let bytes ← joinPairs rest
      .ok (((high <<< 4) ||| low) :: bytes)

def parseHex (input : String) : Outcome HexError (List UInt8) := do
  let nibbles ← pushNibbles [] input.toList
  if nibbles.length % 2 ≠ 0 then .err .oddDigits
  else joinPairs (chunksExact 2 nibbles)

/-- A source of bytes: what it yields, and the error behind that, if any. -/
structure Reader where
  content : List UInt8
  failure : Option ReadError := none

/-- `reader.take(limit).read_to_end`: a reader that yields enough is not asked
again, and a vector holds at most `isizeMax` bytes. -/
def readToEnd (target : Target) (reader : Reader) (limit : Nat) :
    Outcome ReadError (List UInt8) :=
  if target.isizeMax < (reader.content.take limit).length then .err .outOfMemory
  else if limit ≤ reader.content.length then .ok (reader.content.take limit)
  else
    match reader.failure with
    | some error => .err error
    | none => .ok reader.content

/-- `str::from_utf8`. -/
def fromUtf8 (bytes : List UInt8) : Option String := String.fromUTF8? ⟨bytes.toArray⟩

def readHexText (target : Target) (reader : Reader) (limit : Nat) :
    Outcome HexError (List UInt8) := do
  let readLimit ← okOr (checkedAdd target limit 1) .limitOverflow
  let readLimit ← okOr (if readLimit ≤ u64Max then some readLimit else none) .limitUnreadable
  let textBytes ← (readToEnd target reader readLimit).mapError .unreadable
  if limit < textBytes.length then .err (.exceeds limit)
  else do
    let text ← okOr (fromUtf8 textBytes) (.notUtf8 textBytes)
    parseHex text

def maxHexTextBytes : Nat := 32 * 1024 * 1024

inductive HexFileError where
  | cannotOpen (path error : String)
  | cannotInspect (path error : String)
  | tooLarge (path : String) (length : Nat)
  | inFile (path : String) (error : HexError)
  | inStdin (error : HexError)
  deriving DecidableEq, Repr

def HexFileError.display (std : StdTexts) : HexFileError → String
  | .cannotOpen path error => "cannot open " ++ std.debugPath path ++ ": " ++ error
  | .cannotInspect path error => "cannot inspect " ++ std.debugPath path ++ ": " ++ error
  | .tooLarge path length =>
      "hex text in " ++ std.debugPath path ++ s!" is {length} bytes; safety limit is " ++
        s!"{maxHexTextBytes} bytes including whitespace"
  | .inFile path error => std.debugPath path ++ ": " ++ error.display std
  | .inStdin error => error.display std

/-- An opened file: the length its metadata states, or the error of asking for
it, and what reading yields. The two need not agree. -/
structure OpenedFile where
  metadata : Except String Nat
  reader : Reader

structure Files where
  stdin : Reader
  openFile : String → Except String OpenedFile

def readHexFile (target : Target) (files : Files) (path : String) :
    Outcome HexFileError (List UInt8) :=
  if path = "-" then (readHexText target files.stdin maxHexTextBytes).mapError .inStdin
  else
    match files.openFile path with
    | .error error => .err (.cannotOpen path error)
    | .ok file =>
        match file.metadata with
        | .error error => .err (.cannotInspect path error)
        | .ok length =>
            if maxHexTextBytes < length then .err (.tooLarge path length)
            else (readHexText target file.reader maxHexTextBytes).mapError (.inFile path)

/-- `packet.iter().map(|byte| format!("{byte:02x}")).collect()`. -/
def hexOf (packet : List UInt8) : String :=
  String.ofList (packet.flatMap fun byte => (lowerHex 2 byte.toNat).toList)

def displayInterface : Nat := 4
def displayAltSetting : Nat := 1
def interruptInEndpoint : Nat := 0x81
def interruptOutEndpoint : Nat := 0x01
def bulkOutEndpoint : Nat := 0x02

/-- The `expect` on the heartbeat panics if the builder refuses. -/
def printProtocolInfo (target : Target) : Report :=
  .println (s!"display-interface={displayInterface} alt={displayAltSetting} interrupt-in=0x" ++
      lowerHex 2 interruptInEndpoint ++ " interrupt-out=0x" ++ lowerHex 2 interruptOutEndpoint ++
      " bulk-out=0x" ++ lowerHex 2 bulkOutEndpoint)
    (.after buildCapabilitiesRequest fun capabilities =>
      match buildBulkHeartbeatRequest target 0 with
      | .ok heartbeat =>
          .println ("capabilities=" ++ hexOf capabilities)
            (.println ("bulk-heartbeat=" ++ hexOf heartbeat)
              (.println "transmission=disabled" .success))
      | _ => ⟨[], .panicked⟩)

/-! What a text spells. -/

def separators : List Char := [' ', '\t', '\n', Char.ofNat 0x0c, '\r', ':']

def lowerDigits : List Char :=
  ['0', '1', '2', '3', '4', '5', '6', '7', '8', '9', 'a', 'b', 'c', 'd', 'e', 'f']

def upperDigits : List Char :=
  ['0', '1', '2', '3', '4', '5', '6', '7', '8', '9', 'A', 'B', 'C', 'D', 'E', 'F']

def HexDigit (character : Char) (value : Nat) : Prop :=
  lowerDigits[value]? = some character ∨ upperDigits[value]? = some character

/-- Two digits for each byte, the high one first. -/
inductive Spells : List Char → List UInt8 → Prop
  | nil : Spells [] []
  | cons {high low : Char} {byte : UInt8} {digits : List Char} {bytes : List UInt8} :
      HexDigit high (byte.toNat / 16) → HexDigit low (byte.toNat % 16) → Spells digits bytes →
      Spells (high :: low :: digits) (byte :: bytes)

def withoutSeparators (characters : List Char) : List Char :=
  characters.filter fun character => character ∉ separators

/-- The second text is the first with separators inserted anywhere. -/
inductive Separated : List Char → List Char → Prop
  | nil : Separated [] []
  | keep (character : Char) {digits text : List Char} :
      Separated digits text → Separated (character :: digits) (character :: text)
  | insert (separator : Char) {digits text : List Char} :
      separator ∈ separators → Separated digits text → Separated digits (separator :: text)

/-- The text writes each byte with two digits, in either case. -/
def Renders (bytes : List UInt8) (text : String) : Prop :=
  ∃ digits, Spells digits bytes ∧ Separated digits text.toList

/-- The UTF-8 encoding of a text. -/
def utf8 (text : String) : List UInt8 := text.toUTF8.data.toList

section Characters

theorem hex_digit_lt {character : Char} {value : Nat} (digit : HexDigit character value) :
    value < 16 := by
  obtain lower | upper := digit
  · exact (List.getElem?_eq_some_iff.mp lower).1
  · exact (List.getElem?_eq_some_iff.mp upper).1

theorem ascii_of_le {character last : Char} (order : character ≤ last) :
    character.toNat ≤ last.toNat :=
  order

theorem to_digit16_ascii {character : Char} {value : Nat}
    (digit : toDigit16 character = some value) : character.toNat < 128 := by
  unfold toDigit16 at digit
  split_ifs at digit with decimal lower upper
  · exact Nat.lt_of_le_of_lt
      (ascii_of_le (Bool.and_eq_true_iff.mp decimal |>.2 |> of_decide_eq_true)) (by decide)
  · exact Nat.lt_of_le_of_lt (ascii_of_le (Bool.and_eq_true_iff.mp lower |>.2 |> of_decide_eq_true))
      (by decide)
  · exact Nat.lt_of_le_of_lt (ascii_of_le (Bool.and_eq_true_iff.mp upper |>.2 |> of_decide_eq_true))
      (by decide)

-- The digit values of all ASCII characters, against the two rows of digits.
theorem to_digit16_table : ∀ code < 128, ∀ value ∈ toDigit16 (Char.ofNat code),
    lowerDigits[value]? = some (Char.ofNat code) ∨
      upperDigits[value]? = some (Char.ofNat code) := by
  decide +kernel

theorem digit_rows_table : ∀ value < 16, ∀ row ∈ [lowerDigits, upperDigits],
    (row[value]?.bind toDigit16) = some value := by
  decide

theorem to_digit16_eq_some_iff (character : Char) (value : Nat) :
    toDigit16 character = some value ↔ HexDigit character value := by
  constructor
  · intro digit
    have row := to_digit16_table character.toNat (to_digit16_ascii digit) value
    rw [Char.ofNat_toNat] at row
    exact row digit
  · intro digit
    have small := hex_digit_lt digit
    obtain lower | upper := digit
    · have row := digit_rows_table value small lowerDigits (by simp)
      rwa [lower] at row
    · have row := digit_rows_table value small upperDigits (by simp)
      rwa [upper] at row

theorem is_ascii_hexdigit_eq (character : Char) :
    isAsciiHexdigit character = (toDigit16 character).isSome := by
  unfold isAsciiHexdigit toDigit16
  split_ifs with decimal lower upper <;> simp_all

theorem separator_iff (character : Char) :
    (isAsciiWhitespace character || character = ':') = true ↔ character ∈ separators := by
  simp only [isAsciiWhitespace, separators, Bool.or_eq_true, decide_eq_true_eq, List.mem_cons,
    List.not_mem_nil, or_false]
  tauto

theorem separator_not_digit {character : Char} {value : Nat} (separator : character ∈ separators) :
    ¬ HexDigit character value := by
  have table : (separators.all fun character => (toDigit16 character).isNone) = true := by
    decide +kernel
  have none := List.all_eq_true.mp table character separator
  rw [← to_digit16_eq_some_iff, Option.isNone_iff_eq_none.mp none]
  simp

end Characters

section Parsing

/-- Each character is the digit of the nibble at its place. -/
def Nibbles : List Char → List UInt8 → Prop :=
  List.Forall₂ fun character nibble => HexDigit character nibble.toNat

theorem nibbles_cons_iff {character : Char} {rest : List Char} {values : List UInt8} :
    Nibbles (character :: rest) values ↔
      ∃ value later, toDigit16 character = some value ∧ values = UInt8.ofNat value :: later ∧
        Nibbles rest later := by
  rw [Nibbles, List.forall₂_cons_left_iff]
  constructor
  · rintro ⟨nibble, later, first, spelled, rfl⟩
    refine ⟨nibble.toNat, later, (to_digit16_eq_some_iff _ _).mpr first, ?_, spelled⟩
    rw [UInt8.ofNat_toNat]
  · rintro ⟨value, later, digit, rfl, spelled⟩
    have first := (to_digit16_eq_some_iff _ _).mp digit
    have byte : (UInt8.ofNat value).toNat = value := by
      rw [UInt8.toNat_ofNat', Nat.mod_eq_of_lt (by have := hex_digit_lt first; omega)]
    exact ⟨_, later, byte.symm ▸ first, spelled, rfl⟩

theorem push_nibbles_ok_iff (nibbles : List UInt8) (characters : List Char) (result : List UInt8) :
    pushNibbles nibbles characters = .ok result ↔
      ∃ values, result = nibbles ++ values ∧ Nibbles (withoutSeparators characters) values := by
  induction characters generalizing nibbles with
  | nil =>
      rw [pushNibbles, Outcome.ok.injEq]
      constructor
      · rintro rfl
        exact ⟨[], (List.append_nil _).symm, .nil⟩
      · rintro ⟨values, rfl, spelled⟩
        cases spelled
        rw [List.append_nil]
  | cons character rest ih =>
      rw [pushNibbles]
      by_cases separator : character ∈ separators
      · have skipped : withoutSeparators (character :: rest) = withoutSeparators rest := by
          simp [withoutSeparators, separator]
        rw [if_pos ((separator_iff character).mpr separator), skipped, ih]
      · have kept : withoutSeparators (character :: rest) =
            character :: withoutSeparators rest := by
          simp [withoutSeparators, separator]
        rw [if_neg (mt (separator_iff character).mp separator), is_ascii_hexdigit_eq, kept]
        simp only [nibbles_cons_iff]
        cases toDigit16 character with
        | none =>
            -- no digit: the loop stops here, and nothing spells this text
            rw [if_pos (by rfl)]
            constructor
            · intro ended
              cases ended
            · rintro ⟨_, -, _, _, digit, -⟩
              cases digit
        | some value =>
            rw [if_neg (by simp)]
            simp only [ih]
            constructor
            · rintro ⟨values, rfl, spelled⟩
              exact ⟨_, by simp, value, values, rfl, rfl, spelled⟩
            · rintro ⟨_, rfl, _, later, digit, rfl, spelled⟩
              cases digit
              exact ⟨later, by simp, spelled⟩

/-- Neighbouring nibbles as bytes. -/
def pairBytes : List UInt8 → List UInt8
  | high :: low :: rest => ((high <<< 4) ||| low) :: pairBytes rest
  | _ => []

theorem chunks_exact_two (high low : UInt8) (rest : List UInt8) :
    chunksExact 2 (high :: low :: rest) = [high, low] :: chunksExact 2 rest := by
  unfold chunksExact
  have rows : (high :: low :: rest).length / 2 = rest.length / 2 + 1 := by
    simp only [List.length_cons]
    omega
  rw [rows, List.range_succ_eq_map, List.map_cons, List.map_map]
  congr 1
  apply List.map_congr_left
  intro row _
  rw [Function.comp_apply, Nat.succ_mul]
  rfl

theorem join_pairs_eq (nibbles : List UInt8) :
    joinPairs (chunksExact 2 nibbles) = .ok (pairBytes nibbles) := by
  induction nibbles using pairBytes.induct with
  | case1 high low rest ih =>
      rw [chunks_exact_two, joinPairs, ih]
      rfl
  | case2 nibbles short =>
      cases nibbles with
      | nil => rfl
      | cons high rest =>
          cases rest with
          | nil => simp [chunksExact, joinPairs, pairBytes]
          | cons low rest => exact absurd rfl (short high low rest)

theorem join_nibbles : ∀ high < 16, ∀ low < 16,
    ((UInt8.ofNat high <<< 4) ||| UInt8.ofNat low).toNat = 16 * high + low := by
  decide

/-- The two nibbles of each byte. -/
def splitBytes (bytes : List UInt8) : List UInt8 :=
  bytes.flatMap fun byte => [UInt8.ofNat (byte.toNat / 16), UInt8.ofNat (byte.toNat % 16)]

theorem spells_of_nibbles {digits : List Char} {nibbles : List UInt8}
    (each : Nibbles digits nibbles) (even : nibbles.length % 2 = 0) :
    Spells digits (pairBytes nibbles) := by
  induction nibbles using pairBytes.induct generalizing digits with
  | case1 high low rest ih =>
      obtain ⟨first, digits, one, behind, rfl⟩ := List.forall₂_cons_right_iff.mp each
      obtain ⟨second, digits, two, later, rfl⟩ := List.forall₂_cons_right_iff.mp behind
      have byte : ((high <<< 4) ||| low).toNat = 16 * high.toNat + low.toNat := by
        have joined := join_nibbles _ (hex_digit_lt one) _ (hex_digit_lt two)
        rwa [UInt8.ofNat_toNat, UInt8.ofNat_toNat] at joined
      have small := hex_digit_lt two
      rw [pairBytes]
      apply Spells.cons
      · rwa [byte, show (16 * high.toNat + low.toNat) / 16 = high.toNat by omega]
      · rwa [byte, show (16 * high.toNat + low.toNat) % 16 = low.toNat by omega]
      · apply ih later
        simp only [List.length_cons] at even
        omega
  | case2 nibbles short =>
      cases nibbles with
      | nil =>
          rw [List.forall₂_nil_right_iff.mp each]
          exact .nil
      | cons high rest =>
          cases rest with
          | nil => simp at even
          | cons low rest => exact absurd rfl (short high low rest)

theorem nibbles_of_spells {digits : List Char} {bytes : List UInt8}
    (spelled : Spells digits bytes) :
    Nibbles digits (splitBytes bytes) ∧ pairBytes (splitBytes bytes) = bytes ∧
      (splitBytes bytes).length = 2 * bytes.length := by
  induction spelled with
  | nil => exact ⟨.nil, rfl, rfl⟩
  | @cons high low byte digits bytes one two _ ih =>
      obtain ⟨each, paired, length⟩ := ih
      have bound := byte.toNat_lt
      have first : (UInt8.ofNat (byte.toNat / 16)).toNat = byte.toNat / 16 := by
        rw [UInt8.toNat_ofNat', Nat.mod_eq_of_lt (by omega)]
      have second : (UInt8.ofNat (byte.toNat % 16)).toNat = byte.toNat % 16 := by
        rw [UInt8.toNat_ofNat', Nat.mod_eq_of_lt (by omega)]
      have joined : (UInt8.ofNat (byte.toNat / 16) <<< 4) ||| UInt8.ofNat (byte.toNat % 16) =
          byte := by
        rw [← UInt8.toNat_inj, join_nibbles _ (by omega) _ (by omega)]
        omega
      refine ⟨.cons (by rwa [first]) (.cons (by rwa [second]) each), ?_, ?_⟩
      · change ((UInt8.ofNat (byte.toNat / 16) <<< 4) ||| UInt8.ofNat (byte.toNat % 16)) ::
          pairBytes (splitBytes bytes) = _
        rw [joined, paired]
      · change (splitBytes bytes).length + 1 + 1 = 2 * (bytes.length + 1)
        omega

theorem spells_length {digits : List Char} {bytes : List UInt8} (spelled : Spells digits bytes) :
    digits.length = 2 * bytes.length := by
  obtain ⟨each, -, length⟩ := nibbles_of_spells spelled
  rw [each.length_eq, length]

/-- The parser accepts what spells bytes once the separators are gone, and
nothing else. -/
theorem parse_hex_ok_iff (text : String) (bytes : List UInt8) :
    parseHex text = .ok bytes ↔ Spells (withoutSeparators text.toList) bytes := by
  rw [parseHex, Outcome.bind_eq_ok_iff]
  constructor
  · rintro ⟨nibbles, pushed, rest⟩
    obtain ⟨_, rfl, each⟩ := (push_nibbles_ok_iff _ _ _).mp pushed
    split_ifs at rest with odd
    rw [join_pairs_eq] at rest
    cases rest
    exact spells_of_nibbles each (Decidable.not_not.mp odd)
  · intro spelled
    obtain ⟨each, paired, length⟩ := nibbles_of_spells spelled
    refine ⟨splitBytes bytes, (push_nibbles_ok_iff _ _ _).mpr ⟨_, rfl, each⟩, ?_⟩
    rw [if_neg (by omega), join_pairs_eq, paired]

theorem push_nibbles_returns (nibbles : List UInt8) (characters : List Char) :
    (pushNibbles nibbles characters).Returns := by
  induction characters generalizing nibbles with
  | nil => trivial
  | cons character rest ih =>
      rw [pushNibbles, is_ascii_hexdigit_eq]
      split_ifs with separator invalid
      · exact ih nibbles
      · trivial
      · -- the `expect` is behind the check that there is a digit
        cases digit : toDigit16 character with
        | none => simp [digit] at invalid
        | some value => exact ih _

theorem parse_hex_returns (text : String) : (parseHex text).Returns := by
  apply Outcome.returns_bind (push_nibbles_returns _ _)
  intro nibbles _
  split_ifs
  · trivial
  · rw [join_pairs_eq]
    trivial

end Parsing

section Renderings

theorem spells_digits {digits : List Char} {bytes : List UInt8} (spelled : Spells digits bytes) :
    ∀ character ∈ digits, ∃ value, HexDigit character value := by
  induction spelled with
  | nil => simp
  | cons one two _ ih =>
      intro character inside
      obtain rfl | rfl | inside := by simpa using inside
      · exact ⟨_, one⟩
      · exact ⟨_, two⟩
      · exact ih character inside

theorem separated_digits {digits text : List Char} (separated : Separated digits text)
    (each : ∀ character ∈ digits, character ∉ separators) : withoutSeparators text = digits := by
  induction separated with
  | nil => rfl
  | keep character _ ih =>
      have own := each character List.mem_cons_self
      have rest := ih fun other inside => each other (List.mem_cons_of_mem _ inside)
      rw [← rest]
      simp [withoutSeparators, own]
  | insert separator inside _ ih =>
      rw [← ih each]
      simp [withoutSeparators, inside]

theorem parse_rendering {bytes : List UInt8} {text : String} (rendering : Renders bytes text) :
    parseHex text = .ok bytes := by
  obtain ⟨digits, spelled, separated⟩ := rendering
  have clean : withoutSeparators text.toList = digits := by
    apply separated_digits separated
    intro character inside separator
    obtain ⟨value, digit⟩ := spells_digits spelled character inside
    exact separator_not_digit separator digit
  rw [parse_hex_ok_iff, clean]
  exact spelled

theorem separated_refl (text : List Char) : Separated text text := by
  induction text with
  | nil => exact .nil
  | cons character rest ih => exact .keep character ih

theorem padded_digits_table : ∀ code < 256, (Nat.toDigits 16 code).leftpad 2 '0' =
    [lowerDigits.getD (code / 16) '0', lowerDigits.getD (code % 16) '0'] := by
  decide +kernel

theorem spells_hex_of (packet : List UInt8) : Spells (hexOf packet).toList packet := by
  rw [hexOf, String.toList_ofList]
  induction packet with
  | nil => exact .nil
  | cons byte rest ih =>
      have bound := byte.toNat_lt
      have high : byte.toNat / 16 < lowerDigits.length := by
        change _ < 16
        omega
      have low : byte.toNat % 16 < lowerDigits.length := Nat.mod_lt _ (by decide)
      rw [List.flatMap_cons, lowerHex, String.toList_ofList, padded_digits_table _ bound,
        List.getD_eq_getElem?_getD, List.getD_eq_getElem?_getD, List.getElem?_eq_getElem high,
        List.getElem?_eq_getElem low]
      exact .cons (.inl (List.getElem?_eq_getElem high)) (.inl (List.getElem?_eq_getElem low)) ih

/-- What `print_protocol_info` prints of a packet reads back as the packet. -/
theorem parse_hex_of (packet : List UInt8) : parseHex (hexOf packet) = .ok packet :=
  parse_rendering ⟨_, spells_hex_of packet, separated_refl _⟩

theorem spells_append {digits digits' : List Char} {bytes bytes' : List UInt8}
    (front : Spells digits bytes) (back : Spells digits' bytes') :
    Spells (digits ++ digits') (bytes ++ bytes') := by
  induction front with
  | nil => exact back
  | cons one two _ ih => exact .cons one two ih

theorem parse_hex_append {front back : String} {bytes bytes' : List UInt8}
    (first : parseHex front = .ok bytes) (second : parseHex back = .ok bytes') :
    parseHex (front ++ back) = .ok (bytes ++ bytes') := by
  rw [parse_hex_ok_iff] at first second ⊢
  rw [String.toList_append, withoutSeparators, List.filter_append]
  exact spells_append first second

end Renderings

section Reading
variable {target : Target}

theorem from_utf8_eq_some_iff (bytes : List UInt8) (text : String) :
    fromUtf8 bytes = some text ↔ utf8 text = bytes := by
  constructor
  · intro decoded
    unfold fromUtf8 String.fromUTF8? at decoded
    split at decoded
    · cases decoded
      simp [utf8, String.fromUTF8]
    · cases decoded
  · rintro rfl
    have valid := text.isValidUTF8
    simp [fromUtf8, utf8, String.fromUTF8?, valid, String.fromUTF8]

/-- The content is read whole, held in memory, and decoded. -/
structure Decodes (target : Target) (reader : Reader) (limit : Nat) (bytes : List UInt8) :
    Prop where
  complete : reader.failure = none
  within : reader.content.length ≤ limit
  holds : reader.content.length ≤ target.isizeMax
  decoded : ∃ text, utf8 text = reader.content ∧ parseHex text = .ok bytes

theorem read_to_end_ok_iff (reader : Reader) (limit : Nat) (textBytes : List UInt8) :
    readToEnd target reader limit = .ok textBytes ↔
      textBytes = reader.content.take limit ∧ textBytes.length ≤ target.isizeMax ∧
        (reader.content.length < limit → reader.failure = none) := by
  unfold readToEnd
  split_ifs with memory long
  · constructor
    · intro ended
      cases ended
    · rintro ⟨rfl, small, -⟩
      omega
  · constructor
    · intro ended
      cases ended
      exact ⟨rfl, by omega, fun short => by omega⟩
    · rintro ⟨rfl, -, -⟩
      rfl
  · -- the end of the content is reached, and with it the error behind it
    have whole : reader.content.take limit = reader.content :=
      List.take_of_length_le (by omega)
    rw [whole] at memory ⊢
    cases reader.failure with
    | none =>
        constructor
        · intro ended
          cases ended
          exact ⟨rfl, by omega, fun _ => rfl⟩
        · rintro ⟨rfl, -, -⟩
          rfl
    | some error =>
        constructor
        · intro ended
          cases ended
        · rintro ⟨-, -, complete⟩
          cases complete (by omega)

theorem usize_le_u64 (target : Target) : target.usizeMax ≤ u64Max := by
  cases target <;> decide

/-- The reader asks for one byte more than it allows: a longer content shows
itself by that byte. -/
theorem read_hex_text_ok_iff (reader : Reader) (limit : Nat) (room : limit < target.usizeMax)
    (bytes : List UInt8) :
    readHexText target reader limit = .ok bytes ↔ Decodes target reader limit bytes := by
  have wide := usize_le_u64 target
  rw [readHexText, checkedAdd_some target limit 1 room, okOr_some, Outcome.ok_bind,
    if_pos (by omega), okOr_some, Outcome.ok_bind, Outcome.bind_eq_ok_iff]
  constructor
  · rintro ⟨textBytes, taken, rest⟩
    rw [Outcome.mapError_eq_ok_iff, read_to_end_ok_iff] at taken
    obtain ⟨rfl, memory, complete⟩ := taken
    split_ifs at rest with long
    rw [Outcome.bind_eq_ok_iff] at rest
    obtain ⟨text, decoded, parsed⟩ := rest
    rw [okOr_eq_ok_iff, from_utf8_eq_some_iff] at decoded
    rw [List.length_take] at long memory
    have within : reader.content.length ≤ limit := by omega
    have whole : reader.content.take (limit + 1) = reader.content :=
      List.take_of_length_le (by omega)
    rw [whole] at decoded
    exact ⟨complete (by omega), within, by omega, text, decoded, parsed⟩
  · rintro ⟨complete, within, holds, text, decoded, parsed⟩
    have whole : reader.content.take (limit + 1) = reader.content :=
      List.take_of_length_le (by omega)
    refine ⟨reader.content, ?_, ?_⟩
    · rw [Outcome.mapError_eq_ok_iff, read_to_end_ok_iff]
      exact ⟨whole.symm, holds, fun _ => complete⟩
    · rw [if_neg (by omega), (from_utf8_eq_some_iff _ _).mpr decoded]
      exact parsed

theorem read_hex_file_ok_iff (files : Files) (path : String) (bytes : List UInt8) :
    readHexFile target files path = .ok bytes ↔
      (path = "-" ∧ Decodes target files.stdin maxHexTextBytes bytes) ∨
      (path ≠ "-" ∧ ∃ file length, files.openFile path = .ok file ∧ file.metadata = .ok length ∧
        length ≤ maxHexTextBytes ∧ Decodes target file.reader maxHexTextBytes bytes) := by
  have room : maxHexTextBytes < target.usizeMax := by cases target <;> decide
  unfold readHexFile
  by_cases stdin : path = "-"
  · rw [if_pos stdin, Outcome.mapError_eq_ok_iff, read_hex_text_ok_iff _ _ room]
    simp [stdin]
  · rw [if_neg stdin]
    cases opened : files.openFile path with
    | error error => simp [stdin]
    | ok file =>
        cases inspected : file.metadata with
        | error error => simp [stdin, inspected]
        | ok length =>
            by_cases large : maxHexTextBytes < length
            · simp [stdin, inspected, large, Nat.not_le.mpr large]
            · simp [stdin, inspected, large, Nat.not_lt.mp large, Outcome.mapError_eq_ok_iff,
                read_hex_text_ok_iff _ _ room]

end Reading

/-- Hexadecimal text in full: what the parser accepts, that it undoes every
rendering, that it joins, and that the bounded reader decodes a content whole
or not at all. -/
theorem hex_text_exact (target : Target) :
    (∀ text bytes, parseHex text = .ok bytes ↔
      (withoutSeparators text.toList).length = 2 * bytes.length ∧
        Spells (withoutSeparators text.toList) bytes) ∧
    (∀ bytes text, Renders bytes text → parseHex text = .ok bytes) ∧
    (∀ packet, parseHex (hexOf packet) = .ok packet) ∧
    (∀ front back bytes bytes', parseHex front = .ok bytes → parseHex back = .ok bytes' →
      parseHex (front ++ back) = .ok (bytes ++ bytes')) ∧
    (∀ (content : Slice target) limit bytes, limit < target.usizeMax →
      (readHexText target ⟨content.bytes, none⟩ limit = .ok bytes ↔
        content.bytes.length ≤ limit ∧
          ∃ text, utf8 text = content.bytes ∧ parseHex text = .ok bytes)) ∧
    (∀ reader limit bytes, limit < target.usizeMax → limit < reader.content.length →
      readHexText target reader limit ≠ .ok bytes) := by
  refine ⟨?_, fun bytes text => parse_rendering, parse_hex_of,
    fun front back bytes bytes' => parse_hex_append, ?_, ?_⟩
  · intro text bytes
    rw [parse_hex_ok_iff]
    exact ⟨fun spelled => ⟨spells_length spelled, spelled⟩, And.right⟩
  · intro content limit bytes room
    rw [read_hex_text_ok_iff _ _ room]
    constructor
    · intro decodes
      exact ⟨decodes.within, decodes.decoded⟩
    · rintro ⟨within, decoded⟩
      exact ⟨rfl, within, content.fits, decoded⟩
  · intro reader limit bytes room long ended
    have within := ((read_hex_text_ok_iff _ _ room _).mp ended).within
    omega

end Smiusb.HexText
