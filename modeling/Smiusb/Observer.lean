import Mathlib.Data.List.Basic
import Mathlib.Data.List.Induction
import Smiusb.FrameQueue
import Smiusb.Methods
import Smiusb.WireProtocol

/-!
The passive observer: `observe` of `rust/src/main.rs` over the device maps that
`target_devices` of `rust/src/usb.rs` collects. Each poll is compared with the
one before it, key by key, and the differences are printed as events. A reader
who replays the events keeps a map of their own; the last part says when that
map is the one that was polled.
-/

namespace Smiusb.Observer
open Execution Methods FrameQueue WireProtocol

/-! `usb.rs` -/

structure DeviceKey where
  bus : UInt8
  address : UInt8
  deriving DecidableEq, Repr

/-- The derived order: by bus, then by address. -/
def DeviceKey.order : DeviceKey → DeviceKey → Ordering :=
  compareLex (compareOn (·.bus)) (compareOn (·.address))

inductive Speed where
  | unknown
  | low
  | full
  | high
  | super
  | superPlus
  | other (value : Int32)
  deriving DecidableEq, Repr

def Speed.ofLibusb (value : Int32) : Speed :=
  if value = 0 then .unknown
  else if value = 1 then .low
  else if value = 2 then .full
  else if value = 3 then .high
  else if value = 4 then .super
  else if value = 5 then .superPlus
  else .other value

structure DeviceInfo where
  key : DeviceKey
  port : UInt8
  usbVersion : UInt16
  deviceVersion : UInt16
  speed : Speed
  deriving DecidableEq, Repr

instance : Std.TransCmp DeviceKey.order := inferInstanceAs (Std.TransCmp (compareLex _ _))

instance : Std.LawfulEqCmp DeviceKey.order where
  eq_of_compare := by
    rintro ⟨bus, address⟩ ⟨bus', address'⟩ same
    obtain ⟨first, second⟩ := Ordering.then_eq_eq.mp same
    have bus : compare bus bus' = .eq := first
    have address : compare address address' = .eq := second
    rw [Std.LawfulEqCmp.eq_of_compare bus, Std.LawfulEqCmp.eq_of_compare address]

/-- `BTreeMap<DeviceKey, DeviceInfo>`, with each device under its own key. -/
structure DeviceMap where
  entries : Std.TreeMap DeviceKey DeviceInfo DeviceKey.order
  keyed : ∀ (key : DeviceKey) (info : DeviceInfo), entries[key]? = some info → info.key = key

namespace DeviceMap

def empty : DeviceMap where
  entries := ∅
  keyed := by simp

def find (map : DeviceMap) (key : DeviceKey) : Option DeviceInfo := map.entries[key]?

@[simp] theorem find_empty (key : DeviceKey) : empty.find key = none :=
  Std.TreeMap.getElem?_emptyc

def containsKey (map : DeviceMap) (key : DeviceKey) : Bool := map.entries.contains key

def insert (map : DeviceMap) (info : DeviceInfo) : DeviceMap where
  entries := map.entries.insert info.key info
  keyed := by
    intro key found present
    rw [Std.TreeMap.getElem?_insert] at present
    split at present
    · rename_i same
      rw [← Option.some.inj present]
      exact Std.LawfulEqCmp.eq_of_compare same
    · exact map.keyed key found present

end DeviceMap

/-- One pointer of libusb's list: what its accessors and the descriptor call
answer. -/
structure UsbDevice where
  descriptorResult : Int32
  idVendor : UInt16
  idProduct : UInt16
  bcdUsb : UInt16
  bcdDevice : UInt16
  bus : UInt8
  address : UInt8
  port : UInt8
  speed : Int32
  deriving DecidableEq, Repr

def vendorId : UInt16 := 0x090c

def sm768ProductId : UInt16 := 0x0768

/-- The pointers of libusb's list; a null pointer is `none`. -/
abbrev DeviceList := List (Option UsbDevice)

/-- One iteration over the list. -/
def collectDevice (devices : DeviceMap) : Option UsbDevice → DeviceMap
  | none => devices
  | some device =>
      if device.descriptorResult ≠ 0 ∨ device.idVendor ≠ vendorId ∨
          device.idProduct ≠ sm768ProductId then devices
      else
        devices.insert {
          key := ⟨device.bus, device.address⟩
          port := device.port
          usbVersion := device.bcdUsb
          deviceVersion := device.bcdDevice
          speed := Speed.ofLibusb device.speed }

def collectDevices (found : DeviceList) : DeviceMap :=
  found.foldl collectDevice .empty

/-- The answer of `libusb_get_device_list`. -/
inductive Listing where
  | failed (errorName : String)
  | nullList
  | devices (found : DeviceList)
  deriving DecidableEq, Repr

def targetDevices : Listing → Outcome String DeviceMap
  | .failed errorName => .err errorName
  | .nullList => .err "libusb returned a null device list"
  | .devices found => .ok (collectDevices found)

/-- The answer of `libusb_init`. -/
inductive Initialized where
  | failed (errorName : String)
  | nullContext
  | ready
  deriving DecidableEq, Repr

/-- `UsbContext::new`. -/
def newContext : Initialized → Outcome String Unit
  | .failed errorName => .err errorName
  | .nullContext => .err "libusb_init returned a null context"
  | .ready => .ok ()

def formatBcd (value : UInt16) : String :=
  lowerHex 1 (value.toNat / 2 ^ 8) ++ "." ++ lowerHex 2 (value.toNat % 2 ^ 8)

/-- The derived `Debug` text. -/
def Speed.debug : Speed → String
  | .unknown => "Unknown"
  | .low => "Low"
  | .full => "Full"
  | .high => "High"
  | .super => "Super"
  | .superPlus => "SuperPlus"
  | .other value => s!"Other({value.toInt})"

/-! `main.rs` -/

/-- A line that `observe` prints. -/
inductive Event where
  | arrived (generation : UInt64) (info : DeviceInfo)
  | departed (key : DeviceKey)
  deriving DecidableEq, Repr

def Event.text : Event → String
  | .arrived generation info =>
      s!"smiusbd-rs: generation={generation.toNat} arrived bus={info.key.bus.toNat} " ++
      s!"address={info.key.address.toNat} port={info.port.toNat} " ++
      s!"usb={formatBcd info.usbVersion} device={formatBcd info.deviceVersion} " ++
      s!"speed={info.speed.debug} (passive; no open, claim, or transfer)"
  | .departed key =>
      s!"smiusbd-rs: departed bus={key.bus.toNat} address={key.address.toNat} (passive observer)"

/-- The local variables of `observe` and what it has printed so far. -/
structure State where
  previous : DeviceMap
  generation : UInt64
  printed : List Event

def idle : State := ⟨.empty, 0, []⟩

abbrev Step := Method State String Unit

def eprintln (event : Event) : Step :=
  .modify fun state => { state with printed := state.printed ++ [event] }

/-- `generation += 1` of a build with overflow checks. -/
def advanceGeneration : Step := do
  let state ← .read
  if state.generation.toNat + 1 ≤ u64Max then
    .modify fun state => { state with generation := state.generation + 1 }
  else .ofOutcome .panicked

/-- The first inner loop's body; the line takes bus and address from the key
and the rest from the device. -/
def reportArrival (entry : DeviceKey × DeviceInfo) : Step := do
  let state ← .read
  if state.previous.containsKey entry.1 then pure ()
  else
    advanceGeneration
    let state ← .read
    eprintln (.arrived state.generation { entry.2 with key := entry.1 })

def reportDeparture (current : DeviceMap) (key : DeviceKey) : Step :=
  if current.containsKey key then pure () else eprintln (.departed key)

/-- The body of the `while` loop. -/
def poll (listing : Listing) : Step := do
  let current ← .ofOutcome (targetDevices listing)
  .forEach reportArrival current.entries.toList
  let state ← .read
  .forEach (reportDeparture current) state.previous.entries.keys
  .modify fun state => { state with previous := current }

/-- What `observe` meets outside: libusb's answer at the start, whether the
clock can hold the deadline, and one listing for each time the loop condition
held before it failed. -/
structure Surroundings where
  initialized : Initialized
  deadlineFits : Bool
  listings : List Listing

def checkDeadline (duration : Option Nat) (fits : Bool) : Outcome String Unit :=
  if duration.isNone ∨ fits then .ok () else .err "duration is too large for this platform"

def observe (surroundings : Surroundings) (duration : Option Nat) : Step := do
  .ofOutcome (newContext surroundings.initialized)
  .ofOutcome (checkDeadline duration surroundings.deadlineFits)
  .forEach poll surroundings.listings

/-! What a run that returns has done. -/

/-- The devices under keys that the previous poll lacks. -/
def newcomers (previous : DeviceMap) (entries : List (DeviceKey × DeviceInfo)) : List DeviceInfo :=
  (entries.filter fun entry => !previous.containsKey entry.1).map Prod.snd

def arrivals (previous current : DeviceMap) : List DeviceInfo :=
  newcomers previous current.entries.toList

def departures (previous current : DeviceMap) : List DeviceKey :=
  previous.entries.keys.filter fun key => !current.containsKey key

def numbered (generation : Nat) : List DeviceInfo → List Event
  | [] => []
  | info :: rest =>
      .arrived (UInt64.ofNat (generation + 1)) info :: numbered (generation + 1) rest

def pollEvents (generation : Nat) (previous current : DeviceMap) : List Event :=
  numbered generation (arrivals previous current) ++
    (departures previous current).map Event.departed

def afterPoll (state : State) (found : DeviceList) : State where
  previous := collectDevices found
  generation :=
    UInt64.ofNat (state.generation.toNat + (arrivals state.previous (collectDevices found)).length)
  printed := state.printed ++
    pollEvents state.generation.toNat state.previous (collectDevices found)

/-- How many arrivals a sequence of polls holds, from a given map on. -/
def arrivalsFrom (previous : DeviceMap) : List DeviceList → Nat
  | [] => 0
  | found :: rest =>
      (arrivals previous (collectDevices found)).length + arrivalsFrom (collectDevices found) rest

theorem toNat_generation {generation : Nat} (fits : generation ≤ u64Max) :
    (UInt64.ofNat generation).toNat = generation := by
  rw [UInt64.toNat_ofNat', Nat.mod_eq_of_lt]
  exact Nat.lt_of_le_pred (by decide) fits

section Steps
variable {state after : State}

theorem report_arrival_known (entry : DeviceKey × DeviceInfo)
    (known : state.previous.containsKey entry.1 = true) :
    (reportArrival entry).run state = (.ok (), state) := by
  unfold reportArrival
  rw [Method.run_bind]
  simp [Method.read, known, pure]

theorem advance_generation_eq :
    advanceGeneration.run state =
      if state.generation.toNat + 1 ≤ u64Max then
        (.ok (), { state with generation := state.generation + 1 })
      else (.panicked, state) := by
  unfold advanceGeneration
  rw [Method.run_bind]
  by_cases room : state.generation.toNat + 1 ≤ u64Max
  · simp only [Method.read, if_pos room, Method.modify]
  · simp only [Method.read, if_neg room, Method.ofOutcome]

theorem report_arrival_new (entry : DeviceKey × DeviceInfo)
    (new : state.previous.containsKey entry.1 = false) :
    (reportArrival entry).run state =
      if state.generation.toNat + 1 ≤ u64Max then
        (.ok (), { state with
          generation := state.generation + 1
          printed := state.printed ++
            [.arrived (state.generation + 1) { entry.2 with key := entry.1 }] })
      else (.panicked, state) := by
  unfold reportArrival
  rw [Method.run_bind]
  simp only [Method.read, new, Bool.false_eq_true, if_false, Method.run_bind,
    advance_generation_eq]
  by_cases room : state.generation.toNat + 1 ≤ u64Max
  · simp only [if_pos room, eprintln, Method.modify]
  · simp only [if_neg room]

theorem next_generation (room : state.generation.toNat + 1 ≤ u64Max) :
    (state.generation + 1).toNat = state.generation.toNat + 1 := by
  have again : state.generation + 1 = UInt64.ofNat (state.generation.toNat + 1) := by
    rw [UInt64.ofNat_add, UInt64.ofNat_toNat]
    rfl
  rw [again, toNat_generation room]

theorem report_arrivals_ok_iff (entries : List (DeviceKey × DeviceInfo))
    (keyed : ∀ entry ∈ entries, entry.2.key = entry.1) :
    (Method.forEach reportArrival entries).run state = (.ok (), after) ↔
      state.generation.toNat + (newcomers state.previous entries).length ≤ u64Max ∧
      after = { state with
        generation :=
          UInt64.ofNat (state.generation.toNat + (newcomers state.previous entries).length)
        printed := state.printed ++
          numbered state.generation.toNat (newcomers state.previous entries) } := by
  induction entries generalizing state with
  | nil =>
      have bound : state.generation.toNat ≤ u64Max := Nat.le_pred_of_lt state.generation.toNat_lt
      simp [Method.forEach, newcomers, numbered, bound, pure, eq_comm]
  | cons entry rest ih =>
      have later := fun entry inside => keyed entry (List.mem_cons_of_mem _ inside)
      have own : { entry.2 with key := entry.1 } = entry.2 := by
        rw [← keyed entry List.mem_cons_self]
      rw [Method.forEach, Method.run_bind_eq_ok_iff]
      cases known : state.previous.containsKey entry.1 with
      | true =>
          have same : newcomers state.previous (entry :: rest) = newcomers state.previous rest := by
            simp [newcomers, known]
          rw [report_arrival_known entry known, same]
          simpa using ih later
      | false =>
          have more : newcomers state.previous (entry :: rest) =
              entry.2 :: newcomers state.previous rest := by
            simp [newcomers, known]
          rw [report_arrival_new entry known, more, own]
          by_cases room : state.generation.toNat + 1 ≤ u64Max
          · have stepped := next_generation room
            have again : UInt64.ofNat (state.generation.toNat + 1) = state.generation + 1 := by
              rw [← stepped, UInt64.ofNat_toNat]
            rw [if_pos room]
            simp only [Prod.mk.injEq, true_and, exists_eq_left', exists_const]
            rw [ih later]
            simp only [stepped, numbered, again, List.length_cons, List.append_assoc,
              List.cons_append, List.nil_append, Nat.add_assoc, Nat.add_comm 1]
          · rw [if_neg room]
            have full : ¬ state.generation.toNat +
                (entry.2 :: newcomers state.previous rest).length ≤ u64Max := by
              rw [List.length_cons]
              omega
            constructor
            · rintro ⟨_, _, ended, _⟩
              simp at ended
            · rintro ⟨fits, _⟩
              exact absurd fits full

theorem report_departures (current : DeviceMap) (keys : List DeviceKey) :
    (Method.forEach (reportDeparture current) keys).run state =
      (.ok (), { state with
        printed := state.printed ++
          (keys.filter fun key => !current.containsKey key).map Event.departed }) := by
  induction keys generalizing state with
  | nil => simp [Method.forEach, pure]
  | cons key rest ih =>
      rw [Method.forEach, Method.run_bind]
      cases present : current.containsKey key with
      | true => simpa [reportDeparture, present, pure] using ih
      | false =>
          have printed := @ih { state with printed := state.printed ++ [.departed key] }
          simpa [reportDeparture, present, eprintln, Method.modify] using printed

/-- One poll returns if the generations suffice, and then it has printed the
differences to the poll before and taken its place. -/
theorem poll_ok_iff (found : DeviceList) :
    (poll (.devices found)).run state = (.ok (), after) ↔
      state.generation.toNat + (arrivals state.previous (collectDevices found)).length ≤ u64Max ∧
      after = afterPoll state found := by
  have keyed : ∀ entry ∈ (collectDevices found).entries.toList, entry.2.key = entry.1 := by
    intro entry inside
    exact (collectDevices found).keyed _ _ (Std.TreeMap.mem_toList_iff_getElem?_eq_some.mp inside)
  have rest : ∀ middle : State,
      ((do
        let state ← Method.read
        Method.forEach (reportDeparture (collectDevices found)) state.previous.entries.keys
        Method.modify fun state => { state with previous := collectDevices found } : Step).run
          middle) =
        (.ok (), { middle with
          previous := collectDevices found
          printed := middle.printed ++
            (departures middle.previous (collectDevices found)).map Event.departed }) := by
    intro middle
    rw [Method.run_bind, Method.read]
    dsimp only
    rw [Method.run_bind, report_departures]
    rfl
  change ((Method.forEach reportArrival (collectDevices found).entries.toList) >>= _).run state =
    (.ok (), after) ↔ _
  rw [Method.run_bind_eq_ok_iff]
  constructor
  · rintro ⟨_, middle, arrived, departed⟩
    obtain ⟨room, rfl⟩ := (report_arrivals_ok_iff _ keyed).mp arrived
    rw [rest] at departed
    refine ⟨room, ?_⟩
    rw [← (Prod.mk.inj departed).2]
    simp [afterPoll, pollEvents, arrivals]
  · rintro ⟨room, rfl⟩
    refine ⟨(), _, (report_arrivals_ok_iff _ keyed).mpr ⟨room, rfl⟩, ?_⟩
    rw [rest]
    simp [afterPoll, pollEvents, arrivals]

theorem after_poll_generation (found : DeviceList)
    (room : state.generation.toNat +
      (arrivals state.previous (collectDevices found)).length ≤ u64Max) :
    (afterPoll state found).generation.toNat =
      state.generation.toNat + (arrivals state.previous (collectDevices found)).length :=
  toNat_generation room

theorem polls_ok_iff (polls : List DeviceList) :
    (Method.forEach poll (polls.map Listing.devices)).run state = (.ok (), after) ↔
      state.generation.toNat + arrivalsFrom state.previous polls ≤ u64Max ∧
      after = polls.foldl afterPoll state := by
  induction polls generalizing state with
  | nil =>
      have bound : state.generation.toNat ≤ u64Max := Nat.le_pred_of_lt state.generation.toNat_lt
      simp [Method.forEach, arrivalsFrom, bound, pure, eq_comm]
  | cons found rest ih =>
      rw [List.map_cons, Method.forEach, Method.run_bind_eq_ok_iff, arrivalsFrom, ← Nat.add_assoc]
      constructor
      · rintro ⟨_, middle, polled, later⟩
        obtain ⟨room, rfl⟩ := (poll_ok_iff found).mp polled
        obtain ⟨enough, final⟩ := ih.mp later
        rw [after_poll_generation found room] at enough
        exact ⟨enough, final⟩
      · rintro ⟨enough, final⟩
        have room := Nat.le_trans (Nat.le_add_right _ _) enough
        refine ⟨(), _, (poll_ok_iff found).mpr ⟨room, rfl⟩, ih.mpr ⟨?_, final⟩⟩
        rw [after_poll_generation found room]
        exact enough

end Steps

/-! What a reader makes of the record. -/

/-- The devices a reader believes to be there. -/
abbrev View := DeviceKey → Option DeviceInfo

/-- An arrival under a key in use and a departure from a free key make no
sense to the reader. -/
def replayEvent (view : View) : Event → Option View
  | .arrived _ info =>
      if view info.key = none then some (Function.update view info.key (some info)) else none
  | .departed key => if view key = none then none else some (Function.update view key none)

def replayFrom (view : View) (events : List Event) : Option View := events.foldlM replayEvent view

def replay (events : List Event) : Option View := replayFrom (fun _ => none) events

def Event.generation? : Event → Option Nat
  | .arrived generation _ => some generation.toNat
  | .departed _ => none

def generations (events : List Event) : List Nat := events.filterMap Event.generation?

section Replay

theorem replay_arrivals (generation : Nat) (news : List DeviceInfo) (view : View)
    (apart : (news.map DeviceInfo.key).Nodup) (free : ∀ info ∈ news, view info.key = none) :
    ∃ after, replayFrom view (numbered generation news) = some after ∧
      (∀ info ∈ news, after info.key = some info) ∧
      ∀ key, key ∉ news.map DeviceInfo.key → after key = view key := by
  induction news generalizing generation view with
  | nil => exact ⟨view, rfl, by simp, fun _ _ => rfl⟩
  | cons info rest ih =>
      obtain ⟨fresh, apart⟩ := List.nodup_cons.mp apart
      have free' : ∀ other ∈ rest, Function.update view info.key (some info) other.key = none := by
        intro other inside
        have away : other.key ≠ info.key := by
          intro same
          exact fresh (same ▸ List.mem_map_of_mem inside)
        rw [Function.update_of_ne away]
        exact free other (List.mem_cons_of_mem _ inside)
      obtain ⟨after, replayed, there, elsewhere⟩ := ih (generation + 1) _ apart free'
      refine ⟨after, ?_, ?_, ?_⟩
      · rw [replayFrom, numbered, List.foldlM_cons, replayEvent,
          if_pos (free info List.mem_cons_self)]
        exact replayed
      · intro other inside
        obtain rfl | inside := List.mem_cons.mp inside
        · rw [elsewhere _ fresh, Function.update_self]
        · exact there other inside
      · intro key away
        rw [List.map_cons, List.mem_cons, not_or] at away
        rw [elsewhere key away.2, Function.update_of_ne away.1]

theorem replay_departures (keys : List DeviceKey) (view : View) (apart : keys.Nodup)
    (present : ∀ key ∈ keys, view key ≠ none) :
    ∃ after, replayFrom view (keys.map Event.departed) = some after ∧
      (∀ key ∈ keys, after key = none) ∧ ∀ key, key ∉ keys → after key = view key := by
  induction keys generalizing view with
  | nil => exact ⟨view, rfl, by simp, fun _ _ => rfl⟩
  | cons key rest ih =>
      obtain ⟨fresh, apart⟩ := List.nodup_cons.mp apart
      have present' : ∀ other ∈ rest, Function.update view key none other ≠ none := by
        intro other inside
        have away : other ≠ key := by
          rintro rfl
          exact fresh inside
        rw [Function.update_of_ne away]
        exact present other (List.mem_cons_of_mem _ inside)
      obtain ⟨after, replayed, gone, elsewhere⟩ := ih _ apart present'
      refine ⟨after, ?_, ?_, ?_⟩
      · rw [replayFrom, List.map_cons, List.foldlM_cons, replayEvent,
          if_neg (present key List.mem_cons_self)]
        exact replayed
      · intro other inside
        obtain rfl | inside := List.mem_cons.mp inside
        · rw [elsewhere _ fresh, Function.update_self]
        · exact gone other inside
      · intro other away
        rw [List.mem_cons, not_or] at away
        rw [elsewhere other away.2, Function.update_of_ne away.1]

end Replay

section Differences
variable {previous current : DeviceMap}

theorem contains_key_eq (map : DeviceMap) (key : DeviceKey) :
    map.containsKey key = (map.find key).isSome :=
  Std.TreeMap.contains_eq_isSome_getElem?

theorem mem_arrivals_iff (info : DeviceInfo) :
    info ∈ arrivals previous current ↔
      current.find info.key = some info ∧ previous.find info.key = none := by
  unfold arrivals newcomers
  simp only [List.mem_map, List.mem_filter, contains_key_eq, Prod.exists, exists_eq_right,
    Std.TreeMap.mem_toList_iff_getElem?_eq_some, Bool.not_eq_true', Option.isSome_eq_false_iff,
    Option.isNone_iff_eq_none]
  constructor
  · rintro ⟨key, found, new⟩
    obtain rfl := current.keyed key info found
    exact ⟨found, new⟩
  · rintro ⟨found, new⟩
    exact ⟨info.key, found, new⟩

theorem mem_departures_iff (key : DeviceKey) :
    key ∈ departures previous current ↔ previous.find key ≠ none ∧ current.find key = none := by
  unfold departures
  rw [List.mem_filter, Std.TreeMap.mem_keys, Std.TreeMap.mem_iff_isSome_getElem?, contains_key_eq,
    Option.isSome_iff_ne_none, Bool.not_eq_true', Option.isSome_eq_false_iff,
    Option.isNone_iff_eq_none]
  rfl

theorem arrivals_apart : ((arrivals previous current).map DeviceInfo.key).Nodup := by
  have own : (arrivals previous current).map DeviceInfo.key =
      (current.entries.toList.filter fun entry => !previous.containsKey entry.1).map Prod.fst := by
    unfold arrivals newcomers
    rw [List.map_map]
    apply List.map_congr_left
    intro entry inside
    exact current.keyed _ _
      (Std.TreeMap.mem_toList_iff_getElem?_eq_some.mp (List.mem_of_mem_filter inside))
  rw [own]
  have keys : (current.entries.toList.map Prod.fst).Nodup := by
    rw [Std.TreeMap.map_fst_toList_eq_keys]
    exact Std.TreeMap.nodup_keys
  exact keys.sublist (List.filter_sublist.map Prod.fst)

theorem departures_apart : (departures previous current).Nodup :=
  Std.TreeMap.nodup_keys.filter _

/-- A key that both polls have shows the reader the older device. -/
def merged (previous current : DeviceMap) : View := fun key =>
  (current.find key).map fun info => (previous.find key).getD info

theorem replay_poll (generation : Nat) :
    replayFrom previous.find (pollEvents generation previous current) =
      some (merged previous current) := by
  obtain ⟨middle, arrived, there, elsewhere⟩ :=
    replay_arrivals generation (arrivals previous current) previous.find arrivals_apart
      (fun info inside => ((mem_arrivals_iff info).mp inside).2)
  have kept : ∀ key, previous.find key ≠ none → middle key = previous.find key := by
    intro key known
    apply elsewhere
    intro inside
    obtain ⟨info, new, rfl⟩ := List.mem_map.mp inside
    exact known ((mem_arrivals_iff info).mp new).2
  obtain ⟨after, departed, gone, others⟩ :=
    replay_departures (departures previous current) middle departures_apart (by
      intro key inside
      have known := ((mem_departures_iff key).mp inside).1
      rwa [kept key known])
  have whole : replayFrom previous.find (pollEvents generation previous current) = some after := by
    rw [replayFrom, pollEvents, List.foldlM_append, ← replayFrom, arrived]
    exact departed
  rw [whole, Option.some.injEq]
  funext key
  unfold merged
  cases now : current.find key with
  | none =>
      by_cases known : previous.find key = none
      · -- neither poll has the key
        have free : key ∉ (arrivals previous current).map DeviceInfo.key := by
          intro inside
          obtain ⟨info, new, rfl⟩ := List.mem_map.mp inside
          rw [((mem_arrivals_iff info).mp new).1] at now
          exact absurd now (by simp)
        rw [others key (fun inside => ((mem_departures_iff key).mp inside).1 known),
          elsewhere key free, known, Option.map_none]
      · rw [gone key ((mem_departures_iff key).mpr ⟨known, now⟩), Option.map_none]
  | some info =>
      have stays : key ∉ departures previous current := by
        intro inside
        rw [((mem_departures_iff key).mp inside).2] at now
        exact absurd now (by simp)
      rw [others key stays, Option.map_some]
      cases known : previous.find key with
      | none =>
          obtain rfl := current.keyed key info now
          exact there info ((mem_arrivals_iff info).mpr ⟨now, known⟩)
      | some older => rw [kept key (by simp [known]), known, Option.getD_some]

/-- No key holds one device in one poll and another in the next. -/
def SameDevices (previous current : DeviceMap) : Prop :=
  ∀ key older newer, previous.find key = some older → current.find key = some newer → older = newer

theorem same_devices_iff : SameDevices previous current ↔
    ∀ older ∈ previous.entries.toList, ∀ newer ∈ current.entries.toList,
      older.1 = newer.1 → older.2 = newer.2 := by
  have listed (map : DeviceMap) (entry : DeviceKey × DeviceInfo) :
      entry ∈ map.entries.toList ↔ map.find entry.1 = some entry.2 :=
    Std.TreeMap.mem_toList_iff_getElem?_eq_some
  simp only [listed]
  constructor
  · rintro same ⟨key, older⟩ before ⟨_, newer⟩ now rfl
    exact same key older newer before now
  · intro same key older newer before now
    exact same (key, older) before (key, newer) now rfl

instance : Decidable (SameDevices previous current) := decidable_of_iff _ same_devices_iff.symm

theorem merged_eq_iff : merged previous current = current.find ↔ SameDevices previous current := by
  constructor
  · intro same key older newer before now
    have equal := congrFun same key
    rw [merged, now, before] at equal
    exact Option.some.inj equal
  · intro same
    funext key
    rw [merged]
    cases now : current.find key with
    | none => rfl
    | some newer =>
        cases before : previous.find key with
        | none => rfl
        | some older =>
            rw [Option.map_some, Option.getD_some, same key older newer before now]

end Differences

/-! The record of a sequence of polls. -/

/-- A run in which libusb answers each poll with a list. -/
def observed (duration : Option Nat) (polls : List DeviceList) : Outcome String Unit × State :=
  (observe ⟨.ready, true, polls.map Listing.devices⟩ duration).run idle

/-- The map of the last poll; before the first one it is empty. -/
def lastPolled (polls : List DeviceList) : DeviceMap :=
  polls.foldl (fun _ found => collectDevices found) .empty

/-- What is printed between one poll and the next. -/
def printedAt (duration : Option Nat) (polls : List DeviceList) (count : Nat) : List Event :=
  (observed duration (polls.take (count + 1))).2.printed.drop
    (observed duration (polls.take count)).2.printed.length

/-- The printed events are a record of the polls. -/
structure FaithfulRecord (duration : Option Nat) (polls : List DeviceList) : Prop where
  returns : (observed duration polls).1 = .ok ()
  appends : ∀ count, (observed duration (polls.take count)).2.printed <+:
    (observed duration polls).2.printed
  replays : ∀ count, replay (observed duration (polls.take count)).2.printed =
    some (lastPolled (polls.take count)).find
  consecutive : ∃ arrivals, generations (observed duration polls).2.printed =
    List.range' 1 arrivals
  /-- A key that shows a device it did not show before gets a new generation. -/
  fresh : ∀ count < polls.length, ∀ key info,
    (lastPolled (polls.take (count + 1))).find key = some info →
    (lastPolled (polls.take count)).find key ≠ some info →
    ∃ generation, .arrived generation info ∈ printedAt duration polls count ∧
      ∀ earlier ∈ generations (observed duration (polls.take count)).2.printed,
        earlier < generation.toNat

/-- Between one poll and the next no key exchanges its device. -/
def Steady (polls : List DeviceList) : Prop :=
  ∀ count before after, polls[count]? = some before → polls[count + 1]? = some after →
    SameDevices (collectDevices before) (collectDevices after)

section Histories
variable {polls : List DeviceList} {count : Nat}

theorem steady_iff_chain : Steady polls ↔
    polls.IsChain fun before after =>
      SameDevices (collectDevices before) (collectDevices after) := by
  rw [List.isChain_iff_getElem]
  constructor
  · intro steady count inside
    exact steady count _ _ (List.getElem?_eq_getElem _) (List.getElem?_eq_getElem inside)
  · intro chain count before after first second
    obtain ⟨inside, rfl⟩ := List.getElem?_eq_some_iff.mp second
    obtain ⟨_, rfl⟩ := List.getElem?_eq_some_iff.mp first
    exact chain count inside

instance : Decidable (Steady polls) := decidable_of_iff _ steady_iff_chain.symm

theorem observed_eq_ok_iff (duration : Option Nat) (polls : List DeviceList) (after : State) :
    observed duration polls = (.ok (), after) ↔
      arrivalsFrom .empty polls ≤ u64Max ∧ after = polls.foldl afterPoll idle := by
  have start : (observe ⟨.ready, true, polls.map Listing.devices⟩ duration).run idle =
      (Method.forEach poll (polls.map Listing.devices)).run idle := by
    simp [observe, checkDeadline, newContext, Method.run_bind, Method.ofOutcome]
  rw [observed, start, polls_ok_iff]
  simp [idle]

theorem take_next {found : DeviceList} (next : polls[count]? = some found) :
    polls.take (count + 1) = polls.take count ++ [found] := by
  rw [List.take_add_one, next]
  rfl

theorem last_polled_next {found : DeviceList} (next : polls[count]? = some found) :
    lastPolled (polls.take (count + 1)) = collectDevices found := by
  rw [take_next next, lastPolled, List.foldl_append]
  rfl

theorem history_next {found : DeviceList} (next : polls[count]? = some found) :
    (polls.take (count + 1)).foldl afterPoll idle =
      afterPoll ((polls.take count).foldl afterPoll idle) found := by
  rw [take_next next, List.foldl_append]
  rfl

theorem history_previous (polls : List DeviceList) :
    (polls.foldl afterPoll idle).previous = lastPolled polls := by
  induction polls using List.reverseRecOn with
  | nil => rfl
  | append_singleton polls found => simp [lastPolled, afterPoll]

theorem arrivals_from_concat (previous : DeviceMap) (polls : List DeviceList)
    (found : DeviceList) :
    arrivalsFrom previous (polls ++ [found]) = arrivalsFrom previous polls +
      (arrivals (polls.foldl (fun _ found => collectDevices found) previous)
        (collectDevices found)).length := by
  induction polls generalizing previous with
  | nil => simp [arrivalsFrom]
  | cons first rest ih => simp [arrivalsFrom, ih, Nat.add_assoc]

theorem arrivals_concat (polls : List DeviceList) (found : DeviceList) :
    arrivalsFrom .empty (polls ++ [found]) = arrivalsFrom .empty polls +
      (arrivals (lastPolled polls) (collectDevices found)).length :=
  arrivals_from_concat .empty polls found

theorem arrivals_from_take_le (previous : DeviceMap) (polls : List DeviceList) (count : Nat) :
    arrivalsFrom previous (polls.take count) ≤ arrivalsFrom previous polls := by
  induction polls generalizing previous count with
  | nil => simp
  | cons first rest ih =>
      cases count with
      | zero => simp [arrivalsFrom]
      | succ count => simpa [arrivalsFrom] using ih (collectDevices first) count

theorem history_generation (polls : List DeviceList) (room : arrivalsFrom .empty polls ≤ u64Max) :
    (polls.foldl afterPoll idle).generation.toNat = arrivalsFrom .empty polls := by
  induction polls using List.reverseRecOn with
  | nil => rfl
  | append_singleton polls found ih =>
      rw [arrivals_concat] at room ⊢
      have before := ih (Nat.le_trans (Nat.le_add_right _ _) room)
      rw [List.foldl_append, List.foldl_cons, List.foldl_nil, after_poll_generation found, before,
        history_previous]
      rw [before, history_previous]
      exact room

theorem generations_numbered (generation : Nat) (news : List DeviceInfo)
    (room : generation + news.length ≤ u64Max) :
    generations (numbered generation news) = List.range' (generation + 1) news.length := by
  induction news generalizing generation with
  | nil => rfl
  | cons info rest ih =>
      rw [List.length_cons] at room ⊢
      have number : (UInt64.ofNat (generation + 1)).toNat = generation + 1 :=
        toNat_generation (by omega)
      have later := ih (generation + 1) (by omega)
      change (UInt64.ofNat (generation + 1)).toNat ::
        generations (numbered (generation + 1) rest) = _
      rw [number, later, List.range'_succ]

theorem generations_append (front back : List Event) :
    generations (front ++ back) = generations front ++ generations back :=
  List.filterMap_append

theorem generations_poll (generation : Nat) (previous current : DeviceMap)
    (room : generation + (arrivals previous current).length ≤ u64Max) :
    generations (pollEvents generation previous current) =
      List.range' (generation + 1) (arrivals previous current).length := by
  have silent : generations ((departures previous current).map Event.departed) = [] := by
    simp [generations, List.filterMap_map, Function.comp_def, Event.generation?]
  rw [pollEvents, generations_append, silent, generations_numbered generation _ room,
    List.append_nil]

theorem history_generations (polls : List DeviceList)
    (room : arrivalsFrom .empty polls ≤ u64Max) :
    generations (polls.foldl afterPoll idle).printed =
      List.range' 1 (arrivalsFrom .empty polls) := by
  induction polls using List.reverseRecOn with
  | nil => rfl
  | append_singleton polls found ih =>
      rw [arrivals_concat] at room ⊢
      have fits := Nat.le_trans (Nat.le_add_right _ _) room
      have before := history_generation polls fits
      rw [List.foldl_append, List.foldl_cons, List.foldl_nil]
      simp only [afterPoll]
      rw [generations_append, ih fits, before, history_previous, generations_poll _ _ _ room,
        ← List.range'_append, Nat.one_mul, Nat.add_comm 1]

/-- One more poll, for a reader who has kept up so far. -/
theorem replay_next {found : DeviceList} (next : polls[count]? = some found)
    (current : replay ((polls.take count).foldl afterPoll idle).printed =
      some (lastPolled (polls.take count)).find) :
    replay ((polls.take (count + 1)).foldl afterPoll idle).printed =
      some (merged (lastPolled (polls.take count)) (collectDevices found)) := by
  rw [history_next next]
  simp only [afterPoll]
  rw [replay, replayFrom, List.foldlM_append, ← replayFrom, ← replay, current, history_previous]
  exact replay_poll _

theorem same_devices_next {found : DeviceList} (steady : Steady polls)
    (next : polls[count]? = some found) :
    SameDevices (lastPolled (polls.take count)) (collectDevices found) := by
  cases count with
  | zero =>
      intro key older newer before
      simp [lastPolled] at before
  | succ count =>
      have earlier : count < polls.length := by
        have inside := (List.getElem?_eq_some_iff.mp next).1
        omega
      have found := List.getElem?_eq_getElem earlier
      rw [last_polled_next found]
      exact steady count _ _ found next

/-- While no key exchanges its device, the reader keeps up with the polls. -/
theorem history_replay (steady : Steady polls) (count : Nat) :
    replay ((polls.take count).foldl afterPoll idle).printed =
      some (lastPolled (polls.take count)).find := by
  induction count with
  | zero =>
      have nothing : (fun _ => none) = DeviceMap.empty.find := by
        funext key
        rw [DeviceMap.find_empty]
      exact congrArg some nothing
  | succ count ih =>
      cases next : polls[count]? with
      | none =>
          rw [List.take_add_one, next]
          simpa using ih
      | some found =>
          have same := same_devices_next steady next
          rw [replay_next next ih, last_polled_next next, merged_eq_iff.mpr same]

theorem history_appends (state : State) (polls : List DeviceList) :
    state.printed <+: (polls.foldl afterPoll state).printed := by
  induction polls generalizing state with
  | nil => exact List.prefix_rfl
  | cons found rest ih =>
      exact (List.prefix_append _ _).trans (ih (afterPoll state found))

theorem numbered_announces (generation : Nat) {news : List DeviceInfo} {info : DeviceInfo}
    (room : generation + news.length ≤ u64Max) (new : info ∈ news) :
    ∃ number, .arrived number info ∈ numbered generation news ∧ generation < number.toNat := by
  induction news generalizing generation with
  | nil => exact absurd new List.not_mem_nil
  | cons first rest ih =>
      rw [List.length_cons] at room
      obtain rfl | later := List.mem_cons.mp new
      · refine ⟨UInt64.ofNat (generation + 1), List.mem_cons_self, ?_⟩
        rw [toNat_generation (by omega)]
        exact Nat.lt_succ_self generation
      · obtain ⟨number, printed, above⟩ := ih (generation + 1) (by omega) later
        exact ⟨number, List.mem_cons_of_mem _ printed, Nat.lt_of_succ_lt above⟩

theorem observed_take (duration : Option Nat) (room : arrivalsFrom .empty polls ≤ u64Max)
    (count : Nat) :
    observed duration (polls.take count) = (.ok (), (polls.take count).foldl afterPoll idle) :=
  (observed_eq_ok_iff duration _ _).mpr
    ⟨Nat.le_trans (arrivals_from_take_le .empty polls count) room, rfl⟩

theorem printed_at_eq (duration : Option Nat) (room : arrivalsFrom .empty polls ≤ u64Max)
    {found : DeviceList} (next : polls[count]? = some found) :
    printedAt duration polls count = pollEvents (arrivalsFrom .empty (polls.take count))
      (lastPolled (polls.take count)) (collectDevices found) := by
  have fits := Nat.le_trans (arrivals_from_take_le .empty polls count) room
  rw [printedAt, observed_take duration room, observed_take duration room, history_next next]
  simp only [afterPoll]
  rw [List.drop_left, history_generation _ fits, history_previous]

theorem faithful_of_steady (duration : Option Nat) (steady : Steady polls)
    (room : arrivalsFrom .empty polls ≤ u64Max) : FaithfulRecord duration polls := by
  have whole : observed duration polls = (.ok (), polls.foldl afterPoll idle) :=
    (observed_eq_ok_iff duration _ _).mpr ⟨room, rfl⟩
  constructor
  · rw [whole]
  · intro count
    rw [observed_take duration room, whole]
    have grows := history_appends ((polls.take count).foldl afterPoll idle) (polls.drop count)
    rwa [← List.foldl_append, List.take_append_drop] at grows
  · intro count
    rw [observed_take duration room]
    exact history_replay steady count
  · rw [whole]
    exact ⟨_, history_generations polls room⟩
  · intro count inside key info now before
    have next := List.getElem?_eq_getElem inside
    have fits := Nat.le_trans (arrivals_from_take_le .empty polls (count + 1)) room
    rw [take_next next, arrivals_concat] at fits
    rw [last_polled_next next] at now
    obtain rfl := (collectDevices _).keyed key info now
    -- the key was free before: a steady key would have shown the same device
    have free : (lastPolled (polls.take count)).find info.key = none := by
      cases older : (lastPolled (polls.take count)).find info.key with
      | none => rfl
      | some device =>
          have same := same_devices_next steady next info.key device info older now
          exact absurd (same ▸ older) before
    obtain ⟨number, printed, above⟩ :=
      numbered_announces _ fits ((mem_arrivals_iff info).mpr ⟨now, free⟩)
    refine ⟨number, ?_, ?_⟩
    · rw [printed_at_eq duration room next]
      exact List.mem_append_left _ printed
    · intro earlier among
      rw [observed_take duration room,
        history_generations _ (Nat.le_trans (Nat.le_add_right _ _) fits),
        List.mem_range'_1] at among
      omega

theorem steady_of_faithful {duration : Option Nat} (faithful : FaithfulRecord duration polls) :
    Steady polls ∧ arrivalsFrom .empty polls ≤ u64Max := by
  have whole : observed duration polls = (.ok (), (observed duration polls).2) :=
    Prod.ext faithful.returns rfl
  have room := ((observed_eq_ok_iff duration polls _).mp whole).1
  refine ⟨?_, room⟩
  intro count before after first second
  have kept := faithful.replays (count + 1)
  have keeps := faithful.replays (count + 1 + 1)
  rw [observed_take duration room] at kept keeps
  -- the reader now shows the older device wherever both polls have one
  rw [replay_next second kept, last_polled_next second, Option.some.injEq, merged_eq_iff,
    last_polled_next first] at keeps
  exact keeps

end Histories

/-- The record is faithful exactly if no key changes its device from one poll
to the next, and the arrivals can be numbered in 64 bits. -/
theorem record_faithful_iff (duration : Option Nat) (polls : List DeviceList) :
    FaithfulRecord duration polls ↔ Steady polls ∧ arrivalsFrom .empty polls ≤ u64Max := by
  constructor
  · exact steady_of_faithful
  · rintro ⟨steady, room⟩
    exact faithful_of_steady duration steady room

/-- The adapter of the project at bus 1 and address 5, behind the given port. -/
def adapterAt (port : UInt8) : UsbDevice where
  descriptorResult := 0
  idVendor := vendorId
  idProduct := sm768ProductId
  bcdUsb := 0x0320
  bcdDevice := 0x0001
  bus := 1
  address := 5
  port := port
  speed := 4

/-- Another port under the same bus and address: nothing is printed, and the
reader is left with the port of before. -/
theorem exchanged_port_unrecorded :
    (observed none [[some (adapterAt 2)], [some (adapterAt 3)]]).2.printed =
      [.arrived 1 ⟨⟨1, 5⟩, 2, 0x0320, 0x0001, .super⟩] ∧
    (lastPolled [[some (adapterAt 2)], [some (adapterAt 3)]]).find ⟨1, 5⟩ =
      some ⟨⟨1, 5⟩, 3, 0x0320, 0x0001, .super⟩ ∧
    ¬ FaithfulRecord none [[some (adapterAt 2)], [some (adapterAt 3)]] := by
  refine ⟨by decide, by decide, ?_⟩
  intro faithful
  have same := (steady_of_faithful faithful).1 0 _ _ rfl rfl ⟨1, 5⟩
    ⟨⟨1, 5⟩, 2, 0x0320, 0x0001, .super⟩ ⟨⟨1, 5⟩, 3, 0x0320, 0x0001, .super⟩ (by decide) (by decide)
  exact absurd same (by decide)

end Smiusb.Observer
