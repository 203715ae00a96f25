import Smiusb.Observer
import Smiusb.Resources

/-!
The libusb resources of `observe`: the context that `UsbContext` owns and the
device lists that `target_devices` of rust/src/usb.rs takes and drops. The
program with its uses recorded does what the observer does, and its record
tells when each of them is released.
-/

namespace Smiusb.ObserverResources
open Execution Methods Resources Observer

inductive Handle where
  | context
  | deviceList
  deriving DecidableEq, Repr

abbrev TracedStep (Value : Type) := Method (Traced State Handle) String Value

/-- One pointer of the list and the calls on its device; a device lives as
long as the list that holds a reference to it. -/
def inspectDevice : Option UsbDevice → TracedStep Unit
  | none => record (.touch .deviceList)
  | some device => do
      record (.touch .deviceList)
      -- the descriptor is read first, the other properties only of a target
      record (.touch .deviceList)
      if device.descriptorResult ≠ 0 ∨ device.idVendor ≠ vendorId ∨
          device.idProduct ≠ sm768ProductId then pure ()
      else record (.touch .deviceList)

/-- `UsbContext::target_devices`, with the list dropped at its end. -/
def tracedDevices : Listing → TracedStep DeviceMap
  | .devices found => do
      record (.touch .context)
      owning .deviceList do
        .forEach inspectDevice found
        .ofOutcome (targetDevices (.devices found))
  | refused => do
      record (.touch .context)
      .ofOutcome (targetDevices refused)

/-- What `poll` does with the devices it found. -/
def report (current : DeviceMap) : Step := do
  .forEach reportArrival current.entries.toList
  let state ← .read
  .forEach (reportDeparture current) state.previous.entries.keys
  .modify fun state => { state with previous := current }

def tracedPoll (listing : Listing) : TracedStep Unit := do
  let current ← tracedDevices listing
  onState (report current)

/-- `observe`; the context is dropped when the function returns or unwinds. -/
def tracedObserve (surroundings : Surroundings) (duration : Option Nat) : TracedStep Unit :=
  match surroundings.initialized with
  | .ready => owning .context do
      .ofOutcome (checkDeadline duration surroundings.deadlineFits)
      .forEach tracedPoll surroundings.listings
  | refused => .ofOutcome (newContext refused)

theorem poll_eq (listing : Listing) :
    poll listing = .ofOutcome (targetDevices listing) >>= report := rfl

theorem inspect_refines (pointer : Option UsbDevice) :
    Refines (inspectDevice pointer) (pure ()) := by
  cases pointer with
  | none => exact refines_record _
  | some device =>
      refine refines_silent_bind (refines_record _) fun _ =>
        refines_silent_bind (refines_record _) fun _ => ?_
      split
      · exact fun _ => ⟨rfl, rfl⟩
      · exact refines_record _

theorem devices_refine (listing : Listing) :
    Refines (tracedDevices listing) (.ofOutcome (targetDevices listing)) := by
  cases listing with
  | devices found =>
      refine refines_silent_bind (refines_record _) fun _ => refines_owning ?_
      exact refines_silent_bind (refines_forEach_silent found inspect_refines) fun _ =>
        refines_outcome _
  | failed | nullList =>
      exact refines_silent_bind (refines_record _) fun _ => refines_outcome _

theorem observe_refines (surroundings : Surroundings) (duration : Option Nat) :
    Refines (tracedObserve surroundings duration) (observe surroundings duration) := by
  unfold tracedObserve observe
  cases surroundings.initialized with
  | ready =>
      change Refines _ (.ofOutcome (checkDeadline duration surroundings.deadlineFits) >>= fun _ =>
        .forEach poll surroundings.listings)
      refine refines_owning (refines_bind (refines_outcome _) fun _ => ?_)
      refine refines_forEach surroundings.listings fun listing => ?_
      rw [poll_eq]
      exact refines_bind (devices_refine listing) fun current => refines_onState (report current)
  | failed | nullContext => exact fun _ => ⟨rfl, rfl⟩

theorem report_halts (current : DeviceMap) : Halts (report current) := by
  have arrival (entry : DeviceKey × DeviceInfo) : Halts (reportArrival entry) := by
    refine halts_bind halts_read fun state => ?_
    split
    · exact fun _ => by simp [pure]
    · refine halts_bind (halts_bind halts_read fun state => ?_) fun _ =>
        halts_bind halts_read fun state => halts_modify _
      split
      · exact halts_modify _
      · exact halts_outcome (by simp)
  have departure (key : DeviceKey) : Halts (reportDeparture current key) := by
    unfold reportDeparture
    split
    · exact fun _ => by simp [pure]
    · exact halts_modify _
  exact halts_bind (halts_forEach _ arrival) fun _ => halts_bind halts_read fun _ =>
    halts_bind (halts_forEach _ departure) fun _ => halts_modify _

theorem inspect_disciplined {held : List Handle} (present : .deviceList ∈ held)
    (pointer : Option UsbDevice) : Disciplined held (inspectDevice pointer) := by
  cases pointer with
  | none => exact disciplined_touch present
  | some device =>
      refine disciplined_bind (disciplined_touch present) fun _ =>
        disciplined_bind (disciplined_touch present) fun _ => ?_
      split
      · exact disciplined_pure ()
      · exact disciplined_touch present

theorem devices_disciplined (listing : Listing) :
    Disciplined [.context] (tracedDevices listing) := by
  cases listing with
  | devices found =>
      refine disciplined_bind (disciplined_touch (by simp)) fun _ =>
        disciplined_owning (by simp) ?_
      exact disciplined_bind
        (disciplined_forEach found fun pointer _ => inspect_disciplined (by simp) pointer)
        fun _ => disciplined_outcome (by simp [targetDevices])
  | failed | nullList =>
      exact disciplined_bind (disciplined_touch (by simp)) fun _ =>
        disciplined_outcome (by simp [targetDevices])

theorem observe_disciplined (surroundings : Surroundings) (duration : Option Nat) :
    Disciplined [] (tracedObserve surroundings duration) := by
  unfold tracedObserve
  cases surroundings.initialized with
  | ready =>
      refine disciplined_owning (by simp) (disciplined_bind (disciplined_outcome ?_) fun _ => ?_)
      · unfold checkDeadline
        split <;> simp
      · refine disciplined_forEach surroundings.listings fun listing _ => ?_
        exact disciplined_bind (devices_disciplined listing) fun current =>
          disciplined_onState (report_halts current)
  | failed | nullContext => exact disciplined_outcome (by simp [newContext])

/-- However `observe` ends, by a panic of its counter as well, each context and
each device list is released once, and used only before that. -/
theorem observer_releases (surroundings : Surroundings) (duration : Option Nat) :
    let traced := (tracedObserve surroundings duration).run ⟨idle, []⟩
    let plain := (observe surroundings duration).run idle
    traced.1 = plain.1 ∧ traced.2.state = plain.2 ∧ traced.1 ≠ .diverged ∧
      Tidy traced.2.uses := by
  obtain ⟨outcome, state⟩ := observe_refines surroundings duration ⟨idle, []⟩
  obtain ⟨ends, trace, uses, settled⟩ := observe_disciplined surroundings duration ⟨idle, []⟩
  refine ⟨outcome, state, ends, ?_⟩
  rw [uses]
  exact settled_tidy settled

end Smiusb.ObserverResources
