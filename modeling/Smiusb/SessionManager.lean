import Mathlib.Data.List.Nodup
import Smiusb.Transitions

/-!
`SessionManager` of src/daemon/smiusbd.cpp. Sections under `mutex_` are single
steps; `sessions_` and `generation_` belong to the worker alone, so handling
one event is a step as well. What libusb answers is part of the step. Device
and handle pointers are abstract: a session is only built from two successful
calls, which is why the null checks of its destructor have no counterpart.
-/

namespace Smiusb.SessionManager
open Transitions

inductive HotplugEvent where
  | deviceArrived
  | deviceLeft
  deriving DecidableEq, Repr

structure UsbEvent (Device : Type) where
  device : Device
  event : HotplugEvent
  deriving DecidableEq, Repr

structure DeviceSession (Device Handle : Type) where
  device : Device
  handle : Handle
  generation : UInt64
  deriving DecidableEq, Repr

/-- The libusb calls that acquire or release something. -/
inductive LibusbCall (Device Handle : Type) where
  | refDevice (device : Device)
  | unrefDevice (device : Device)
  | openDevice (handle : Handle)
  | closeHandle (handle : Handle)
  deriving DecidableEq, Repr

/-- `std::map` keyed by the device, in the order of insertion. -/
structure SessionMap (Device Handle : Type) where
  entries : List (DeviceSession Device Handle)
  distinct : (entries.map DeviceSession.device).Nodup

/-- The part of the manager that only the worker touches. -/
structure Table (Device Handle : Type) where
  sessions : SessionMap Device Handle
  generation : UInt64

/-- What the target test and `libusb_open` say while one event is handled. -/
structure Answers (Handle : Type) where
  isTarget : Bool
  opened : Option Handle

inductive Verdict (Handle : Type) where
  | notTarget
  | duplicate
  | openFailed
  | opened (handle : Handle) (generation : UInt64)
  | unknown
  | departed (generation : UInt64)
  deriving DecidableEq, Repr

section Sessions
variable {Device Handle : Type} [DecidableEq Device]

def SessionMap.empty : SessionMap Device Handle := ⟨[], List.nodup_nil⟩

def SessionMap.contains (sessions : SessionMap Device Handle) (device : Device) : Bool :=
  decide (device ∈ sessions.entries.map DeviceSession.device)

def SessionMap.emplace (sessions : SessionMap Device Handle)
    (session : DeviceSession Device Handle) : SessionMap Device Handle :=
  if present : session.device ∈ sessions.entries.map DeviceSession.device then sessions
  else
    { entries := sessions.entries ++ [session]
      distinct := by
        rw [List.map_append]
        exact List.nodup_append'.mpr
          ⟨sessions.distinct, List.nodup_singleton _, by simpa using present⟩ }

def SessionMap.find (sessions : SessionMap Device Handle) (device : Device) :
    Option (DeviceSession Device Handle) :=
  sessions.entries.find? fun session => decide (session.device = device)

def SessionMap.erase (sessions : SessionMap Device Handle) (device : Device) :
    SessionMap Device Handle where
  entries := sessions.entries.eraseP fun session => decide (session.device = device)
  distinct := (List.eraseP_sublist.map _).nodup sessions.distinct

/-- `~DeviceSession`. -/
def destroy (session : DeviceSession Device Handle) : List (LibusbCall Device Handle) :=
  [.closeHandle session.handle, .unrefDevice session.device]

def unrefAll (queue : List (UsbEvent Device)) : List (LibusbCall Device Handle) :=
  queue.map fun event => .unrefDevice event.device

def handleArrival (table : Table Device Handle) (device : Device) (answers : Answers Handle) :
    Table Device Handle × Verdict Handle × List (LibusbCall Device Handle) :=
  if !answers.isTarget then (table, .notTarget, [])
  else if table.sessions.contains device then (table, .duplicate, [])
  else
    match answers.opened with
    | none => (table, .openFailed, [])
    | some handle =>
        -- ++generation_ wraps like the source's 64-bit counter
        let generation := table.generation + 1
        ({ sessions := table.sessions.emplace ⟨device, handle, generation⟩, generation },
          .opened handle generation, [.openDevice handle, .refDevice device])

def handleDeparture (table : Table Device Handle) (device : Device) :
    Table Device Handle × Verdict Handle × List (LibusbCall Device Handle) :=
  match table.sessions.find device with
  | none => (table, .unknown, [])
  | some session =>
      ({ table with sessions := table.sessions.erase device }, .departed session.generation,
        destroy session)

def handle (table : Table Device Handle) (event : UsbEvent Device) (answers : Answers Handle) :
    Table Device Handle × Verdict Handle × List (LibusbCall Device Handle) :=
  match event.event with
  | .deviceArrived => handleArrival table event.device answers
  | .deviceLeft => handleDeparture table event.device

theorem sessions_count (sessions : SessionMap Device Handle) (device : Device) :
    (sessions.entries.map DeviceSession.device).count device =
      if sessions.contains device then 1 else 0 := by
  by_cases known : device ∈ sessions.entries.map DeviceSession.device
  · simpa [SessionMap.contains, known] using List.count_eq_one_of_mem sessions.distinct known
  · simpa [SessionMap.contains, known] using List.count_eq_zero.mpr known

/-- Everything that handling an event can do to the table. -/
inductive Handling (table : Table Device Handle) (event : UsbEvent Device)
    (answers : Answers Handle) :
    Verdict Handle → List (LibusbCall Device Handle) → Table Device Handle → Prop where
  | notTarget (arrived : event.event = .deviceArrived) (other : answers.isTarget = false) :
      Handling table event answers .notTarget [] table
  | duplicate (arrived : event.event = .deviceArrived)
      (known : event.device ∈ table.sessions.entries.map DeviceSession.device) :
      Handling table event answers .duplicate [] table
  | openFailed (arrived : event.event = .deviceArrived)
      (absent : event.device ∉ table.sessions.entries.map DeviceSession.device)
      (failed : answers.opened = none) : Handling table event answers .openFailed [] table
  | opened (handle : Handle) (after : Table Device Handle)
      (arrived : event.event = .deviceArrived) (target : answers.isTarget = true)
      (absent : event.device ∉ table.sessions.entries.map DeviceSession.device)
      (success : answers.opened = some handle) (counted : after.generation = table.generation + 1)
      (added : after.sessions.entries =
        table.sessions.entries ++ [⟨event.device, handle, table.generation + 1⟩]) :
      Handling table event answers (.opened handle (table.generation + 1))
        [.openDevice handle, .refDevice event.device] after
  | unknown (left : event.event = .deviceLeft)
      (absent : event.device ∉ table.sessions.entries.map DeviceSession.device) :
      Handling table event answers .unknown [] table
  | departed (session : DeviceSession Device Handle)
      (before behind : List (DeviceSession Device Handle)) (after : Table Device Handle)
      (left : event.event = .deviceLeft) (same : session.device = event.device)
      (found : table.sessions.entries = before ++ session :: behind)
      (kept : after.generation = table.generation)
      (removed : after.sessions.entries = before ++ behind) :
      Handling table event answers (.departed session.generation) (destroy session) after

theorem find_none {sessions : SessionMap Device Handle} {device : Device}
    (missing : sessions.find device = none) :
    device ∉ sessions.entries.map DeviceSession.device := by
  intro member
  obtain ⟨session, inside, rfl⟩ := List.mem_map.mp member
  have different := List.find?_eq_none.mp missing session inside
  simp at different

theorem find_some {sessions : SessionMap Device Handle} {device : Device}
    {session : DeviceSession Device Handle} (found : sessions.find device = some session) :
    session.device = device ∧ ∃ before behind,
      sessions.entries = before ++ session :: behind ∧
        (sessions.erase device).entries = before ++ behind := by
  obtain ⟨matched, before, behind, shape, others⟩ := List.find?_eq_some_iff_append.mp found
  refine ⟨by simpa using matched, before, behind, shape, ?_⟩
  change sessions.entries.eraseP _ = _
  rw [shape, List.eraseP_append_right _ (by simpa using others)]
  simp [matched]

theorem handle_handling (table : Table Device Handle) (event : UsbEvent Device)
    (answers : Answers Handle) :
    Handling table event answers (handle table event answers).2.1
      (handle table event answers).2.2 (handle table event answers).1 := by
  unfold handle
  cases kind : event.event with
  | deviceArrived =>
      unfold handleArrival
      cases target : answers.isTarget with
      | false => exact .notTarget kind target
      | true =>
          by_cases known : event.device ∈ table.sessions.entries.map DeviceSession.device
          · simpa [SessionMap.contains, known] using Handling.duplicate kind known
          cases result : answers.opened with
          | none => simpa [SessionMap.contains, known] using Handling.openFailed kind known result
          | some handle =>
              have added : (table.sessions.emplace
                  ⟨event.device, handle, table.generation + 1⟩).entries =
                  table.sessions.entries ++ [⟨event.device, handle, table.generation + 1⟩] := by
                rw [SessionMap.emplace, dif_neg known]
              simpa [SessionMap.contains, known] using
                Handling.opened handle _ kind target known result rfl added
  | deviceLeft =>
      unfold handleDeparture
      cases result : table.sessions.find event.device with
      | none => exact .unknown kind (find_none result)
      | some session =>
          obtain ⟨same, before, behind, found, removed⟩ := find_some result
          exact .departed session before behind _ kind same found rfl removed

end Sessions

inductive Worker (Device : Type) where
  | waiting
  | popped (event : UsbEvent Device)
  | handled (event : UsbEvent Device)
  | draining
  | clearing
  | finished
  deriving DecidableEq, Repr

inductive Stopper where
  | idle
  | joining
  | returned
  deriving DecidableEq, Repr

/-- `entering` are the enqueue calls between `libusb_ref_device` and the lock. -/
structure State (Device Handle : Type) where
  entering : List (UsbEvent Device)
  queue : List (UsbEvent Device)
  stopping : Bool
  worker : Worker Device
  stopper : Stopper
  table : Table Device Handle
  calls : List (LibusbCall Device Handle)

inductive Activity (Device Handle : Type) where
  | refDevice (event : UsbEvent Device)
  | enqueue (event : UsbEvent Device) (accepted : Bool)
  | pop (event : UsbEvent Device)
  | handle (event : UsbEvent Device) (answers : Answers Handle) (verdict : Verdict Handle)
  | unref (event : UsbEvent Device)
  | leave
  | drain
  | clear
  | stop
  | join

section Steps
variable {Device Handle : Type} [DecidableEq Device] [DecidableEq Handle]

def start : State Device Handle where
  entering := []
  queue := []
  stopping := false
  worker := .waiting
  stopper := .idle
  table := ⟨.empty, 0⟩
  calls := []

/-- libusb never hands out a handle that is still open. -/
def FreshHandle (calls : List (LibusbCall Device Handle)) (answers : Answers Handle) : Prop :=
  ∀ handle, answers.opened = some handle →
    calls.count (.openDevice handle) = calls.count (.closeHandle handle)

inductive Advance (state : State Device Handle) :
    Activity Device Handle → State Device Handle → Prop where
  -- enqueue: the reference before the lock, the decision inside it
  | refDevice (event : UsbEvent Device) :
      Advance state (.refDevice event)
        { state with
          entering := state.entering ++ [event]
          calls := state.calls ++ [.refDevice event.device] }
  | accepted (event : UsbEvent Device) (before behind : List (UsbEvent Device))
      (chosen : state.entering = before ++ event :: behind) (running : state.stopping = false) :
      Advance state (.enqueue event true)
        { state with entering := before ++ behind, queue := state.queue ++ [event] }
  | refused (event : UsbEvent Device) (before behind : List (UsbEvent Device))
      (chosen : state.entering = before ++ event :: behind) (stopped : state.stopping = true) :
      Advance state (.enqueue event false)
        { state with
          entering := before ++ behind
          calls := state.calls ++ [.unrefDevice event.device] }
  -- one turn of worker_loop; only the pop is under the lock
  | pop (event : UsbEvent Device) (rest : List (UsbEvent Device))
      (waiting : state.worker = .waiting) (front : state.queue = event :: rest) :
      Advance state (.pop event) { state with queue := rest, worker := .popped event }
  | handle (event : UsbEvent Device) (answers : Answers Handle)
      (popped : state.worker = .popped event) (fresh : FreshHandle state.calls answers) :
      Advance state (.handle event answers (handle state.table event answers).2.1)
        { state with
          worker := .handled event
          table := (handle state.table event answers).1
          calls := state.calls ++ (handle state.table event answers).2.2 }
  | unref (event : UsbEvent Device) (handled : state.worker = .handled event) :
      Advance state (.unref event)
        { state with
          worker := .waiting
          calls := state.calls ++ [.unrefDevice event.device] }
  -- the break, the drain behind the loop and the end of the worker
  | leave (waiting : state.worker = .waiting) (empty : state.queue = [])
      (stopped : state.stopping = true) :
      Advance state .leave { state with worker := .draining }
  | drain (draining : state.worker = .draining) :
      Advance state .drain
        { state with
          worker := .clearing
          queue := []
          calls := state.calls ++ unrefAll state.queue }
  | clear (clearing : state.worker = .clearing) :
      Advance state .clear
        { state with
          worker := .finished
          table := { state.table with sessions := .empty }
          calls := state.calls ++ state.table.sessions.entries.flatMap destroy }
  -- stop: its critical section and its join
  | stop (first : state.stopper = .idle) :
      Advance state .stop { state with stopping := true, stopper := .joining }
  | join (joining : state.stopper = .joining) (finished : state.worker = .finished) :
      Advance state .join { state with stopper := .returned }

end Steps

end Smiusb.SessionManager
