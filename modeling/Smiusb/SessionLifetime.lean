import Smiusb.SessionManager

/-!
Who holds which device reference and which handle of the session manager, in
every interleaving.
-/

namespace Smiusb.SessionLifetime
open Transitions SessionManager

section Accounts
variable {Device Handle : Type} [DecidableEq Device] [DecidableEq Handle]

def taken (state : State Device Handle) (device : Device) : Nat :=
  state.calls.count (.refDevice device)

def released (state : State Device Handle) (device : Device) : Nat :=
  state.calls.count (.unrefDevice device)

def hand : Worker Device → List Device
  | .popped event => [event.device]
  | .handled event => [event.device]
  | _ => []

/-- The pointers to a device that the daemon keeps, wherever they are. -/
def pointers (state : State Device Handle) : List Device :=
  state.entering.map UsbEvent.device ++ state.queue.map UsbEvent.device ++ hand state.worker ++
    state.table.sessions.entries.map DeviceSession.device

def openHandles (state : State Device Handle) : List Handle :=
  state.table.sessions.entries.map DeviceSession.handle

def opened (state : State Device Handle) (handle : Handle) : Nat :=
  state.calls.count (.openDevice handle)

def closed (state : State Device Handle) (handle : Handle) : Nat :=
  state.calls.count (.closeHandle handle)

/-- Every reference belongs to one pointer and every open handle to one session. -/
structure Owned (state : State Device Handle) : Prop where
  references : ∀ device, taken state device = released state device + (pointers state).count device
  handles : ∀ handle, opened state handle = closed state handle + (openHandles state).count handle

/-- A step that appends `new` calls and moves ownership accordingly. -/
structure Transfers (state after : State Device Handle) (new : List (LibusbCall Device Handle)) :
    Prop where
  appended : after.calls = state.calls ++ new
  devices : ∀ device, (pointers state).count device + new.count (.refDevice device) =
    (pointers after).count device + new.count (.unrefDevice device)
  handles : ∀ handle, (openHandles state).count handle + new.count (.openDevice handle) =
    (openHandles after).count handle + new.count (.closeHandle handle)

theorem transfers_owned {state after : State Device Handle}
    {new : List (LibusbCall Device Handle)} (owned : Owned state)
    (transfers : Transfers state after new) : Owned after := by
  constructor
  · intro device
    have known := owned.references device
    have moved := transfers.devices device
    simp only [taken, released, transfers.appended, List.count_append] at known ⊢
    omega
  · intro handle
    have known := owned.handles handle
    have moved := transfers.handles handle
    simp only [opened, closed, transfers.appended, List.count_append] at known ⊢
    omega

theorem count_destroyed (entries : List (DeviceSession Device Handle)) :
    (∀ device, (entries.flatMap destroy).count (.unrefDevice device) =
      (entries.map DeviceSession.device).count device) ∧
    (∀ device, (entries.flatMap destroy).count (.refDevice device) = 0) ∧
    (∀ handle, (entries.flatMap destroy).count (.closeHandle handle) =
      (entries.map DeviceSession.handle).count handle) ∧
    (∀ handle, (entries.flatMap destroy).count (.openDevice handle) = 0) := by
  induction entries with
  | nil => simp
  | cons session rest ih =>
      obtain ⟨unrefs, refs, closes, opens⟩ := ih
      simp [destroy, List.count_cons, unrefs, refs, closes, opens]

variable (Handle) in
theorem count_unref_all (queue : List (UsbEvent Device)) :
    (∀ device, (unrefAll queue : List (LibusbCall Device Handle)).count (.unrefDevice device) =
      (queue.map UsbEvent.device).count device) ∧
    (∀ device, (unrefAll queue : List (LibusbCall Device Handle)).count (.refDevice device) = 0) ∧
    (∀ handle, (unrefAll queue : List (LibusbCall Device Handle)).count (.closeHandle handle) = 0) ∧
    (∀ handle,
      (unrefAll queue : List (LibusbCall Device Handle)).count (.openDevice handle) = 0) := by
  induction queue with
  | nil => simp [unrefAll]
  | cons event rest ih =>
      simp only [unrefAll] at ih
      obtain ⟨unrefs, refs, closes, opens⟩ := ih
      simp [unrefAll, List.count_cons, unrefs, refs, closes, opens]

theorem handling_transfers {state : State Device Handle} {event : UsbEvent Device}
    {answers : Answers Handle} {verdict : Verdict Handle}
    {calls : List (LibusbCall Device Handle)} {table : Table Device Handle}
    (popped : state.worker = .popped event)
    (handling : Handling state.table event answers verdict calls table) :
    Transfers state { state with worker := .handled event, table, calls := state.calls ++ calls }
      calls := by
  refine ⟨rfl, fun device => ?_, fun other => ?_⟩
  -- the event stays in the worker's hand; only the table gains or loses a pointer
  · cases handling with
    | opened handle after arrived target absent success counted added =>
        simp [pointers, popped, hand, added, List.count_cons]
        omega
    | departed session before behind after left same found kept removed =>
        simp [pointers, popped, hand, found, removed, destroy, List.count_cons]
        omega
    | _ => simp [pointers, popped, hand]
  · cases handling with
    | opened handle after arrived target absent success counted added =>
        simp [openHandles, added, List.count_cons]
    | departed session before behind after left same found kept removed =>
        simp [openHandles, found, removed, destroy, List.count_cons]
        omega
    | _ => simp [openHandles]

/-- Each step of the manager hands its references over or gives them back. -/
theorem advance_transfers {state after : State Device Handle} {action : Activity Device Handle}
    (advance : Advance state action after) : ∃ new, Transfers state after new := by
  cases advance with
  | handle event answers popped fresh =>
      exact ⟨_, handling_transfers popped (handle_handling state.table event answers)⟩
  | refDevice event =>
      refine ⟨[.refDevice event.device], rfl, fun device => ?_, fun other => ?_⟩
      · simp [pointers, List.count_cons]
        omega
      · simp [openHandles]
  | accepted event before behind chosen running =>
      -- the reference moves into the queue without a call
      refine ⟨[], (List.append_nil _).symm, fun device => ?_, fun other => ?_⟩
      · simp [pointers, chosen, List.count_cons]
        omega
      · simp [openHandles]
  | refused event before behind chosen stopped =>
      refine ⟨[.unrefDevice event.device], rfl, fun device => ?_, fun other => ?_⟩
      · simp [pointers, chosen, List.count_cons]
        omega
      · simp [openHandles]
  | pop event rest waiting front =>
      refine ⟨[], (List.append_nil _).symm, fun device => ?_, fun other => ?_⟩
      · simp [pointers, front, waiting, hand, List.count_cons]
        omega
      · simp [openHandles]
  | unref event handled =>
      refine ⟨[.unrefDevice event.device], rfl, fun device => ?_, fun other => ?_⟩
      · simp [pointers, handled, hand, List.count_cons]
        omega
      · simp [openHandles]
  | leave waiting empty stopped =>
      refine ⟨[], (List.append_nil _).symm, fun device => ?_, fun other => rfl⟩
      simp [pointers, waiting, hand]
  | drain draining =>
      refine ⟨unrefAll state.queue, rfl, fun device => ?_, fun other => ?_⟩
      · obtain ⟨unrefs, refs, _⟩ := count_unref_all Handle state.queue
        simp [pointers, draining, hand, unrefs, refs]
        omega
      · obtain ⟨_, _, closes, opens⟩ := count_unref_all Handle state.queue
        simp [openHandles, closes, opens]
  | clear clearing =>
      obtain ⟨unrefs, refs, closes, opens⟩ := count_destroyed state.table.sessions.entries
      refine ⟨_, rfl, fun device => ?_, fun other => ?_⟩
      · simp [pointers, clearing, hand, SessionMap.empty, unrefs, refs]
        omega
      · simp [openHandles, SessionMap.empty, closes, opens]
  | stop first => exact ⟨[], (List.append_nil _).symm, fun device => rfl, fun other => rfl⟩
  | join joining finished =>
      exact ⟨[], (List.append_nil _).symm, fun device => rfl, fun other => rfl⟩

theorem handling_handles {state : State Device Handle} {event : UsbEvent Device}
    {answers : Answers Handle} {verdict : Verdict Handle}
    {calls : List (LibusbCall Device Handle)} {table : Table Device Handle}
    (owned : Owned state) (single : (openHandles state).Nodup)
    (fresh : FreshHandle state.calls answers)
    (handling : Handling state.table event answers verdict calls table) :
    (table.sessions.entries.map DeviceSession.handle).Nodup := by
  cases handling with
  | opened handle after arrived target absent success counted added =>
      -- a handle that is balanced in the calls has no owner left
      have unowned : handle ∉ openHandles state := by
        have known := owned.handles handle
        have balanced := fresh handle success
        simp only [opened, closed] at known
        exact List.count_eq_zero.mp (by omega)
      rw [added, List.map_append]
      exact List.nodup_append'.mpr
        ⟨single, List.nodup_singleton _, by simpa [openHandles] using unowned⟩
  | departed session before behind after left same found kept removed =>
      rw [openHandles, found] at single
      rw [removed]
      exact (((List.sublist_cons_self session behind).append_left before).map _).nodup single
  | _ => exact single

theorem advance_handles {state after : State Device Handle} {action : Activity Device Handle}
    (owned : Owned state) (single : (openHandles state).Nodup)
    (advance : Advance state action after) : (openHandles after).Nodup := by
  cases advance with
  | handle event answers popped fresh =>
      exact handling_handles owned single fresh (handle_handling state.table event answers)
  | clear clearing => exact List.nodup_nil
  | _ => exact single

def hasLeft : Worker Device → Bool
  | .draining => true
  | .clearing => true
  | .finished => true
  | _ => false

/-- How far shutdown has come. Nothing is queued any more once the worker left
its loop, because `stopping_` was already set. -/
structure Phased (state : State Device Handle) : Prop where
  drained : hasLeft state.worker = true → state.stopping = true ∧ state.queue = []
  cleared : state.worker = .finished → state.table.sessions.entries = []
  joined : state.stopper = .returned → state.worker = .finished

omit [DecidableEq Device] [DecidableEq Handle] in
/-- While the worker is busy `stop` has not returned. -/
theorem busy_phased {state after : State Device Handle} (phased : Phased state)
    (busy : state.worker ≠ .finished) (serving : after.worker ≠ .finished)
    (drained : hasLeft after.worker = true → after.stopping = true ∧ after.queue = [])
    (same : after.stopper = state.stopper) : Phased after := by
  refine ⟨drained, ?_, ?_⟩
  · intro ended
    exact absurd ended serving
  · intro returned
    rw [same] at returned
    exact absurd (phased.joined returned) busy

theorem advance_phased {state after : State Device Handle} {action : Activity Device Handle}
    (phased : Phased state) (advance : Advance state action after) : Phased after := by
  cases advance with
  | refDevice event => exact ⟨phased.drained, phased.cleared, phased.joined⟩
  | accepted event before behind chosen running =>
      refine ⟨?_, phased.cleared, phased.joined⟩
      intro left
      -- nothing is accepted once the worker has left, since stopping_ is set
      rw [(phased.drained left).1] at running
      cases running
  | refused event before behind chosen stopped =>
      exact ⟨phased.drained, phased.cleared, phased.joined⟩
  | pop event rest waiting front =>
      exact busy_phased phased (by simp [waiting]) (by simp) (by simp [hasLeft]) rfl
  | handle event answers popped fresh =>
      exact busy_phased phased (by simp [popped]) (by simp) (by simp [hasLeft]) rfl
  | unref event handled =>
      exact busy_phased phased (by simp [handled]) (by simp) (by simp [hasLeft]) rfl
  | leave waiting empty stopped =>
      exact busy_phased phased (by simp [waiting]) (by simp) (fun _ => ⟨stopped, empty⟩) rfl
  | drain draining =>
      have left : hasLeft state.worker = true := by rw [draining]; rfl
      exact busy_phased phased (by simp [draining]) (by simp)
        (fun _ => ⟨(phased.drained left).1, rfl⟩) rfl
  | clear clearing =>
      have left : hasLeft state.worker = true := by rw [clearing]; rfl
      exact ⟨fun _ => phased.drained left, fun _ => rfl, fun _ => rfl⟩
  | stop first =>
      refine ⟨?_, phased.cleared, ?_⟩
      · intro left
        exact ⟨rfl, (phased.drained left).2⟩
      · intro returned
        cases returned
  | join joining finished =>
      exact ⟨phased.drained, phased.cleared, fun _ => finished⟩

end Accounts

section Runs
variable {Device Handle : Type} [DecidableEq Device] [DecidableEq Handle]
  {history : List (Activity Device Handle)} {final : State Device Handle}

theorem run_owned (run : Run Advance start history final) :
    Owned final ∧ (openHandles final).Nodup := by
  refine run_invariant
    (fun _ (state : State Device Handle) => Owned state ∧ (openHandles state).Nodup) ?_ ?_ run
  · exact ⟨⟨fun _ => rfl, fun _ => rfl⟩, List.nodup_nil⟩
  · rintro _ state action after _ ⟨owned, single⟩ advance
    obtain ⟨new, transfers⟩ := advance_transfers advance
    exact ⟨transfers_owned owned transfers, advance_handles owned single advance⟩

theorem run_phased (run : Run Advance start history final) : Phased final := by
  refine run_invariant (fun _ (state : State Device Handle) => Phased state) ?_ ?_ run
  · refine ⟨fun left => ?_, fun ended => ?_, fun returned => ?_⟩
    · cases left
    · cases ended
    · cases returned
  · intro _ state action after _ phased advance
    exact advance_phased phased advance

/-- References and handles are owned in one place each while the manager runs,
so no pointer outlives its device, and all are given back once it has stopped. -/
theorem session_lifetime (run : Run Advance start history final) :
    (∀ device, taken final device =
      released final device + (final.queue.map UsbEvent.device).count device +
        (hand final.worker).count device + (if final.table.sessions.contains device then 1 else 0) +
        (final.entering.map UsbEvent.device).count device) ∧
    (∀ device ∈ pointers final, released final device < taken final device) ∧
    (∀ handle, opened final handle = closed final handle + (openHandles final).count handle ∧
      (openHandles final).count handle ≤ 1) ∧
    (final.stopper = .returned → final.entering = [] →
      (∀ device, taken final device = released final device) ∧
      ∀ handle, opened final handle = closed final handle) := by
  obtain ⟨owned, single⟩ := run_owned run
  have phased := run_phased run
  refine ⟨fun device => ?_, fun device member => ?_, fun handle => ?_, fun returned quiet => ?_⟩
  · rw [owned.references device, pointers, List.count_append, List.count_append,
      List.count_append, sessions_count]
    omega
  · have held := List.count_pos_iff.mpr member
    rw [owned.references device]
    omega
  · exact ⟨owned.handles handle, List.nodup_iff_count_le_one.mp single handle⟩
  -- after the join every place a pointer can be in is empty
  · have finished := phased.joined returned
    have empty := (phased.drained (by rw [finished]; rfl)).2
    have none := phased.cleared finished
    constructor
    · intro device
      rw [owned.references device, pointers, quiet, empty, finished, none]
      rfl
    · intro handle
      rw [owned.handles handle, openHandles, none]
      rfl

theorem session_lifetime_shutdown : ∃ (history : List (Activity Nat Nat)) (final : State Nat Nat),
    Run Advance start history final ∧ final.stopper = .returned ∧ final.entering = [] ∧
      opened final 9 = 1 ∧ taken final 3 = released final 3 := by
  have begun : Run Advance (start : State Nat Nat) [] start := .start
  have queued := Run.next (.next begun (.refDevice ⟨3, .deviceArrived⟩))
    (.accepted ⟨3, .deviceArrived⟩ [] [] rfl rfl)
  have fresh : FreshHandle ([.refDevice 3] : List (LibusbCall Nat Nat)) ⟨true, some 9⟩ := by
    intro handle success
    cases success
    rfl
  have served := Run.next (.next (.next queued (.pop ⟨3, .deviceArrived⟩ [] rfl rfl))
    (.handle ⟨3, .deviceArrived⟩ ⟨true, some 9⟩ rfl fresh)) (.unref ⟨3, .deviceArrived⟩ rfl)
  have ended := Run.next (.next (.next (.next (.next served (.stop rfl)) (.leave rfl rfl rfl))
    (.drain rfl)) (.clear rfl)) (.join rfl rfl)
  exact ⟨_, _, ended, rfl, rfl, rfl, ((session_lifetime ended).2.2.2 rfl rfl).1 3⟩

end Runs

end Smiusb.SessionLifetime
