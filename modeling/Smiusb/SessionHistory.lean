import Smiusb.SessionLifetime

/-!
The session manager against the sequence of hotplug events it accepted. The
worker and its queue disappear: what is left is a fold over the handled events.
-/

namespace Smiusb.SessionHistory
open Transitions SessionManager SessionLifetime

/-- One handled event with what libusb answered and what came of it. -/
structure Handled (Device Handle : Type) where
  event : UsbEvent Device
  answers : Answers Handle
  verdict : Verdict Handle

section Readings
variable {Device Handle : Type}

def acceptedBy : Activity Device Handle → List (UsbEvent Device)
  | .enqueue event true => [event]
  | _ => []

def handledBy : Activity Device Handle → List (Handled Device Handle)
  | .handle event answers verdict => [⟨event, answers, verdict⟩]
  | _ => []

def accepted (history : List (Activity Device Handle)) : List (UsbEvent Device) :=
  history.flatMap acceptedBy

def handled (history : List (Activity Device Handle)) : List (Handled Device Handle) :=
  history.flatMap handledBy

def generationOf (entry : Handled Device Handle) : List UInt64 :=
  match entry.verdict with
  | .opened _ generation => [generation]
  | _ => []

/-- The generations of all sessions ever created, in the order of creation. -/
def generations (events : List (Handled Device Handle)) : List UInt64 :=
  events.flatMap generationOf

def poppedEvent : Worker Device → List (UsbEvent Device)
  | .popped event => [event]
  | _ => []

theorem accepted_snoc (history : List (Activity Device Handle)) (action : Activity Device Handle) :
    accepted (history ++ [action]) = accepted history ++ acceptedBy action := by
  simp [accepted]

theorem handled_snoc (history : List (Activity Device Handle)) (action : Activity Device Handle) :
    handled (history ++ [action]) = handled history ++ handledBy action := by
  simp [handled]

/-- The first `count` values of the counter, starting after zero. -/
def numbered (count : Nat) : List UInt64 :=
  (List.range count).map fun index => UInt64.ofNat (index + 1)

theorem numbered_succ (count : Nat) :
    numbered (count + 1) = numbered count ++ [UInt64.ofNat count + 1] := by
  simp [numbered, List.range_succ, UInt64.ofNat_add]

theorem numbered_toNat (count : Nat) (small : count < 2 ^ 64) :
    (numbered count).map UInt64.toNat = (List.range count).map (· + 1) := by
  rw [numbered, List.map_map]
  refine List.map_congr_left ?_
  intro index member
  have below := List.mem_range.mp member
  exact Nat.mod_eq_of_lt (by omega)

theorem numbered_increasing (count : Nat) (small : count < 2 ^ 64) :
    (numbered count).Pairwise (· < ·) := by
  have ordered : ((numbered count).map UInt64.toNat).Pairwise (· < ·) := by
    rw [numbered_toNat count small]
    exact List.pairwise_map.mpr (List.pairwise_lt_range.imp fun less => Nat.succ_lt_succ less)
  exact (List.pairwise_map.mp ordered).imp UInt64.lt_iff_toNat_lt.mpr

theorem handling_generation {table after : Table Device Handle} {event : UsbEvent Device}
    {answers : Answers Handle} {verdict : Verdict Handle}
    {calls : List (LibusbCall Device Handle)} (created : List UInt64)
    (counted : created = numbered created.length ∧
      table.generation = UInt64.ofNat created.length)
    (handling : Handling table event answers verdict calls after) :
    created ++ generationOf ⟨event, answers, verdict⟩ =
        numbered (created ++ generationOf ⟨event, answers, verdict⟩).length ∧
      after.generation =
        UInt64.ofNat (created ++ generationOf ⟨event, answers, verdict⟩).length := by
  obtain ⟨names, count⟩ := counted
  cases handling with
  | opened handle after arrived target absent success increased added =>
      rw [generationOf, List.length_append, List.length_singleton, numbered_succ, ← names, count,
        increased, count, UInt64.ofNat_add]
      exact ⟨rfl, rfl⟩
  | departed session before behind after left same found kept removed =>
      simpa [generationOf, kept] using And.intro names count
  | _ => simpa [generationOf] using And.intro names count

end Readings

section Fold
variable {Device Handle : Type} [DecidableEq Device]

/-- The table that handling the events one after the other leads to. -/
def meaning (events : List (Handled Device Handle)) : Table Device Handle :=
  events.foldl (fun table entry => (handle table entry.event entry.answers).1) ⟨.empty, 0⟩

/-- Departures of the device, and its arrivals as a target that can be opened. -/
def effective (device : Device) (entry : Handled Device Handle) : Bool :=
  decide (entry.event.device = device) &&
    (decide (entry.event.event = .deviceLeft) ||
      (entry.answers.isTarget && entry.answers.opened.isSome))

def lastEffective (device : Device) (events : List (Handled Device Handle)) :
    Option (Handled Device Handle) :=
  events.reverse.find? (effective device)

theorem meaning_snoc (events : List (Handled Device Handle)) (entry : Handled Device Handle) :
    meaning (events ++ [entry]) = (handle (meaning events) entry.event entry.answers).1 := by
  rw [meaning, List.foldl_append]
  rfl

theorem last_effective_snoc (device : Device) (events : List (Handled Device Handle))
    (entry : Handled Device Handle) :
    lastEffective device (events ++ [entry]) =
      if effective device entry then some entry else lastEffective device events := by
  rw [lastEffective, List.reverse_append]
  cases known : effective device entry <;> simp [known, lastEffective]

theorem handling_device {table after : Table Device Handle} {event : UsbEvent Device}
    {answers : Answers Handle} {verdict : Verdict Handle}
    {calls : List (LibusbCall Device Handle)} (device : Device)
    (handling : Handling table event answers verdict calls after) :
    device ∈ after.sessions.entries.map DeviceSession.device ↔
      if effective device ⟨event, answers, verdict⟩ then event.event = .deviceArrived
      else device ∈ table.sessions.entries.map DeviceSession.device := by
  cases handling with
  | notTarget arrived other => simp [effective, arrived, other]
  | duplicate arrived known =>
      by_cases same : event.device = device
      · subst same
        simp [arrived, known]
      · simp [effective, same]
  | openFailed arrived absent failed => simp [effective, arrived, failed]
  | opened handle after arrived target absent success counted added =>
      by_cases same : event.device = device
      · simp [effective, same, arrived, target, success, added]
      · simp [effective, same, added, Ne.symm same]
  | unknown left absent =>
      by_cases same : event.device = device
      · subst same
        simpa [effective, left] using absent
      · simp [effective, same]
  | departed session before behind after left same found kept removed =>
      -- the erased entry was the only one of its device
      have distinct := table.sessions.distinct
      rw [found, List.map_append, List.map_cons, List.nodup_middle, List.nodup_cons] at distinct
      rw [removed, found]
      by_cases here : event.device = device
      · rw [same, here] at distinct
        simpa [effective, here, left] using distinct.1
      · simp [effective, here, same, Ne.symm here]

/-- A device has a session exactly if its last effective event is an arrival. -/
theorem meaning_device (device : Device) (events : List (Handled Device Handle)) :
    device ∈ (meaning events).sessions.entries.map DeviceSession.device ↔
      ∃ entry, lastEffective device events = some entry ∧ entry.event.event = .deviceArrived := by
  induction events using List.reverseRecOn with
  | nil => simp [meaning, lastEffective, SessionMap.empty]
  | append_singleton events entry ih =>
      have handling := handle_handling (meaning events) entry.event entry.answers
      have moved := handling_device device handling
      rw [meaning_snoc, moved, last_effective_snoc]
      by_cases acts : effective device entry = true
      · have here : effective device ⟨entry.event, entry.answers,
            (handle (meaning events) entry.event entry.answers).2.1⟩ = true := acts
        simp [acts, here]
      · have here : ¬ effective device ⟨entry.event, entry.answers,
            (handle (meaning events) entry.event entry.answers).2.1⟩ = true := acts
        rw [if_neg here, if_neg acts, ih]

end Fold

section Runs
variable {Device Handle : Type} [DecidableEq Device] [DecidableEq Handle]
  {history : List (Activity Device Handle)} {final : State Device Handle}

/-- An accepted event is handled, in the worker's hand or still queued, and no
event overtakes another. -/
theorem run_in_order (run : Run Advance start history final) :
    accepted history =
      (handled history).map Handled.event ++ poppedEvent final.worker ++ final.queue := by
  refine run_invariant
    (fun history (state : State Device Handle) => accepted history =
      (handled history).map Handled.event ++ poppedEvent state.worker ++ state.queue) rfl ?_ run
  intro history state action after reached same advance
  rw [accepted_snoc, handled_snoc, same]
  cases advance with
  | pop event rest waiting front => simp [acceptedBy, handledBy, poppedEvent, waiting, front]
  | handle event answers popped fresh => simp [acceptedBy, handledBy, poppedEvent, popped]
  | unref event handled => simp [acceptedBy, handledBy, poppedEvent, handled]
  | leave waiting empty stopped => simp [acceptedBy, handledBy, poppedEvent, waiting]
  | drain draining =>
      -- the drain is idle: the worker left only after the queue was empty
      have nothing := (run_phased reached).drained (by rw [draining]; rfl)
      simp [acceptedBy, handledBy, poppedEvent, draining, nothing.2]
  | clear clearing => simp [acceptedBy, handledBy, poppedEvent, clearing]
  | _ => simp [acceptedBy, handledBy]

theorem run_meaning (run : Run Advance start history final)
    (serving : final.worker ≠ .finished) : final.table = meaning (handled history) := by
  refine run_invariant
    (fun history (state : State Device Handle) =>
      state.worker ≠ .finished → state.table = meaning (handled history)) ?_ ?_ run serving
  · intro _
    rfl
  · intro history state action after _ same advance serving
    rw [handled_snoc]
    cases advance with
    | handle event answers popped fresh =>
        rw [handledBy, meaning_snoc, ← same (by rw [popped]; simp)]
    | pop event rest waiting front =>
        simpa [handledBy] using same (by rw [waiting]; simp)
    | unref event handled => simpa [handledBy] using same (by rw [handled]; simp)
    | leave waiting empty stopped => simpa [handledBy] using same (by rw [waiting]; simp)
    | drain draining => simpa [handledBy] using same (by rw [draining]; simp)
    | clear clearing => exact absurd rfl serving
    | _ => simpa [handledBy] using same serving

theorem run_generations (run : Run Advance start history final) :
    generations (handled history) = numbered (generations (handled history)).length ∧
      final.table.generation = UInt64.ofNat (generations (handled history)).length := by
  refine run_invariant
    (fun history (state : State Device Handle) =>
      generations (handled history) = numbered (generations (handled history)).length ∧
        state.table.generation = UInt64.ofNat (generations (handled history)).length) ?_ ?_ run
  · exact ⟨rfl, rfl⟩
  · intro history state action after _ counted advance
    rw [handled_snoc, generations, List.flatMap_append]
    cases advance with
    | handle event answers popped fresh =>
        simpa [handledBy, generations] using handling_generation _ counted
          (handle_handling state.table event answers)
    | _ => simpa [handledBy, generations] using counted

theorem idle_handling {state after : State Device Handle} {event : UsbEvent Device}
    {answers : Answers Handle} {verdict : Verdict Handle}
    (advance : Advance state (.handle event answers verdict) after)
    (idle : (event.event = .deviceArrived ∧ state.table.sessions.contains event.device = true) ∨
      (event.event = .deviceLeft ∧ state.table.sessions.contains event.device = false)) :
    after.table = state.table ∧ after.calls = state.calls := by
  cases advance with
  | handle _ _ popped fresh =>
      have handling := handle_handling state.table event answers
      generalize (handle state.table event answers).1 = table at handling ⊢
      generalize (handle state.table event answers).2.1 = verdict at handling
      generalize (handle state.table event answers).2.2 = calls at handling ⊢
      simp only [SessionMap.contains, decide_eq_true_eq, decide_eq_false_iff_not] at idle
      cases handling with
      | opened handle after arrived target absent success counted added =>
          rcases idle with ⟨_, known⟩ | ⟨left, _⟩
          · exact absurd known absent
          · rw [arrived] at left
            cases left
      | departed session before behind after left same found kept removed =>
          rcases idle with ⟨arrived, _⟩ | ⟨_, absent⟩
          · rw [arrived] at left
            cases left
          · refine absurd ?_ absent
            rw [found, ← same]
            simp
      | _ => exact ⟨rfl, List.append_nil _⟩

/-- The manager serves the accepted events in order, each once, and its table
is their meaning. Generations count the sessions created, in 64 bits. -/
theorem session_history (run : Run Advance start history final) :
    (handled history).map Handled.event <+: accepted history ∧
    (hasLeft final.worker = true →
      (handled history).map Handled.event = accepted history ∧ final.queue = []) ∧
    (final.worker ≠ .finished → final.table = meaning (handled history) ∧
      ∀ device, final.table.sessions.contains device = true ↔
        ∃ entry, lastEffective device (handled history) = some entry ∧
          entry.event.event = .deviceArrived) ∧
    (final.table.sessions.entries.map DeviceSession.device).Nodup ∧
    generations (handled history) = numbered (generations (handled history)).length ∧
    ((generations (handled history)).length < 2 ^ 64 →
      (generations (handled history)).map UInt64.toNat =
        (List.range (generations (handled history)).length).map (· + 1) ∧
      (generations (handled history)).Pairwise (· < ·)) ∧
    (∀ front (before after : State Device Handle) event answers verdict,
      Run Advance start front before → Advance before (.handle event answers verdict) after →
      (event.event = .deviceArrived ∧ before.table.sessions.contains event.device = true) ∨
        (event.event = .deviceLeft ∧ before.table.sessions.contains event.device = false) →
      after.table = before.table ∧ after.calls = before.calls) := by
  have order := run_in_order run
  have names := (run_generations run).1
  refine ⟨?_, fun left => ?_, fun serving => ?_, final.table.sessions.distinct, names,
    fun small => ?_, fun front before after event answers verdict _ advance idle =>
      idle_handling advance idle⟩
  · exact ⟨_, by rw [order, List.append_assoc]⟩
  · have empty := ((run_phased run).drained left).2
    have free : poppedEvent final.worker = [] := by
      cases worker : final.worker with
      | popped event =>
          rw [worker] at left
          cases left
      | _ => rfl
    rw [order, empty, free, List.append_nil, List.append_nil]
    exact ⟨rfl, rfl⟩
  · have same := run_meaning run serving
    refine ⟨same, fun device => ?_⟩
    rw [← meaning_device, ← same, SessionMap.contains, decide_eq_true_eq]
  · rw [names]
    simp only [numbered, List.length_map, List.length_range]
    exact ⟨numbered_toNat _ small, numbered_increasing _ small⟩

/-- One event from its callback to the release of its reference, while nothing
else happens. -/
def serving (state : State Device Handle) (event : UsbEvent Device) (answers : Answers Handle) :
    List (Activity Device Handle) :=
  [.refDevice event, .enqueue event true, .pop event,
    .handle event answers (handle state.table event answers).2.1, .unref event]

def served (state : State Device Handle) (event : UsbEvent Device) (answers : Answers Handle) :
    State Device Handle :=
  { state with
    table := (handle state.table event answers).1
    calls := state.calls ++ [.refDevice event.device] ++
      (handle state.table event answers).2.2 ++ [.unrefDevice event.device] }

structure Resting (state : State Device Handle) : Prop where
  entering : state.entering = []
  queue : state.queue = []
  running : state.stopping = false
  waiting : state.worker = .waiting

omit [DecidableEq Handle] in
theorem served_resting {state : State Device Handle} (resting : Resting state)
    (event : UsbEvent Device) (answers : Answers Handle) :
    Resting (served state event answers) :=
  ⟨resting.entering, resting.queue, resting.running, resting.waiting⟩

theorem served_run {state : State Device Handle} (resting : Resting state)
    (event : UsbEvent Device) (answers : Answers Handle)
    (fresh : FreshHandle (state.calls ++ [.refDevice event.device]) answers) :
    Run Advance state (serving state event answers) (served state event answers) := by
  obtain ⟨entering, queue, stopping, worker, stopper, table, calls⟩ := state
  obtain ⟨rfl, rfl, rfl, rfl⟩ := resting
  have begun : Run Advance (⟨[], [], false, .waiting, stopper, table, calls⟩ : State Device Handle)
      [] _ := .start
  have queued := Run.next (.next begun (.refDevice event)) (.accepted event [] [] rfl rfl)
  exact .next (.next (.next queued (.pop event [] rfl rfl)) (.handle event answers rfl fresh))
    (.unref event rfl)

end Runs

theorem start_resting : Resting (start : State Nat Nat) := ⟨rfl, rfl, rfl, rfl⟩

/-- A device that leaves and comes back, under the handle it had before. -/
theorem session_history_arrival : ∃ (history : List (Activity Nat Nat)) (final : State Nat Nat),
    Run Advance start history final ∧
      (handled history).map Handled.event =
        [⟨3, .deviceArrived⟩, ⟨3, .deviceLeft⟩, ⟨3, .deviceArrived⟩] ∧
      final.table.sessions.contains 3 = true ∧
      (generations (handled history)).map UInt64.toNat = [1, 2] := by
  let present := served (start : State Nat Nat) ⟨3, .deviceArrived⟩ ⟨true, some 9⟩
  let away := served present ⟨3, .deviceLeft⟩ ⟨true, none⟩
  have fresh : FreshHandle (start.calls ++ [.refDevice 3]) ⟨true, some 9⟩ := by
    rintro _ ⟨⟩
    rfl
  have again : FreshHandle (away.calls ++ [.refDevice 3]) ⟨true, some 9⟩ := by
    rintro _ ⟨⟩
    rfl
  have came := served_run start_resting ⟨3, .deviceArrived⟩ ⟨true, some 9⟩ fresh
  have left := run_append came (served_run (served_resting start_resting _ _)
    ⟨3, .deviceLeft⟩ ⟨true, none⟩ (fun _ success => by cases success))
  have returned := run_append left
    (served_run (served_resting (served_resting start_resting _ _) _ _)
      ⟨3, .deviceArrived⟩ ⟨true, some 9⟩ again)
  have numbers := ((session_history returned).2.2.2.2.2.1 (by decide)).1
  exact ⟨_, _, returned, rfl, rfl, numbers⟩

/-- A device that keeps coming back. -/
theorem reconnects (count : Nat) :
    ∃ (history : List (Activity Unit Unit)) (final : State Unit Unit),
      Run Advance start history final ∧ (generations (handled history)).length = count ∧
        Resting final ∧ final.table.sessions.entries = [] := by
  induction count with
  | zero => exact ⟨[], start, .start, rfl, ⟨rfl, rfl, rfl, rfl⟩, rfl⟩
  | succ count ih =>
      obtain ⟨history, state, run, created, resting, gone⟩ := ih
      have fresh : FreshHandle (state.calls ++ [.refDevice ()]) ⟨true, some ()⟩ := by
        intro handle _
        have known := (run_owned run).1.handles handle
        simpa [opened, closed, openHandles, gone] using known
      -- one arrival and one departure
      have arrived := run_append run
        (served_run resting ⟨(), .deviceArrived⟩ ⟨true, some ()⟩ fresh)
      have left := run_append arrived (served_run (served_resting resting _ _)
        ⟨(), .deviceLeft⟩ ⟨true, none⟩ (fun _ success => by cases success))
      obtain ⟨entering, queue, stopping, worker, stopper, ⟨⟨entries, distinct⟩, generation⟩,
        calls⟩ := state
      cases gone
      refine ⟨_, _, left, ?_, served_resting (served_resting resting _ _) _ _, rfl⟩
      simp only [handled, generations, List.flatMap_append, List.length_append] at created ⊢
      rw [created]
      rfl

/-- The counter is a `std::uint64_t`: after 2^64 sessions it starts over. -/
theorem generations_wrap : ∃ (history : List (Activity Unit Unit)) (final : State Unit Unit),
    Run Advance start history final ∧ ¬ (generations (handled history)).Nodup := by
  obtain ⟨history, final, run, created, _⟩ := reconnects (2 ^ 64 + 1)
  refine ⟨history, final, run, fun distinct => ?_⟩
  rw [(run_generations run).1, created, numbered,
    List.nodup_map_iff_inj_on List.nodup_range] at distinct
  -- the first session and the one after a full round of the counter
  have same := distinct 0 (List.mem_range.mpr (by omega)) (2 ^ 64)
    (List.mem_range.mpr (by omega)) (by decide)
  omega

end Smiusb.SessionHistory
