import Mathlib.Data.List.Perm.Basic
import Smiusb.FrameQueue
import Smiusb.Transitions

/-!
Whole runs of the frame pipeline. An event records the state in which its call
took the lock, so that the frames a generation change destroys, which the
source only counts, can be named.
-/

namespace Smiusb.PipelineHistory
open Execution FrameQueue Transitions

structure Event (Value : Type) where
  before : PipelineState
  operation : Operation Value
  reply : Reply Value

section Events
variable {Value : Type}

def Step (pipeline : FramePipeline) (event : Event Value) (after : FramePipeline) : Prop :=
  event.before = lockState pipeline ∧ perform pipeline event.operation = (after, event.reply)

def Event.accepted (event : Event Value) : List Frame :=
  match event.operation, event.reply with
  | .submit frame, .submitted .queued => [frame]
  | .submit frame, .submitted (.droppedOldest _) => [frame]
  | _, _ => []

def Event.taken (event : Event Value) : List Frame :=
  match event.reply with
  | .taken frame => frame.toList
  | _ => []

def Event.dropped (event : Event Value) : List FrameId :=
  match event.reply with
  | .submitted (.droppedOldest id) => [id]
  | _ => []

/-- One group for each generation change that succeeded. -/
def Event.discarded (event : Event Value) : List (List FrameId) :=
  match event.reply with
  | .began (.ok _) => [event.before.frames.map Frame.id]
  | _ => []

def Event.discardedCount (event : Event Value) : List Nat :=
  match event.reply with
  | .began (.ok count) => [count]
  | _ => []

def Event.begins (event : Event Value) : Bool :=
  match event.reply with
  | .began (.ok _) => true
  | _ => false

def Event.rejectsGeneration (event : Event Value) : Bool :=
  match event.reply with
  | .submitted (.rejectedGeneration _ _) => true
  | _ => false

def Event.rejectsSequence (event : Event Value) : Bool :=
  match event.reply with
  | .submitted (.rejectedSequence _ _) => true
  | _ => false

def Event.rejectsSink (event : Event Value) : Bool :=
  match event.reply with
  | .gated (.err _) => true
  | _ => false

def acceptedIds (history : List (Event Value)) : List FrameId :=
  (history.flatMap Event.accepted).map Frame.id

def takenIds (history : List (Event Value)) : List FrameId :=
  (history.flatMap Event.taken).map Frame.id

def droppedIds (history : List (Event Value)) : List FrameId :=
  history.flatMap Event.dropped

def discardedGroups (history : List (Event Value)) : List (List FrameId) :=
  history.flatMap Event.discarded

/-- Everything that leaves the queue with an event, oldest first. -/
def Event.departed (event : Event Value) : List FrameId :=
  event.taken.map Frame.id ++ event.dropped ++ event.discarded.flatten

/-- The frames accepted since the last generation change that succeeded. -/
def acceptedSince (history : List (Event Value)) : List Frame :=
  history.foldl (fun since event => if event.begins then [] else since ++ event.accepted) []

/-- What the counters are for. -/
def tally (history : List (Event Value)) : PipelineStats where
  accepted := (acceptedIds history).length
  dequeued := (takenIds history).length
  droppedCapacity := (droppedIds history).length
  discardedGeneration := (discardedGroups history).flatten.length
  rejectedGeneration := history.countP Event.rejectsGeneration
  rejectedSequence := history.countP Event.rejectsSequence
  rejectedSinkGeneration := history.countP Event.rejectsSink

end Events

section Runs
variable {Value : Type} {capacity : Nat} {initialGeneration : UInt64}
  {start final : FramePipeline} {history : List (Event Value)}

theorem new_state (created : new capacity initialGeneration = .ok start) :
    0 < capacity ∧ lockState start = ⟨initialGeneration, capacity, none, [], {}⟩ := by
  unfold new at created
  split at created
  · cases created
  · rename_i nonzero
    cases created
    exact ⟨Nat.pos_of_ne_zero nonzero, rfl⟩

theorem transition_capacity {state after : PipelineState} {operation : Operation Value}
    {reply : Reply Value} (moved : Transition state operation reply after) :
    after.capacity = state.capacity := by
  cases moved <;> rfl

theorem step_transition {pipeline after : FramePipeline} {event : Event Value}
    (positive : 0 < (lockState pipeline).capacity) (step : Step pipeline event after) :
    Transition (lockState pipeline) event.operation event.reply (lockState after) := by
  have moved := perform_transition pipeline event.operation positive
  rwa [step.2] at moved

theorem run_capacity (positive : 0 < (lockState start).capacity)
    (run : Run Step start history final) :
    (lockState final).capacity = (lockState start).capacity := by
  refine run_invariant
    (fun _ pipeline => (lockState pipeline).capacity = (lockState start).capacity) rfl ?_ run
  intro _ pipeline event after _ same step
  rw [← same] at positive
  rw [transition_capacity (step_transition positive step), same]

/-- Invariants of runs, one transition at a time. -/
theorem history_invariant (positive : 0 < (lockState start).capacity)
    (invariant : List (Event Value) → PipelineState → Prop)
    (base : invariant [] (lockState start))
    (keeps : ∀ history state operation reply after, invariant history state →
      Transition state operation reply after →
      invariant (history ++ [⟨state, operation, reply⟩]) after)
    (run : Run Step start history final) : invariant history (lockState final) := by
  refine run_invariant (fun history pipeline => invariant history (lockState pipeline)) base ?_ run
  intro history pipeline event after run holds step
  rw [← run_capacity positive run] at positive
  have moved := keeps history _ _ _ _ holds (step_transition positive step)
  rwa [← step.1] at moved

theorem created_invariant (created : new capacity initialGeneration = .ok start)
    (invariant : List (Event Value) → PipelineState → Prop)
    (base : invariant [] ⟨initialGeneration, capacity, none, [], {}⟩)
    (keeps : ∀ history state operation reply after, invariant history state →
      Transition state operation reply after →
      invariant (history ++ [⟨state, operation, reply⟩]) after)
    (run : Run Step start history final) : invariant history (lockState final) := by
  obtain ⟨positive, initial⟩ := new_state created
  refine history_invariant (by rw [initial]; exact positive) invariant ?_ keeps run
  rw [initial]
  exact base

/-- The run that a list of operations causes. -/
def record (start : FramePipeline) (operations : List (Operation Value)) :
    List (Event Value) × FramePipeline :=
  operations.foldl
    (fun (history, pipeline) operation =>
      let (after, reply) := perform pipeline operation
      (history ++ [⟨lockState pipeline, operation, reply⟩], after))
    ([], start)

theorem record_run (start : FramePipeline) (operations : List (Operation Value)) :
    Run Step start (record start operations).1 (record start operations).2 := by
  induction operations using List.reverseRecOn with
  | nil => exact .start
  | append_singleton operations operation ih =>
      unfold record at ih ⊢
      rw [List.foldl_append]
      exact .next ih ⟨rfl, rfl⟩

end Runs

section Steps
variable {Value : Type} {state after : PipelineState} {operation : Operation Value}
  {reply : Reply Value}

/-- No step loses, repeats or reorders a frame. -/
theorem transition_conserves (moved : Transition state operation reply after) :
    state.frames.map Frame.id ++
        (Event.accepted ⟨state, operation, reply⟩).map Frame.id =
      Event.departed ⟨state, operation, reply⟩ ++ after.frames.map Frame.id := by
  cases moved with
  | droppedOldest frame oldest rest current fresh full shape =>
      simp [Event.accepted, Event.departed, Event.taken, Event.dropped, Event.discarded, shape]
  | took frame rest shape =>
      simp [Event.accepted, Event.departed, Event.taken, Event.dropped, Event.discarded, shape]
  | _ => simp [Event.accepted, Event.departed, Event.taken, Event.dropped, Event.discarded]

theorem saturatingAdd_min (count amount : Nat) :
    saturatingAdd (min count u64Max) amount = min (count + amount) u64Max := by
  unfold saturatingAdd
  omega

/-- The counters stick at the largest `u64`. -/
def saturated (stats : PipelineStats) : PipelineStats where
  accepted := min stats.accepted u64Max
  dequeued := min stats.dequeued u64Max
  droppedCapacity := min stats.droppedCapacity u64Max
  discardedGeneration := min stats.discardedGeneration u64Max
  rejectedGeneration := min stats.rejectedGeneration u64Max
  rejectedSequence := min stats.rejectedSequence u64Max
  rejectedSinkGeneration := min stats.rejectedSinkGeneration u64Max

/-- What one event adds to the counters. -/
theorem tally_snoc (history : List (Event Value)) (event : Event Value) :
    tally (history ++ [event]) = {
      accepted := (tally history).accepted + event.accepted.length
      dequeued := (tally history).dequeued + event.taken.length
      droppedCapacity := (tally history).droppedCapacity + event.dropped.length
      discardedGeneration := (tally history).discardedGeneration + event.discarded.flatten.length
      rejectedGeneration := (tally history).rejectedGeneration + event.rejectsGeneration.toNat
      rejectedSequence := (tally history).rejectedSequence + event.rejectsSequence.toNat
      rejectedSinkGeneration :=
        (tally history).rejectedSinkGeneration + event.rejectsSink.toNat } := by
  have one : ∀ kind : Event Value → Bool, [event].countP kind = (kind event).toNat := by
    intro kind
    cases found : kind event <;> simp [found]
  simp only [tally, acceptedIds, takenIds, droppedIds, discardedGroups, List.flatMap_append,
    List.flatMap_singleton, List.map_append, List.flatten_append, List.length_append,
    List.length_map, List.countP_append, one]

theorem transition_counts (history : List (Event Value))
    (counted : state.stats = saturated (tally history))
    (moved : Transition state operation reply after) :
    after.stats = saturated (tally (history ++ [⟨state, operation, reply⟩])) := by
  rw [tally_snoc]
  cases moved with
  | _ =>
      simp [counted, saturated, saturatingAdd_min, Event.accepted, Event.taken, Event.dropped,
        Event.discarded, Event.rejectsGeneration, Event.rejectsSequence, Event.rejectsSink]

/-- The queue against the frames accepted in the active generation. -/
structure Represents (since : List Frame) (state : PipelineState) : Prop where
  bounded : state.frames.length ≤ state.capacity
  current : ∀ frame ∈ since, frame.id.generation = state.generation
  recent : state.frames <:+ since
  increasing : since.Pairwise fun earlier later => earlier.id.sequence < later.id.sequence
  last : state.lastSequence = since.getLast?.map fun frame => frame.id.sequence

theorem accept_increasing (since : List Frame) (frame : Frame)
    (increasing : since.Pairwise fun earlier later => earlier.id.sequence < later.id.sequence)
    (last : state.lastSequence = since.getLast?.map fun frame => frame.id.sequence)
    (fresh : ∀ last, state.lastSequence = some last → last < frame.id.sequence) :
    (since ++ [frame]).Pairwise fun earlier later => earlier.id.sequence < later.id.sequence := by
  refine List.pairwise_append.mpr ⟨increasing, List.pairwise_singleton _ _, ?_⟩
  intro earlier member later single
  rw [List.mem_singleton.mp single]
  -- the newest frame bounds every earlier one, and the new sequence bounds it
  rcases List.eq_nil_or_concat since with rfl | ⟨front, newest, rfl⟩
  · simp at member
  · have above : newest.id.sequence < frame.id.sequence := fresh _ (by simp [last])
    rw [List.concat_eq_append] at member increasing
    rcases List.mem_append.mp member with old | same
    · exact UInt64.lt_trans
        ((List.pairwise_append.mp increasing).2.2 earlier old newest (by simp)) above
    · rw [List.mem_singleton.mp same]
      exact above

theorem accept_represents (since : List Frame) (frame : Frame) (kept : List Frame)
    (stats : PipelineStats) (holds : Represents since state)
    (current : frame.id.generation = state.generation)
    (fresh : ∀ last, state.lastSequence = some last → last < frame.id.sequence)
    (recent : kept <:+ state.frames) (room : kept.length < state.capacity) :
    Represents (since ++ [frame])
      { state with lastSequence := some frame.id.sequence, stats, frames := kept ++ [frame] } where
  bounded := by simpa [Nat.succ_le_iff] using room
  current := by
    intro other member
    rcases List.mem_append.mp member with old | same
    · exact holds.current other old
    · rw [List.mem_singleton.mp same]
      exact current
  recent := by
    obtain ⟨front, shape⟩ := recent.trans holds.recent
    exact ⟨front, by rw [← shape, List.append_assoc]⟩
  increasing := accept_increasing since frame holds.increasing holds.last fresh
  last := by simp

theorem shrink_represents (since : List Frame) (kept : List Frame) (stats : PipelineStats)
    (holds : Represents since state) (recent : kept <:+ state.frames) :
    Represents since { state with frames := kept, stats } where
  bounded := Nat.le_trans recent.length_le holds.bounded
  current := holds.current
  recent := recent.trans holds.recent
  increasing := holds.increasing
  last := holds.last

theorem accepted_since_snoc (history : List (Event Value)) (event : Event Value) :
    acceptedSince (history ++ [event]) =
      if event.begins then [] else acceptedSince history ++ event.accepted := by
  rw [acceptedSince, List.foldl_append]
  rfl

theorem transition_represents (history : List (Event Value))
    (holds : Represents (acceptedSince history) state)
    (moved : Transition state operation reply after) :
    Represents (acceptedSince (history ++ [⟨state, operation, reply⟩])) after := by
  rw [accepted_since_snoc]
  cases moved with
  | queued frame current fresh room =>
      have bounded := holds.bounded
      exact accept_represents _ frame _ _ holds current fresh List.suffix_rfl (by omega)
  | droppedOldest frame oldest rest current fresh full shape =>
      -- dropping the front of the queue keeps it a suffix and makes room for one
      have recent : rest <:+ state.frames := ⟨[oldest], by rw [shape]; rfl⟩
      rw [shape] at full
      exact accept_represents _ frame rest _ holds current fresh recent
        (by rw [← full]; exact Nat.lt_succ_self _)
  | took frame rest shape =>
      have recent : rest <:+ state.frames := ⟨[frame], by rw [shape]; rfl⟩
      simpa [Event.begins, Event.accepted] using shrink_represents _ rest _ holds recent
  | began generation newer =>
      exact ⟨Nat.zero_le _, by simp [Event.begins], List.nil_suffix, by simp [Event.begins], rfl⟩
  | _ =>
      simpa [Event.begins, Event.accepted] using
        shrink_represents _ state.frames _ holds List.suffix_rfl

/-- An id that the state can no longer accept. -/
def Reached (state : PipelineState) (id : FrameId) : Prop :=
  id.generation < state.generation ∨
    (id.generation = state.generation ∧
      ∃ last, state.lastSequence = some last ∧ id.sequence ≤ last)

theorem reached_precedes {id : FrameId} {frame : Frame} (reached : Reached state id)
    (current : frame.id.generation = state.generation)
    (fresh : ∀ last, state.lastSequence = some last → last < frame.id.sequence) :
    id.Precedes frame.id := by
  rcases reached with older | ⟨same, last, known, behind⟩
  · exact Or.inl (by rw [current]; exact older)
  · exact Or.inr ⟨by rw [same, current], UInt64.lt_of_le_of_lt behind (fresh last known)⟩

theorem transition_reached {id : FrameId} (reached : Reached state id)
    (moved : Transition state operation reply after) : Reached after id := by
  -- an accepted frame only moves the last sequence further
  have advance : ∀ frame : Frame,
      (∀ last, state.lastSequence = some last → last < frame.id.sequence) →
      Reached { state with lastSequence := some frame.id.sequence } id := by
    intro frame fresh
    rcases reached with older | ⟨same, last, known, behind⟩
    · exact Or.inl older
    · exact Or.inr ⟨same, _, rfl, UInt64.le_of_lt (UInt64.lt_of_le_of_lt behind (fresh last known))⟩
  cases moved with
  | queued frame current fresh room => exact advance frame fresh
  | droppedOldest frame oldest rest current fresh full shape => exact advance frame fresh
  | began generation newer =>
      rcases reached with older | ⟨same, _⟩
      · exact Or.inl (UInt64.lt_trans older newer)
      · exact Or.inl (by rw [same]; exact newer)
  | _ => exact reached

theorem accepted_reached (moved : Transition state operation reply after) :
    ∀ frame ∈ Event.accepted ⟨state, operation, reply⟩,
      Reached after frame.id ∧ ∀ id, Reached state id → id.Precedes frame.id := by
  cases moved with
  | queued frame current fresh room =>
      intro other member
      rw [List.mem_singleton.mp member]
      exact ⟨Or.inr ⟨current, _, rfl, UInt64.le_refl _⟩,
        fun id reached => reached_precedes reached current fresh⟩
  | droppedOldest frame oldest rest current fresh full shape =>
      intro other member
      rw [List.mem_singleton.mp member]
      exact ⟨Or.inr ⟨current, _, rfl, UInt64.le_refl _⟩,
        fun id reached => reached_precedes reached current fresh⟩
  | _ => simp [Event.accepted]

theorem event_ordered (event : Event Value) :
    (event.accepted.map Frame.id).Pairwise FrameId.Precedes := by
  unfold Event.accepted
  split <;> simp

end Steps

section Laws
variable {Value : Type} {capacity : Nat} {initialGeneration : UInt64}
  {start final : FramePipeline} {history : List (Event Value)}

theorem accepted_ids_snoc (history : List (Event Value)) (event : Event Value) :
    acceptedIds (history ++ [event]) = acceptedIds history ++ event.accepted.map Frame.id := by
  simp [acceptedIds]

/-- Frames leave in the order in which they were accepted. -/
theorem run_conserves (created : new capacity initialGeneration = .ok start)
    (run : Run Step start history final) :
    acceptedIds history =
      history.flatMap Event.departed ++ (lockState final).frames.map Frame.id := by
  refine created_invariant created
    (fun history state =>
      acceptedIds history = history.flatMap Event.departed ++ state.frames.map Frame.id)
    rfl ?_ run
  intro history state operation reply after holds moved
  rw [accepted_ids_snoc, holds, List.append_assoc, transition_conserves moved,
    List.flatMap_append, List.flatMap_singleton, List.append_assoc]

theorem run_ordered (created : new capacity initialGeneration = .ok start)
    (run : Run Step start history final) :
    (acceptedIds history).Pairwise FrameId.Precedes ∧
      ∀ id ∈ acceptedIds history, Reached (lockState final) id := by
  refine created_invariant created
    (fun history state => (acceptedIds history).Pairwise FrameId.Precedes ∧
      ∀ id ∈ acceptedIds history, Reached state id) ?_ ?_ run
  · exact ⟨List.Pairwise.nil, by simp [acceptedIds]⟩
  · rintro history state operation reply after ⟨ordered, reached⟩ moved
    have newer := accepted_reached moved
    rw [accepted_ids_snoc]
    constructor
    · refine List.pairwise_append.mpr ⟨ordered, event_ordered _, ?_⟩
      intro id member later inside
      obtain ⟨frame, accepted, rfl⟩ := List.mem_map.mp inside
      exact (newer frame accepted).2 id (reached id member)
    · intro id member
      rcases List.mem_append.mp member with old | inside
      · exact transition_reached (reached id old) moved
      · obtain ⟨frame, accepted, rfl⟩ := List.mem_map.mp inside
        exact (newer frame accepted).1

theorem precedes_irrefl (id : FrameId) : ¬ id.Precedes id := by
  rintro (older | ⟨_, earlier⟩)
  · exact UInt64.lt_irrefl _ older
  · exact UInt64.lt_irrefl _ earlier

theorem accepted_nodup (created : new capacity initialGeneration = .ok start)
    (run : Run Step start history final) : (acceptedIds history).Nodup := by
  refine (run_ordered created run).1.imp ?_
  intro earlier later precedes same
  exact precedes_irrefl later (same ▸ precedes)

theorem run_counts (created : new capacity initialGeneration = .ok start)
    (run : Run Step start history final) :
    (lockState final).stats = saturated (tally history) := by
  refine created_invariant created
    (fun history state => state.stats = saturated (tally history)) rfl ?_ run
  intro history state operation reply after counted moved
  exact transition_counts history counted moved

theorem departed_perm (history : List (Event Value)) :
    (history.flatMap Event.departed).Perm
      (takenIds history ++ droppedIds history ++ (discardedGroups history).flatten) := by
  have discarded : (discardedGroups history).flatten =
      history.flatMap fun event => event.discarded.flatten := by
    rw [discardedGroups]
    induction history with
    | nil => rfl
    | cons event rest ih => simp [ih]
  have taken : takenIds history = history.flatMap fun event => event.taken.map Frame.id := by
    rw [takenIds, List.map_flatMap]
  rw [taken, discarded]
  refine List.Perm.trans (List.flatMap_append_perm history _ _).symm ?_
  exact List.Perm.append_right _ (List.flatMap_append_perm history _ _).symm

theorem discarded_counts (created : new capacity initialGeneration = .ok start)
    (run : Run Step start history final) :
    history.flatMap Event.discardedCount = (discardedGroups history).map List.length := by
  refine created_invariant created
    (fun history _ =>
      history.flatMap Event.discardedCount = (discardedGroups history).map List.length)
    rfl ?_ run
  intro history state operation reply after same moved
  have groups : discardedGroups (history ++ [⟨state, operation, reply⟩]) =
      discardedGroups history ++ Event.discarded ⟨state, operation, reply⟩ := by
    simp [discardedGroups]
  rw [List.flatMap_append, same, groups, List.map_append, List.flatMap_singleton]
  cases moved <;> simp [Event.discardedCount, Event.discarded]

theorem accepted_length_le (history : List (Event Value)) :
    (acceptedIds history).length ≤ history.length := by
  induction history with
  | nil => exact Nat.le_refl 0
  | cons event rest ih =>
      have single : event.accepted.length ≤ 1 := by
        unfold Event.accepted
        split <;> simp
      simp only [acceptedIds, List.length_map, List.flatMap_cons, List.length_append,
        List.length_cons] at ih ⊢
      omega

theorem saturated_exact (stats : PipelineStats) (bound : Nat) (small : bound ≤ u64Max)
    (accepted : stats.accepted ≤ bound) (dequeued : stats.dequeued ≤ bound)
    (dropped : stats.droppedCapacity ≤ bound) (discarded : stats.discardedGeneration ≤ bound)
    (generation : stats.rejectedGeneration ≤ bound) (sequence : stats.rejectedSequence ≤ bound)
    (sink : stats.rejectedSinkGeneration ≤ bound) : saturated stats = stats := by
  simp only [saturated, Nat.min_eq_left (Nat.le_trans accepted small),
    Nat.min_eq_left (Nat.le_trans dequeued small), Nat.min_eq_left (Nat.le_trans dropped small),
    Nat.min_eq_left (Nat.le_trans discarded small),
    Nat.min_eq_left (Nat.le_trans generation small), Nat.min_eq_left (Nat.le_trans sequence small),
    Nat.min_eq_left (Nat.le_trans sink small)]

theorem fates_perm (created : new capacity initialGeneration = .ok start)
    (run : Run Step start history final) :
    (acceptedIds history).Perm
      (takenIds history ++ droppedIds history ++ (discardedGroups history).flatten ++
        (lockState final).frames.map Frame.id) := by
  rw [run_conserves created run]
  exact (departed_perm history).append_right _

/-- Every accepted frame is in exactly one of four places, and the counters
are the sizes of those groups as long as none of them can saturate. -/
theorem accepted_frame_fates (created : new capacity initialGeneration = .ok start)
    (run : Run Step start history final) :
    (acceptedIds history).Nodup ∧
    (acceptedIds history).Perm
      (takenIds history ++ droppedIds history ++ (discardedGroups history).flatten ++
        (lockState final).frames.map Frame.id) ∧
    history.flatMap Event.discardedCount = (discardedGroups history).map List.length ∧
    (history.length < 2 ^ 64 →
      (lockState final).stats = tally history ∧
      (lockState final).stats.accepted =
        (lockState final).stats.dequeued + (lockState final).stats.droppedCapacity +
          (lockState final).stats.discardedGeneration + (lockState final).frames.length) := by
  refine ⟨accepted_nodup created run, fates_perm created run, discarded_counts created run, ?_⟩
  intro short
  have fates := (fates_perm created run).length_eq
  simp only [List.length_append, List.length_map] at fates
  have bound := accepted_length_le history
  have counts : (lockState final).stats = tally history := by
    rw [run_counts created run]
    apply saturated_exact _ history.length (by unfold u64Max; omega)
    case accepted => exact bound
    case generation => exact List.countP_le_length
    case sequence => exact List.countP_le_length
    case sink => exact List.countP_le_length
    all_goals simp only [tally]; omega
  refine ⟨counts, ?_⟩
  rw [counts]
  exact fates

/-- A one-pixel frame. -/
def probe (generation sequence : UInt64) : Frame :=
  ⟨⟨generation, sequence⟩, ⟨1, 1, 4, 4⟩, [0, 0, 0, 255]⟩

/-- A frame for each fate: dropped, taken and refused by the gate, discarded. -/
def mixedOperations : List (Operation Unit) :=
  [.submit (probe 7 0), .submit (probe 7 1), .tryTake, .submit (probe 7 2), .beginGeneration 8,
    .withCurrentGeneration ⟨7, 1⟩ (some ())]

theorem accepted_frame_fates_probe : ∃ start : FramePipeline, new 1 7 = .ok start ∧
    (record start mixedOperations).1.length < 2 ^ 64 ∧
    (lockState (record start mixedOperations).2).stats =
      tally (record start mixedOperations).1 := by
  obtain ⟨start, created⟩ : ∃ start, new 1 7 = .ok start := ⟨_, rfl⟩
  have short : (record start mixedOperations).1.length < 2 ^ 64 := by
    cases created
    decide
  exact ⟨start, created, short,
    ((accepted_frame_fates created (record_run _ _)).2.2.2 short).1⟩

theorem run_represents (created : new capacity initialGeneration = .ok start)
    (run : Run Step start history final) :
    Represents (acceptedSince history) (lockState final) := by
  refine created_invariant created
    (fun history state => Represents (acceptedSince history) state) ?_ ?_ run
  · exact ⟨Nat.zero_le _, by simp [acceptedSince], List.nil_suffix, List.Pairwise.nil, rfl⟩
  · intro history state operation reply after holds moved
    exact transition_represents history holds moved

theorem transition_newest {state after : PipelineState} {operation : Operation Value}
    {reply : Reply Value} (frame : Frame) (newest : state.frames.getLast? = some frame)
    (moved : Transition state operation reply after)
    (unreplaced : Event.accepted ⟨state, operation, reply⟩ = [])
    (unchanged : Event.begins ⟨state, operation, reply⟩ = false)
    (untaken : frame ∉ Event.taken ⟨state, operation, reply⟩) :
    after.frames.getLast? = some frame := by
  cases moved with
  | queued => simp [Event.accepted] at unreplaced
  | droppedOldest => simp [Event.accepted] at unreplaced
  | began => simp [Event.begins] at unchanged
  | took first rest shape =>
      rw [shape] at newest
      cases rest with
      | nil =>
          have same : first = frame := by simpa using newest
          simp [Event.taken, same] at untaken
      | cons second rest => simpa using newest
  | _ => exact newest

theorem accepted_newest {state after : PipelineState} {operation : Operation Value}
    {reply : Reply Value} (frame : Frame) (moved : Transition state operation reply after)
    (accepts : Event.accepted ⟨state, operation, reply⟩ = [frame]) :
    after.frames.getLast? = some frame := by
  cases moved with
  | queued => simpa [Event.accepted] using accepts
  | droppedOldest => simpa [Event.accepted] using accepts
  | _ => simp [Event.accepted] at accepts

/-- Only a take, a later accepted frame or a generation change removes the
newest frame. -/
theorem newest_stays (positive : 0 < (lockState start).capacity) (frame : Frame)
    (front back : List (Event Value)) (event : Event Value)
    (run : Run Step start (front ++ event :: back) final) (accepts : event.accepted = [frame])
    (quiet : ∀ later ∈ back,
      later.accepted = [] ∧ later.begins = false ∧ frame ∉ later.taken) :
    (lockState final).frames.getLast? = some frame := by
  obtain ⟨before, after, lead, step, rest⟩ := run_at front back event run
  rw [← run_capacity positive lead] at positive
  have moved := step_transition positive step
  have entered : (lockState after).frames.getLast? = some frame := by
    refine accepted_newest frame moved ?_
    rw [← step.1]
    exact accepts
  rw [← transition_capacity moved] at positive
  refine history_invariant positive
    (fun history state => (∀ later ∈ history,
      later.accepted = [] ∧ later.begins = false ∧ frame ∉ later.taken) →
      state.frames.getLast? = some frame) (fun _ => entered) ?_ rest quiet
  intro history state operation reply after holds moved quiet
  obtain ⟨unreplaced, unchanged, untaken⟩ :=
    quiet _ (List.mem_append_right _ (List.mem_singleton_self _))
  have newest := holds fun later member => quiet later (List.mem_append_left _ member)
  exact transition_newest frame newest moved unreplaced unchanged untaken

theorem transition_generation {state after : PipelineState} {operation : Operation Value}
    {reply : Reply Value} (moved : Transition state operation reply after) :
    state.generation ≤ after.generation := by
  cases moved with
  | began generation newer => exact UInt64.le_of_lt newer
  | _ => exact UInt64.le_refl _

theorem generation_grows (positive : 0 < (lockState start).capacity)
    (run : Run Step start history final) :
    (lockState start).generation ≤ (lockState final).generation := by
  refine history_invariant positive
    (fun _ state => (lockState start).generation ≤ state.generation) (UInt64.le_refl _) ?_ run
  intro _ state operation reply after below moved
  exact UInt64.le_trans below (transition_generation moved)

/-- The representation invariant of the pipeline in every reachable state,
poisoned or not. -/
theorem queue_representation (created : new capacity initialGeneration = .ok start)
    (run : Run Step start history final) :
    (lockState final).capacity = capacity ∧
    (lockState final).frames.length ≤ capacity ∧
    (∀ frame ∈ (lockState final).frames,
      frame.id.generation = (lockState final).generation) ∧
    (lockState final).frames <:+ acceptedSince history ∧
    (acceptedSince history).Pairwise
      (fun earlier later => earlier.id.sequence < later.id.sequence) ∧
    (lockState final).lastSequence =
      (acceptedSince history).getLast?.map (fun frame => frame.id.sequence) ∧
    (∀ front event back frame, history = front ++ event :: back → event.accepted = [frame] →
      (∀ later ∈ back, later.accepted = [] ∧ later.begins = false ∧ frame ∉ later.taken) →
      (lockState final).frames.getLast? = some frame) ∧
    (∀ front back middle, history = front ++ back → Run Step start front middle →
      Run Step middle back final →
      (lockState middle).generation ≤ (lockState final).generation) := by
  obtain ⟨positive, initial⟩ := new_state created
  have startPositive : 0 < (lockState start).capacity := by rw [initial]; exact positive
  have same : (lockState final).capacity = capacity := by
    rw [run_capacity startPositive run, initial]
  have holds := run_represents created run
  refine ⟨same, same ▸ holds.bounded, ?_, holds.recent, holds.increasing, holds.last, ?_, ?_⟩
  · intro frame member
    exact holds.current frame (holds.recent.subset member)
  · rintro front event back frame rfl accepts quiet
    exact newest_stays startPositive frame front back event run accepts quiet
  · intro front back middle _ lead rest
    have middlePositive : 0 < (lockState middle).capacity := by
      rw [run_capacity startPositive lead]; exact startPositive
    exact generation_grows middlePositive rest

theorem queue_representation_probe : ∃ start : FramePipeline, new 1 7 = .ok start ∧
    (lockState (record start [.submit (probe 7 0),
      .withCurrentGeneration ⟨7, 0⟩ (none : Option Unit), .submit (probe 7 1)]).2).frames.length ≤
        1 :=
  ⟨_, rfl, (queue_representation (show new 1 7 = .ok _ from rfl) (record_run _ _)).2.1⟩

end Laws

end Smiusb.PipelineHistory
