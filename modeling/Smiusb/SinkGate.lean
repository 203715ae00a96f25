import Mathlib.Data.List.Flatten
import Smiusb.PipelineHistory

/-!
Producers, the owner of the connection and one encoder worker around a frame
pipeline, as in the encoder loop of rust/src/main.rs. Pipeline calls are
atomic; between its take and its gate the worker holds a frame while everybody
else goes on. The gate's closure runs while the pipeline is locked.
-/

namespace Smiusb.SinkGate
open Execution FrameQueue PipelineHistory Transitions

structure EncodedFrame where
  id : FrameId
  bytes : List UInt8
  width : UInt32
  height : UInt32
  quality : UInt8
  deriving DecidableEq, Repr

/-- What `compress_bgrx` returns for a frame when TurboJPEG wrote `bytes`. -/
def compressed (frame : Frame) (quality : UInt8) (bytes : List UInt8) : EncodedFrame where
  id := frame.id
  bytes
  width := frame.layout.width
  height := frame.layout.height
  quality

inductive Worker where
  | idle
  | holding (frame : Frame)
  | encoded (frame : EncodedFrame)
  | stopped
  deriving DecidableEq, Repr

def Worker.held : Worker → List FrameId
  | .holding frame => [frame.id]
  | .encoded frame => [frame.id]
  | _ => []

@[simp] theorem held_idle : Worker.idle.held = [] := rfl

@[simp] theorem held_holding (frame : Frame) : (Worker.holding frame).held = [frame.id] := rfl

@[simp] theorem held_encoded (frame : EncodedFrame) :
    (Worker.encoded frame).held = [frame.id] := rfl

structure System where
  pipeline : FramePipeline
  worker : Worker

inductive Activity (Value : Type) where
  | call (event : Event Value)
  | take (event : Event Value)
  | encode (quality : UInt8) (bytes : List UInt8)
  | abandon
  | gate (event : Event Value)

section Model
variable {Value : Type}

/-- Taking and gating belong to the worker. -/
def outside : Operation Value → Bool
  | .submit _ => true
  | .beginGeneration _ => true
  | .snapshot => true
  | _ => false

/-- After an empty queue, a failed encode or a gate the worker goes on or ends. -/
def Rests (worker : Worker) : Prop := worker = .idle ∨ worker = .stopped

inductive Advance : System → Activity Value → System → Prop where
  | call {pipeline after : FramePipeline} {worker : Worker} {event : Event Value}
      (allowed : outside event.operation = true) (step : Step pipeline event after) :
      Advance ⟨pipeline, worker⟩ (.call event) ⟨after, worker⟩
  | starved {pipeline after : FramePipeline} {next : Worker} {event : Event Value}
      (asks : event.operation = .tryTake) (step : Step pipeline event after)
      (got : event.reply = .taken none) (rests : Rests next) :
      Advance ⟨pipeline, .idle⟩ (.take event) ⟨after, next⟩
  | took {pipeline after : FramePipeline} {event : Event Value} {frame : Frame}
      (asks : event.operation = .tryTake) (step : Step pipeline event after)
      (got : event.reply = .taken (some frame)) :
      Advance ⟨pipeline, .idle⟩ (.take event) ⟨after, .holding frame⟩
  | encode {pipeline : FramePipeline} {frame : Frame} (quality : UInt8) (bytes : List UInt8) :
      Advance ⟨pipeline, .holding frame⟩ (.encode quality bytes)
        ⟨pipeline, .encoded (compressed frame quality bytes)⟩
  | abandon {pipeline : FramePipeline} {frame : Frame} {next : Worker} (rests : Rests next) :
      Advance ⟨pipeline, .holding frame⟩ .abandon ⟨pipeline, next⟩
  | gate {pipeline after : FramePipeline} {encoded : EncodedFrame} {next : Worker}
      {event : Event Value} {sink : Option Value}
      (asks : event.operation = .withCurrentGeneration encoded.id sink)
      (step : Step pipeline event after) (rests : Rests next) :
      Advance ⟨pipeline, .encoded encoded⟩ (.gate event) ⟨after, next⟩

def Activity.event : Activity Value → Option (Event Value)
  | .call event => some event
  | .take event => some event
  | .gate event => some event
  | _ => none

def calls (history : List (Activity Value)) : List (Event Value) :=
  history.filterMap Activity.event

/-- The closure of a gate ran if the gate did not refuse, also when it unwound. -/
def sunkBy (event : Event Value) : List FrameId :=
  match event.operation, event.reply with
  | .withCurrentGeneration id _, .gated (.ok _) => [id]
  | .withCurrentGeneration id _, .gated .panicked => [id]
  | _, _ => []

def begunBy (event : Event Value) : List UInt64 :=
  match event.operation, event.reply with
  | .beginGeneration generation, .began (.ok _) => [generation]
  | _, _ => []

def sunkIds (history : List (Activity Value)) : List FrameId :=
  (calls history).flatMap sunkBy

end Model

section Runs
variable {Value : Type} {capacity : Nat} {initialGeneration : UInt64} {start : FramePipeline}
  {final : System} {history : List (Activity Value)}

theorem calls_snoc (history : List (Activity Value)) (action : Activity Value) :
    calls (history ++ [action]) = calls history ++ action.event.toList := by
  cases known : action.event <;> simp [calls, known]

theorem advance_projects {state after : System} {action : Activity Value}
    (advance : Advance state action after) :
    Projected Step state.pipeline after.pipeline action.event := by
  cases advance with
  | call _ step => exact step
  | starved _ step _ _ => exact step
  | took _ step _ => exact step
  | gate _ step _ => exact step
  | encode _ _ => rfl
  | abandon _ => rfl

theorem calls_run {origin : System} (run : Run Advance origin history final) :
    Run Step origin.pipeline (calls history) final.pipeline :=
  run_project System.pipeline Activity.event (fun _ _ _ => advance_projects) run

theorem run_positive {origin : System} (positive : 0 < (lockState origin.pipeline).capacity)
    (run : Run Advance origin history final) : 0 < (lockState final.pipeline).capacity := by
  rw [run_capacity positive (calls_run run)]
  exact positive

theorem sunk_current {state after : PipelineState} {operation : Operation Value}
    {reply : Reply Value} (moved : Transition state operation reply after) :
    ∀ id ∈ sunkBy ⟨state, operation, reply⟩, id.generation = state.generation := by
  cases moved with
  | ran id value current =>
      intro other member
      rw [List.mem_singleton.mp member]
      exact current
  | unwound id current =>
      intro other member
      rw [List.mem_singleton.mp member]
      exact current
  | _ => simp [sunkBy]

theorem sunk_accepts_nothing {event : Event Value} {id : FrameId} (sunk : id ∈ sunkBy event) :
    event.accepted = [] := by
  unfold sunkBy at sunk
  unfold Event.accepted
  split at sunk <;> simp_all

theorem begun_current {state after : PipelineState} {operation : Operation Value}
    {reply : Reply Value} (moved : Transition state operation reply after) :
    ∀ generation ∈ begunBy ⟨state, operation, reply⟩, after.generation = generation := by
  cases moved with
  | began generation newer =>
      intro other member
      exact (List.mem_singleton.mp member).symm
  | _ => simp [begunBy]

theorem outside_quiet {pipeline after : FramePipeline} {event : Event Value}
    (allowed : outside event.operation = true) (step : Step pipeline event after) :
    event.taken = [] ∧ sunkBy event = [] := by
  obtain ⟨before, operation, reply⟩ := event
  have same := congrArg Prod.snd step.2
  cases operation <;> simp only [outside, Bool.false_eq_true] at allowed <;>
    simp only [perform] at same <;> subst same <;> exact ⟨rfl, rfl⟩

theorem gate_quiet {pipeline after : FramePipeline} {event : Event Value} {id : FrameId}
    {sink : Option Value} (asks : event.operation = .withCurrentGeneration id sink)
    (step : Step pipeline event after) :
    event.taken = [] ∧ (sunkBy event = [] ∨ sunkBy event = [id]) := by
  obtain ⟨before, operation, reply⟩ := event
  subst asks
  have same := congrArg Prod.snd step.2
  simp only [perform] at same
  subst same
  refine ⟨rfl, ?_⟩
  unfold sunkBy
  split
  · rename_i asked _
    cases asked
    exact Or.inr rfl
  · rename_i asked _
    cases asked
    exact Or.inr rfl
  · exact Or.inl rfl

theorem held_rests {worker : Worker} (rests : Rests worker) : worker.held = [] := by
  rcases rests with rfl | rfl <;> rfl

theorem taken_ids_snoc (history : List (Event Value)) (event : Event Value) :
    takenIds (history ++ [event]) = takenIds history ++ event.taken.map Frame.id := by
  simp [takenIds]

/-- What reached the sink and what the worker holds are frames it took, in the
order it took them. -/
theorem held_taken {origin : System} (idle : origin.worker = .idle)
    (run : Run Advance origin history final) :
    (sunkIds history ++ final.worker.held).Sublist (takenIds (calls history)) := by
  refine run_invariant
    (fun history (state : System) =>
      (sunkIds history ++ state.worker.held).Sublist (takenIds (calls history))) ?_ ?_ run
  · rw [idle]
    exact List.Sublist.refl _
  · intro history state action after _ holds advance
    rw [sunkIds, calls_snoc, List.flatMap_append]
    change ((calls history).flatMap sunkBy ++ state.worker.held).Sublist _ at holds
    cases advance with
    | @call pipeline after worker event allowed step =>
        obtain ⟨untaken, unsunk⟩ := outside_quiet allowed step
        simpa [Activity.event, taken_ids_snoc, untaken, unsunk] using holds
    | @starved pipeline after next event asks step got rests =>
        have untaken : event.taken = [] := by simp [Event.taken, got]
        have unsunk : sunkBy event = [] := by simp [sunkBy, asks]
        simpa [Activity.event, taken_ids_snoc, untaken, unsunk, held_rests rests] using holds
    -- the frame enters the hand and the list of taken frames together
    | @took pipeline after event frame asks step got =>
        have taken : event.taken = [frame] := by simp [Event.taken, got]
        have unsunk : sunkBy event = [] := by simp [sunkBy, asks]
        simpa [Activity.event, taken_ids_snoc, taken, unsunk] using holds
    | encode quality bytes => simpa [Activity.event, compressed] using holds
    | @abandon pipeline frame next rests =>
        simpa [Activity.event, held_rests rests] using (List.sublist_append_left _ _).trans holds
    | @gate pipeline after encoded next event sink asks step rests =>
        obtain ⟨untaken, unsunk | sunk⟩ := gate_quiet asks step
        · simpa [Activity.event, taken_ids_snoc, untaken, unsunk, held_rests rests] using
            (List.sublist_append_left _ _).trans holds
        · simpa [Activity.event, taken_ids_snoc, untaken, sunk, held_rests rests] using holds

theorem taken_accepted (created : new capacity initialGeneration = .ok start)
    {events : List (Event Value)} {last : FramePipeline} (run : Run Step start events last) :
    (takenIds events).Sublist (acceptedIds events) := by
  rw [run_conserves created run, takenIds, List.map_flatMap]
  refine (List.Sublist.flatMap_right events ?_).trans (List.sublist_append_left _ _)
  intro event _
  rw [Event.departed, List.append_assoc]
  exact List.sublist_append_left _ _

theorem sunk_accepted (created : new capacity initialGeneration = .ok start)
    (run : Run Advance ⟨start, .idle⟩ history final) :
    (sunkIds history ++ final.worker.held).Sublist (acceptedIds (calls history)) :=
  (held_taken rfl run).trans (taken_accepted created (calls_run run))

theorem event_transition {before after : System} {action : Activity Value} {event : Event Value}
    (positive : 0 < (lockState before.pipeline).capacity) (advance : Advance before action after)
    (known : action.event = some event) :
    Transition event.before event.operation event.reply (lockState after.pipeline) ∧
      event.before = lockState before.pipeline := by
  have step : Step before.pipeline event after.pipeline := by
    simpa [known, Projected] using advance_projects advance
  have moved := step_transition positive step
  rw [← step.1] at moved
  exact ⟨moved, step.1⟩

/-- A generation that began bounds everything that is sunk later. -/
theorem begun_bounds_sunk {origin : System} (positive : 0 < (lockState origin.pipeline).capacity)
    (front middle back : List (Activity Value)) (action later : Activity Value)
    (opening event : Event Value) (opens : action.event = some opening)
    (sinks : later.event = some event) (generation : UInt64) (id : FrameId)
    (begun : generation ∈ begunBy opening) (sunk : id ∈ sunkBy event)
    (run : Run Advance origin (front ++ action :: (middle ++ later :: back)) final) :
    generation ≤ id.generation := by
  -- cut the run at the generation change and again at the later gate
  obtain ⟨before, after, lead, advance, rest⟩ := run_at front _ action run
  obtain ⟨before', after', lead', advance', _⟩ := run_at middle back later rest
  have beforePositive := run_positive positive lead
  obtain ⟨opened, _⟩ := event_transition beforePositive advance opens
  have afterPositive : 0 < (lockState after.pipeline).capacity :=
    run_positive beforePositive (.next .start advance)
  obtain ⟨moved, here⟩ := event_transition (run_positive afterPositive lead') advance' sinks
  have grows := generation_grows afterPositive (calls_run lead')
  rw [begun_current opened generation begun, ← here] at grows
  rw [sunk_current moved id sunk]
  exact grows

/-- In every interleaving the sink sees accepted frames only, each in its own
generation and at most once, in increasing order. -/
theorem sink_safety (created : new capacity initialGeneration = .ok start)
    (run : Run Advance ⟨start, .idle⟩ history final) :
    (∀ front action back event id, history = front ++ action :: back →
      action.event = some event → id ∈ sunkBy event →
      ∃ before after, Run Advance ⟨start, .idle⟩ front before ∧ Advance before action after ∧
        Run Advance after back final ∧
        id.generation = (lockState before.pipeline).generation ∧
        id ∈ acceptedIds (calls front)) ∧
    (∀ front action middle later back opening event generation id,
      history = front ++ action :: (middle ++ later :: back) →
      action.event = some opening → generation ∈ begunBy opening →
      later.event = some event → id ∈ sunkBy event → generation ≤ id.generation) ∧
    (sunkIds history).Pairwise FrameId.Precedes ∧ (sunkIds history).Nodup := by
  obtain ⟨capacityPositive, initial⟩ := new_state created
  have positive : 0 < (lockState start).capacity := by rw [initial]; exact capacityPositive
  have ordered : (sunkIds history).Pairwise FrameId.Precedes :=
    (run_ordered created (calls_run run)).1.sublist
      ((List.sublist_append_left _ _).trans (sunk_accepted created run))
  refine ⟨?_, ?_, ordered, ?_⟩
  · rintro front action back event id rfl known sunk
    obtain ⟨before, after, lead, advance, rest⟩ := run_at front back action run
    obtain ⟨moved, here⟩ := event_transition (run_positive positive lead) advance known
    refine ⟨before, after, lead, advance, rest, ?_, ?_⟩
    · rw [← here]
      exact sunk_current moved id sunk
    -- the gate itself accepts nothing, so the frame was accepted before it
    · have through := sunk_accepted created (Run.next lead advance)
      have member : id ∈ acceptedIds (calls (front ++ [action])) := by
        apply through.subset
        apply List.mem_append_left
        rw [sunkIds, calls_snoc, known, List.flatMap_append]
        exact List.mem_append_right _ (by simpa using sunk)
      rw [calls_snoc, known, Option.toList_some, accepted_ids_snoc, sunk_accepts_nothing sunk]
        at member
      simpa using member
  · rintro front action middle later back opening event generation id rfl opens begun sinks sunk
    exact begun_bounds_sunk positive front middle back action later opening event opens sinks
      generation id begun sunk run
  · refine ordered.imp ?_
    intro earlier later precedes same
    exact precedes_irrefl later (same ▸ precedes)

def eventAt (pipeline : FramePipeline) (operation : Operation Value) : Event Value :=
  ⟨lockState pipeline, operation, (perform pipeline operation).2⟩

theorem step_event_at (pipeline : FramePipeline) (operation : Operation Value) :
    Step pipeline (eventAt pipeline operation) (perform pipeline operation).1 :=
  ⟨rfl, rfl⟩

theorem called_run (pipeline : FramePipeline) (worker : Worker)
    (operations : List (Operation Value))
    (allowed : ∀ operation ∈ operations, outside operation = true) :
    Run Advance ⟨pipeline, worker⟩ ((record pipeline operations).1.map .call)
      ⟨(record pipeline operations).2, worker⟩ := by
  induction operations using List.reverseRecOn with
  | nil => exact .start
  | append_singleton operations operation ih =>
      have earlier := ih fun operation inside => allowed operation (List.mem_append_left _ inside)
      have last := allowed operation (by simp)
      unfold record at earlier ⊢
      rw [List.foldl_append, List.foldl_cons, List.foldl_nil, List.map_append]
      exact .next earlier (.call last ⟨rfl, rfl⟩)

/-- A frame on its way from a producer to the gate, with the calls of the
others while it is encoded. -/
def passage (pipeline : FramePipeline) (frame : Frame) (meanwhile : List (Operation Unit)) :
    List (Activity Unit) × FramePipeline :=
  let (submitted, queued) := record pipeline [.submit frame]
  let emptied := (perform queued (.tryTake : Operation Unit)).1
  let (others, ready) := record emptied meanwhile
  let gate := .withCurrentGeneration frame.id (some ())
  (submitted.map .call ++ [.take (eventAt queued .tryTake)] ++ others.map .call ++
    [.encode 90 [0xff, 0xd8]] ++ [.gate (eventAt ready gate)], (perform ready gate).1)

theorem passage_run (pipeline : FramePipeline) (frame : Frame)
    (meanwhile : List (Operation Unit))
    (got : (perform (record pipeline [(.submit frame : Operation Unit)]).2 .tryTake).2 =
      (.taken (some frame) : Reply Unit))
    (allowed : ∀ operation ∈ meanwhile, outside operation = true) :
    Run Advance ⟨pipeline, .idle⟩ (passage pipeline frame meanwhile).1
      ⟨(passage pipeline frame meanwhile).2, .idle⟩ := by
  have submitted := called_run pipeline .idle [(.submit frame : Operation Unit)] (by simp [outside])
  have took := Run.next submitted (.took rfl (step_event_at _ .tryTake) got)
  have others := run_append took (called_run _ (.holding frame) meanwhile allowed)
  have encoded := Run.next others (.encode 90 [0xff, 0xd8])
  exact .next encoded (.gate rfl (step_event_at _ (.withCurrentGeneration frame.id (some ())))
    (.inl rfl))

/-- Two frames reach the sink; between them one is taken, but the generation
changes before its gate. -/
theorem sink_safety_probe : ∃ (start : FramePipeline) (history : List (Activity Unit))
    (final : System), new 1 4 = .ok start ∧ Run Advance ⟨start, .idle⟩ history final ∧
      acceptedIds (calls history) = [⟨4, 12⟩, ⟨4, 13⟩, ⟨5, 0⟩] ∧
      (calls history).flatMap begunBy = [5] ∧
      sunkIds history = [⟨4, 12⟩, ⟨5, 0⟩] ∧ (sunkIds history).Pairwise FrameId.Precedes := by
  obtain ⟨start, created⟩ : ∃ start, new 1 4 = .ok start := ⟨_, rfl⟩
  let first := passage start (probe 4 12) []
  let second := passage first.2 (probe 4 13) [.beginGeneration 5]
  let third := passage second.2 (probe 5 0) []
  cases created
  have run : Run Advance _ (first.1 ++ second.1 ++ third.1) ⟨third.2, .idle⟩ :=
    run_append (run_append (passage_run _ _ _ rfl (by simp))
      (passage_run _ _ _ rfl (by simp [outside]))) (passage_run _ _ _ rfl (by simp))
  exact ⟨_, _, _, rfl, run, by rfl, by rfl, by rfl,
    (sink_safety (show new 1 4 = .ok _ from rfl) run).2.2.1⟩

end Runs

end Smiusb.SinkGate
