import Mathlib.Algebra.Ring.Nat
import Mathlib.Data.List.Basic
import Smiusb.Execution

/-!
The capture-to-encoder queue of rust/src/frame.rs. Every public method holds
the mutex from its first to its last line, so each is one function on the
locked state. Frames are kept whole; the queue itself reads only their ids.
-/

namespace Smiusb.FrameQueue
open Execution

structure FrameId where
  generation : UInt64
  sequence : UInt64
  deriving DecidableEq, Repr

/-- Generations first, sequences within one generation. -/
def FrameId.Precedes (earlier later : FrameId) : Prop :=
  earlier.generation < later.generation ∨
    (earlier.generation = later.generation ∧ earlier.sequence < later.sequence)

structure FrameLayout where
  width : UInt32
  height : UInt32
  stride : Nat
  byteLen : Nat
  deriving DecidableEq, Repr

structure Frame where
  id : FrameId
  layout : FrameLayout
  pixels : List UInt8
  deriving DecidableEq, Repr

/-- The `u64` counters; they only grow, through `saturatingAdd`. -/
structure PipelineStats where
  accepted : Nat := 0
  dequeued : Nat := 0
  droppedCapacity : Nat := 0
  discardedGeneration : Nat := 0
  rejectedGeneration : Nat := 0
  rejectedSequence : Nat := 0
  rejectedSinkGeneration : Nat := 0
  deriving DecidableEq, Repr

structure PipelineSnapshot where
  generation : UInt64
  queued : Nat
  capacity : Nat
  stats : PipelineStats
  deriving DecidableEq, Repr

inductive SubmitOutcome where
  | queued
  | droppedOldest (id : FrameId)
  | rejectedGeneration (active received : UInt64)
  | rejectedSequence (last received : UInt64)
  deriving DecidableEq, Repr

inductive PipelineError where
  | zeroCapacity
  | generationNotIncreasing (active requested : UInt64)
  deriving DecidableEq, Repr

structure GenerationMismatch where
  active : UInt64
  received : UInt64
  deriving DecidableEq, Repr

structure PipelineState where
  generation : UInt64
  capacity : Nat
  lastSequence : Option UInt64
  frames : List Frame
  stats : PipelineStats
  deriving DecidableEq, Repr

/-- A thread that unwinds while it holds the guard poisons the mutex. -/
structure Mutex (State : Type) where
  value : State
  poisoned : Bool
  deriving DecidableEq, Repr

/-- Both results carry the guard. -/
def Mutex.lock {State : Type} (mutex : Mutex State) : Except State State :=
  if mutex.poisoned then .error mutex.value else .ok mutex.value

structure FramePipeline where
  state : Mutex PipelineState
  deriving DecidableEq, Repr

def u64Max : Nat := 2 ^ 64 - 1

def saturatingAdd (counter amount : Nat) : Nat := min (counter + amount) u64Max

def new (capacity : Nat) (initialGeneration : UInt64) : Except PipelineError FramePipeline :=
  if capacity = 0 then .error .zeroCapacity
  else .ok
    { state :=
        { value :=
            { generation := initialGeneration
              capacity
              lastSequence := none
              frames := []
              stats := {} }
          poisoned := false } }

def lockState (pipeline : FramePipeline) : PipelineState :=
  match pipeline.state.lock with
  | .ok guard => guard
  | .error poisoned => poisoned

/-- Releasing the guard publishes the state; it does not heal a poisoned mutex. -/
def release (pipeline : FramePipeline) (state : PipelineState) : FramePipeline :=
  { state := { pipeline.state with value := state } }

def unwind (state : PipelineState) : FramePipeline :=
  { state := { value := state, poisoned := true } }

def submit (pipeline : FramePipeline) (frame : Frame) : FramePipeline × SubmitOutcome :=
  let state := lockState pipeline
  let id := frame.id
  if id.generation ≠ state.generation then
    (release pipeline { state with
      stats := { state.stats with
        rejectedGeneration := saturatingAdd state.stats.rejectedGeneration 1 } },
      .rejectedGeneration state.generation id.generation)
  else
    match state.lastSequence.filter fun last => decide (id.sequence ≤ last) with
    | some last =>
        (release pipeline { state with
          stats := { state.stats with
            rejectedSequence := saturatingAdd state.stats.rejectedSequence 1 } },
          .rejectedSequence last id.sequence)
    | none =>
        -- a full queue loses its front before the new frame is pushed
        let full := state.frames.length = state.capacity
        let stats :=
          if full then
            { state.stats with droppedCapacity := saturatingAdd state.stats.droppedCapacity 1 }
          else state.stats
        let dropped := if full then state.frames.head?.map Frame.id else none
        let kept := if full then state.frames.tail else state.frames
        (release pipeline { state with
          lastSequence := some id.sequence
          stats := { stats with accepted := saturatingAdd stats.accepted 1 }
          frames := kept ++ [frame] },
          match dropped with
          | none => .queued
          | some oldest => .droppedOldest oldest)

def tryTake (pipeline : FramePipeline) : FramePipeline × Option Frame :=
  let state := lockState pipeline
  match state.frames with
  | [] => (release pipeline state, none)
  | frame :: rest =>
      (release pipeline { state with
        frames := rest
        stats := { state.stats with dequeued := saturatingAdd state.stats.dequeued 1 } },
        some frame)

/-- The closure gives a value or unwinds (`none`); it runs under the lock. -/
def withCurrentGeneration {Value : Type} (pipeline : FramePipeline) (id : FrameId)
    (submit : Option Value) : FramePipeline × Outcome GenerationMismatch Value :=
  let state := lockState pipeline
  if id.generation ≠ state.generation then
    (release pipeline { state with
      stats := { state.stats with
        rejectedSinkGeneration := saturatingAdd state.stats.rejectedSinkGeneration 1 } },
      .err ⟨state.generation, id.generation⟩)
  else
    match submit with
    | some value => (release pipeline state, .ok value)
    -- the guard is dropped while the thread unwinds
    | none => (unwind state, .panicked)

def beginGeneration (pipeline : FramePipeline) (generation : UInt64) :
    FramePipeline × Except PipelineError Nat :=
  let state := lockState pipeline
  if generation ≤ state.generation then
    (release pipeline state, .error (.generationNotIncreasing state.generation generation))
  else
    let discarded := state.frames.length
    (release pipeline { state with
      stats := { state.stats with
        discardedGeneration := saturatingAdd state.stats.discardedGeneration discarded }
      frames := []
      generation
      lastSequence := none },
      .ok discarded)

def snapshot (pipeline : FramePipeline) : PipelineSnapshot :=
  let state := lockState pipeline
  { generation := state.generation
    queued := state.frames.length
    capacity := state.capacity
    stats := state.stats }

inductive Operation (Value : Type) where
  | submit (frame : Frame)
  | tryTake
  | withCurrentGeneration (id : FrameId) (submit : Option Value)
  | beginGeneration (generation : UInt64)
  | snapshot
  deriving DecidableEq, Repr

inductive Reply (Value : Type) where
  | submitted (outcome : SubmitOutcome)
  | taken (frame : Option Frame)
  | gated (result : Outcome GenerationMismatch Value)
  | began (result : Except PipelineError Nat)
  | observed (snapshot : PipelineSnapshot)

section Calls
variable {Value : Type}

def perform (pipeline : FramePipeline) : Operation Value → FramePipeline × Reply Value
  | .submit frame =>
      let (after, outcome) := submit pipeline frame
      (after, .submitted outcome)
  | .tryTake =>
      let (after, frame) := tryTake pipeline
      (after, .taken frame)
  | .withCurrentGeneration id closure =>
      let (after, result) := withCurrentGeneration pipeline id closure
      (after, .gated result)
  | .beginGeneration generation =>
      let (after, result) := beginGeneration pipeline generation
      (after, .began result)
  | .snapshot => (pipeline, .observed (snapshot pipeline))

theorem lock_state_eq (pipeline : FramePipeline) : lockState pipeline = pipeline.state.value := by
  unfold lockState Mutex.lock
  cases pipeline.state.poisoned <;> rfl

@[simp] theorem lock_state_release (pipeline : FramePipeline) (state : PipelineState) :
    lockState (release pipeline state) = state := by
  simp [lock_state_eq, release]

@[simp] theorem lock_state_unwind (state : PipelineState) : lockState (unwind state) = state := by
  simp [lock_state_eq, unwind]

/-- Everything an operation can do to a state with a positive capacity. -/
inductive Transition (state : PipelineState) :
    Operation Value → Reply Value → PipelineState → Prop where
  | rejectedGeneration (frame : Frame) (foreign : frame.id.generation ≠ state.generation) :
      Transition state (.submit frame)
        (.submitted (.rejectedGeneration state.generation frame.id.generation))
        { state with
          stats := { state.stats with
            rejectedGeneration := saturatingAdd state.stats.rejectedGeneration 1 } }
  | rejectedSequence (frame : Frame) (last : UInt64)
      (current : frame.id.generation = state.generation) (known : state.lastSequence = some last)
      (stale : frame.id.sequence ≤ last) :
      Transition state (.submit frame) (.submitted (.rejectedSequence last frame.id.sequence))
        { state with
          stats := { state.stats with
            rejectedSequence := saturatingAdd state.stats.rejectedSequence 1 } }
  | queued (frame : Frame) (current : frame.id.generation = state.generation)
      (fresh : ∀ last, state.lastSequence = some last → last < frame.id.sequence)
      (room : state.frames.length ≠ state.capacity) :
      Transition state (.submit frame) (.submitted .queued)
        { state with
          lastSequence := some frame.id.sequence
          stats := { state.stats with accepted := saturatingAdd state.stats.accepted 1 }
          frames := state.frames ++ [frame] }
  | droppedOldest (frame oldest : Frame) (rest : List Frame)
      (current : frame.id.generation = state.generation)
      (fresh : ∀ last, state.lastSequence = some last → last < frame.id.sequence)
      (full : state.frames.length = state.capacity) (shape : state.frames = oldest :: rest) :
      Transition state (.submit frame) (.submitted (.droppedOldest oldest.id))
        { state with
          lastSequence := some frame.id.sequence
          stats := { state.stats with
            droppedCapacity := saturatingAdd state.stats.droppedCapacity 1
            accepted := saturatingAdd state.stats.accepted 1 }
          frames := rest ++ [frame] }
  | idle (empty : state.frames = []) : Transition state .tryTake (.taken none) state
  | took (frame : Frame) (rest : List Frame) (shape : state.frames = frame :: rest) :
      Transition state .tryTake (.taken (some frame))
        { state with
          frames := rest
          stats := { state.stats with dequeued := saturatingAdd state.stats.dequeued 1 } }
  | mismatch (id : FrameId) (closure : Option Value) (foreign : id.generation ≠ state.generation) :
      Transition state (.withCurrentGeneration id closure)
        (.gated (.err ⟨state.generation, id.generation⟩))
        { state with
          stats := { state.stats with
            rejectedSinkGeneration := saturatingAdd state.stats.rejectedSinkGeneration 1 } }
  | ran (id : FrameId) (value : Value) (current : id.generation = state.generation) :
      Transition state (.withCurrentGeneration id (some value)) (.gated (.ok value)) state
  | unwound (id : FrameId) (current : id.generation = state.generation) :
      Transition state (.withCurrentGeneration id none) (.gated .panicked) state
  | refused (generation : UInt64) (old : generation ≤ state.generation) :
      Transition state (.beginGeneration generation)
        (.began (.error (.generationNotIncreasing state.generation generation))) state
  | began (generation : UInt64) (newer : state.generation < generation) :
      Transition state (.beginGeneration generation) (.began (.ok state.frames.length))
        { state with
          stats := { state.stats with
            discardedGeneration :=
              saturatingAdd state.stats.discardedGeneration state.frames.length }
          frames := []
          generation
          lastSequence := none }
  | observed :
      Transition state .snapshot
        (.observed ⟨state.generation, state.frames.length, state.capacity, state.stats⟩) state

theorem fresh_of_filter (lastSequence : Option UInt64) (sequence : UInt64)
    (none_stale : (lastSequence.filter fun last => decide (sequence ≤ last)) = none) :
    ∀ last, lastSequence = some last → last < sequence := by
  intro last known
  subst known
  have later : ¬ sequence ≤ last := by simpa [Option.filter_eq_none_iff] using none_stale
  exact UInt64.not_le.mp later

theorem submit_transition (pipeline : FramePipeline) (frame : Frame)
    (positive : 0 < (lockState pipeline).capacity) :
    Transition (lockState pipeline) (.submit frame : Operation Value)
      (.submitted (submit pipeline frame).2) (lockState (submit pipeline frame).1) := by
  generalize locked : lockState pipeline = state at positive
  unfold submit
  simp only [locked]
  by_cases foreign : frame.id.generation = state.generation
  swap
  · simpa [foreign] using Transition.rejectedGeneration frame foreign
  rw [if_neg (by simpa using foreign)]
  cases stale : state.lastSequence.filter fun last => decide (frame.id.sequence ≤ last) with
  | some last =>
      obtain ⟨known, late⟩ := Option.filter_eq_some_iff.mp stale
      simpa using Transition.rejectedSequence frame last foreign known (by simpa using late)
  | none =>
      have fresh := fresh_of_filter _ _ stale
      by_cases full : state.frames.length = state.capacity
      · cases shape : state.frames with
        | nil => simp [shape] at full; omega
        | cons oldest rest =>
            rw [shape] at full
            simpa [shape, full] using
              Transition.droppedOldest frame oldest rest foreign fresh (by rw [shape, full]) shape
      · simpa [full] using Transition.queued frame foreign fresh full

theorem perform_transition (pipeline : FramePipeline) (operation : Operation Value)
    (positive : 0 < (lockState pipeline).capacity) :
    Transition (lockState pipeline) operation (perform pipeline operation).2
      (lockState (perform pipeline operation).1) := by
  cases operation with
  | submit frame => exact submit_transition pipeline frame positive
  | tryTake =>
      simp only [perform, tryTake]
      cases shape : (lockState pipeline).frames with
      | nil => simpa using Transition.idle shape
      | cons frame rest => simpa using Transition.took frame rest shape
  | withCurrentGeneration id closure =>
      simp only [perform, withCurrentGeneration]
      by_cases current : id.generation = (lockState pipeline).generation
      · rw [if_neg (by simpa using current)]
        cases closure with
        | some value => simpa using Transition.ran id value current
        | none => simpa using Transition.unwound id current
      · rw [if_pos current]
        simpa using Transition.mismatch id closure current
  | beginGeneration generation =>
      simp only [perform, beginGeneration]
      by_cases old : generation ≤ (lockState pipeline).generation
      · rw [if_pos old]
        simpa using Transition.refused generation old
      · rw [if_neg old]
        simpa using Transition.began generation (UInt64.not_le.mp old)
  | snapshot => exact Transition.observed

end Calls

end Smiusb.FrameQueue
