import Smiusb.PipelineHistory

/-!
Refused operations of the frame pipeline in rust/src/frame.rs leave nothing
behind that a later operation reads: a run can be repeated without them.
-/

namespace Smiusb.PipelineReplay
open Execution FrameQueue PipelineHistory Transitions

/-- Two pipelines that differ at most in their counters of rejections. -/
structure Alike (one other : FramePipeline) : Prop where
  generation : (lockState other).generation = (lockState one).generation
  capacity : (lockState other).capacity = (lockState one).capacity
  lastSequence : (lockState other).lastSequence = (lockState one).lastSequence
  frames : (lockState other).frames = (lockState one).frames
  accepted : (lockState other).stats.accepted = (lockState one).stats.accepted
  dequeued : (lockState other).stats.dequeued = (lockState one).stats.dequeued
  droppedCapacity : (lockState other).stats.droppedCapacity = (lockState one).stats.droppedCapacity
  discardedGeneration :
    (lockState other).stats.discardedGeneration = (lockState one).stats.discardedGeneration
  poisoned : other.state.poisoned = one.state.poisoned

section Operations
variable {Value : Type} {one other : FramePipeline}

/-- The operation was refused, found nothing or only looked. -/
def refused : Operation Value × Reply Value → Bool
  | (_, .submitted (.rejectedGeneration _ _)) => true
  | (_, .submitted (.rejectedSequence _ _)) => true
  | (_, .taken none) => true
  | (_, .gated (.err _)) => true
  | (_, .began (.error _)) => true
  | (_, .observed _) => true
  | _ => false

theorem alike_refl (pipeline : FramePipeline) : Alike pipeline pipeline :=
  ⟨rfl, rfl, rfl, rfl, rfl, rfl, rfl, rfl, rfl⟩

@[simp] theorem release_poisoned (pipeline : FramePipeline) (state : PipelineState) :
    (release pipeline state).state.poisoned = pipeline.state.poisoned := rfl

@[simp] theorem unwind_poisoned (state : PipelineState) :
    (unwind state).state.poisoned = true := rfl

/-- Publishing a state that differs in its counters of rejections. -/
theorem release_unseen (alike : Alike one other) (stats : PipelineStats)
    (accepted : stats.accepted = (lockState one).stats.accepted)
    (dequeued : stats.dequeued = (lockState one).stats.dequeued)
    (dropped : stats.droppedCapacity = (lockState one).stats.droppedCapacity)
    (discarded : stats.discardedGeneration = (lockState one).stats.discardedGeneration) :
    Alike (release one { lockState one with stats }) other := by
  constructor
  all_goals simp only [lock_state_release, release_poisoned, accepted, dequeued, dropped, discarded]
  · exact alike.generation
  · exact alike.capacity
  · exact alike.lastSequence
  · exact alike.frames
  · exact alike.accepted
  · exact alike.dequeued
  · exact alike.droppedCapacity
  · exact alike.discardedGeneration
  · exact alike.poisoned

theorem refused_unseen (operation : Operation Value) (alike : Alike one other)
    (silent : refused (operation, (perform one operation).2) = true) :
    Alike (perform one operation).1 other := by
  cases operation with
  | submit frame =>
      simp only [perform, submit] at silent ⊢
      split
      · exact release_unseen alike _ rfl rfl rfl rfl
      · rename_i current
        rw [if_neg current] at silent
        split
        · exact release_unseen alike _ rfl rfl rfl rfl
        · rename_i fresh
          rw [fresh] at silent
          dsimp only at silent
          split at silent <;> simp [refused] at silent
  | tryTake =>
      simp only [perform, tryTake] at silent ⊢
      split
      · exact release_unseen alike _ rfl rfl rfl rfl
      · rename_i shape
        simp [shape, refused] at silent
  | withCurrentGeneration id closure =>
      simp only [perform, withCurrentGeneration] at silent ⊢
      split
      · exact release_unseen alike _ rfl rfl rfl rfl
      · rename_i current
        rw [if_neg current] at silent
        cases closure <;> simp [refused] at silent
  | beginGeneration generation =>
      simp only [perform, beginGeneration] at silent ⊢
      split
      · exact release_unseen alike _ rfl rfl rfl rfl
      · rename_i newer
        simp [newer, refused] at silent
  | snapshot => exact alike

/-- The other operations read only what alike pipelines share. -/
theorem acting_seen (operation : Operation Value) (alike : Alike one other)
    (acts : refused (operation, (perform one operation).2) = false) :
    (perform other operation).2 = (perform one operation).2 ∧
      Alike (perform one operation).1 (perform other operation).1 := by
  obtain ⟨generation, capacity, last, frames, accepted, dequeued, dropped, discarded, poisoned⟩ :=
    alike
  cases operation with
  | submit frame =>
      simp only [perform, submit, generation, capacity, last, frames] at acts ⊢
      split
      · rename_i foreign
        simp [foreign, refused] at acts
      · rename_i current
        rw [if_neg current] at acts
        split
        · rename_i stale
          simp [stale, refused] at acts
        · refine ⟨rfl, ?_⟩
          by_cases full : (lockState one).frames.length = (lockState one).capacity
          · constructor <;> simp [*]
          · constructor <;> simp [*]
  | tryTake =>
      simp only [perform, tryTake, frames] at acts ⊢
      split
      · rename_i empty
        simp [empty, refused] at acts
      · refine ⟨rfl, ?_⟩
        constructor <;> simp [*]
  | withCurrentGeneration id closure =>
      simp only [perform, withCurrentGeneration, generation] at acts ⊢
      split
      · rename_i foreign
        simp [foreign, refused] at acts
      · cases closure with
        | some value =>
            refine ⟨rfl, ?_⟩
            constructor <;> simp [*]
        | none =>
            refine ⟨rfl, ?_⟩
            constructor <;> simp [*]
  | beginGeneration number =>
      simp only [perform, beginGeneration, generation, frames] at acts ⊢
      split
      · rename_i old
        simp [old, refused] at acts
      · refine ⟨rfl, ?_⟩
        constructor <;> simp [*]
  | snapshot => simp [perform, refused] at acts

end Operations

/-- From any pipeline on, a fresh one included: without the operations that
were refused or did nothing, the others are answered as before, and only the
three counters of rejections can tell the two runs apart. -/
theorem refused_operations_invisible {Value : Type} (start : FramePipeline)
    (operations : List (Operation Value)) :
    let kept := (replies perform start operations).filter fun entry => !refused entry
    replies perform start (kept.map Prod.fst) = kept ∧
      Alike (finish perform start operations) (finish perform start (kept.map Prod.fst)) :=
  replay_without perform Alike refused
    (fun _ _ operation alike silent => refused_unseen operation alike silent)
    (fun _ _ operation alike acts => acting_seen operation alike acts)
    operations start start (alike_refl start)

-- A stale generation, a stale sequence, an idle take and a look are left out.
example : (new 1 7).toOption.map (fun start =>
    ((replies perform start ([.tryTake, .submit (probe 6 0), .submit (probe 7 1), .snapshot,
      .submit (probe 7 1), .withCurrentGeneration ⟨7, 1⟩ (some ()), .tryTake] :
        List (Operation Unit))).filter fun entry => !refused entry).map Prod.fst) =
    some [.submit (probe 7 1), .withCurrentGeneration ⟨7, 1⟩ (some ()), .tryTake] := by decide

end Smiusb.PipelineReplay
