import Mathlib.Algebra.BigOperators.Group.List.Basic
import Mathlib.Algebra.Group.Prod
import Mathlib.Algebra.Group.Int.Defs
import Mathlib.Tactic.Abel
import Smiusb.Transitions

/-!
The persistent mapping of a GEM object after
kernel/evdi/patches/0001-serialize-persistent-vmap.patch. A critical section of
`vmap_lock` is one step. The kernel and the EVDI helpers that the patch calls
but does not show are a parameter with the behaviour assumed of them; between
two steps the rest of the kernel may do anything to the counters.
-/

namespace Smiusb.PersistentVmap
open Transitions

/-- Kernel addresses, with zero for NULL. -/
abbrev Address := Nat

def enomem : Int := 12

def efault : Int := 14

structure IosysMap where
  vaddr : Address
  isIomem : Bool
  deriving DecidableEq, Repr

/-- The calls made inside the critical sections. `counters` reads
`vmapping_counter` of the dma-buf and `pages_pin_count` of the object. -/
structure Kernel (World : Type) where
  counters : World → Int × Int
  /-- Kernels from 5.11 on fill a map and return an error code. -/
  mapsByStruct : Bool
  dmaBufVmap : World → Int × IosysMap × World
  dmaBufVmapPointer : World → Address × World
  dmaBufVunmap : World → World
  evdiPinPages : World → Int × World
  evdiUnpinPages : World → World
  vmap : World → Address × World
  vunmap : World → World
  dmaBufVmap_success : ∀ world, (dmaBufVmap world).1 = 0 →
    (dmaBufVmap world).2.1.vaddr ≠ 0 ∧
      counters (dmaBufVmap world).2.2 = counters world + (1, 0)
  dmaBufVmap_failure : ∀ world, (dmaBufVmap world).1 ≠ 0 →
    counters (dmaBufVmap world).2.2 = counters world
  dmaBufVmapPointer_success : ∀ world, (dmaBufVmapPointer world).1 ≠ 0 →
    counters (dmaBufVmapPointer world).2 = counters world + (1, 0)
  dmaBufVmapPointer_failure : ∀ world, (dmaBufVmapPointer world).1 = 0 →
    counters (dmaBufVmapPointer world).2 = counters world
  dmaBufVunmap_releases : ∀ world, counters (dmaBufVunmap world) = counters world - (1, 0)
  evdiPinPages_success : ∀ world, (evdiPinPages world).1 = 0 →
    counters (evdiPinPages world).2 = counters world + (0, 1)
  evdiPinPages_failure : ∀ world, (evdiPinPages world).1 ≠ 0 →
    counters (evdiPinPages world).2 = counters world
  evdiUnpinPages_releases : ∀ world, counters (evdiUnpinPages world) = counters world - (0, 1)
  vmap_counters : ∀ world, counters (vmap world).2 = counters world
  vunmap_counters : ∀ world, counters (vunmap world) = counters world

/-- `import_attach` never changes while the object lives. -/
structure GemObject where
  importAttach : Bool
  vmapping : Address
  vmapIsIomem : Bool
  deriving DecidableEq, Repr

structure State (World : Type) where
  object : GemObject
  world : World
  freed : Bool

section Model
variable {World : Type} (kernel : Kernel World)

def evdiGemVmap (state : State World) : Int × State World :=
  let object := state.object
  if object.vmapping ≠ 0 then (0, state)
  else if object.importAttach then
    if kernel.mapsByStruct then
      let (ret, map, world) := kernel.dmaBufVmap state.world
      -- the error of dma_buf_vmap is not passed on
      if ret ≠ 0 then (-enomem, { state with world })
      else (ret, { state with
        world
        object := { object with vmapping := map.vaddr, vmapIsIomem := map.isIomem } })
    else
      let (vmapping, world) := kernel.dmaBufVmapPointer state.world
      (if vmapping = 0 then -enomem else 0,
        { state with world, object := { object with vmapping } })
  else
    let (ret, world) := kernel.evdiPinPages state.world
    if ret ≠ 0 then (ret, { state with world })
    else
      let (vmapping, world) := kernel.vmap world
      -- pages pinned for a mapping that failed are unpinned again
      if vmapping = 0 then
        (-enomem, { state with
          world := kernel.evdiUnpinPages world
          object := { object with vmapping } })
      else (ret, { state with world, object := { object with vmapping } })

def evdiGemVunmap (state : State World) : State World :=
  let object := state.object
  if object.vmapping = 0 then state
  else if object.importAttach then
    { state with
      world := kernel.dmaBufVunmap state.world
      object := { object with vmapping := 0 } }
  else
    { state with
      world := kernel.evdiUnpinPages (kernel.vunmap state.world)
      object := { object with vmapping := 0 } }

/-- What follows the unmap in `evdi_gem_free_object` touches neither counter. -/
def evdiGemFreeObject (state : State World) : State World :=
  { evdiGemVunmap kernel state with freed := true }

/-- The two users of the mapping, in any number of threads. -/
inductive Caller where
  | grabpix (thread : Nat)
  | cursor (thread : Nat)
  deriving DecidableEq, Repr

/-- The error `evdi_painter_grabpix_ioctl` stops with. -/
def grabpixError (ret : Int) : Option Int :=
  if ret ≠ 0 then some (-efault) else none

inductive Action where
  | vmap (caller : Caller) (ret : Int)
  | vunmap
  | free
  | others
  deriving DecidableEq, Repr

structure Event (World : Type) where
  action : Action
  before : State World
  after : State World

/-- One step: the action taken and the state it leaves. -/
inductive Advance (state : State World) : Event World → State World → Prop where
  | vmap (caller : Caller) (live : state.freed = false) :
      Advance state
        ⟨.vmap caller (evdiGemVmap kernel state).1, state, (evdiGemVmap kernel state).2⟩
        (evdiGemVmap kernel state).2
  | vunmap (live : state.freed = false) :
      Advance state ⟨.vunmap, state, evdiGemVunmap kernel state⟩ (evdiGemVunmap kernel state)
  | free (live : state.freed = false) :
      Advance state ⟨.free, state, evdiGemFreeObject kernel state⟩
        (evdiGemFreeObject kernel state)
  | others (world : World) :
      Advance state ⟨.others, state, { state with world }⟩ { state with world }

def shift (event : Event World) : Int × Int :=
  kernel.counters event.after.world - kernel.counters event.before.world

/-- What EVDI's own steps added to the two counters. -/
def contribution (history : List (Event World)) : Int × Int :=
  ((history.filter fun event => event.action ≠ .others).map (shift kernel)).sum

def othersContribution (history : List (Event World)) : Int × Int :=
  ((history.filter fun event => event.action = .others).map (shift kernel)).sum

end Model

/-- One reference for a mapping, of the kind the object maps with. -/
def owed (object : GemObject) : Int × Int :=
  if object.vmapping = 0 then 0 else if object.importAttach then (1, 0) else (0, 1)

section Balance
variable {World : Type} (kernel : Kernel World)

/-- What a critical section must do: pay for the change of the mapping and
keep the object what it is. -/
structure Balanced (before after : State World) : Prop where
  paid : kernel.counters after.world - kernel.counters before.world =
    owed after.object - owed before.object
  kind : after.object.importAttach = before.object.importAttach

theorem evdi_gem_vmap_spec (state : State World) :
    Balanced kernel state (evdiGemVmap kernel state).2 ∧
      ((evdiGemVmap kernel state).1 = 0 ↔
        (evdiGemVmap kernel state).2.object.vmapping ≠ 0) ∧
      (evdiGemVmap kernel state).2.freed = state.freed := by
  have failure : -enomem ≠ 0 := by decide
  unfold evdiGemVmap
  by_cases null : state.object.vmapping = 0
  swap
  · refine ⟨⟨?_, ?_⟩, ?_, ?_⟩ <;> simp [null]
  cases imported : state.object.importAttach with
  | true =>
      cases struct : kernel.mapsByStruct with
      | true =>
          by_cases success : (kernel.dmaBufVmap state.world).1 = 0
          · obtain ⟨valid, counted⟩ := kernel.dmaBufVmap_success state.world success
            refine ⟨⟨?_, ?_⟩, ?_, ?_⟩ <;>
              simp [null, imported, success, counted, owed, valid]
          · have counted := kernel.dmaBufVmap_failure state.world success
            refine ⟨⟨?_, ?_⟩, ?_, ?_⟩ <;>
              simp [null, imported, success, counted, failure]
      | false =>
          by_cases failed : (kernel.dmaBufVmapPointer state.world).1 = 0
          · have counted := kernel.dmaBufVmapPointer_failure state.world failed
            refine ⟨⟨?_, ?_⟩, ?_, ?_⟩ <;>
              simp [null, imported, failed, counted, owed, failure]
          · have counted := kernel.dmaBufVmapPointer_success state.world failed
            refine ⟨⟨?_, ?_⟩, ?_, ?_⟩ <;>
              simp [null, imported, failed, counted, owed]
  | false =>
      by_cases pinned : (kernel.evdiPinPages state.world).1 = 0
      swap
      · have counted := kernel.evdiPinPages_failure state.world pinned
        refine ⟨⟨?_, ?_⟩, ?_, ?_⟩ <;>
          simp [null, imported, pinned, counted]
      have counted := kernel.evdiPinPages_success state.world pinned
      by_cases failed : (kernel.vmap (kernel.evdiPinPages state.world).2).1 = 0
      -- the pin of a failed mapping is given back
      · refine ⟨⟨?_, ?_⟩, ?_, ?_⟩ <;>
          simp [null, imported, pinned, failed, counted, owed, kernel.vmap_counters,
            kernel.evdiUnpinPages_releases, failure]
      · refine ⟨⟨?_, ?_⟩, ?_, ?_⟩ <;>
          simp [null, imported, pinned, failed, counted, owed, kernel.vmap_counters]

theorem evdi_gem_vunmap_spec (state : State World) :
    Balanced kernel state (evdiGemVunmap kernel state) ∧
      (evdiGemVunmap kernel state).object.vmapping = 0 := by
  unfold evdiGemVunmap
  by_cases null : state.object.vmapping = 0
  · refine ⟨⟨?_, ?_⟩, ?_⟩ <;> simp [null]
  cases imported : state.object.importAttach with
  | true =>
      refine ⟨⟨?_, ?_⟩, ?_⟩ <;>
        simp [null, imported, owed, kernel.dmaBufVunmap_releases]
  | false =>
      refine ⟨⟨?_, ?_⟩, ?_⟩ <;>
        simp [null, imported, owed, kernel.vunmap_counters, kernel.evdiUnpinPages_releases]

end Balance

section Runs
variable {World : Type} (kernel : Kernel World) {start final : State World}
  {history : List (Event World)}

theorem contribution_own (history : List (Event World)) (event : Event World)
    (own : event.action ≠ .others) :
    contribution kernel (history ++ [event]) = contribution kernel history + shift kernel event ∧
      othersContribution kernel (history ++ [event]) = othersContribution kernel history := by
  simp [contribution, othersContribution, own]

theorem contribution_others (history : List (Event World)) (event : Event World)
    (foreign : event.action = .others) :
    contribution kernel (history ++ [event]) = contribution kernel history ∧
      othersContribution kernel (history ++ [event]) =
        othersContribution kernel history + shift kernel event := by
  simp [contribution, othersContribution, foreign]

/-- EVDI has put in exactly what the object shows, and the counters are what
EVDI and the others put in. -/
structure Accounted (imported : Bool) (world : World) (history : List (Event World))
    (state : State World) : Prop where
  kind : state.object.importAttach = imported
  paid : contribution kernel history = owed state.object
  total : kernel.counters state.world =
    kernel.counters world + contribution kernel history + othersContribution kernel history
  cleared : state.freed = true → state.object.vmapping = 0

theorem balanced_accounted {imported : Bool} {world : World} {state after : State World}
    {event : Event World} (accounted : Accounted kernel imported world history state)
    (balanced : Balanced kernel state after) (own : event.action ≠ .others)
    (before : event.before = state) (behind : event.after = after)
    (cleared : after.freed = true → after.object.vmapping = 0) :
    Accounted kernel imported world (history ++ [event]) after := by
  obtain ⟨grows, others⟩ := contribution_own kernel history event own
  rw [shift, before, behind] at grows
  refine ⟨balanced.kind.trans accounted.kind, ?_, ?_, cleared⟩
  · rw [grows, balanced.paid, accounted.paid]
    abel
  · rw [grows, others, accounted.total]
    abel

theorem advance_accounted {imported : Bool} {world : World} {state after : State World}
    {event : Event World} (accounted : Accounted kernel imported world history state)
    (advance : Advance kernel state event after) :
    Accounted kernel imported world (history ++ [event]) after := by
  cases advance with
  | vmap caller live =>
      obtain ⟨balanced, _, same⟩ := evdi_gem_vmap_spec kernel state
      refine balanced_accounted kernel accounted balanced (by simp) rfl rfl ?_
      intro freed
      rw [same, live] at freed
      cases freed
  | vunmap live =>
      obtain ⟨balanced, null⟩ := evdi_gem_vunmap_spec kernel state
      exact balanced_accounted kernel accounted balanced (by simp) rfl rfl fun _ => null
  | free live =>
      obtain ⟨balanced, null⟩ := evdi_gem_vunmap_spec kernel state
      have unmapped : Balanced kernel state (evdiGemFreeObject kernel state) :=
        ⟨balanced.paid, balanced.kind⟩
      exact balanced_accounted kernel accounted unmapped (by simp) rfl rfl fun _ => null
  | others elsewhere =>
      obtain ⟨same, grows⟩ := contribution_others kernel history
        ⟨.others, state, { state with world := elsewhere }⟩ rfl
      refine ⟨accounted.kind, same.trans accounted.paid, ?_, accounted.cleared⟩
      rw [same, grows, shift, accounted.total]
      abel

theorem run_accounted (imported : Bool) (world : World)
    (run : Run (Advance kernel) ⟨⟨imported, 0, false⟩, world, false⟩ history final) :
    Accounted kernel imported world history final := by
  refine run_invariant (Accounted kernel imported world) ?_ ?_ run
  · refine ⟨rfl, ?_, ?_, fun _ => rfl⟩
    · simp [contribution, owed]
    · simp [contribution, othersContribution]
  · intro history state event after _ accounted advance
    exact advance_accounted kernel accounted advance

theorem vmap_results (run : Run (Advance kernel) start history final) :
    ∀ event ∈ history, ∀ caller ret, event.action = .vmap caller ret →
      (ret = 0 ↔ event.after.object.vmapping ≠ 0) := by
  intro event member caller ret named
  obtain ⟨front, back, rfl⟩ := List.append_of_mem member
  obtain ⟨before, after, _, advance, _⟩ := run_at front back event run
  cases advance with
  | vmap other live =>
      cases named
      exact (evdi_gem_vmap_spec kernel before).2.1
  | vunmap live => cases named
  | free live => cases named
  | others world => cases named

/-- GRABPIX goes on exactly when there is a mapping, so the second check that
the patch removes had nothing left to catch. -/
theorem grabpix_continues_mapped (run : Run (Advance kernel) start history final) :
    ∀ event ∈ history, ∀ thread ret, event.action = .vmap (.grabpix thread) ret →
      (grabpixError ret = none ↔ event.after.object.vmapping ≠ 0) := by
  intro event member thread ret named
  rw [← vmap_results kernel run event member _ ret named]
  by_cases success : ret = 0 <;> simp [grabpixError, success]

/-- For every order of mapping, unmapping and failing calls EVDI holds one
reference while the object shows a mapping and none after it is freed. -/
theorem persistent_vmap_balanced (imported : Bool) (world : World)
    (run : Run (Advance kernel) ⟨⟨imported, 0, false⟩, world, false⟩ history final) :
    (final.freed = false →
      contribution kernel history =
        (if imported = true ∧ final.object.vmapping ≠ 0 then 1 else 0,
          if imported = false ∧ final.object.vmapping ≠ 0 then 1 else 0)) ∧
    (∀ event ∈ history, ∀ caller ret, event.action = .vmap caller ret →
      (ret = 0 ↔ event.after.object.vmapping ≠ 0)) ∧
    (final.freed = true → contribution kernel history = 0 ∧
      kernel.counters final.world =
        kernel.counters world + othersContribution kernel history) := by
  have accounted := run_accounted kernel imported world run
  refine ⟨?_, vmap_results kernel run, ?_⟩
  · intro _
    rw [accounted.paid, owed, accounted.kind]
    by_cases null : final.object.vmapping = 0
    · simp only [null, ne_eq, not_true_eq_false, and_false, if_true, if_false]
      rfl
    · cases imported <;> simp [null]
  · intro freed
    have none : contribution kernel history = 0 := by
      rw [accounted.paid, owed, if_pos (accounted.cleared freed)]
    refine ⟨none, ?_⟩
    rw [accounted.total, none, add_zero]

/-- A kernel whose calls fail on demand. -/
structure Scripted where
  counters : Int × Int
  failing : Bool

def scriptedKernel : Kernel Scripted where
  counters := Scripted.counters
  mapsByStruct := true
  dmaBufVmap world :=
    if world.failing then (-enomem, ⟨0, false⟩, world)
    else (0, ⟨4096, false⟩, { world with counters := world.counters + (1, 0) })
  dmaBufVmapPointer world :=
    if world.failing then (0, world)
    else (4096, { world with counters := world.counters + (1, 0) })
  dmaBufVunmap world := { world with counters := world.counters - (1, 0) }
  evdiPinPages world :=
    if world.failing then (-enomem, world)
    else (0, { world with counters := world.counters + (0, 1) })
  evdiUnpinPages world := { world with counters := world.counters - (0, 1) }
  vmap world := (if world.failing then 0 else 4096, world)
  vunmap world := world
  dmaBufVmap_success world success := by
    cases failing : world.failing <;> simp [failing, enomem] at success ⊢
  dmaBufVmap_failure world failure := by
    cases failing : world.failing <;> simp [failing] at failure ⊢
  dmaBufVmapPointer_success world success := by
    cases failing : world.failing <;> simp [failing] at success ⊢
  dmaBufVmapPointer_failure world failure := by
    cases failing : world.failing <;> simp [failing] at failure ⊢
  dmaBufVunmap_releases world := rfl
  evdiPinPages_success world success := by
    cases failing : world.failing <;> simp [failing, enomem] at success ⊢
  evdiPinPages_failure world failure := by
    cases failing : world.failing <;> simp [failing] at failure ⊢
  evdiUnpinPages_releases world := rfl
  vmap_counters world := rfl
  vunmap_counters world := rfl

theorem persistent_vmap_balanced_scripted : ∃ history final,
    Run (Advance scriptedKernel) ⟨⟨true, 0, false⟩, ⟨(0, 0), false⟩, false⟩ history final ∧
      history.length = 3 ∧ final.freed = true ∧ contribution scriptedKernel history = 0 := by
  have fresh : Run (Advance scriptedKernel) ⟨⟨true, 0, false⟩, ⟨(0, 0), false⟩, false⟩ []
      ⟨⟨true, 0, false⟩, ⟨(0, 0), false⟩, false⟩ := .start
  have run := Run.next (.next (.next fresh (.vmap (.grabpix 0) rfl)) (.vmap (.cursor 1) rfl))
    (.free rfl)
  exact ⟨_, _, run, rfl, rfl, ((persistent_vmap_balanced scriptedKernel true _ run).2.2 rfl).1⟩

end Runs

end Smiusb.PersistentVmap
