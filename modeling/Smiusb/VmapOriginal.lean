import Smiusb.PersistentVmap

/-!
The mapping before kernel/evdi/patches/0001-serialize-persistent-vmap.patch,
from the lines that the patch removes. Callers look at `vmapping` without a
lock and then map; a mapping is stored some time after the call that made it.
-/

namespace Smiusb.VmapOriginal
open Transitions PersistentVmap

/-- Where a caller is once it has found no mapping. -/
inductive Task where
  | mapping
  | pinned
  | storing (vmapping : Address) (isIomem : Option Bool)
  deriving DecidableEq, Repr

structure State (World : Type) where
  object : GemObject
  world : World
  tasks : List Task
  freed : Bool

/-- `counted` says that a task took a count, `released` that one is given back. -/
inductive Label where
  | mapped
  | missed
  | task (counted : Bool)
  | free (released : Bool)
  deriving DecidableEq, Repr

section Model
variable {World : Type} (kernel : Kernel World)

/-- `evdi_gem_vmap`, from one access to shared data to the next. -/
def evdiGemVmap (object : GemObject) (world : World) : Task → GemObject × World × Option Task
  | .mapping =>
      if object.importAttach then
        if kernel.mapsByStruct then
          let (ret, map, world) := kernel.dmaBufVmap world
          if ret ≠ 0 then (object, world, none)
          else (object, world, some (.storing map.vaddr (some map.isIomem)))
        else
          let (vmapping, world) := kernel.dmaBufVmapPointer world
          (object, world, some (.storing vmapping none))
      else
        let (ret, world) := kernel.evdiPinPages world
        if ret ≠ 0 then (object, world, none) else (object, world, some .pinned)
  | .pinned =>
      -- pages pinned for a mapping that failed stay pinned
      let (vmapping, world) := kernel.vmap world
      (object, world, some (.storing vmapping none))
  | .storing vmapping isIomem =>
      ({ object with vmapping, vmapIsIomem := isIomem.getD object.vmapIsIomem }, world, none)

def evdiGemVunmap (object : GemObject) (world : World) : GemObject × World :=
  if object.importAttach then ({ object with vmapping := 0 }, kernel.dmaBufVunmap world)
  else if object.vmapping ≠ 0 then
    ({ object with vmapping := 0 }, kernel.evdiUnpinPages (kernel.vunmap world))
  else (object, kernel.evdiUnpinPages world)

def evdiGemFreeObject (object : GemObject) (world : World) : GemObject × World :=
  if object.vmapping ≠ 0 then evdiGemVunmap kernel object world else (object, world)

/-- The calls that raise a counter: those that map, and those that pin. -/
def takesCount (task : Task) (left : Option Task) : Bool :=
  match task, left with
  | .mapping, some (.storing vmapping _) => vmapping ≠ 0
  | .mapping, some .pinned => true
  | _, _ => false

/-- Callers hold the object, so it is freed when none of them is inside. -/
inductive Advance (state : State World) : Label → State World → Prop where
  | mapped (live : state.freed = false) (present : state.object.vmapping ≠ 0) :
      Advance state .mapped state
  | missed (live : state.freed = false) (absent : state.object.vmapping = 0) :
      Advance state .missed { state with tasks := state.tasks ++ [.mapping] }
  | task (task : Task) (front back : List Task) (chosen : state.tasks = front ++ task :: back) :
      Advance state (.task (takesCount task (evdiGemVmap kernel state.object state.world task).2.2))
        { state with
          object := (evdiGemVmap kernel state.object state.world task).1
          world := (evdiGemVmap kernel state.object state.world task).2.1
          tasks := front ++ (evdiGemVmap kernel state.object state.world task).2.2.toList ++ back }
  | free (live : state.freed = false) (unused : state.tasks = []) :
      Advance state (.free (state.object.vmapping ≠ 0))
        { state with
          object := (evdiGemFreeObject kernel state.object state.world).1
          world := (evdiGemFreeObject kernel state.object state.world).2
          freed := true }

end Model

def fresh {World : Type} (imported : Bool) (world : World) : State World :=
  ⟨⟨imported, 0, false⟩, world, [], false⟩

/-- One count of the kind the object maps with. -/
def unit (imported : Bool) : Int × Int := if imported then (1, 0) else (0, 1)

section Leaks
variable {World : Type} {kernel : Kernel World}

/-- Every call maps. -/
structure Succeeds (kernel : Kernel World) : Prop where
  dmaBufVmap : ∀ world, (kernel.dmaBufVmap world).1 = 0
  dmaBufVmapPointer : ∀ world, (kernel.dmaBufVmapPointer world).1 ≠ 0
  evdiPinPages : ∀ world, (kernel.evdiPinPages world).1 = 0
  vmap : ∀ world, (kernel.vmap world).1 ≠ 0

/-- The caller that missed last goes on. -/
theorem task_moves {object after : GemObject} {world next : World} {before : List Task}
    {task : Task} {left : Option Task} {freed : Bool}
    (moved : evdiGemVmap kernel object world task = (after, next, left)) :
    Advance kernel ⟨object, world, before ++ [task], freed⟩ (.task (takesCount task left))
      ⟨after, next, before ++ left.toList, freed⟩ := by
  have step : Advance kernel ⟨object, world, before ++ [task], freed⟩ _ _ :=
    .task task before [] rfl
  rwa [moved, List.append_nil] at step

/-- A caller that missed comes to the point where it stores its mapping, while
the others wait where they are. -/
theorem caller_maps (succeeds : Succeeds kernel) {state : State World}
    (live : state.freed = false) (absent : state.object.vmapping = 0) :
    ∃ history world vmapping isIomem,
      Run (Advance kernel) state history
        { state with world, tasks := state.tasks ++ [.storing vmapping isIomem] } ∧
      history.count .missed = 1 ∧ vmapping ≠ 0 ∧
      kernel.counters world = kernel.counters state.world + unit state.object.importAttach := by
  have missed : Run (Advance kernel) state [.missed]
      { state with tasks := state.tasks ++ [.mapping] } := .next .start (.missed live absent)
  cases imported : state.object.importAttach with
  | true =>
      cases struct : kernel.mapsByStruct with
      | true =>
          have success := succeeds.dmaBufVmap state.world
          obtain ⟨valid, counted⟩ := kernel.dmaBufVmap_success state.world success
          have mapped : evdiGemVmap kernel state.object state.world .mapping =
              (state.object, (kernel.dmaBufVmap state.world).2.2,
                some (.storing (kernel.dmaBufVmap state.world).2.1.vaddr
                  (some (kernel.dmaBufVmap state.world).2.1.isIomem))) := by
            simp [evdiGemVmap, imported, struct, success]
          have run := Run.next missed (task_moves mapped)
          exact ⟨_, _, _, _, run, rfl, valid, counted⟩
      | false =>
          have valid := succeeds.dmaBufVmapPointer state.world
          have counted := kernel.dmaBufVmapPointer_success state.world valid
          have mapped : evdiGemVmap kernel state.object state.world .mapping =
              (state.object, (kernel.dmaBufVmapPointer state.world).2,
                some (.storing (kernel.dmaBufVmapPointer state.world).1 none)) := by
            simp [evdiGemVmap, imported, struct]
          have run := Run.next missed (task_moves mapped)
          exact ⟨_, _, _, _, run, rfl, valid, counted⟩
  | false =>
      have success := succeeds.evdiPinPages state.world
      have counted := kernel.evdiPinPages_success state.world success
      have pinned : evdiGemVmap kernel state.object state.world .mapping =
          (state.object, (kernel.evdiPinPages state.world).2, some .pinned) := by
        simp [evdiGemVmap, imported, success]
      have mapped : evdiGemVmap kernel state.object (kernel.evdiPinPages state.world).2 .pinned =
          (state.object, (kernel.vmap (kernel.evdiPinPages state.world).2).2,
            some (.storing (kernel.vmap (kernel.evdiPinPages state.world).2).1 none)) := rfl
      have run := Run.next (.next missed (task_moves pinned)) (task_moves mapped)
      exact ⟨_, _, _, _, run, rfl, succeeds.vmap _, (kernel.vmap_counters _).trans counted⟩

/-- Any number of callers can be about to store a mapping of their own. -/
theorem callers_map (succeeds : Succeeds kernel) (imported : Bool) (world : World) (count : Nat) :
    ∃ history after, Run (Advance kernel) (fresh imported world) history after ∧
      history.count .missed = count ∧ after.freed = false ∧ after.object = ⟨imported, 0, false⟩ ∧
      after.tasks.length = count ∧
      (∀ task ∈ after.tasks, ∃ vmapping isIomem, task = .storing vmapping isIomem ∧ vmapping ≠ 0) ∧
      kernel.counters after.world = kernel.counters world + count • unit imported := by
  induction count with
  | zero => exact ⟨[], _, .start, rfl, rfl, rfl, rfl, by simp [fresh], by simp [fresh]⟩
  | succ count ih =>
      obtain ⟨history, after, run, missed, live, object, waiting, storing, counted⟩ := ih
      obtain ⟨more, next, vmapping, isIomem, onwards, again, valid, up⟩ :=
        caller_maps succeeds live (by rw [object])
      refine ⟨_, _, run_append run onwards, ?_, live, object, ?_, ?_, ?_⟩
      · rw [List.count_append, missed, again]
      · rw [List.length_append, waiting, List.length_singleton]
      · intro task member
        rcases List.mem_append.mp member with earlier | last
        · exact storing task earlier
        · exact ⟨vmapping, isIomem, List.mem_singleton.mp last, valid⟩
      · rw [up, counted, object, succ_nsmul, add_assoc]

/-- They all store, and one of the mappings is seen. -/
theorem callers_store (tasks : List Task) (object : GemObject) (world : World)
    (storing : ∀ task ∈ tasks, ∃ vmapping isIomem, task = .storing vmapping isIomem ∧ vmapping ≠ 0)
    (seen : tasks ≠ [] ∨ object.vmapping ≠ 0) :
    ∃ history after, Run (Advance kernel) ⟨object, world, tasks, false⟩ history
        ⟨after, world, [], false⟩ ∧
      history.count .missed = 0 ∧ after.vmapping ≠ 0 ∧
      after.importAttach = object.importAttach := by
  induction tasks using List.reverseRecOn generalizing object with
  | nil => exact ⟨[], object, .start, rfl, seen.resolve_left (absurd rfl), rfl⟩
  | append_singleton earlier task ih =>
      obtain ⟨vmapping, isIomem, rfl, valid⟩ := storing task (by simp)
      have stored : Run (Advance kernel)
          ⟨object, world, earlier ++ [.storing vmapping isIomem], false⟩ [.task false] _ :=
        .next .start (task_moves rfl)
      rw [Option.toList_none, List.append_nil] at stored
      obtain ⟨history, after, onwards, none, present, kind⟩ := ih
        { object with vmapping, vmapIsIomem := isIomem.getD object.vmapIsIomem }
        (fun task member => storing task (by simp [member])) (.inr valid)
      exact ⟨_, after, run_append stored onwards, by simpa using none, present, kind⟩

/-- However many callers found no mapping at the same time, freeing the object
gives one count back. With the patch no order of the calls leaves one behind. -/
theorem original_leaks_counts (succeeds : Succeeds kernel) (imported : Bool) (world : World)
    (count : Nat) :
    (∃ history final, Run (Advance kernel) (fresh imported world) history final ∧
      final.freed = true ∧ history.count .missed = count + 1 ∧
      kernel.counters final.world = kernel.counters world + count • unit imported) ∧
    ∀ history final, Run (PersistentVmap.Advance kernel) ⟨⟨imported, 0, false⟩, world, false⟩
        history final → final.freed = true →
      kernel.counters final.world = kernel.counters world + othersContribution kernel history := by
  constructor
  · obtain ⟨history, ⟨_, middle, tasks, _⟩, run, missed, rfl, rfl, waiting, storing, counted⟩ :=
      callers_map succeeds imported world (count + 1)
    have some : tasks ≠ [] := List.ne_nil_of_length_eq_add_one waiting
    obtain ⟨more, object, onwards, again, present, kind⟩ :=
      callers_store tasks ⟨imported, 0, false⟩ middle storing (.inl some)
    have freed := Run.next (run_append run onwards) (.free rfl rfl)
    refine ⟨_, _, freed, rfl, ?_, ?_⟩
    · rw [List.count_append, List.count_append, missed, again]
      rfl
    · have kind : object.importAttach = imported := kind
      have released : kernel.counters (evdiGemFreeObject kernel object middle).2 =
          kernel.counters middle - unit imported := by
        cases imported <;> simp [evdiGemFreeObject, evdiGemVunmap, present, kind, unit,
          kernel.dmaBufVunmap_releases, kernel.evdiUnpinPages_releases, kernel.vunmap_counters]
      rw [released, counted, succ_nsmul]
      abel
  · intro history final run freed
    have accounted := run_accounted kernel imported world run
    have none : contribution kernel history = 0 := by
      rw [accounted.paid, owed, if_pos (accounted.cleared freed)]
    rw [accounted.total, none, add_zero]

/-- A kernel that never fails and has nothing but its counters. -/
def obligingKernel : Kernel (Int × Int) where
  counters := id
  mapsByStruct := true
  dmaBufVmap world := (0, ⟨4096, false⟩, world + (1, 0))
  dmaBufVmapPointer world := (4096, world + (1, 0))
  dmaBufVunmap world := world - (1, 0)
  evdiPinPages world := (0, world + (0, 1))
  evdiUnpinPages world := world - (0, 1)
  vmap world := (4096, world)
  vunmap world := world
  dmaBufVmap_success _ _ := ⟨by simp, rfl⟩
  dmaBufVmap_failure _ failed := absurd rfl failed
  dmaBufVmapPointer_success _ _ := rfl
  dmaBufVmapPointer_failure _ failed := by simp at failed
  dmaBufVunmap_releases _ := rfl
  evdiPinPages_success _ _ := rfl
  evdiPinPages_failure _ failed := absurd rfl failed
  evdiUnpinPages_releases _ := rfl
  vmap_counters _ := rfl
  vunmap_counters _ := rfl

theorem original_leaks_counts_obliging : ∃ history final,
    Run (Advance obligingKernel) (fresh true (0, 0)) history final ∧ final.freed = true ∧
      history.count .missed = 3 ∧ final.world = (2, 0) := by
  have succeeds : Succeeds obligingKernel :=
    ⟨fun _ => rfl, fun _ => by simp [obligingKernel], fun _ => rfl,
      fun _ => by simp [obligingKernel]⟩
  obtain ⟨history, final, run, freed, missed, leaked⟩ :=
    (original_leaks_counts succeeds true (0, 0) 2).1
  exact ⟨history, final, run, freed, missed, leaked⟩

/-- One step of a caller takes a count exactly if its label says so. -/
theorem task_counts (object : GemObject) (world : World) (task : Task) :
    (evdiGemVmap kernel object world task).1.importAttach = object.importAttach ∧
    kernel.counters (evdiGemVmap kernel object world task).2.1 = kernel.counters world +
      if takesCount task (evdiGemVmap kernel object world task).2.2 then unit object.importAttach
      else 0 := by
  cases task with
  | storing vmapping isIomem => exact ⟨rfl, by simp [evdiGemVmap, takesCount]⟩
  | pinned => exact ⟨rfl, by simp [evdiGemVmap, takesCount, kernel.vmap_counters]⟩
  | mapping =>
      cases imported : object.importAttach with
      | false =>
          by_cases pinned : (kernel.evdiPinPages world).1 = 0
          · have counted := kernel.evdiPinPages_success world pinned
            simp [evdiGemVmap, imported, pinned, takesCount, counted, unit]
          · have counted := kernel.evdiPinPages_failure world pinned
            simp [evdiGemVmap, imported, pinned, takesCount, counted]
      | true =>
          cases struct : kernel.mapsByStruct with
          | true =>
              by_cases success : (kernel.dmaBufVmap world).1 = 0
              · obtain ⟨valid, counted⟩ := kernel.dmaBufVmap_success world success
                simp [evdiGemVmap, imported, struct, success, takesCount, valid, counted, unit]
              · have counted := kernel.dmaBufVmap_failure world success
                simp [evdiGemVmap, imported, struct, success, takesCount, counted]
          | false =>
              by_cases failed : (kernel.dmaBufVmapPointer world).1 = 0
              · have counted := kernel.dmaBufVmapPointer_failure world failed
                simp [evdiGemVmap, imported, struct, failed, takesCount, counted]
              · have counted := kernel.dmaBufVmapPointer_success world failed
                simp [evdiGemVmap, imported, struct, failed, takesCount, counted, unit]

theorem free_releases (object : GemObject) (world : World) :
    (evdiGemFreeObject kernel object world).1.importAttach = object.importAttach ∧
    kernel.counters (evdiGemFreeObject kernel object world).2 +
        (if object.vmapping ≠ 0 then unit object.importAttach else 0) = kernel.counters world := by
  by_cases present : object.vmapping = 0
  · simp [evdiGemFreeObject, present]
  · cases imported : object.importAttach <;>
      simp [evdiGemFreeObject, evdiGemVunmap, present, imported, unit,
        kernel.dmaBufVunmap_releases, kernel.evdiUnpinPages_releases, kernel.vunmap_counters]

/-- The counts that were taken and given back. -/
structure Account (kernel : Kernel World) (imported : Bool) (world : World) (history : List Label)
    (state : State World) : Prop where
  kind : state.object.importAttach = imported
  even : kernel.counters state.world + history.count (.free true) • unit imported =
    kernel.counters world + history.count (.task true) • unit imported
  once : history.count (.free true) ≤ if state.freed then 1 else 0

theorem advance_account {imported : Bool} {world : World} {history : List Label} {label : Label}
    {state after : State World} (account : Account kernel imported world history state)
    (advance : Advance kernel state label after) :
    Account kernel imported world (history ++ [label]) after := by
  obtain ⟨kind, even, once⟩ := account
  cases advance with
  | mapped | missed => exact ⟨kind, by simpa [List.count_append] using even,
      by simpa [List.count_append] using once⟩
  | task task front back chosen =>
      have step := @task_counts _ kernel state.object state.world task
      rw [kind] at step
      generalize takesCount task _ = counted at step
      refine ⟨step.1, ?_, by simpa [List.count_append] using once⟩
      rw [List.count_append, List.count_append, step.2]
      cases counted with
      | false => simpa using even
      | true =>
          have none : [Label.task true].count (.free true) = 0 := rfl
          rw [none, List.count_singleton_self, succ_nsmul, ← add_assoc, ← even]
          simp only [↓reduceIte, Nat.add_zero]
          abel
  | free live unused =>
      have step := @free_releases _ kernel state.object state.world
      rw [kind] at step
      simp only [live, Bool.false_eq_true, ↓reduceIte, Nat.le_zero] at once
      rw [once, zero_nsmul, add_zero, ← step.2] at even
      refine ⟨step.1, ?_, ?_⟩
      · by_cases present : state.object.vmapping = 0
        · simpa [List.count_append, once, present] using even
        · simpa [List.count_append, once, present, one_nsmul] using even
      · by_cases present : state.object.vmapping = 0 <;>
          simp [List.count_append, once, present]

/-- Without the patch every call that mapped or pinned counts, a pin whose
mapping failed as well, and freeing the object gives back one count at most. -/
theorem original_account (imported : Bool) (world : World) {history : List Label}
    {final : State World} (run : Run (Advance kernel) (fresh imported world) history final) :
    kernel.counters final.world + history.count (.free true) • unit imported =
        kernel.counters world + history.count (.task true) • unit imported ∧
      history.count (.free true) ≤ 1 := by
  have account : Account kernel imported world history final := by
    refine run_invariant (Account kernel imported world) ?_ ?_ run
    · exact ⟨rfl, rfl, Nat.le_refl 0⟩
    · intro history state label after _ account advance
      exact advance_account account advance
  refine ⟨account.even, Nat.le_trans account.once ?_⟩
  split <;> simp

theorem original_account_obliging :
    Run (Advance obligingKernel) (fresh true (0, 0)) [.missed, .task true, .task false, .free true]
        ⟨⟨true, 0, false⟩, (0, 0), [], true⟩ ∧
      [Label.missed, .task true, .task false, .free true].count (.free true) ≤ 1 := by
  have run : Run (Advance obligingKernel) (fresh true (0, 0))
      [.missed, .task true, .task false, .free true] ⟨⟨true, 0, false⟩, (0, 0), [], true⟩ :=
    .next (.next (.next (.next .start (.missed rfl rfl)) (.task .mapping [] [] rfl))
      (.task (.storing 4096 (some false)) [] [] rfl)) (.free rfl rfl)
  exact ⟨run, (original_account true (0, 0) run).2⟩

end Leaks

end Smiusb.VmapOriginal
