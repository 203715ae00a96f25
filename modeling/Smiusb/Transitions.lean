import Mathlib.Algebra.Ring.Nat
import Mathlib.Algebra.BigOperators.Group.List.Basic
import Mathlib.Data.List.Induction

/-!
Runs of a labelled transition relation together with their history. A party
that acts atomically contributes one event per action, so a statement about
every run is a statement about every interleaving. Nothing here depends on a
particular system.
-/

namespace Smiusb.Transitions

universe u v w x
variable {State : Type u} {Event : Type v}

/-- The histories that lead from `start` to a state, oldest event first. -/
inductive Run (step : State → Event → State → Prop) (start : State) :
    List Event → State → Prop where
  | start : Run step start [] start
  | next {history : List Event} {state after : State} {event : Event}
      (run : Run step start history state) (taken : step state event after) :
      Run step start (history ++ [event]) after

section Rules
variable {step : State → Event → State → Prop} {start final : State} {history : List Event}

/-- An invariant of states and their histories; the step may use the run
itself, so later invariants build on earlier ones. -/
theorem run_invariant (invariant : List Event → State → Prop) (base : invariant [] start)
    (keeps : ∀ history state event after, Run step start history state →
      invariant history state → step state event after → invariant (history ++ [event]) after)
    (run : Run step start history final) : invariant history final := by
  induction run with
  | start => exact base
  | next run taken ih => exact keeps _ _ _ _ run ih taken

/-- The last event of a history was taken last. -/
theorem run_snoc {event : Event} (run : Run step start (history ++ [event]) final) :
    ∃ state, Run step start history state ∧ step state event final := by
  generalize whole : history ++ [event] = events at run
  cases run with
  | start => simp at whole
  | next run taken =>
      obtain ⟨rfl, same⟩ := List.append_inj' whole rfl
      cases same
      exact ⟨_, run, taken⟩

/-- A run can be cut at any point of its history. -/
theorem run_split (front back : List Event) (run : Run step start (front ++ back) final) :
    ∃ middle, Run step start front middle ∧ Run step middle back final := by
  induction back using List.reverseRecOn generalizing final with
  | nil =>
      rw [List.append_nil] at run
      exact ⟨final, run, .start⟩
  | append_singleton back event ih =>
      rw [← List.append_assoc] at run
      obtain ⟨state, run, taken⟩ := run_snoc run
      obtain ⟨middle, before, behind⟩ := ih run
      exact ⟨middle, before, .next behind taken⟩

/-- What a run leads to can be run from. -/
theorem run_append {middle : State} {more : List Event} (run : Run step start history middle)
    (onwards : Run step middle more final) : Run step start (history ++ more) final := by
  induction onwards with
  | start => rwa [List.append_nil]
  | next onwards taken ih =>
      rw [← List.append_assoc]
      exact .next ih taken

/-- Every event of a history was taken in a state that the run passes through. -/
theorem run_at (front back : List Event) (event : Event)
    (run : Run step start (front ++ event :: back) final) :
    ∃ before after, Run step start front before ∧ step before event after ∧
      Run step after back final := by
  obtain ⟨after, upTo, behind⟩ := run_split (front ++ [event]) back (by simpa using run)
  obtain ⟨before, run, taken⟩ := run_snoc upTo
  exact ⟨before, after, run, taken, behind⟩

/-- Each busy event is paid for out of a rank that only some events raise. -/
theorem run_ranked (invariant : State → Prop) (rank : State → Nat) (busy raises : Event → Bool)
    (share : Nat) (base : invariant start)
    (pays : ∀ state event after, invariant state → step state event after →
      invariant after ∧ rank after + (if busy event then 1 else 0) ≤
        rank state + if raises event then share else 0)
    (run : Run step start history final) :
    invariant final ∧
      history.countP busy + rank final ≤ rank start + share * history.countP raises := by
  induction run with
  | start => exact ⟨base, by simp⟩
  | @next history state after event run taken ih =>
      obtain ⟨kept, paid⟩ := pays state event after ih.1 taken
      refine ⟨kept, ?_⟩
      have before := ih.2
      rw [List.countP_append, List.countP_append, List.countP_singleton, List.countP_singleton,
        Nat.mul_add, mul_ite, Nat.mul_one, Nat.mul_zero]
      omega

end Rules

section Projection
variable {Part : Type w} {Label : Type x}

/-- What a component does while the system around it takes one step. -/
def Projected (partStep : Part → Label → Part → Prop) (before after : Part) :
    Option Label → Prop
  | none => after = before
  | some own => partStep before own after

/-- A system whose every step is either silent for a component or one of its
own steps runs the component. -/
theorem run_project {step : State → Event → State → Prop} {partStep : Part → Label → Part → Prop}
    (view : State → Part) (label : Event → Option Label)
    (projects : ∀ state event after, step state event after →
      Projected partStep (view state) (view after) (label event))
    {start final : State} {history : List Event} (run : Run step start history final) :
    Run partStep (view start) (history.filterMap label) (view final) := by
  induction run with
  | start => exact .start
  | @next history state after event run taken ih =>
      have moves := projects state event after taken
      rw [List.filterMap_append]
      cases own : label event with
      | none =>
          have same : view after = view state := by simpa [own, Projected] using moves
          simpa [own, same] using ih
      | some own' =>
          rw [own] at moves
          simpa [own] using Run.next ih moves

end Projection

section Replays
variable {Operation : Type w} {Reply : Type x} (perform : State → Operation → State × Reply)

/-- The replies of a machine to a list of operations, beside the operations. -/
def replies : State → List Operation → List (Operation × Reply)
  | _, [] => []
  | state, operation :: rest =>
      (operation, (perform state operation).2) :: replies (perform state operation).1 rest

def finish (state : State) (operations : List Operation) : State :=
  operations.foldl (fun state operation => (perform state operation).1) state

/-- Operations that nothing later depends on can be left out of a run: the
others get the replies they had, and the final states are alike. -/
theorem replay_without (alike : State → State → Prop) (silent : Operation × Reply → Bool)
    (unseen : ∀ one other operation, alike one other →
      silent (operation, (perform one operation).2) = true → alike (perform one operation).1 other)
    (seen : ∀ one other operation, alike one other →
      silent (operation, (perform one operation).2) = false →
      (perform other operation).2 = (perform one operation).2 ∧
        alike (perform one operation).1 (perform other operation).1)
    (operations : List Operation) (one other : State) (start : alike one other) :
    let kept := (replies perform one operations).filter fun entry => !silent entry
    replies perform other (kept.map Prod.fst) = kept ∧
      alike (finish perform one operations) (finish perform other (kept.map Prod.fst)) := by
  induction operations generalizing one other with
  | nil => exact ⟨rfl, start⟩
  | cons operation rest ih =>
      cases quiet : silent (operation, (perform one operation).2) with
      | true =>
          simp only [replies, List.filter_cons, quiet, Bool.not_true, Bool.false_eq_true,
            ↓reduceIte]
          exact ih _ other (unseen one other operation start quiet)
      | false =>
          obtain ⟨same, next⟩ := seen one other operation start quiet
          obtain ⟨tail, final⟩ := ih _ _ next
          simp only [replies, List.filter_cons, quiet, Bool.not_false, ↓reduceIte, List.map_cons]
          exact ⟨by rw [same, tail], final⟩

end Replays

/-- Shared state and the tasks in flight. -/
structure Pool (Shared : Type u) (Task : Type v) where
  shared : Shared
  tasks : List Task

section Pools
variable {Shared : Type u} {Task : Type v} {Label : Type w}

/-- Tasks appear at any time, and any one of them makes the next move. -/
inductive PoolStep (begins : Shared → Task → Label → Prop)
    (moves : Shared → Task → Label → Shared → Option Task → Prop) :
    Pool Shared Task → Label → Pool Shared Task → Prop where
  | spawn {shared : Shared} {tasks : List Task} {task : Task} {label : Label}
      (begun : begins shared task label) :
      PoolStep begins moves ⟨shared, tasks⟩ label ⟨shared, tasks ++ [task]⟩
  | move {shared after : Shared} {front back : List Task} {task : Task} {next : Option Task}
      {label : Label} (moved : moves shared task label after next) :
      PoolStep begins moves ⟨shared, front ++ task :: back⟩ label
        ⟨after, front ++ next.toList ++ back⟩

variable {begins : Shared → Task → Label → Prop}
  {moves : Shared → Task → Label → Shared → Option Task → Prop}
  {shared : Shared} {history : List Label} {final : Pool Shared Task}

/-- Invariants of the shared state and of single tasks that hold while only
some labels have occurred, and what these have in common. -/
theorem pool_invariant_while (allowed : Label → Prop) (sharedInv : Shared → Prop)
    (taskInv : Task → Prop) (safe : Label → Prop) (base : sharedInv shared)
    (spawns : ∀ shared task label, allowed label → sharedInv shared →
      begins shared task label → taskInv task ∧ safe label)
    (keeps : ∀ shared task label after next, allowed label → sharedInv shared → taskInv task →
      moves shared task label after next →
      sharedInv after ∧ (∀ task ∈ next, taskInv task) ∧ safe label)
    (run : Run (PoolStep begins moves) ⟨shared, []⟩ history final) :
    (∀ label ∈ history, allowed label) →
      sharedInv final.shared ∧ (∀ task ∈ final.tasks, taskInv task) ∧
        ∀ label ∈ history, safe label := by
  refine run_invariant
    (fun history (pool : Pool Shared Task) => (∀ label ∈ history, allowed label) →
      sharedInv pool.shared ∧ (∀ task ∈ pool.tasks, taskInv task) ∧
        ∀ label ∈ history, safe label) ?_ ?_ run
  · intro _
    exact ⟨base, by simp, by simp⟩
  · intro history pool label after _ ih step only
    obtain ⟨before, now⟩ : (∀ label ∈ history, allowed label) ∧ allowed label := by
      simpa [or_imp, forall_and] using only
    obtain ⟨shape, each, past⟩ := ih before
    cases step with
    | @spawn shared tasks task _ begun =>
        obtain ⟨sound, fine⟩ := spawns _ _ _ now shape begun
        refine ⟨shape, ?_, ?_⟩
        · simpa [or_imp, forall_and, sound] using each
        · simpa [or_imp, forall_and, fine] using past
    | @move shared after front back task next _ moved =>
        obtain ⟨kept, sound, fine⟩ := keeps _ _ _ _ _ now shape (each task (by simp)) moved
        refine ⟨kept, ?_, ?_⟩
        · intro other member
          rcases List.mem_append.mp member with inside | behind
          · rcases List.mem_append.mp inside with ahead | same
            · exact each other (by simp [ahead])
            · exact sound other (by simpa using same)
          · exact each other (by simp [behind])
        · simpa [or_imp, forall_and, fine] using past

/-- The invariants of all runs. -/
theorem pool_invariant (sharedInv : Shared → Prop) (taskInv : Task → Prop) (safe : Label → Prop)
    (base : sharedInv shared)
    (spawns : ∀ shared task label, sharedInv shared → begins shared task label →
      taskInv task ∧ safe label)
    (keeps : ∀ shared task label after next, sharedInv shared → taskInv task →
      moves shared task label after next →
      sharedInv after ∧ (∀ task ∈ next, taskInv task) ∧ safe label)
    (run : Run (PoolStep begins moves) ⟨shared, []⟩ history final) :
    sharedInv final.shared ∧ (∀ task ∈ final.tasks, taskInv task) ∧
      ∀ label ∈ history, safe label := by
  apply pool_invariant_while (fun _ => True) sharedInv taskInv safe base _ _ run
  · intro _ _
    trivial
  · intro shared task label _ shape begun
    exact spawns shared task label shape begun
  · intro shared task label after next _ shape sound moved
    exact keeps shared task label after next shape sound moved

/-- A balance between labels while the system is running, in which every task
carries its share. -/
theorem pool_account {Amount : Type x} [AddCommMonoid Amount] (running : Shared → Prop)
    (taskInv : Task → Prop) (gain loss : Label → Amount) (weight : Task → Amount)
    (kept : ∀ history (pool : Pool Shared Task),
      Run (PoolStep begins moves) ⟨shared, []⟩ history pool → ∀ task ∈ pool.tasks, taskInv task)
    (ran : ∀ shared task label after next, moves shared task label after next →
      running after → running shared)
    (spawns : ∀ shared task label, begins shared task label →
      gain label = loss label + weight task)
    (keeps : ∀ shared task label after next, taskInv task → running after →
      moves shared task label after next →
      gain label + weight task = loss label + (next.toList.map weight).sum)
    (run : Run (PoolStep begins moves) ⟨shared, []⟩ history final) :
    running final.shared →
      (history.map gain).sum = (history.map loss).sum + (final.tasks.map weight).sum := by
  refine run_invariant
    (fun history (pool : Pool Shared Task) => running pool.shared →
      (history.map gain).sum = (history.map loss).sum + (pool.tasks.map weight).sum) ?_ ?_ run
  · intro _
    simp
  intro history pool label after run even step goesOn
  have sound := kept history pool run
  cases step with
  | @spawn shared tasks task _ begun =>
      have paid := spawns _ _ _ begun
      have before := even goesOn
      simp only [List.map_append, List.sum_append, List.map_cons, List.map_nil, List.sum_cons,
        List.sum_nil, add_zero] at before ⊢
      rw [before, paid]
      ac_rfl
  | @move shared after front back task next _ moved =>
      have paid := keeps _ _ _ _ _ (sound task (by simp)) goesOn moved
      have before := even (ran _ _ _ _ _ moved goesOn)
      simp only [List.map_append, List.sum_append, List.map_cons, List.map_nil, List.sum_cons,
        List.sum_nil, add_zero] at before ⊢
      calc (history.map gain).sum + gain label
          = (history.map loss).sum + ((front.map weight).sum + (back.map weight).sum) +
              (gain label + weight task) := by rw [before]; ac_rfl
        _ = _ := by rw [paid]; ac_rfl

/-- The balance of a system that never stops. -/
theorem pool_ledger (gain loss : Label → Nat) (weight : Task → Nat)
    (spawns : ∀ shared task label, begins shared task label →
      gain label = loss label + weight task)
    (keeps : ∀ shared task label after next, moves shared task label after next →
      gain label + weight task = loss label + (next.toList.map weight).sum)
    (run : Run (PoolStep begins moves) ⟨shared, []⟩ history final) :
    (history.map gain).sum = (history.map loss).sum + (final.tasks.map weight).sum := by
  apply pool_account (fun _ => True) (fun _ => True) gain loss weight _ _ spawns _ run trivial
  · intro _ _ _ _ _
    trivial
  · intro _ _ _ _ _ _ _
    trivial
  · intro shared task label after next _ _ moved
    exact keeps shared task label after next moved

/-- A duty that a label creates stays with some task until the shared state
shows that it has been met. -/
theorem pool_duty (sharedInv : Shared → Prop) (duty : Label → Prop) (owing : Task → Prop)
    (met : Shared → Prop)
    (kept : ∀ history (pool : Pool Shared Task),
      Run (PoolStep begins moves) ⟨shared, []⟩ history pool → sharedInv pool.shared)
    (spawns : ∀ shared task label, begins shared task label → duty label → owing task)
    (stays : ∀ shared task label after next, moves shared task label after next →
      met shared → met after)
    (keeps : ∀ shared task label after next, sharedInv shared →
      moves shared task label after next → duty label ∨ owing task →
      met after ∨ ∃ task ∈ next, owing task)
    (run : Run (PoolStep begins moves) ⟨shared, []⟩ history final) :
    (∃ label ∈ history, duty label) →
      met final.shared ∨ ∃ task ∈ final.tasks, owing task := by
  refine run_invariant
    (fun history (pool : Pool Shared Task) => (∃ label ∈ history, duty label) →
      met pool.shared ∨ ∃ task ∈ pool.tasks, owing task) (by simp) ?_ run
  intro history pool label after run ih step created
  have either : duty label ∨ met pool.shared ∨ ∃ task ∈ pool.tasks, owing task := by
    obtain ⟨other, member, due⟩ := created
    rcases List.mem_append.mp member with past | last
    · exact .inr (ih ⟨other, past, due⟩)
    · exact .inl (List.mem_singleton.mp last ▸ due)
  have shape := kept _ _ run
  cases step with
  | @spawn shared tasks task _ begun =>
      rcases either with due | done | ⟨other, member, owes⟩
      · exact .inr ⟨task, by simp, spawns _ _ _ begun due⟩
      · exact .inl done
      · exact .inr ⟨other, by simp [member], owes⟩
  | @move shared after front back task next _ moved =>
      -- the task that moves hands its duty on, the others keep theirs
      have handed : duty label ∨ owing task →
          met after ∨ ∃ task ∈ front ++ next.toList ++ back, owing task := by
        intro due
        rcases keeps _ _ _ _ _ shape moved due with done | ⟨heir, member, owes⟩
        · exact .inl done
        · exact .inr ⟨heir, by simp [Option.mem_def.mp member], owes⟩
      rcases either with due | done | ⟨other, member, owes⟩
      · exact handed (.inl due)
      · exact .inl (stays _ _ _ _ _ moved done)
      · rcases List.mem_append.mp member with ahead | behind
        · exact .inr ⟨other, by simp [ahead], owes⟩
        · rcases List.mem_cons.mp behind with rfl | behind
          · exact handed (.inr owes)
          · exact .inr ⟨other, by simp [behind], owes⟩

end Pools

end Smiusb.Transitions
