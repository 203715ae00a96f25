import Mathlib.Data.List.Nodup
import Smiusb.Methods

/-!
Resources that are acquired, used and released, and methods that keep a record
of it. A trace settles if nothing is used or released that is not held. A
scope releases its resource however its body ends, by a panic as well; a body
that does not come back releases nothing.
-/

namespace Smiusb.Resources
open Execution Methods

inductive Use (Resource : Type) where
  | acquire (resource : Resource)
  | touch (resource : Resource)
  | release (resource : Resource)
  deriving DecidableEq, Repr

section Traces
variable {Resource : Type} [DecidableEq Resource]

/-- What is held after one use, if the use is in place. -/
def settleUse (held : List Resource) : Use Resource → Option (List Resource)
  | .acquire resource => if resource ∈ held then none else some (resource :: held)
  | .touch resource => if resource ∈ held then some held else none
  | .release resource => if resource ∈ held then some (held.erase resource) else none

def settle (held : List Resource) (trace : List (Use Resource)) : Option (List Resource) :=
  trace.foldlM settleUse held

@[simp] theorem settle_nil (held : List Resource) : settle held [] = some held := rfl

theorem settle_append (held : List Resource) (front back : List (Use Resource)) :
    settle held (front ++ back) = (settle held front).bind fun middle => settle middle back :=
  List.foldlM_append

theorem settle_cons {held after : List Resource} {step : Use Resource} {rest : List (Use Resource)}
    (settled : settle held (step :: rest) = some after) :
    ∃ middle, settleUse held step = some middle ∧ settle middle rest = some after :=
  Option.bind_eq_some_iff.mp settled

theorem settle_touch {held : List Resource} {resource : Resource} (present : resource ∈ held) :
    settle held [.touch resource] = some held := by
  simp [settle, settleUse, present]

/-- What is done between acquiring and releasing stands in for nothing. -/
theorem settle_bracket {held : List Resource} {resource : Resource} {inner : List (Use Resource)}
    (absent : resource ∉ held)
    (settled : settle (resource :: held) inner = some (resource :: held)) :
    settle held (.acquire resource :: (inner ++ [.release resource])) = some held := by
  have opened : settle held [.acquire resource] = some (resource :: held) := by
    simp [settle, settleUse, absent]
  have closed : settle (resource :: held) [.release resource] = some held := by
    simp [settle, settleUse]
  rw [← List.singleton_append, settle_append, opened, Option.bind_some, settle_append, settled,
    Option.bind_some, closed]

/-- Held is what was acquired once more than released. -/
theorem settle_counts {held after : List Resource} {trace : List (Use Resource)}
    (settled : settle held trace = some after) (resource : Resource) :
    held.count resource + trace.count (.acquire resource) =
      after.count resource + trace.count (.release resource) := by
  induction trace generalizing held with
  | nil =>
      cases settled
      simp
  | cons step rest ih =>
      obtain ⟨middle, first, others⟩ := settle_cons settled
      have tail := ih others
      cases step with
      | acquire other =>
          simp only [settleUse, Option.ite_none_left_eq_some, Option.some.injEq] at first
          obtain ⟨-, rfl⟩ := first
          simp only [List.count_cons] at tail ⊢
          by_cases same : other = resource <;> simp [same] at tail ⊢ <;> omega
      | touch other =>
          simp only [settleUse, Option.ite_none_right_eq_some, Option.some.injEq] at first
          obtain ⟨-, rfl⟩ := first
          simpa [List.count_cons] using tail
      | release other =>
          simp only [settleUse, Option.ite_none_right_eq_some, Option.some.injEq] at first
          obtain ⟨present, rfl⟩ := first
          have positive := List.count_pos_iff.mpr present
          rw [List.count_erase] at tail
          simp only [List.count_cons]
          by_cases same : other = resource
          · subst same
            simp at tail ⊢
            omega
          · simp [same] at tail ⊢
            omega

/-- A use of something that is held. -/
def Alive (front : List (Use Resource)) (resource : Resource) : Prop :=
  front.count (.acquire resource) = front.count (.release resource) + 1

/-- In a trace that settles with nothing left, what is acquired is released as
often, and used or released only in between. -/
structure Tidy (trace : List (Use Resource)) : Prop where
  balanced : ∀ resource, trace.count (.acquire resource) = trace.count (.release resource)
  touched : ∀ front back resource, trace = front ++ .touch resource :: back → Alive front resource
  released : ∀ front back resource, trace = front ++ .release resource :: back →
    Alive front resource

theorem settle_nodup {held after : List Resource} {trace : List (Use Resource)}
    (single : held.Nodup) (settled : settle held trace = some after) : after.Nodup := by
  induction trace generalizing held with
  | nil =>
      cases settled
      exact single
  | cons step rest ih =>
      obtain ⟨middle, first, others⟩ := settle_cons settled
      refine ih ?_ others
      cases step with
      | acquire other =>
          simp only [settleUse, Option.ite_none_left_eq_some, Option.some.injEq] at first
          obtain ⟨absent, rfl⟩ := first
          exact List.nodup_cons.mpr ⟨absent, single⟩
      | touch other =>
          simp only [settleUse, Option.ite_none_right_eq_some, Option.some.injEq] at first
          exact first.2 ▸ single
      | release other =>
          simp only [settleUse, Option.ite_none_right_eq_some, Option.some.injEq] at first
          exact first.2 ▸ single.erase other

/-- Whatever a settled trace touches or releases is alive there. -/
theorem settle_alive {front back : List (Use Resource)} {step : Use Resource} {resource : Resource}
    (needs : ∀ held after, settleUse held step = some after → resource ∈ held)
    (settled : settle [] (front ++ step :: back) = some []) : Alive front resource := by
  rw [settle_append] at settled
  obtain ⟨held, before, onwards⟩ := Option.bind_eq_some_iff.mp settled
  obtain ⟨after, used, -⟩ := settle_cons onwards
  have counts := settle_counts before resource
  rw [List.count_eq_one_of_mem (settle_nodup List.nodup_nil before) (needs held after used),
    List.count_nil, Nat.zero_add, Nat.add_comm] at counts
  exact counts

theorem settled_tidy {trace : List (Use Resource)} (settled : settle [] trace = some []) :
    Tidy trace where
  balanced resource := by simpa using settle_counts settled resource
  touched front back resource whole := by
    subst whole
    refine settle_alive (fun held after used => ?_) settled
    simp only [settleUse, Option.ite_none_right_eq_some] at used
    exact used.1
  released front back resource whole := by
    subst whole
    refine settle_alive (fun held after used => ?_) settled
    simp only [settleUse, Option.ite_none_right_eq_some] at used
    exact used.1

end Traces

/-- An object with a record of the uses on the way to it. -/
structure Traced (State Resource : Type) where
  state : State
  uses : List (Use Resource)

section Methods
variable {State Resource Error Value Next Item : Type}

def record (step : Use Resource) : Method (Traced State Resource) Error Unit :=
  .modify fun object => { object with uses := object.uses ++ [step] }

/-- A method of the state alone. -/
def onState (method : Method State Error Value) : Method (Traced State Resource) Error Value where
  run object := ((method.run object.state).1, { object with state := (method.run object.state).2 })

/-- The end of a scope. -/
def leave (resource : Resource) : Outcome Error Value × Traced State Resource →
    Outcome Error Value × Traced State Resource
  | (.diverged, after) => (.diverged, after)
  | (outcome, after) => (outcome, { after with uses := after.uses ++ [.release resource] })

def enter (resource : Resource) (object : Traced State Resource) : Traced State Resource :=
  { object with uses := object.uses ++ [.acquire resource] }

/-- A value whose destructor releases the resource. -/
def owning (resource : Resource) (body : Method (Traced State Resource) Error Value) :
    Method (Traced State Resource) Error Value where
  run object := leave resource (body.run (enter resource object))

theorem run_owning (resource : Resource) (body : Method (Traced State Resource) Error Value)
    (object : Traced State Resource) :
    (owning resource body).run object = leave resource (body.run (enter resource object)) := rfl

def Halts (method : Method State Error Value) : Prop :=
  ∀ object, (method.run object).1 ≠ .diverged

/-- The method ends, by a panic at worst, and leaves held what was held. -/
def Disciplined [DecidableEq Resource] (held : List Resource)
    (method : Method (Traced State Resource) Error Value) : Prop :=
  ∀ object, (method.run object).1 ≠ .diverged ∧
    ∃ trace, (method.run object).2.uses = object.uses ++ trace ∧ settle held trace = some held

/-- Without the record the method is `plain`. -/
def Refines (traced : Method (Traced State Resource) Error Value)
    (plain : Method State Error Value) : Prop :=
  ∀ object, (traced.run object).1 = (plain.run object.state).1 ∧
    (traced.run object).2.state = (plain.run object.state).2

section Halting
variable {object : State}

theorem halts_outcome {call : Outcome Error Value} (ends : call ≠ .diverged) :
    Halts (.ofOutcome call : Method State Error Value) := fun _ => ends

theorem halts_read : Halts (Method.read : Method State Error State) := fun _ => by
  simp [Method.read]

theorem halts_modify (change : State → State) :
    Halts (.modify change : Method State Error Unit) := fun _ => by
  simp [Method.modify]

theorem halts_bind {first : Method State Error Value} {next : Value → Method State Error Next}
    (start : Halts first) (rest : ∀ value, Halts (next value)) : Halts (first >>= next) := by
  intro object
  have begun := start object
  rw [Method.run_bind]
  cases ended : first.run object with
  | mk outcome after =>
      rw [ended] at begun
      cases outcome with
      | ok value => exact rest value after
      | err | panicked => simp
      | diverged => exact absurd rfl begun

theorem halts_forEach {body : Item → Method State Error Unit} (items : List Item)
    (round : ∀ item, Halts (body item)) : Halts (.forEach body items) := by
  induction items with
  | nil => exact fun _ => by simp [Method.forEach, pure]
  | cons item rest ih => exact halts_bind (round item) fun _ => ih

end Halting

section Discipline
variable [DecidableEq Resource] {held : List Resource}

theorem disciplined_pure (value : Value) :
    Disciplined held (pure value : Method (Traced State Resource) Error Value) :=
  fun _ => ⟨by simp [pure], [], (List.append_nil _).symm, rfl⟩

theorem disciplined_outcome {call : Outcome Error Value} (ends : call ≠ .diverged) :
    Disciplined held (.ofOutcome call : Method (Traced State Resource) Error Value) :=
  fun _ => ⟨ends, [], (List.append_nil _).symm, rfl⟩

theorem disciplined_onState {method : Method State Error Value} (halts : Halts method) :
    Disciplined held (onState method : Method (Traced State Resource) Error Value) :=
  fun object => ⟨halts object.state, [], (List.append_nil _).symm, rfl⟩

theorem disciplined_touch {resource : Resource} (present : resource ∈ held) :
    Disciplined held (record (.touch resource) : Method (Traced State Resource) Error Unit) :=
  fun _ => ⟨by simp [record, Method.modify], [.touch resource], rfl, settle_touch present⟩

theorem disciplined_bind {first : Method (Traced State Resource) Error Value}
    {next : Value → Method (Traced State Resource) Error Next} (start : Disciplined held first)
    (rest : ∀ value, Disciplined held (next value)) : Disciplined held (first >>= next) := by
  intro object
  obtain ⟨ends, front, left, settled⟩ := start object
  rw [Method.run_bind]
  cases ended : first.run object with
  | mk outcome after =>
      rw [ended] at ends left
      cases outcome with
      | ok value =>
          obtain ⟨again, behind, right, kept⟩ := rest value after
          refine ⟨again, front ++ behind, ?_, ?_⟩
          · rw [right, left, List.append_assoc]
          · rw [settle_append, settled, Option.bind_some, kept]
      | err error => exact ⟨by simp, front, left, settled⟩
      | panicked => exact ⟨by simp, front, left, settled⟩
      | diverged => exact absurd rfl ends

theorem disciplined_forEach {body : Item → Method (Traced State Resource) Error Unit}
    (items : List Item) (round : ∀ item ∈ items, Disciplined held (body item)) :
    Disciplined held (.forEach body items) := by
  induction items with
  | nil => exact disciplined_pure ()
  | cons item rest ih =>
      exact disciplined_bind (round item List.mem_cons_self) fun _ =>
        ih fun other member => round other (List.mem_cons_of_mem item member)

theorem disciplined_owning {resource : Resource} {body : Method (Traced State Resource) Error Value}
    (absent : resource ∉ held) (inside : Disciplined (resource :: held) body) :
    Disciplined held (owning resource body) := by
  intro object
  obtain ⟨ends, inner, left, settled⟩ := inside (enter resource object)
  rw [run_owning]
  cases ended : body.run (enter resource object) with
  | mk outcome after =>
      rw [ended] at ends left
      have bracket : (after.uses ++ [.release resource]) =
          object.uses ++ .acquire resource :: (inner ++ [.release resource]) := by
        simp only [enter] at left
        simp [left]
      cases outcome with
      | diverged => exact absurd rfl ends
      | _ => exact ⟨by simp [leave], _, bracket, settle_bracket absent settled⟩

end Discipline

section Moves
variable [DecidableEq Resource] {held middle after : List Resource} {resource : Resource}

/-- The method returns, and takes what is held from one list to the other. -/
def Moves (held : List Resource) (method : Method (Traced State Resource) Error Value)
    (after : List Resource) : Prop :=
  ∀ object, ∃ value trace, (method.run object).1 = .ok value ∧
    (method.run object).2.uses = object.uses ++ trace ∧ settle held trace = some after

theorem moves_pure (value : Value) :
    Moves held (pure value : Method (Traced State Resource) Error Value) held :=
  fun _ => ⟨value, [], rfl, (List.append_nil _).symm, rfl⟩

theorem moves_acquire (absent : resource ∉ held) :
    Moves held (record (.acquire resource) : Method (Traced State Resource) Error Unit)
      (resource :: held) :=
  fun _ => ⟨(), [.acquire resource], rfl, rfl, by simp [settle, settleUse, absent]⟩

theorem moves_touch (present : resource ∈ held) :
    Moves held (record (.touch resource) : Method (Traced State Resource) Error Unit) held :=
  fun _ => ⟨(), [.touch resource], rfl, rfl, settle_touch present⟩

theorem moves_release :
    Moves (resource :: held)
      (record (.release resource) : Method (Traced State Resource) Error Unit) held :=
  fun _ => ⟨(), [.release resource], rfl, rfl, by simp [settle, settleUse]⟩

theorem moves_modify (change : State → State) :
    Moves held (onState (.modify change) : Method (Traced State Resource) Error Unit) held :=
  fun _ => ⟨(), [], rfl, (List.append_nil _).symm, rfl⟩

theorem moves_bind {first : Method (Traced State Resource) Error Value}
    {next : Value → Method (Traced State Resource) Error Next} (start : Moves held first middle)
    (rest : ∀ value, Moves middle (next value) after) : Moves held (first >>= next) after := by
  intro object
  obtain ⟨value, front, returned, left, settled⟩ := start object
  obtain ⟨result, back, ended, right, kept⟩ := rest value (first.run object).2
  have run : (first >>= next).run object = (next value).run (first.run object).2 := by
    rw [Method.run_bind, ← Prod.eta (first.run object), returned]
  rw [run]
  refine ⟨result, front ++ back, ended, ?_, ?_⟩
  · rw [right, left, List.append_assoc]
  · rw [settle_append, settled, Option.bind_some, kept]

theorem moves_forEach {body : Item → Method (Traced State Resource) Error Unit} (items : List Item)
    (round : ∀ item ∈ items, Moves held (body item) held) :
    Moves held (.forEach body items) held := by
  induction items with
  | nil => exact moves_pure ()
  | cons item rest ih =>
      exact moves_bind (round item List.mem_cons_self) fun _ =>
        ih fun other member => round other (List.mem_cons_of_mem item member)

end Moves

section Refinement

theorem refines_outcome (call : Outcome Error Value) :
    Refines (.ofOutcome call : Method (Traced State Resource) Error Value) (.ofOutcome call) :=
  fun _ => ⟨rfl, rfl⟩

theorem refines_onState (method : Method State Error Value) :
    Refines (onState method : Method (Traced State Resource) Error Value) method :=
  fun _ => ⟨rfl, rfl⟩

theorem refines_record (step : Use Resource) :
    Refines (record step : Method (Traced State Resource) Error Unit) (pure ()) :=
  fun _ => ⟨rfl, rfl⟩

theorem refines_owning {resource : Resource} {body : Method (Traced State Resource) Error Value}
    {plain : Method State Error Value} (inside : Refines body plain) :
    Refines (owning resource body) plain := by
  intro object
  have same := inside (enter resource object)
  rw [run_owning]
  cases ended : body.run (enter resource object) with
  | mk outcome after =>
      rw [ended] at same
      cases outcome <;> exact same

theorem refines_bind {first : Method (Traced State Resource) Error Value}
    {next : Value → Method (Traced State Resource) Error Next} {plain : Method State Error Value}
    {plainNext : Value → Method State Error Next} (start : Refines first plain)
    (rest : ∀ value, Refines (next value) (plainNext value)) :
    Refines (first >>= next) (plain >>= plainNext) := by
  intro object
  have same := start object
  rw [Method.run_bind, Method.run_bind]
  cases ended : first.run object with
  | mk outcome after =>
      cases reached : plain.run object.state with
      | mk plainOutcome plainAfter =>
          rw [ended, reached] at same
          obtain ⟨rfl, rfl⟩ := same
          cases outcome with
          | ok value => exact rest value after
          | _ => exact ⟨rfl, rfl⟩

/-- Steps that only leave a record have no counterpart. -/
theorem refines_silent_bind {first : Method (Traced State Resource) Error Unit}
    {next : Unit → Method (Traced State Resource) Error Next} {plain : Method State Error Next}
    (silent : Refines first (pure ())) (rest : ∀ value, Refines (next value) plain) :
    Refines (first >>= next) plain :=
  @refines_bind _ _ _ _ _ _ _ (pure ()) (fun _ => plain) silent rest

theorem refines_forEach_silent {body : Item → Method (Traced State Resource) Error Unit}
    (items : List Item) (round : ∀ item, Refines (body item) (pure ())) :
    Refines (.forEach body items) (pure ()) := by
  induction items with
  | nil => exact fun _ => ⟨rfl, rfl⟩
  | cons item rest ih => exact refines_silent_bind (round item) fun _ => ih

theorem refines_forEach {body : Item → Method (Traced State Resource) Error Unit}
    {plain : Item → Method State Error Unit} (items : List Item)
    (round : ∀ item, Refines (body item) (plain item)) :
    Refines (.forEach body items) (.forEach plain items) := by
  induction items with
  | nil => exact fun _ => ⟨rfl, rfl⟩
  | cons item rest ih => exact refines_bind (round item) fun _ => ih

end Refinement

end Methods

end Smiusb.Resources
