import Mathlib.Data.List.Basic
import Smiusb.Methods

/-!
Methods that keep a journal. An entry names an event and the state that the
event left behind, so what held at each moment of a run can still be said when
the run is over, however it ended. A law of the journal looks at one entry and
at the events before it.
-/

namespace Smiusb.Journals
open Execution Methods

variable {Event State Error Value Next : Type}

structure Journal (Event State : Type) where
  state : State
  entries : List (Event × State)

def Journal.fresh (state : State) : Journal Event State := ⟨state, []⟩

def Journal.events (journal : Journal Event State) : List Event := journal.entries.map Prod.fst

def Journal.noted (journal : Journal Event State) (event : Event) (state : State) :
    Journal Event State where
  state := state
  entries := journal.entries ++ [(event, state)]

/-- A change of the state that the journal tells of. -/
def note (event : Event) (change : State → State) : Method (Journal Event State) Error Unit :=
  .modify fun journal => journal.noted event (change journal.state)

/-- Every entry obeys the law, given the events before it. -/
def Lawful (law : List Event → Event → State → Prop) (entries : List (Event × State)) : Prop :=
  ∀ front event state back, entries = front ++ (event, state) :: back →
    law (front.map Prod.fst) event state

section Laws
variable {law : List Event → Event → State → Prop} {journal : Journal Event State} {event : Event}
  {state : State}

@[simp] theorem events_fresh : (Journal.fresh state : Journal Event State).events = [] := rfl

@[simp] theorem events_noted : (journal.noted event state).events = journal.events ++ [event] := by
  simp [Journal.events, Journal.noted]

theorem mem_noted {past : Event} (inside : past ∈ journal.events) :
    past ∈ (journal.noted event state).events := by
  rw [events_noted]
  exact List.mem_append_left [event] inside

theorem last_noted : event ∈ (journal.noted event state).events := by
  rw [events_noted]
  exact List.mem_append_right _ (List.mem_singleton_self event)

theorem lawful_fresh : Lawful law (Journal.fresh state : Journal Event State).entries := by
  intro front event after back whole
  simp [Journal.fresh] at whole

theorem lawful_noted (lawful : Lawful law journal.entries)
    (last : law journal.events event state) : Lawful law (journal.noted event state).entries := by
  intro front past after back whole
  obtain rfl | ⟨shorter, entry, rfl⟩ := List.eq_nil_or_concat back
  · obtain ⟨rfl, same⟩ := List.append_inj' whole rfl
    cases same
    exact last
  · rw [List.concat_eq_append, ← List.cons_append, ← List.append_assoc] at whole
    exact lawful front past after shorter (List.append_inj' whole rfl).1

end Laws

section Rules
variable {journal : Journal Event State} {event : Event} {change : State → State}
  {next : Unit → Method (Journal Event State) Error Next}
  {returned : Next → Journal Event State → Prop} {failed : Error → Journal Event State → Prop}

theorem meets_note {returned : Unit → Journal Event State → Prop}
    (holds : returned () (journal.noted event (change journal.state))) :
    Meets (note event change) journal returned failed := holds

theorem meets_note_bind
    (rest : Meets (next ()) (journal.noted event (change journal.state)) returned failed) :
    Meets (note event change >>= next) journal returned failed := rest

end Rules

end Smiusb.Journals
