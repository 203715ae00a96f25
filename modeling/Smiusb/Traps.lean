import Smiusb.Methods

/-!
Scripts that stop at the first command that fails, with a handler for signals
and for the end of the script. What a command does may depend on the time, the
number of commands before it. Signals that arrive while a command runs are
handled before the next command, and the script goes on after the handler.
`Ensures` leaves the time out: it is a triple with a second postcondition for
the scripts that stop.
-/

namespace Smiusb.Traps
open Execution Methods

variable {State Error Value Next : Type}

structure Timed (State : Type) where
  state : State
  clock : Nat

abbrev Script (State Error Value : Type) := Method (Timed State) Error Value

namespace Script

def current : Script State Error State where
  run timed := (.ok timed.state, timed)

def fail (error : Error) : Script State Error Value := Method.ofExcept (.error error)

/-- The handler runs once for each signal. -/
def handled (trap : Script State Error Unit) : Nat → Script State Error Unit
  | 0 => pure ()
  | pending + 1 => trap >>= fun _ => handled trap pending

def act (deed : Nat → State → Value × State) : Script State Error (Value × Nat) where
  run timed :=
    (.ok ((deed timed.clock timed.state).1, timed.clock),
      ⟨(deed timed.clock timed.state).2, timed.clock + 1⟩)

/-- A command whose status the script does not look at, or looks at itself. -/
def step (signals : Nat → Nat) (trap : Script State Error Unit)
    (deed : Nat → State → Value × State) : Script State Error Value := do
  let (value, time) ← act deed
  handled trap (signals time)
  pure value

/-- A command whose failure ends the script. -/
def command (signals : Nat → Nat) (trap : Script State Error Unit) (error : Error)
    (deed : Nat → State → Option Value × State) : Script State Error Value := do
  match ← step signals trap deed with
  | some value => pure value
  | none => fail error

/-- However the body ends, the handler runs behind it. A handler that fails
decides how the script ends. -/
def onExit (trap : Script State Error Unit) (body : Script State Error Value) :
    Script State Error Value where
  run timed :=
    match body.run timed with
    | (.ok value, after) => (trap >>= fun _ => pure value).run after
    | (.err error, after) => (trap >>= fun _ => fail error).run after
    | ended => ended

end Script

/-- From a state with `before` the script comes back with `after`, or it stops
in a state with `failed`. -/
def Ensures (script : Script State Error Value) (before : State → Prop)
    (after : Value → State → Prop) (failed : State → Prop) : Prop :=
  ∀ timed, before timed.state →
    Meets script timed (fun value later => after value later.state) fun _ later =>
      failed later.state

section Rules
open Script
variable {before failed : State → Prop} {after : Next → State → Prop}
  {trap : Script State Error Unit} {signals : Nat → Nat}

theorem ensures_bind {first : Script State Error Value} {next : Value → Script State Error Next}
    (middle : Value → State → Prop) (start : Ensures first before middle failed)
    (rest : ∀ value, Ensures (next value) (middle value) after failed) :
    Ensures (first >>= next) before after failed :=
  fun timed held => meets_bind _ (start timed held) fun value later reached =>
    rest value later reached

theorem ensures_pure {value : Next} (holds : ∀ state, before state → after value state) :
    Ensures (pure value : Script State Error Next) before after failed :=
  fun timed held => meets_pure (holds timed.state held)

theorem ensures_fail {error : Error} (holds : ∀ state, before state → failed state) :
    Ensures (fail error : Script State Error Next) before after failed :=
  fun timed held => holds timed.state held

theorem ensures_current_bind {next : State → Script State Error Next}
    (rest : ∀ state, before state → Ensures (next state) (· = state) after failed) :
    Ensures (current >>= next) before after failed :=
  fun timed held => rest timed.state held timed rfl

theorem Ensures.weaken {script : Script State Error Next} {stronger : State → Prop}
    {weaker : Next → State → Prop} {softer : State → Prop}
    (ensured : Ensures script before after failed) (start : ∀ state, stronger state → before state)
    (returned : ∀ value state, after value state → weaker value state)
    (stopped : ∀ state, failed state → softer state) : Ensures script stronger weaker softer :=
  fun timed held => (ensured timed (start timed.state held)).weaken
    (fun value later => returned value later.state) fun _ later => stopped later.state

theorem ensures_exists {Choice : Type} {script : Script State Error Next}
    {starts : Choice → State → Prop}
    (each : ∀ choice, Ensures script (starts choice) after failed) :
    Ensures script (fun state => ∃ choice, starts choice state) after failed :=
  fun timed held => held.elim fun choice start => each choice timed start

theorem ensures_fact {script : Script State Error Next} {fact : Prop}
    (known : fact → Ensures script before after failed) :
    Ensures script (fun state => before state ∧ fact) after failed :=
  fun timed held => known held.2 timed held.1

/-- What does not depend on the state stays true. -/
theorem Ensures.frame {script : Script State Error Next}
    (ensured : Ensures script before after failed) (fact : Prop) :
    Ensures script (fun state => before state ∧ fact) (fun value state => after value state ∧ fact)
      failed :=
  fun timed held => (ensured timed held.1).weaken (fun _ _ reached => ⟨reached, held.2⟩)
    fun _ _ reached => reached

theorem ensures_handled {kept : State → Prop} (keeps : Ensures trap kept (fun _ => kept) failed)
    (pending : Nat) : Ensures (handled trap pending) kept (fun _ => kept) failed := by
  induction pending with
  | zero => exact ensures_pure fun _ held => held
  | succ pending ih => exact ensures_bind _ keeps fun _ => ih

/-- What a command brings about has to survive the handler. -/
theorem ensures_step {deed : Nat → State → Next × State}
    (done : ∀ time state, before state → after (deed time state).1 (deed time state).2)
    (keeps : ∀ value, Ensures trap (after value) (fun _ => after value) failed) :
    Ensures (step signals trap deed) before after failed := by
  intro timed held
  have handling := ensures_handled (keeps (deed timed.clock timed.state).1)
    (signals timed.clock) ⟨(deed timed.clock timed.state).2, timed.clock + 1⟩
    (done timed.clock timed.state held)
  change Meets
    (handled trap (signals timed.clock) >>= fun _ => pure (deed timed.clock timed.state).1)
    ⟨(deed timed.clock timed.state).2, timed.clock + 1⟩ _ _
  exact meets_bind _ handling fun _ later reached => meets_pure reached

/-- `stopped` is what holds when the command has failed. -/
theorem ensures_command {error : Error} {deed : Nat → State → Option Next × State}
    (stopped : State → Prop)
    (done : ∀ time state, before state →
      (deed time state).1.elim stopped after (deed time state).2)
    (keeps : ∀ value, Ensures trap (after value) (fun _ => after value) failed)
    (keepsStopped : Ensures trap stopped (fun _ => stopped) failed)
    (fails : ∀ state, stopped state → failed state) :
    Ensures (command signals trap error deed) before after failed := by
  apply ensures_bind fun answer => answer.elim stopped after
  · apply ensures_step done
    intro answer
    cases answer with
    | none => exact keepsStopped
    | some value => exact keeps value
  · intro answer
    cases answer with
    | none => exact ensures_fail fails
    | some value => exact ensures_pure fun _ held => held

theorem ensures_onExit {body : Script State Error Next} {ended : Next → State → Prop}
    {broken : State → Prop} (ran : Ensures body before ended broken)
    (returned : ∀ value, Ensures trap (ended value) (fun _ => after value) failed)
    (stopped : Ensures trap broken (fun _ => failed) failed) :
    Ensures (onExit trap body) before after failed := by
  intro timed held
  have met := ran timed held
  unfold Meets at met
  unfold onExit Meets
  split at met
  · rename_i value later finished
    simp only [finished]
    exact meets_bind _ (returned value later met) fun _ _ reached => meets_pure reached
  · rename_i error later finished
    simp only [finished]
    exact meets_bind _ (stopped later met) fun _ _ reached => reached
  · exact met.elim
  · exact met.elim

end Rules

end Smiusb.Traps
