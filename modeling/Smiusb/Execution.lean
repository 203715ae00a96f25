import Mathlib.Logic.Basic

/-!
Outcomes of total, checked computations and of loops over them. A computation
returns a value, returns a declared error, panics, or does not come back; the
last two are values here, so that their absence can be stated and proved.
A loop runs under an explicit iteration budget. Exhausting the budget is the
`diverged` outcome, never a verdict, and every result below is independent of
the budget once it suffices.
-/

namespace Smiusb.Execution

inductive Outcome (Error Value : Type) where
  | ok (value : Value)
  | err (error : Error)
  | panicked
  | diverged
  deriving DecidableEq, Repr

variable {Error Value Next State : Type}

namespace Outcome

def bind : Outcome Error Value → (Value → Outcome Error Next) → Outcome Error Next
  | .ok value, next => next value
  | .err error, _ => .err error
  | .panicked, _ => .panicked
  | .diverged, _ => .diverged

instance : Monad (Outcome Error) where
  pure := .ok
  bind := bind

/-- The computation came back, with a value or with a declared error. -/
def Returns : Outcome Error Value → Prop
  | .ok _ => True
  | .err _ => True
  | .panicked => False
  | .diverged => False

def mapError {Other : Type} (convert : Error → Other) : Outcome Error Value → Outcome Other Value
  | .ok value => .ok value
  | .err error => .err (convert error)
  | .panicked => .panicked
  | .diverged => .diverged

@[simp] theorem ok_bind (value : Value) (next : Value → Outcome Error Next) :
    (Outcome.ok value >>= next) = next value := rfl

@[simp] theorem err_bind (error : Error) (next : Value → Outcome Error Next) :
    (Outcome.err error >>= next) = .err error := rfl

@[simp] theorem panicked_bind (next : Value → Outcome Error Next) :
    ((Outcome.panicked : Outcome Error Value) >>= next) = .panicked := rfl

@[simp] theorem diverged_bind (next : Value → Outcome Error Next) :
    ((Outcome.diverged : Outcome Error Value) >>= next) = .diverged := rfl

theorem bind_eq_ok_iff (first : Outcome Error Value) (next : Value → Outcome Error Next)
    (result : Next) :
    (first >>= next) = .ok result ↔ ∃ value, first = .ok value ∧ next value = .ok result := by
  cases first <;> simp

theorem returns_cases {call : Outcome Error Value} (comesBack : call.Returns) :
    (∃ value, call = .ok value) ∨ ∃ error, call = .err error := by
  cases call with
  | ok value => exact .inl ⟨value, rfl⟩
  | err error => exact .inr ⟨error, rfl⟩
  | panicked => exact comesBack.elim
  | diverged => exact comesBack.elim

/-- Sequencing keeps any property of outcomes that the error, panic and
divergence of the first computation already have. -/
theorem bind_rule (Post : Outcome Error Next → Prop) (first : Outcome Error Value)
    (next : Value → Outcome Error Next)
    (value : ∀ value, first = .ok value → Post (next value))
    (error : ∀ error, first = .err error → Post (.err error))
    (comesBack : first.Returns) : Post (first >>= next) := by
  cases first with
  | ok found => exact value found rfl
  | err found => exact error found rfl
  | panicked => exact comesBack.elim
  | diverged => exact comesBack.elim

theorem returns_bind {first : Outcome Error Value} {next : Value → Outcome Error Next}
    (comesBack : first.Returns) (each : ∀ value, first = .ok value → (next value).Returns) :
    (first >>= next).Returns :=
  bind_rule Returns first next each (fun _ _ => trivial) comesBack

theorem returns_mapError {Other : Type} (convert : Error → Other)
    (outcome : Outcome Error Value) :
    (outcome.mapError convert).Returns ↔ outcome.Returns := by
  cases outcome <;> rfl

theorem mapError_eq_ok_iff {Other : Type} (convert : Error → Other)
    (outcome : Outcome Error Value) (value : Value) :
    outcome.mapError convert = .ok value ↔ outcome = .ok value := by
  cases outcome <;> simp [mapError]

end Outcome

/-- An absent value becomes the declared error. -/
def okOr (found : Option Value) (error : Error) : Outcome Error Value :=
  match found with
  | some value => .ok value
  | none => .err error

@[simp] theorem okOr_some (value : Value) (error : Error) :
    okOr (some value) error = .ok value := rfl

@[simp] theorem okOr_none (error : Error) :
    (okOr none error : Outcome Error Value) = .err error := rfl

theorem okOr_returns (found : Option Value) (error : Error) : (okOr found error).Returns := by
  cases found <;> trivial

theorem okOr_eq_ok_iff (found : Option Value) (error : Error) (value : Value) :
    okOr found error = .ok value ↔ found = some value := by
  cases found <;> simp

/-- One iteration either asks for another from a new state or leaves the loop. -/
inductive ControlFlow (State Value : Type) where
  | again (state : State)
  | done (value : Value)
  deriving DecidableEq, Repr

def loop (step : State → Outcome Error (ControlFlow State Value)) :
    Nat → State → Outcome Error Value
  | 0, _ => .diverged
  | budget + 1, state =>
      match step state with
      | .ok (.again next) => loop step budget next
      | .ok (.done value) => .ok value
      | .err error => .err error
      | .panicked => .panicked
      | .diverged => .diverged

section Loops
variable (step : State → Outcome Error (ControlFlow State Value))

theorem loop_again (budget : Nat) (state next : State) (advance : step state = .ok (.again next)) :
    loop step (budget + 1) state = loop step budget next := by
  simp [loop, advance]

/-- What an iteration that does not ask for another makes of the loop. -/
theorem loop_done (budget : Nat) (state : State) (value : Value)
    (finish : step state = .ok (.done value)) : loop step (budget + 1) state = .ok value := by
  simp [loop, finish]

theorem loop_err (budget : Nat) (state : State) (error : Error)
    (fail : step state = .err error) : loop step (budget + 1) state = .err error := by
  simp [loop, fail]

theorem loop_congr (budget : Nat) (left right : State) (same : step left = step right) :
    loop step budget left = loop step budget right := by
  cases budget with
  | zero => rfl
  | succ budget => simp only [loop, same]

theorem loop_more_budget (budget extra : Nat) (state : State)
    (settled : loop step budget state ≠ .diverged) :
    loop step (budget + extra) state = loop step budget state := by
  induction budget generalizing state with
  | zero => exact absurd rfl settled
  | succ budget ih =>
      rw [Nat.add_right_comm]
      simp only [loop] at settled ⊢
      cases advance : step state with
      | ok flow =>
          cases flow with
          | again next =>
              simp only [advance] at settled
              exact ih next settled
          | done value => rfl
      | err error => rfl
      | panicked => rfl
      | diverged => rfl

/-- What one iteration owes to the loop rule: either it leaves the loop with an
acceptable outcome, or it keeps the invariant and lowers the rank. -/
def Iteration (Inv : State → Prop) (rank : State → Nat) (Post : Outcome Error Value → Prop)
    (before : State) : Outcome Error (ControlFlow State Value) → Prop
  | .ok (.again next) => Inv next ∧ rank next < rank before
  | .ok (.done value) => Post (.ok value)
  | .err error => Post (.err error)
  | .panicked => Post .panicked
  | .diverged => Post .diverged

/-- Total correctness: a ranked invariant carries every run inside its budget
to an outcome of the postcondition, without ever exhausting the budget. -/
theorem loop_rule (Inv : State → Prop) (rank : State → Nat)
    (Post : Outcome Error Value → Prop)
    (iteration : ∀ state, Inv state → Iteration Inv rank Post state (step state))
    (budget : Nat) (state : State) (initial : Inv state) (enough : rank state < budget) :
    Post (loop step budget state) := by
  -- the rank bounds the iterations left, so the budget outlasts it
  induction budget generalizing state with
  | zero => omega
  | succ budget ih =>
      have owed := iteration state initial
      simp only [loop]
      cases advance : step state with
      | ok flow =>
          rw [advance] at owed
          cases flow with
          | again next =>
              obtain ⟨kept, lower⟩ := owed
              exact ih next kept (by omega)
          | done value => exact owed
      | err error => rw [advance] at owed; exact owed
      | panicked => rw [advance] at owed; exact owed
      | diverged => rw [advance] at owed; exact owed

/-- An iteration comes back, and one that asks for another has moved on
without passing the limit. -/
def Advances (position : State → Nat) (limit : Nat) (state : State) : Prop :=
  (step state).Returns ∧
    ∀ next, step state = .ok (.again next) → position state < position next ∧ position next ≤ limit

/-- A loop that advances below a limit comes back, and more budget would not
change what it comes back with. -/
theorem loop_advancing (position : State → Nat) (limit : Nat)
    (advances : ∀ state, position state ≤ limit → Advances step position limit state)
    (budget : Nat) (state : State) (inside : position state ≤ limit)
    (enough : limit - position state < budget) :
    (loop step budget state).Returns ∧
      ∀ extra, loop step (budget + extra) state = loop step budget state := by
  have comesBack : (loop step budget state).Returns := by
    apply loop_rule step (fun state => position state ≤ limit) (fun state => limit - position state)
      Outcome.Returns _ budget state inside enough
    intro state inside
    obtain ⟨returns, moves⟩ := advances state inside
    cases result : step state with
    | ok flow =>
        cases flow with
        | again next =>
            obtain ⟨further, below⟩ := moves next result
            refine ⟨below, ?_⟩
            dsimp only
            omega
        | done value => trivial
    | err error => trivial
    | panicked => simp [result, Outcome.Returns] at returns
    | diverged => simp [result, Outcome.Returns] at returns
  refine ⟨comesBack, ?_⟩
  intro extra
  apply loop_more_budget
  intro diverged
  rw [diverged] at comesBack
  exact comesBack

end Loops

/-- `for index in 0..count`: the body runs once for each index, in order. -/
def forRange (body : Nat → State → Outcome Error State) : Nat → State → Outcome Error State
  | 0, state => .ok state
  | count + 1, state => forRange body count state >>= body count

/-- A loop whose state after each iteration is known. -/
theorem forRange_eq (body : Nat → State → Outcome Error State) (after : Nat → State) (count : Nat)
    (step : ∀ index, index < count → body index (after index) = .ok (after (index + 1))) :
    forRange body count (after 0) = .ok (after count) := by
  induction count with
  | zero => rfl
  | succ count ih =>
      have before := ih fun index inside => step index (Nat.lt_succ_of_lt inside)
      rw [forRange, before, Outcome.ok_bind, step count (Nat.lt_succ_self count)]

end Smiusb.Execution
