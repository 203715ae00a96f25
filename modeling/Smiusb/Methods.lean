import Smiusb.Execution

/-!
Methods that change an object and may fail on the way. However such a call
ends, it leaves an object behind, and the next call starts from that object.
`Meets` is total: a method that panics or does not come back meets nothing.
-/

namespace Smiusb.Methods
open Execution

variable {Object Error Value Next Item : Type}

structure Method (Object Error Value : Type) where
  run : Object → Outcome Error Value × Object

namespace Method

def bind (first : Method Object Error Value) (next : Value → Method Object Error Next) :
    Method Object Error Next where
  run object :=
    match first.run object with
    | (.ok value, after) => (next value).run after
    | (.err error, after) => (.err error, after)
    | (.panicked, after) => (.panicked, after)
    | (.diverged, after) => (.diverged, after)

instance : Monad (Method Object Error) where
  pure value := ⟨fun object => (.ok value, object)⟩
  bind := bind

/-- A computation that does not touch the object. -/
def ofOutcome (call : Outcome Error Value) : Method Object Error Value where
  run object := (call, object)

/-- A check that can only pass or fail. -/
def ofExcept (check : Except Error Value) : Method Object Error Value where
  run object :=
    match check with
    | .ok value => (.ok value, object)
    | .error error => (.err error, object)

def read : Method Object Error Object where
  run object := (.ok object, object)

def modify (change : Object → Object) : Method Object Error Unit where
  run object := (.ok (), change object)

/-- `for item in items`: the body runs once for each item, in order. -/
def forEach (body : Item → Method Object Error Unit) : List Item → Method Object Error Unit
  | [] => pure ()
  | item :: rest => body item >>= fun _ => forEach body rest

/-- `while step()?`, which asks for another round by `true`; a loop that uses
up its budget has not come back. -/
def whileLoop (step : Method Object Error Bool) : Nat → Method Object Error Unit
  | 0 => ofOutcome .diverged
  | budget + 1 => step >>= fun again => if again then whileLoop step budget else pure ()

/-- `for (uint8_t index = 0; index < count; ++index)`, from a given index on. -/
def countLoop (body : UInt8 → Method Object Error Unit) (count : UInt8) :
    Nat → UInt8 → Method Object Error Unit
  | 0, _ => ofOutcome .diverged
  | budget + 1, index =>
      if index < count then body index >>= fun _ => countLoop body count budget (index + 1)
      else pure ()

/-- An element of an array; there is nothing behind its end. -/
def elementAt (items : List Item) (position : Nat) : Method Object Error Item :=
  match items[position]? with
  | some item => pure item
  | none => ofOutcome .panicked

/-- A loop with an 8-bit counter over an array and its 8-bit length. -/
def arrayLoop (body : Item → Method Object Error Unit) (items : List Item) :
    Method Object Error Unit :=
  countLoop (fun index => elementAt items index.toNat >>= body) (UInt8.ofNat items.length)
    UInt8.size 0

theorem run_bind (first : Method Object Error Value) (next : Value → Method Object Error Next)
    (object : Object) :
    (first >>= next).run object =
      match first.run object with
      | (.ok value, after) => (next value).run after
      | (.err error, after) => (.err error, after)
      | (.panicked, after) => (.panicked, after)
      | (.diverged, after) => (.diverged, after) := rfl

theorem run_bind_eq_ok_iff (first : Method Object Error Value)
    (next : Value → Method Object Error Next) (object final : Object) (result : Next) :
    (first >>= next).run object = (.ok result, final) ↔
      ∃ value middle, first.run object = (.ok value, middle) ∧
        (next value).run middle = (.ok result, final) := by
  rw [run_bind]
  split <;> rename_i ended <;> simp [ended, and_assoc]

/-- The counter does not wrap before it meets a bound of its own width. -/
theorem countLoop_eq (body : UInt8 → Method Object Error Unit) (count index : UInt8)
    (left budget : Nat) (ahead : index.toNat + left = count.toNat) (enough : left < budget) :
    countLoop body count budget index =
      forEach (fun position => body (UInt8.ofNat position)) (List.range' index.toNat left) := by
  induction left generalizing index budget with
  | zero =>
      obtain ⟨budget, rfl⟩ := Nat.exists_eq_succ_of_ne_zero (Nat.ne_of_gt enough)
      have reached : ¬ index < count := by
        rw [UInt8.lt_iff_toNat_lt]
        omega
      rw [countLoop, if_neg reached]
      rfl
  | succ left ih =>
      obtain ⟨budget, rfl⟩ := Nat.exists_eq_succ_of_ne_zero (Nat.ne_of_gt (by omega : 0 < budget))
      have below : index < count := by
        rw [UInt8.lt_iff_toNat_lt]
        omega
      have next : (index + 1).toNat = index.toNat + 1 := by
        have room := count.toNat_lt
        rw [UInt8.toNat_add, UInt8.toNat_one, Nat.mod_eq_of_lt (by omega)]
      rw [countLoop, if_pos below, ih (index + 1) budget (by omega) (by omega), next,
        List.range'_succ, forEach, UInt8.ofNat_toNat]

theorem arrayLoop_eq (body : Item → Method Object Error Unit) (items : List Item)
    (fits : items.length < UInt8.size) : arrayLoop body items = forEach body items := by
  have length : (UInt8.ofNat items.length).toNat = items.length :=
    (UInt8.toNat_ofNat').trans (Nat.mod_eq_of_lt fits)
  -- the position is the number of elements before the one that it names
  have onwards : ∀ rest done, items = done ++ rest →
      forEach (fun position => elementAt items (UInt8.ofNat position).toNat >>= body)
        (List.range' done.length rest.length) = forEach body rest := by
    intro rest
    induction rest with
    | nil => exact fun _ _ => rfl
    | cons item rest ih =>
        intro done whole
        have shorter : done.length < UInt8.size := by
          rw [whole, List.length_append] at fits
          omega
        have here : (UInt8.ofNat done.length).toNat = done.length :=
          UInt8.toNat_ofNat'.trans (Nat.mod_eq_of_lt shorter)
        have found : items[done.length]? = some item := by simp [whole]
        have tail := ih (done ++ [item]) (by rw [whole, List.append_assoc]; rfl)
        rw [List.length_append, List.length_singleton] at tail
        rw [List.length_cons, List.range'_succ, forEach, forEach, here, elementAt, found, tail]
        rfl
  rw [arrayLoop, countLoop_eq _ _ 0 items.length _ (by rw [length]; exact Nat.zero_add _) fits]
  exact onwards items [] rfl

end Method

/-- From `object` the method returns with `returned` or fails with `failed`. -/
def Meets (method : Method Object Error Value) (object : Object)
    (returned : Value → Object → Prop) (failed : Error → Object → Prop) : Prop :=
  match method.run object with
  | (.ok value, after) => returned value after
  | (.err error, after) => failed error after
  | (.panicked, _) => False
  | (.diverged, _) => False

section Rules
variable {object : Object} {returned : Next → Object → Prop} {failed : Error → Object → Prop}
  {next : Value → Method Object Error Next}

theorem meets_bind {first : Method Object Error Value} (middle : Value → Object → Prop)
    (start : Meets first object middle failed)
    (rest : ∀ value after, middle value after → Meets (next value) after returned failed) :
    Meets (first >>= next) object returned failed := by
  unfold Meets at start ⊢
  rw [Method.run_bind]
  -- the object that the first method leaves behind is where the second starts
  split at start
  · exact rest _ _ start
  · exact start
  · exact start.elim
  · exact start.elim

theorem meets_outcome {call : Outcome Error Next} (comesBack : call.Returns)
    (value : ∀ value, call = .ok value → returned value object)
    (error : ∀ error, call = .err error → failed error object) :
    Meets (Method.ofOutcome call) object returned failed := by
  cases call with
  | ok found => exact value found rfl
  | err found => exact error found rfl
  | panicked => exact comesBack.elim
  | diverged => exact comesBack.elim

theorem meets_outcome_bind {call : Outcome Error Value} (comesBack : call.Returns)
    (value : ∀ value, call = .ok value → Meets (next value) object returned failed)
    (error : ∀ error, call = .err error → failed error object) :
    Meets (Method.ofOutcome call >>= next) object returned failed := by
  apply meets_bind (fun value after => call = .ok value ∧ after = object)
  · exact meets_outcome comesBack (fun _ found => ⟨found, rfl⟩) error
  · rintro found _ ⟨ended, rfl⟩
    exact value found ended

theorem meets_ok_bind {call : Outcome Error Value} {value : Value} (returns : call = .ok value)
    (rest : Meets (next value) object returned failed) :
    Meets (Method.ofOutcome call >>= next) object returned failed := by
  rw [returns]
  exact rest

theorem meets_except {check : Except Error Next}
    (passes : ∀ value, check = .ok value → returned value object)
    (stops : ∀ error, check = .error error → failed error object) :
    Meets (Method.ofExcept check) object returned failed := by
  cases check with
  | ok value => exact passes value rfl
  | error error => exact stops error rfl

theorem meets_except_bind {check : Except Error Value}
    (passes : ∀ value, check = .ok value → Meets (next value) object returned failed)
    (stops : ∀ error, check = .error error → failed error object) :
    Meets (Method.ofExcept check >>= next) object returned failed := by
  apply meets_bind (fun value after => check = .ok value ∧ after = object)
  · exact meets_except (fun _ found => ⟨found, rfl⟩) stops
  · rintro found _ ⟨passed, rfl⟩
    exact passes found passed

/-- A check that is known to pass. -/
theorem meets_passed_bind {check : Except Error Value} {value : Value} (passed : check = .ok value)
    (rest : Meets (next value) object returned failed) :
    Meets (Method.ofExcept check >>= next) object returned failed := by
  rw [passed]
  exact rest

theorem meets_read_bind {next : Object → Method Object Error Next}
    (rest : Meets (next object) object returned failed) :
    Meets (Method.read >>= next) object returned failed := rest

theorem meets_modify {change : Object → Object} {returned : Unit → Object → Prop}
    (holds : returned () (change object)) :
    Meets (Method.modify change) object returned failed := holds

theorem meets_pure {value : Next} (holds : returned value object) :
    Meets (pure value) object returned failed := holds

/-- A loop over a list: `Inv` speaks about the items whose rounds are done. -/
theorem meets_forEach {body : Item → Method Object Error Unit} (Inv : List Item → Object → Prop)
    (items : List Item) (round : ∀ done item rest object, items = done ++ item :: rest →
      Inv done object → Meets (body item) object (fun _ => Inv (done ++ [item])) failed)
    (initial : Inv [] object) :
    Meets (Method.forEach body items) object (fun _ => Inv items) failed := by
  have onwards : ∀ rest done object, items = done ++ rest → Inv done object →
      Meets (Method.forEach body rest) object (fun _ => Inv items) failed := by
    intro rest
    induction rest with
    | nil =>
        intro done object whole held
        rw [List.append_nil] at whole
        exact meets_pure (whole ▸ held)
    | cons item rest ih =>
        intro done object whole held
        apply meets_bind _ (round done item rest object whole held)
        intro _ after held
        exact ih (done ++ [item]) after (by simpa using whole) held
  exact onwards items [] object rfl initial

theorem meets_forEach_nil_bind {body : Item → Method Object Error Unit}
    {next : Unit → Method Object Error Next} (rest : Meets (next ()) object returned failed) :
    Meets (Method.forEach body [] >>= next) object returned failed := rest

/-- A loop over the numbers below `count`: `Inv` is to hold before the round
of each number. -/
theorem meets_forRange {body : Nat → Method Object Error Unit} (Inv : Nat → Object → Prop)
    (count : Nat) (round : ∀ index object, index < count → Inv index object →
      Meets (body index) object (fun _ => Inv (index + 1)) failed)
    (initial : Inv 0 object) :
    Meets (Method.forEach body (List.range count)) object (fun _ => Inv count) failed := by
  have looped : Meets (Method.forEach body (List.range count)) object
      (fun _ => Inv (List.range count).length) failed := by
    apply meets_forEach (fun done => Inv done.length) (List.range count) _ initial
    intro done item rest object whole held
    -- the item whose round comes after `done` is the number of items in `done`
    have here : (List.range count)[done.length]? = some item := by simp [whole]
    obtain ⟨below, rfl⟩ := List.getElem?_eq_some_iff.mp here
    rw [List.length_append, List.length_singleton, List.getElem_range]
    exact round done.length object (by simpa using below) held
  rwa [List.length_range] at looped

/-- A loop that goes on for a known number of rounds and then stops. -/
theorem meets_whileLoop {step : Method Object Error Bool} (Inv : Nat → Object → Prop)
    (final : Object → Prop) (rounds : Nat)
    (goesOn : ∀ round object, round < rounds → Inv round object →
      Meets step object (fun again after => again = true ∧ Inv (round + 1) after) failed)
    (stops : ∀ object, Inv rounds object →
      Meets step object (fun again after => again = false ∧ final after) failed)
    (initial : Inv 0 object) (budget : Nat) (enough : rounds < budget) :
    Meets (Method.whileLoop step budget) object (fun _ => final) failed := by
  have onwards : ∀ left round budget object, round + left = rounds → left < budget →
      Inv round object → Meets (Method.whileLoop step budget) object (fun _ => final) failed := by
    intro left
    induction left with
    | zero =>
        intro round budget object last enough held
        obtain ⟨budget, rfl⟩ := Nat.exists_eq_succ_of_ne_zero (Nat.ne_of_gt enough)
        have here : round = rounds := last
        apply meets_bind _ (stops object (here ▸ held))
        rintro _ after ⟨rfl, done⟩
        exact meets_pure done
    | succ left ih =>
        intro round budget object more enough held
        obtain ⟨budget, rfl⟩ := Nat.exists_eq_succ_of_ne_zero (Nat.ne_of_gt (by omega : 0 < budget))
        apply meets_bind _ (goesOn round object (by omega) held)
        rintro _ after ⟨rfl, held⟩
        exact ih (round + 1) budget after (by omega) (by omega) held
  exact onwards rounds 0 budget object (Nat.zero_add rounds) enough initial

theorem Meets.weaken {method : Method Object Error Next} {weaker : Next → Object → Prop}
    {softer : Error → Object → Prop} (met : Meets method object returned failed)
    (values : ∀ value after, returned value after → weaker value after)
    (errors : ∀ error after, failed error after → softer error after) :
    Meets method object weaker softer := by
  unfold Meets at met ⊢
  split at met
  · exact values _ _ met
  · exact errors _ _ met
  · exact met.elim
  · exact met.elim

/-- What a method meets, read off its actual result. -/
theorem Meets.elim {method : Method Object Error Next} (met : Meets method object returned failed) :
    (method.run object).1.Returns ∧
      (∀ value, (method.run object).1 = .ok value → returned value (method.run object).2) ∧
      ∀ error, (method.run object).1 = .err error → failed error (method.run object).2 := by
  unfold Meets at met
  split at met
  · rename_i value after ended
    simpa [ended, Outcome.Returns] using met
  · rename_i error after ended
    simpa [ended, Outcome.Returns] using met
  · exact met.elim
  · exact met.elim

/-- What holds however the method ends holds of the object it leaves. -/
theorem Meets.leaves {method : Method Object Error Next} {left : Object → Prop}
    (met : Meets method object (fun _ => left) fun _ => left) : left (method.run object).2 := by
  unfold Meets at met
  split at met
  · rename_i ended
    rwa [ended]
  · rename_i ended
    rwa [ended]
  · exact met.elim
  · exact met.elim

end Rules

/-- The method keeps an invariant of its object, however it ends. -/
def Keeps (invariant : Object → Prop) (method : Method Object Error Value) : Prop :=
  ∀ object, invariant object → Meets method object (fun _ => invariant) fun _ => invariant

section Invariants
variable {invariant : Object → Prop} {next : Value → Method Object Error Next}

theorem keeps_pure (value : Value) :
    Keeps invariant (pure value : Method Object Error Value) :=
  fun _ held => meets_pure held

theorem keeps_bind {first : Method Object Error Value} (start : Keeps invariant first)
    (rest : ∀ value, Keeps invariant (next value)) : Keeps invariant (first >>= next) :=
  fun object held => meets_bind _ (start object held) rest

theorem keeps_except (check : Except Error Value) :
    Keeps invariant (Method.ofExcept check : Method Object Error Value) :=
  fun _ held => meets_except (fun _ _ => held) fun _ _ => held

/-- What follows may use that the check passed. -/
theorem keeps_except_bind {check : Except Error Value}
    (passes : ∀ value, check = .ok value → Keeps invariant (next value)) :
    Keeps invariant (Method.ofExcept check >>= next) :=
  fun object held => meets_except_bind (fun value passed => passes value passed object held)
    fun _ _ => held

theorem keeps_read_bind {next : Object → Method Object Error Next}
    (rest : ∀ object, Keeps invariant (next object)) : Keeps invariant (Method.read >>= next) :=
  fun object held => meets_read_bind (rest object object held)

theorem keeps_forEach {body : Item → Method Object Error Unit} (items : List Item)
    (each : ∀ item, Keeps invariant (body item)) : Keeps invariant (Method.forEach body items) :=
  fun _ held => meets_forEach (fun _ => invariant) items
    (fun _ item _ object _ sofar => each item object sofar) held

end Invariants

end Smiusb.Methods
