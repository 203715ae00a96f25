import Mathlib.Data.List.Basic
import Mathlib.Logic.Function.Basic

/-!
Lists that differ in exactly one place, and folds that notice it. A fold
notices when each step loses neither the state nor the item: the change
survives the step that reads it and every step behind it.
-/

namespace Smiusb.SingleChange

variable {State Item : Type}

/-- Equally long lists with exactly one position at which they differ. -/
def DifferOnce (one other : List Item) : Prop :=
  one.length = other.length ∧ ∃ position : Nat, one[position]? ≠ other[position]? ∧
    ∀ elsewhere, elsewhere ≠ position → one[elsewhere]? = other[elsewhere]?

section Splits
variable {one other : List Item}

/-- The items around the place of the change. -/
theorem differ_once_split (differ : DifferOnce one other) :
    ∃ front first second back, one = front ++ first :: back ∧ other = front ++ second :: back ∧
      first ≠ second := by
  obtain ⟨length, position, changed, same⟩ := differ
  induction one generalizing other position with
  | nil =>
      rw [List.length_nil, eq_comm, List.length_eq_zero_iff] at length
      exact absurd (by rw [length]) changed
  | cons first rest ih =>
      cases other with
      | nil => exact absurd length (by simp)
      | cons second rest' =>
          have lengths : rest.length = rest'.length := Nat.succ.inj length
          cases position with
          | zero =>
              refine ⟨[], first, second, rest, rfl, ?_, by simpa using changed⟩
              -- everything behind the first items agrees
              have tail : rest = rest' := by
                apply List.ext_getElem?
                intro position
                simpa using same (position + 1) (Nat.succ_ne_zero position)
              rw [tail]
              rfl
          | succ position =>
              have head : first = second := by
                simpa using same 0 (Nat.succ_ne_zero position).symm
              have deeper : ∀ elsewhere, elsewhere ≠ position →
                  rest[elsewhere]? = rest'[elsewhere]? := by
                intro elsewhere apart
                simpa using same (elsewhere + 1) (fun equal => apart (Nat.succ.inj equal))
              obtain ⟨front, one, other, back, rfl, rfl, apart⟩ :=
                ih lengths position (by simpa using changed) deeper
              exact ⟨first :: front, one, other, back, rfl, by rw [head]; rfl, apart⟩

theorem getElem?_append_add (front back : List Item) (offset : Nat) :
    (front ++ back)[front.length + offset]? = back[offset]? := by
  rw [List.getElem?_append_right (Nat.le_add_right _ _), Nat.add_sub_cancel_left]

theorem differ_once_append_left (front : List Item) (differ : DifferOnce one other) :
    DifferOnce (front ++ one) (front ++ other) := by
  obtain ⟨length, position, changed, same⟩ := differ
  refine ⟨by simp [length], front.length + position, ?_, ?_⟩
  · rw [getElem?_append_add, getElem?_append_add]
    exact changed
  · intro elsewhere apart
    by_cases inside : elsewhere < front.length
    · rw [List.getElem?_append_left inside, List.getElem?_append_left inside]
    · obtain ⟨offset, rfl⟩ := Nat.exists_eq_add_of_le (Nat.le_of_not_lt inside)
      rw [getElem?_append_add, getElem?_append_add]
      exact same offset (fun equal => apart (by rw [equal]))

theorem differ_once_append_right (back : List Item) (differ : DifferOnce one other) :
    DifferOnce (one ++ back) (other ++ back) := by
  obtain ⟨length, position, changed, same⟩ := differ
  have inside : position < one.length := by
    by_contra outside
    rw [List.getElem?_eq_none (Nat.le_of_not_lt outside),
      List.getElem?_eq_none (by rw [← length]; exact Nat.le_of_not_lt outside)] at changed
    exact changed rfl
  refine ⟨by simp [length], position, ?_, ?_⟩
  · rw [List.getElem?_append_left inside,
      List.getElem?_append_left (by rw [← length]; exact inside)]
    exact changed
  · intro elsewhere apart
    rw [List.getElem?_append, List.getElem?_append, length, same elsewhere apart]

end Splits

section Folds
variable {step : State → Item → State}

theorem foldl_injective (keepsState : ∀ item, Function.Injective fun state => step state item)
    (items : List Item) : Function.Injective fun state => items.foldl step state := by
  induction items with
  | nil => exact Function.injective_id
  | cons item rest ih =>
      intro one other same
      exact keepsState item (ih same)

/-- One changed item changes the result, however long the lists are. -/
theorem foldl_detects (keepsState : ∀ item, Function.Injective fun state => step state item)
    (keepsItem : ∀ state, Function.Injective (step state)) (start : State)
    {one other : List Item} (differ : DifferOnce one other) :
    one.foldl step start ≠ other.foldl step start := by
  obtain ⟨front, first, second, back, rfl, rfl, apart⟩ := differ_once_split differ
  rw [List.foldl_append, List.foldl_append, List.foldl_cons, List.foldl_cons]
  intro same
  exact apart (keepsItem _ (foldl_injective keepsState back same))

end Folds

end Smiusb.SingleChange
