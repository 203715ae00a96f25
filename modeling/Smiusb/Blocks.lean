import Mathlib.Algebra.Ring.Nat
import Mathlib.Data.List.Basic
import Smiusb.Execution

/-!
Buffers made of blocks of one size, and loops that fill them from left to
right. Nothing here depends on what the blocks hold.
-/

namespace Smiusb.Blocks
open Execution

variable {Item Error : Type}

/-- The blocks with numbers below `count`, laid end to end. -/
def blocks (block : Nat → List Item) (count : Nat) : List Item := (List.range count).flatMap block

section Contents
variable {block : Nat → List Item} {size count : Nat}

theorem blocks_succ (block : Nat → List Item) (count : Nat) :
    blocks block (count + 1) = blocks block count ++ block count := by
  simp [blocks, List.range_succ]

theorem length_blocks (count : Nat) (each : ∀ index, index < count → (block index).length = size) :
    (blocks block count).length = count * size := by
  induction count with
  | zero => rw [Nat.zero_mul]; rfl
  | succ count ih =>
      rw [blocks_succ, List.length_append, each count (Nat.lt_succ_self count), Nat.succ_mul,
        ih fun index inside => each index (Nat.lt_succ_of_lt inside)]

/-- The block with a number is found at its number times the size. -/
theorem take_block (each : ∀ index, index < count → (block index).length = size) (index : Nat)
    (inside : index < count) :
    ((blocks block count).drop (index * size)).take size = block index := by
  induction count with
  | zero => exact absurd inside (Nat.not_lt_zero index)
  | succ count ih =>
      have earlier : ∀ index, index < count → (block index).length = size :=
        fun index inside => each index (Nat.lt_succ_of_lt inside)
      have front := length_blocks count earlier
      rw [blocks_succ]
      rcases Nat.lt_or_eq_of_le (Nat.le_of_lt_succ inside) with below | rfl
      · -- an earlier block ends before the last one begins
        have whole : index * size + size ≤ count * size := by
          rw [← Nat.succ_mul]
          exact Nat.mul_le_mul_right size below
        rw [List.drop_append_of_le_length (by omega), List.take_append_of_le_length
          (by rw [List.length_drop]; omega)]
        exact ih earlier below
      · rw [← front, List.drop_left, List.take_of_length_le]
        exact Nat.le_of_eq (each index inside)

/-- A loop whose body overwrites one block and leaves the rest alone replaces
the whole run of blocks. -/
theorem forRange_fill (body : Nat → List Item → Outcome Error (List Item))
    (each : ∀ index, index < count → (block index).length = size) (before old after : List Item)
    (room : old.length = count * size)
    (writes : ∀ index, index < count → ∀ front slot rest,
      front.length = before.length + index * size → slot.length = size →
      body index (front ++ (slot ++ rest)) = .ok (front ++ (block index ++ rest))) :
    forRange body count (before ++ (old ++ after)) =
      .ok (before ++ (blocks block count ++ after)) := by
  -- the blocks written so far, then what is left of the old contents
  have filled := forRange_eq body
    (fun index => before ++ (blocks block index ++ (old.drop (index * size) ++ after))) count ?_
  · simpa [blocks, List.drop_of_length_le (Nat.le_of_eq room)] using filled
  · intro index inside
    have earlier := length_blocks index fun other below =>
      each other (Nat.lt_trans below inside)
    have whole : index * size + size ≤ old.length := by
      rw [room, ← Nat.succ_mul]
      exact Nat.mul_le_mul_right size inside
    have slot : ((old.drop (index * size)).take size).length = size := by
      rw [List.length_take, List.length_drop]
      omega
    have written := writes index inside (before ++ blocks block index)
      ((old.drop (index * size)).take size) (old.drop (index * size + size) ++ after)
      (by rw [List.length_append, earlier]) slot
    have split : old.drop (index * size) =
        (old.drop (index * size)).take size ++ old.drop (index * size + size) := by
      rw [← List.drop_drop, List.take_append_drop]
    rw [blocks_succ, Nat.succ_mul, split]
    simp only [List.append_assoc] at written ⊢
    exact written

end Contents

end Smiusb.Blocks
