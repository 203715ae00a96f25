import Mathlib.Algebra.Ring.Nat
import Mathlib.Data.List.Basic
import Smiusb.Execution

/-!
Byte slices and machine words of a Rust target. Addresses and lengths are
naturals with an explicit upper end: `checkedAdd` refuses what the target
cannot represent and `plus` panics on it. Slicing and indexing panic outside
the slice. No allocation exceeds `isizeMax` bytes, which a `Slice` carries.
-/

namespace Smiusb.Bytes
open Execution

inductive Target where
  | bits32
  | bits64
  deriving DecidableEq, Repr

def Target.usizeMax : Target → Nat
  | .bits32 => 2 ^ 32 - 1
  | .bits64 => 2 ^ 64 - 1

def Target.isizeMax : Target → Nat
  | .bits32 => 2 ^ 31 - 1
  | .bits64 => 2 ^ 63 - 1

structure Slice (target : Target) where
  bytes : List UInt8
  fits : bytes.length ≤ target.isizeMax

/-- Any length and any 16-bit quantity, or a few of them, still add up. -/
theorem isize_headroom (target : Target) : target.isizeMax + 2 ^ 20 ≤ target.usizeMax := by
  cases target <;> decide

theorem word_fits_usize (target : Target) (word : UInt32) : word.toNat ≤ target.usizeMax := by
  have bound := word.toNat_lt
  cases target <;> simp only [Target.usizeMax] <;> omega

variable {Error : Type}

def checkedAdd (target : Target) (left right : Nat) : Option Nat :=
  if left + right ≤ target.usizeMax then some (left + right) else none

def checkedMul (target : Target) (left right : Nat) : Option Nat :=
  if left * right ≤ target.usizeMax then some (left * right) else none

/-- The plain `+` of a build with overflow checks. -/
def plus (target : Target) (left right : Nat) : Outcome Error Nat :=
  if left + right ≤ target.usizeMax then .ok (left + right) else .panicked

/-- The plain `-`, `*`, `/` and `%` of the same build. -/
def minus (left right : Nat) : Outcome Error Nat :=
  if right ≤ left then .ok (left - right) else .panicked

def times (limit left right : Nat) : Outcome Error Nat :=
  if left * right ≤ limit then .ok (left * right) else .panicked

def divide (left right : Nat) : Outcome Error Nat :=
  if right = 0 then .panicked else .ok (left / right)

def remainder (left right : Nat) : Outcome Error Nat :=
  if right = 0 then .panicked else .ok (left % right)

def index (bytes : List UInt8) (position : Nat) : Outcome Error UInt8 :=
  match bytes[position]? with
  | some byte => .ok byte
  | none => .panicked

def sliceFrom (bytes : List UInt8) (start : Nat) : Outcome Error (List UInt8) :=
  if start ≤ bytes.length then .ok (bytes.drop start) else .panicked

def sliceRange (bytes : List UInt8) (start stop : Nat) : Outcome Error (List UInt8) :=
  if start ≤ stop ∧ stop ≤ bytes.length then .ok ((bytes.drop start).take (stop - start))
  else .panicked

/-- `buffer[start..stop].copy_from_slice(source)`. -/
def copyFromSlice (buffer : List UInt8) (start stop : Nat) (source : List UInt8) :
    Outcome Error (List UInt8) :=
  if start ≤ stop ∧ stop ≤ buffer.length ∧ source.length = stop - start then
    .ok (buffer.take start ++ source ++ buffer.drop stop)
  else .panicked

/-- `buffer[position] = byte`. -/
def setIndex (buffer : List UInt8) (position : Nat) (byte : UInt8) : Outcome Error (List UInt8) :=
  if position < buffer.length then .ok (buffer.set position byte) else .panicked

theorem checkedAdd_some (target : Target) (left right : Nat)
    (room : left + right ≤ target.usizeMax) :
    checkedAdd target left right = some (left + right) := by
  simp [checkedAdd, room]

theorem checkedMul_some (target : Target) (left right : Nat)
    (room : left * right ≤ target.usizeMax) :
    checkedMul target left right = some (left * right) := by
  simp [checkedMul, room]

theorem plus_ok (target : Target) (left right : Nat) (room : left + right ≤ target.usizeMax) :
    (plus target left right : Outcome Error Nat) = .ok (left + right) := by
  simp [plus, room]

theorem minus_ok (left right : Nat) (order : right ≤ left) :
    (minus left right : Outcome Error Nat) = .ok (left - right) := by
  simp [minus, order]

theorem times_ok (limit left right : Nat) (room : left * right ≤ limit) :
    (times limit left right : Outcome Error Nat) = .ok (left * right) := by
  simp [times, room]

theorem divide_ok (left right : Nat) (positive : 0 < right) :
    (divide left right : Outcome Error Nat) = .ok (left / right) := by
  simp [divide, Nat.ne_of_gt positive]

theorem remainder_ok (left right : Nat) (positive : 0 < right) :
    (remainder left right : Outcome Error Nat) = .ok (left % right) := by
  simp [remainder, Nat.ne_of_gt positive]

theorem index_ok (bytes : List UInt8) (position : Nat) (inside : position < bytes.length) :
    (index bytes position : Outcome Error UInt8) = .ok bytes[position] := by
  simp [index, inside]

theorem sliceFrom_ok (bytes : List UInt8) (start : Nat) (inside : start ≤ bytes.length) :
    (sliceFrom bytes start : Outcome Error (List UInt8)) = .ok (bytes.drop start) := by
  simp [sliceFrom, inside]

theorem sliceRange_ok (bytes : List UInt8) (start stop : Nat) (order : start ≤ stop)
    (inside : stop ≤ bytes.length) :
    (sliceRange bytes start stop : Outcome Error (List UInt8)) =
      .ok ((bytes.drop start).take (stop - start)) := by
  simp [sliceRange, order, inside]

/-- Overwriting a part of the buffer by a part of the same length. -/
theorem copyFromSlice_ok (before old source after : List UInt8) {start stop : Nat}
    (starts : start = before.length) (stops : stop = start + old.length)
    (same : source.length = old.length) :
    (copyFromSlice (before ++ (old ++ after)) start stop source : Outcome Error (List UInt8)) =
      .ok (before ++ (source ++ after)) := by
  subst starts stops
  unfold copyFromSlice
  rw [if_pos (by simp [same]), List.take_left, ← List.drop_drop, List.drop_left, List.drop_left,
    List.append_assoc]

theorem setIndex_ok (before after : List UInt8) (old byte : UInt8) {position : Nat}
    (starts : position = before.length) :
    (setIndex (before ++ old :: after) position byte : Outcome Error (List UInt8)) =
      .ok (before ++ byte :: after) := by
  subst starts
  unfold setIndex
  rw [if_pos (by simp)]
  simp

theorem take_four (bytes : List UInt8) (start : Nat) (inside : start + 4 ≤ bytes.length) :
    (bytes.drop start).take 4 =
      [bytes[start], bytes[start + 1], bytes[start + 2], bytes[start + 3]] := by
  rw [List.drop_eq_getElem_cons (by omega), List.drop_eq_getElem_cons (by omega),
    List.drop_eq_getElem_cons (by omega), List.drop_eq_getElem_cons (by omega)]
  rfl

theorem take_two (bytes : List UInt8) (start : Nat) (inside : start + 2 ≤ bytes.length) :
    (bytes.drop start).take 2 = [bytes[start], bytes[start + 1]] := by
  rw [List.drop_eq_getElem_cons (by omega), List.drop_eq_getElem_cons (by omega)]
  rfl

/-! Fixed-width words in the two byte orders. -/

def fromBe16 (high low : UInt8) : UInt16 :=
  UInt16.ofNat (2 ^ 8 * high.toNat + low.toNat)

def fromLe32 (b0 b1 b2 b3 : UInt8) : UInt32 :=
  UInt32.ofNat (b0.toNat + 2 ^ 8 * b1.toNat + 2 ^ 16 * b2.toNat + 2 ^ 24 * b3.toNat)

def toLe32 (word : UInt32) : List UInt8 :=
  [UInt8.ofNat word.toNat, UInt8.ofNat (word.toNat / 2 ^ 8), UInt8.ofNat (word.toNat / 2 ^ 16),
    UInt8.ofNat (word.toNat / 2 ^ 24)]

def toLe64 (word : UInt64) : List UInt8 :=
  [UInt8.ofNat word.toNat, UInt8.ofNat (word.toNat / 2 ^ 8), UInt8.ofNat (word.toNat / 2 ^ 16),
    UInt8.ofNat (word.toNat / 2 ^ 24), UInt8.ofNat (word.toNat / 2 ^ 32),
    UInt8.ofNat (word.toNat / 2 ^ 40), UInt8.ofNat (word.toNat / 2 ^ 48),
    UInt8.ofNat (word.toNat / 2 ^ 56)]

@[simp] theorem length_toLe32 (word : UInt32) : (toLe32 word).length = 4 := rfl

theorem toNat_fromLe32 (b0 b1 b2 b3 : UInt8) :
    (fromLe32 b0 b1 b2 b3).toNat =
      b0.toNat + 2 ^ 8 * b1.toNat + 2 ^ 16 * b2.toNat + 2 ^ 24 * b3.toNat := by
  have h0 := b0.toNat_lt
  have h1 := b1.toNat_lt
  have h2 := b2.toNat_lt
  have h3 := b3.toNat_lt
  simp only [fromLe32, UInt32.toNat_ofNat']
  omega

theorem fromLe32_toLe32 (word : UInt32) :
    fromLe32 (UInt8.ofNat word.toNat) (UInt8.ofNat (word.toNat / 2 ^ 8))
      (UInt8.ofNat (word.toNat / 2 ^ 16)) (UInt8.ofNat (word.toNat / 2 ^ 24)) = word := by
  apply UInt32.toNat_inj.mp
  have bound := word.toNat_lt
  rw [toNat_fromLe32]
  simp only [UInt8.toNat_ofNat']
  omega

theorem toLe32_fromLe32 (b0 b1 b2 b3 : UInt8) :
    toLe32 (fromLe32 b0 b1 b2 b3) = [b0, b1, b2, b3] := by
  have h0 := b0.toNat_lt
  have h1 := b1.toNat_lt
  have h2 := b2.toNat_lt
  have h3 := b3.toNat_lt
  simp only [toLe32, toNat_fromLe32, List.cons.injEq, ← UInt8.toNat_inj, UInt8.toNat_ofNat',
    and_true]
  refine ⟨?_, ?_, ?_, ?_⟩ <;> omega

end Smiusb.Bytes
