import Mathlib.Data.List.Basic
import Smiusb.Execution

/-!
Operations of Rust's `str` on a text given by its characters. Offsets count
the bytes of the UTF-8 encoding, so cutting a text can miss the boundary
between two characters, which panics. Numbers are read as `str::parse` reads
unsigned integers: an optional plus sign, then decimal digits.
-/

namespace Smiusb.Texts
open Execution

variable {Error : Type}

def byteLen : List Char → Nat
  | [] => 0
  | character :: rest => character.utf8Size + byteLen rest

/-- `str::find` with a set of characters. -/
def find (wanted : Char → Bool) : List Char → Option Nat
  | [] => none
  | character :: rest =>
      if wanted character then some 0
      else (find wanted rest).map fun offset => character.utf8Size + offset

/-- `str::split_at`. -/
def splitAt : List Char → Nat → Outcome Error (List Char × List Char)
  | text, 0 => .ok ([], text)
  | [], _ + 1 => .panicked
  | character :: rest, offset + 1 =>
      if character.utf8Size ≤ offset + 1 then do
        let (front, back) ← splitAt rest (offset + 1 - character.utf8Size)
        .ok (character :: front, back)
      else .panicked

/-- `&text[start..]`. -/
def sliceFrom (text : List Char) (start : Nat) : Outcome Error (List Char) := do
  let (_, back) ← splitAt text start
  .ok back

/-- The value so far never exceeds what the number's type can hold. -/
def parseDigits (maximum value : Nat) : List Char → Option Nat
  | [] => some value
  | digit :: rest =>
      if digit.isDigit && 10 * value + (digit.toNat - '0'.toNat) ≤ maximum then
        parseDigits maximum (10 * value + (digit.toNat - '0'.toNat)) rest
      else none

/-- `str::parse` for an unsigned type with the given largest value. -/
def parseUnsigned (maximum : Nat) : List Char → Option Nat
  | [] => none
  | '+' :: digits => if digits = [] then none else parseDigits maximum 0 digits
  | digits => parseDigits maximum 0 digits

/-- A decimal number that the type can hold, with or without a plus sign. -/
def Unsigned (maximum : Nat) (text : List Char) (value : Nat) : Prop :=
  ∃ digits, (text = digits ∨ text = '+' :: digits) ∧ digits ≠ [] ∧
    (∀ digit ∈ digits, digit.isDigit = true) ∧ Nat.ofDigitChars 10 digits 0 = value ∧
    value ≤ maximum

section Offsets

theorem splitAt_append (front back : List Char) :
    (splitAt (front ++ back) (byteLen front) : Outcome Error _) = .ok (front, back) := by
  induction front with
  | nil => cases back <;> rfl
  | cons character rest ih =>
      have positive := character.utf8Size_pos
      obtain ⟨size, sized⟩ := Nat.exists_eq_succ_of_ne_zero
        (Nat.ne_of_gt (Nat.add_pos_left positive (byteLen rest)))
      rw [List.cons_append, byteLen, sized, splitAt, if_pos (by omega), ← Nat.succ_eq_add_one,
        ← sized, Nat.add_sub_cancel_left, ih]
      rfl

theorem find_eq_some_iff (wanted : Char → Bool) (text : List Char) (offset : Nat) :
    find wanted text = some offset ↔
      ∃ front mark back, text = front ++ mark :: back ∧ offset = byteLen front ∧
        wanted mark = true ∧ ∀ character ∈ front, wanted character = false := by
  induction text generalizing offset with
  | nil => simp [find]
  | cons character rest ih =>
      rw [find]
      cases here : wanted character with
      | true =>
          rw [if_pos rfl]
          constructor
          · intro ended
            exact ⟨[], character, rest, rfl, (Option.some.inj ended).symm, here, by simp⟩
          · rintro ⟨front, mark, back, split, rfl, -, before⟩
            -- the first character is wanted, so nothing stands before the mark
            cases front with
            | nil => rfl
            | cons first front =>
                obtain ⟨rfl, -⟩ := List.cons.inj split
                rw [before character List.mem_cons_self] at here
                exact absurd here (by decide)
      | false =>
          rw [if_neg (by decide), Option.map_eq_some_iff]
          constructor
          · rintro ⟨further, found, rfl⟩
            obtain ⟨front, mark, back, rfl, rfl, there, before⟩ := (ih _).mp found
            refine ⟨character :: front, mark, back, rfl, rfl, there, ?_⟩
            intro other inside
            obtain rfl | inside := List.mem_cons.mp inside
            · exact here
            · exact before other inside
          · rintro ⟨front, mark, back, split, rfl, there, before⟩
            cases front with
            | nil =>
                obtain ⟨rfl, -⟩ := List.cons.inj split
                rw [there] at here
                exact absurd here (by decide)
            | cons first front =>
                obtain ⟨rfl, rfl⟩ := List.cons.inj split
                refine ⟨byteLen front, (ih _).mpr ?_, rfl⟩
                exact ⟨front, mark, back, rfl, rfl, there,
                  fun other inside => before other (List.mem_cons_of_mem _ inside)⟩

end Offsets

section Numbers

theorem le_ofDigitChars (digits : List Char) (value : Nat) :
    value ≤ Nat.ofDigitChars 10 digits value := by
  induction digits generalizing value with
  | nil => exact Nat.le_refl _
  | cons digit rest ih =>
      refine Nat.le_trans ?_ (ih (10 * value + (digit.toNat - '0'.toNat)))
      omega

theorem parseDigits_eq_some_iff (maximum : Nat) (digits : List Char) (value result : Nat)
    (fits : value ≤ maximum) :
    parseDigits maximum value digits = some result ↔
      (∀ digit ∈ digits, digit.isDigit = true) ∧ Nat.ofDigitChars 10 digits value = result ∧
        result ≤ maximum := by
  induction digits generalizing value with
  | nil =>
      rw [parseDigits, Option.some.injEq]
      constructor
      · rintro rfl
        exact ⟨by simp, rfl, fits⟩
      · rintro ⟨-, same, -⟩
        exact same
  | cons digit rest ih =>
      rw [parseDigits]
      constructor
      · intro parsed
        split_ifs at parsed with taken
        obtain ⟨isDigit, small⟩ := Bool.and_eq_true_iff.mp taken
        obtain ⟨later, same, bounded⟩ := (ih _ (of_decide_eq_true small)).mp parsed
        exact ⟨by simpa [isDigit] using later, same, bounded⟩
      · rintro ⟨each, same, bounded⟩
        -- the value never falls, so it is within bounds at every digit
        have small : 10 * value + (digit.toNat - '0'.toNat) ≤ maximum := by
          refine Nat.le_trans (le_ofDigitChars rest _) ?_
          exact same ▸ bounded
        rw [if_pos (Bool.and_eq_true_iff.mpr ⟨each digit List.mem_cons_self, decide_eq_true small⟩)]
        exact (ih _ small).mpr
          ⟨fun other inside => each other (List.mem_cons_of_mem _ inside), same, bounded⟩

theorem parseUnsigned_eq_some_iff (maximum : Nat) (text : List Char) (value : Nat) :
    parseUnsigned maximum text = some value ↔ Unsigned maximum text value := by
  unfold Unsigned
  constructor
  · intro parsed
    unfold parseUnsigned at parsed
    split at parsed
    · cases parsed
    · rename_i digits
      split_ifs at parsed with empty
      exact ⟨digits, .inr rfl, empty, (parseDigits_eq_some_iff _ _ _ _ (Nat.zero_le _)).mp parsed⟩
    · rename_i nonempty _
      exact ⟨text, .inl rfl, nonempty,
        (parseDigits_eq_some_iff _ _ _ _ (Nat.zero_le _)).mp parsed⟩
  · rintro ⟨digits, spelled, nonempty, each, same, bounded⟩
    have parsed := (parseDigits_eq_some_iff maximum digits 0 value (Nat.zero_le _)).mpr
      ⟨each, same, bounded⟩
    obtain rfl | rfl := spelled
    · unfold parseUnsigned
      split
      · exact absurd rfl nonempty
      · -- a plus sign is no digit
        have plus := each '+' List.mem_cons_self
        exact absurd plus (by decide)
      · exact parsed
    · rw [parseUnsigned, if_neg nonempty]
      exact parsed

theorem decimal_injective {one other : Nat} (same : Nat.toDigits 10 one = Nat.toDigits 10 other) :
    one = other := by
  have read := congrArg (Nat.ofDigitChars 10 · 0) same
  simpa only [Nat.ofDigitChars_ten_toDigits] using read

theorem not_in_decimal (character : Char) (other : character.isDigit = false) (number : Nat) :
    character ∉ Nat.toDigits 10 number := by
  intro member
  have digit := Nat.isDigit_of_mem_toDigits (by decide) (by decide) member
  exact Bool.false_ne_true (other.symm.trans digit)

end Numbers

section Marks
variable {Symbol : Type} {mark : Symbol}

/-- A text can be cut in one way only at the first of its marks. -/
theorem first_mark_unique {front front' back back' : List Symbol} (free : mark ∉ front)
    (free' : mark ∉ front') (same : front ++ mark :: back = front' ++ mark :: back') :
    front = front' ∧ back = back' := by
  induction front generalizing front' with
  | nil =>
      cases front' with
      | nil => exact ⟨rfl, (List.cons.inj same).2⟩
      | cons first rest => exact absurd (List.cons.inj same).1 (List.ne_of_not_mem_cons free')
  | cons first rest ih =>
      cases front' with
      | nil => exact absurd (List.cons.inj same).1.symm (List.ne_of_not_mem_cons free)
      | cons first' rest' =>
          obtain ⟨rfl, tails⟩ := List.cons.inj same
          obtain ⟨rfl, rfl⟩ := ih (List.not_mem_of_not_mem_cons free)
            (List.not_mem_of_not_mem_cons free') tails
          exact ⟨rfl, rfl⟩

theorem not_mem_intercalate {separator : Symbol} {words : List (List Symbol)}
    (different : mark ≠ separator) (free : ∀ word ∈ words, mark ∉ word) :
    mark ∉ [separator].intercalate words := by
  induction words with
  | nil => simp
  | cons word rest ih =>
      cases rest with
      | nil => simpa using free
      | cons next rest =>
          have later := ih fun other member => free other (List.mem_cons_of_mem _ member)
          have here := free word List.mem_cons_self
          simp only [List.intercalate_cons_cons, List.mem_append, List.mem_singleton]
          rintro ((inside | same) | behind)
          · exact here inside
          · exact different same
          · exact later behind

/-- Entries that are told apart by their texts are told apart in a file with a
mark behind each. -/
theorem terminated_injective {Entry : Type} {write : Entry → List Symbol}
    (apart : Function.Injective write) (free : ∀ entry, mark ∉ write entry) :
    Function.Injective fun entries : List Entry =>
      entries.flatMap fun entry => write entry ++ [mark] := by
  intro entries others same
  induction entries generalizing others with
  | nil =>
      cases others with
      | nil => rfl
      | cons other rest => simp at same
  | cons entry entries ih =>
      cases others with
      | nil => simp at same
      | cons other others =>
          simp only [List.flatMap_cons, List.append_assoc, List.singleton_append] at same
          obtain ⟨heads, tails⟩ := first_mark_unique (free entry) (free other) same
          rw [apart heads, ih tails]

end Marks

end Smiusb.Texts
