import Mathlib.Algebra.Ring.Nat
import Mathlib.Data.List.TakeWhile
import Smiusb.Texts

/-!
Numbers as the C library reads them from a text: white space, a sign, decimal
digits, and whatever follows is left. A number that the type cannot hold is
replaced by the largest or the smallest one, and a minus sign in front of an
unsigned number wraps it around.
-/

namespace Smiusb.CNumbers

/-- `isspace` of the C locale. -/
def isSpace (character : Char) : Bool :=
  character = ' ' || ('\t' ≤ character && character ≤ '\r')

/-- The sign, and the text behind it. -/
def takeSign : List Char → Bool × List Char
  | '-' :: rest => (true, rest)
  | '+' :: rest => (false, rest)
  | rest => (false, rest)

structure Scanned where
  negative : Bool
  magnitude : Nat
  rest : List Char
  deriving DecidableEq, Repr

/-- What base ten conversions have in common; without a digit nothing is
converted, and the text is left as it was. -/
def scan (text : List Char) : Option Scanned :=
  let (negative, behind) := takeSign (text.dropWhile isSpace)
  if behind.takeWhile Char.isDigit = [] then none
  else
    some {
      negative
      magnitude := Nat.ofDigitChars 10 (behind.takeWhile Char.isDigit) 0
      rest := behind.dropWhile Char.isDigit }

/-- `strtoul` for a type with the given largest value. -/
def strtoul (maximum : Nat) (text : List Char) : Option (Nat × List Char) :=
  (scan text).map fun scanned =>
    (if maximum < scanned.magnitude then maximum
      else if scanned.negative then (maximum + 1 - scanned.magnitude) % (maximum + 1)
      else scanned.magnitude, scanned.rest)

/-- The nearest number of a signed type with the given largest value. -/
def saturated (maximum : Nat) (scanned : Scanned) : Int :=
  if scanned.negative then max (-(scanned.magnitude : Int)) (-(maximum : Int) - 1)
  else min (scanned.magnitude : Int) maximum

def strtol (maximum : Nat) (text : List Char) : Option (Int × List Char) :=
  (scan text).map fun scanned => (saturated maximum scanned, scanned.rest)

/-- `atoi`: what `strtol` finds, cut to 32 bits, or zero. -/
def atoi (longMax : Nat) (text : List Char) : Int :=
  match strtol longMax text with
  | none => 0
  | some (value, _) => value.bmod (2 ^ 32)

/-- The sign in front of a number. -/
def Signs (sign : List Char) (negative : Bool) : Prop :=
  sign = ['-'] ∧ negative = true ∨ (sign = [] ∨ sign = ['+']) ∧ negative = false

/-- The text has no character of the kind at its front. -/
def Stops (kind : Char → Bool) (text : List Char) : Prop :=
  ∀ character ∈ text.head?, kind character = false

/-- How a text spells a number. -/
def Spells (text : List Char) (scanned : Scanned) : Prop :=
  ∃ spaces sign digits, text = spaces ++ (sign ++ (digits ++ scanned.rest)) ∧
    (∀ character ∈ spaces, isSpace character = true) ∧ Signs sign scanned.negative ∧
    digits ≠ [] ∧ (∀ character ∈ digits, character.isDigit = true) ∧
    Stops Char.isDigit scanned.rest ∧ Nat.ofDigitChars 10 digits 0 = scanned.magnitude

section Cuts
variable {kind : Char → Bool} {front rest text : List Char}

theorem cut_append (all : ∀ character ∈ front, kind character = true) (stops : Stops kind rest) :
    (front ++ rest).takeWhile kind = front ∧ (front ++ rest).dropWhile kind = rest := by
  have start : rest.takeWhile kind = [] ∧ rest.dropWhile kind = rest := by
    cases rest with
    | nil => exact ⟨rfl, rfl⟩
    | cons character rest =>
        have other := stops character rfl
        simp [other]
  rw [List.takeWhile_append_of_pos all, List.dropWhile_append_of_pos all, start.1, start.2,
    List.append_nil]
  exact ⟨rfl, rfl⟩

theorem stops_dropWhile : Stops kind (text.dropWhile kind) := by
  induction text with
  | nil => simp [Stops]
  | cons character rest ih =>
      rw [List.dropWhile_cons]
      split
      · exact ih
      · rename_i other
        intro first here
        obtain rfl : character = first := by simpa using here
        simpa using other

theorem takeWhile_kind : ∀ character ∈ text.takeWhile kind, kind character = true := by
  intro character inside
  exact List.mem_takeWhile_imp inside

end Cuts

theorem digit_not_space {character : Char} (digit : character.isDigit = true) :
    isSpace character = false ∧ character ≠ '-' ∧ character ≠ '+' := by
  rw [Char.isDigit, Bool.and_eq_true, decide_eq_true_eq, decide_eq_true_eq] at digit
  refine ⟨?_, ?_, ?_⟩
  · rw [isSpace, Bool.or_eq_false_iff, Bool.and_eq_false_iff]
    refine ⟨decide_eq_false ?_, .inr (decide_eq_false ?_)⟩
    · rintro rfl
      exact absurd digit.1 (by decide)
    · intro low
      exact absurd (UInt32.le_trans digit.1 low) (by decide)
  · rintro rfl
    exact absurd digit.1 (by decide)
  · rintro rfl
    exact absurd digit.1 (by decide)

section Scans
variable {text : List Char} {scanned : Scanned}

theorem takeSign_signs (text : List Char) :
    ∃ sign, text = sign ++ (takeSign text).2 ∧ Signs sign (takeSign text).1 := by
  unfold takeSign
  split
  · exact ⟨['-'], rfl, .inl ⟨rfl, rfl⟩⟩
  · exact ⟨['+'], rfl, .inr ⟨.inr rfl, rfl⟩⟩
  · exact ⟨[], rfl, .inr ⟨.inl rfl, rfl⟩⟩

theorem takeSign_append {sign digits rest : List Char} {negative : Bool}
    (signed : Signs sign negative) (some : digits ≠ [])
    (decimal : ∀ character ∈ digits, character.isDigit = true) :
    takeSign (sign ++ (digits ++ rest)) = (negative, digits ++ rest) := by
  obtain ⟨rfl, rfl⟩ | ⟨rfl | rfl, rfl⟩ := signed
  · rfl
  · -- without a sign the text starts with a digit
    cases digits with
    | nil => exact absurd rfl some
    | cons digit digits =>
        obtain ⟨-, minus, plus⟩ := digit_not_space (decimal digit List.mem_cons_self)
        rw [List.nil_append, List.cons_append, takeSign.eq_def]
        split
        · rename_i same
          cases same
          exact absurd rfl minus
        · rename_i same
          cases same
          exact absurd rfl plus
        · rfl
  · rfl

theorem signed_stops {sign digits rest : List Char} {negative : Bool}
    (signed : Signs sign negative) (some : digits ≠ [])
    (decimal : ∀ character ∈ digits, character.isDigit = true) :
    Stops isSpace (sign ++ (digits ++ rest)) := by
  intro character here
  obtain ⟨rfl, -⟩ | ⟨rfl | rfl, -⟩ := signed
  · cases here
    decide
  · cases digits with
    | nil => exact absurd rfl some
    | cons digit digits =>
        cases here
        exact (digit_not_space (decimal _ List.mem_cons_self)).1
  · cases here
    decide

theorem scan_of_spells (spelled : Spells text scanned) : scan text = some scanned := by
  obtain ⟨spaces, sign, digits, rfl, blank, signed, nonempty, decimal, ends, value⟩ := spelled
  have behind := (cut_append blank (@signed_stops _ _ scanned.rest _ signed nonempty decimal)).2
  have cut := cut_append decimal ends
  unfold scan
  rw [behind, takeSign_append signed nonempty decimal]
  dsimp only
  rw [cut.1, cut.2, if_neg nonempty, value]

theorem spells_of_scan (found : scan text = some scanned) : Spells text scanned := by
  unfold scan at found
  dsimp only at found
  split at found
  · cases found
  · rename_i nonempty
    cases found
    obtain ⟨sign, split, signed⟩ := takeSign_signs (text.dropWhile isSpace)
    refine ⟨text.takeWhile isSpace, sign,
      (takeSign (text.dropWhile isSpace)).2.takeWhile Char.isDigit, ?_, takeWhile_kind, signed,
      nonempty, takeWhile_kind, stops_dropWhile, rfl⟩
    rw [List.takeWhile_append_dropWhile, ← split, List.takeWhile_append_dropWhile]

/-- A conversion takes exactly the texts that spell a number. -/
theorem scan_eq_some_iff (text : List Char) (scanned : Scanned) :
    scan text = some scanned ↔ Spells text scanned :=
  ⟨spells_of_scan, scan_of_spells⟩

theorem atoi_positive_iff {longMax : Nat} {value : Int} (positive : 1 ≤ value) :
    atoi longMax text = value ↔
      ∃ scanned, Spells text scanned ∧ (saturated longMax scanned).bmod (2 ^ 32) = value := by
  constructor
  · intro converted
    unfold atoi strtol at converted
    cases found : scan text with
    | none =>
        rw [found] at converted
        have zero : (0 : Int) = value := converted
        omega
    | some scanned =>
        rw [found] at converted
        exact ⟨scanned, (scan_eq_some_iff _ _).mp found, converted⟩
  · rintro ⟨scanned, spelled, rfl⟩
    rw [atoi, strtol, scan_of_spells spelled]
    rfl

end Scans

end Smiusb.CNumbers
