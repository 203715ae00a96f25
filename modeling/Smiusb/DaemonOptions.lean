import Smiusb.CNumbers
import Smiusb.CommandLine

/-!
`parse_options` of src/daemon/smiusbd.cpp, and how the language of its
duration compares with the one of `--observe --duration` in rust/src/main.rs.
-/

namespace Smiusb.DaemonOptions
open Execution Bytes Texts FrameQueue CNumbers CommandLine

structure Options where
  durationSeconds : Nat
  deriving DecidableEq, Repr

def uint32Max : Nat := 2 ^ 32 - 1

/-- The third argument; `unsigned long` is as wide as a pointer. -/
def parseDuration (target : Target) (text : String) : Option Options :=
  match strtoul target.usizeMax text.toList with
  | some (duration, []) =>
      if 0 < duration ∧ duration ≤ uint32Max then some ⟨duration⟩ else none
  | _ => none

/-- `argv`, with the name of the program in front. -/
def parseOptions (target : Target) : List String → Option Options
  | [_, mode] => if mode = "--observe" then some ⟨0⟩ else none
  | [_, mode, flag, seconds] =>
      if mode = "--observe" ∧ flag = "--duration" then parseDuration target seconds else none
  | _ => none

section Durations
variable {target : Target} {text : String} {seconds : Nat}

/-- What `strtoul` makes of a number that it found. -/
def converted (maximum : Nat) (negative : Bool) (magnitude : Nat) : Nat :=
  if maximum < magnitude then maximum
  else if negative then (maximum + 1 - magnitude) % (maximum + 1) else magnitude

theorem parse_duration_iff :
    parseDuration target text = some ⟨seconds⟩ ↔
      ∃ negative magnitude, Spells text.toList ⟨negative, magnitude, []⟩ ∧
        seconds = converted target.usizeMax negative magnitude ∧ 0 < seconds ∧
          seconds ≤ uint32Max := by
  constructor
  · intro parsed
    unfold parseDuration at parsed
    split at parsed
    · rename_i duration found
      split at parsed
      · rename_i bounds
        cases parsed
        obtain ⟨⟨negative, magnitude, rest⟩, scanned, same⟩ := Option.map_eq_some_iff.mp found
        obtain ⟨rfl, rfl⟩ := Prod.mk.inj same
        exact ⟨negative, magnitude, (scan_eq_some_iff _ _).mp scanned, rfl, bounds⟩
      · cases parsed
    · cases parsed
  · rintro ⟨negative, magnitude, spelled, rfl, bounds⟩
    have found : strtoul target.usizeMax text.toList =
        some (converted target.usizeMax negative magnitude, []) := by
      rw [strtoul, (scan_eq_some_iff _ _).mpr spelled]
      rfl
    unfold parseDuration
    rw [found]
    exact if_pos bounds

theorem parse_options_duration (name : String) :
    parseOptions target [name, "--observe", "--duration", text] = parseDuration target text := by
  rw [parseOptions, if_pos ⟨rfl, rfl⟩]

/-- The options are exactly: none, or a duration that `strtoul` reads to the
end of the argument, within 32 bits after its wrapping and saturation. -/
theorem daemon_options_exact (target : Target) (arguments : List String) (seconds : Nat) :
    parseOptions target arguments = some ⟨seconds⟩ ↔
      (∃ name, arguments = [name, "--observe"]) ∧ seconds = 0 ∨
      ∃ name text negative magnitude, arguments = [name, "--observe", "--duration", text] ∧
        Spells text.toList ⟨negative, magnitude, []⟩ ∧
        seconds = converted target.usizeMax negative magnitude ∧ 0 < seconds ∧
          seconds ≤ uint32Max := by
  constructor
  · intro parsed
    unfold parseOptions at parsed
    split at parsed
    · rename_i name mode
      split at parsed
      · rename_i observe
        cases parsed
        exact .inl ⟨⟨name, by rw [observe]⟩, rfl⟩
      · cases parsed
    · rename_i name mode flag text
      split at parsed
      · rename_i both
        obtain ⟨negative, magnitude, rest⟩ := parse_duration_iff.mp parsed
        exact .inr ⟨name, text, negative, magnitude, by rw [both.1, both.2], rest⟩
      · cases parsed
    · cases parsed
  · rintro (⟨⟨name, rfl⟩, rfl⟩ | ⟨name, text, negative, magnitude, rfl, rest⟩)
    · rfl
    · rw [parse_options_duration]
      exact parse_duration_iff.mpr ⟨negative, magnitude, rest⟩

/-- Nothing stands in front of the digits but a plus sign. -/
def Plain (text : List Char) : Prop :=
  Stops isSpace text ∧ text.head? ≠ some '-'

theorem spells_unsigned {digits : List Char} {magnitude : Nat} (some : digits ≠ [])
    (decimal : ∀ digit ∈ digits, digit.isDigit = true)
    (value : Nat.ofDigitChars 10 digits 0 = magnitude) {written : List Char}
    (spelled : written = digits ∨ written = '+' :: digits) :
    Spells written ⟨false, magnitude, []⟩ ∧ Plain written := by
  have stops : Stops Char.isDigit [] := by simp [Stops]
  obtain rfl | rfl := spelled
  · refine ⟨⟨[], [], written, by simp, by simp, .inr ⟨.inl rfl, rfl⟩, some, decimal, stops,
      value⟩, ?_⟩
    cases written with
    | nil => exact absurd rfl some
    | cons digit digits =>
        obtain ⟨space, minus, -⟩ := digit_not_space (decimal digit List.mem_cons_self)
        exact ⟨by simpa [Stops] using space, by simpa using minus⟩
  · refine ⟨⟨[], ['+'], digits, by simp, by simp, .inr ⟨.inr rfl, rfl⟩, some, decimal, stops,
      value⟩, ?_⟩
    exact ⟨by simp [Stops, isSpace], by simp⟩

/-- A spelling without white space and minus sign is a number as Rust reads it. -/
theorem unsigned_of_spells {written : List Char} {negative : Bool} {magnitude maximum : Nat}
    (spelled : Spells written ⟨negative, magnitude, []⟩) (plain : Plain written)
    (small : magnitude ≤ maximum) : negative = false ∧ Unsigned maximum written magnitude := by
  obtain ⟨spaces, sign, digits, rfl, blank, signed, some, decimal, -, value⟩ := spelled
  have none : spaces = [] := by
    cases spaces with
    | nil => rfl
    | cons space spaces =>
        have other := plain.1 space rfl
        rw [blank space List.mem_cons_self] at other
        cases other
  subst none
  rw [List.append_nil, List.nil_append] at *
  obtain ⟨rfl, -⟩ | ⟨rfl | rfl, negative⟩ := signed
  · exact absurd rfl plain.2
  · exact ⟨negative, digits, .inl rfl, some, decimal, value, small⟩
  · exact ⟨negative, digits, .inr rfl, some, decimal, value, small⟩

/-- On a 64-bit target the daemon and the Rust program agree on a duration up
to 32 bits, except for texts with white space or a minus sign in front. -/
theorem durations_agree (name text : String) (seconds : Nat) :
    parseOptions .bits64 [name, "--observe", "--duration", text] = some ⟨seconds⟩ ∧
        Plain text.toList ↔
      parseOtherArgs ["--observe", "--duration", text] = .ok (.observe (some seconds)) ∧
        seconds ≤ uint32Max := by
  have rust : parseOtherArgs ["--observe", "--duration", text] = .ok (.observe (some seconds)) ↔
      Unsigned u64Max text.toList seconds ∧ seconds ≠ 0 := by
    rw [← parseUnsigned_eq_some_iff]
    change (okOr (parseUnsigned u64Max text.toList) ArgumentError.malformedDuration >>=
      fun seconds => if seconds = 0 then .err .malformedDuration
        else .ok (Command.observe (some seconds))) = _ ↔ _
    rw [Outcome.bind_eq_ok_iff]
    constructor
    · rintro ⟨value, found, rest⟩
      split at rest
      · cases rest
      · rename_i positive
        cases rest
        exact ⟨(okOr_eq_ok_iff _ _ _).mp found, positive⟩
    · rintro ⟨found, positive⟩
      exact ⟨seconds, (okOr_eq_ok_iff _ _ _).mpr found, if_neg positive⟩
  have width : Target.bits64.usizeMax = u64Max := rfl
  rw [parse_options_duration, parse_duration_iff, rust, width]
  constructor
  · rintro ⟨⟨negative, magnitude, spelled, same, positive, bounded⟩, plain⟩
    -- a number that saturates does not fit 32 bits
    have small : magnitude ≤ u64Max := by
      by_contra large
      rw [converted, if_pos (Nat.lt_of_not_le large)] at same
      exact absurd (same ▸ bounded) (by decide)
    obtain ⟨rfl, unsigned⟩ := unsigned_of_spells spelled plain small
    have equal : seconds = magnitude := by
      rw [same, converted, if_neg (Nat.not_lt.mpr small)]
      rfl
    exact ⟨⟨equal ▸ unsigned, by omega⟩, bounded⟩
  · rintro ⟨⟨⟨digits, written, some, decimal, value, fits⟩, positive⟩, bounded⟩
    obtain ⟨spelled, plain⟩ := spells_unsigned some decimal value written
    refine ⟨⟨false, seconds, spelled, ?_, by omega, bounded⟩, plain⟩
    rw [converted, if_neg (Nat.not_lt.mpr fits)]
    rfl

end Durations

end Smiusb.DaemonOptions
