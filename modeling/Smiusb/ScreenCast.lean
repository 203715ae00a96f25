import Mathlib.Algebra.Ring.Nat
import Mathlib.Data.List.DropRight
import Smiusb.HexText
import Smiusb.Texts

/-!
`rust/src/screencast.rs`: the version of the compositor's screen cast service,
read from the answer of `gdbus`, and the two lines that the command prints for
it. The answer is a text with a variant in it, and the reader takes nothing
but one number between its brackets.
-/

namespace Smiusb.ScreenCast
open Execution Texts HexText PacketDecoder

/-- `char::is_whitespace`. -/
def isWhitespace (character : Char) : Bool :=
  let code := character.toNat
  (9 ≤ code && code ≤ 13) || code = 0x20 || code = 0x85 || code = 0xa0 || code = 0x1680 ||
    (0x2000 ≤ code && code ≤ 0x200a) || code = 0x2028 || code = 0x2029 || code = 0x202f ||
    code = 0x205f || code = 0x3000

/-- `str::trim`. -/
def trim (text : List Char) : List Char := (text.dropWhile isWhitespace).rdropWhile isWhitespace

/-- `str::strip_prefix`. -/
def stripPrefix (front text : List Char) : Option (List Char) :=
  if front.isPrefixOf text then some (text.drop front.length) else none

/-- `str::strip_suffix`. -/
def stripSuffix (back text : List Char) : Option (List Char) :=
  if back.isSuffixOf text then some (text.take (text.length - back.length)) else none

def requiredApiVersion : Nat := 4

structure ScreenCastInfo where
  version : Nat
  compatible : Bool
  deriving DecidableEq, Repr

/-- Texts that the standard library supplies. -/
structure StdTexts where
  debug : String → String
  fromUtf8Lossy : List UInt8 → String

/-- What became of `gdbus call`. -/
inductive Gdbus where
  | notExecuted (error : String)
  | exited (success : Bool) (status : String) (stdout stderr : List UInt8)
  deriving DecidableEq, Repr

/-- `strip_prefix("uint32 ").unwrap_or(value)`. -/
def versionDigits (value : List Char) : List Char :=
  (stripPrefix "uint32 ".toList value).getD value

section Model
variable (std : StdTexts)

def parseVersionOutput (output : String) : Outcome String Nat := do
  let value ← okOr
    ((stripPrefix ['(', '<'] (trim output.toList)).bind (stripSuffix ['>', ',', ')']))
    ("unexpected gdbus Version response: " ++ std.debug output)
  let value := versionDigits value
  if value.isEmpty || !value.all Char.isDigit then
    .err ("invalid ScreenCast version value: " ++ std.debug (.ofList value))
  else
    okOr (parseUnsigned (2 ^ 32 - 1) value)
      ("ScreenCast version is out of range: " ++ String.ofList value)

def failureDetail (stderr : List UInt8) : String :=
  .ofList ((trim (std.fromUtf8Lossy stderr).toList).map fun character =>
    if character = '\r' || character = '\n' then ' ' else character)

def discover : Gdbus → Outcome String ScreenCastInfo
  | .notExecuted error => .err ("cannot execute gdbus: " ++ error)
  | .exited false status _ stderr =>
      let detail := failureDetail std stderr
      .err (if detail.isEmpty then "gdbus exited with " ++ status else "gdbus failed: " ++ detail)
  | .exited true _ stdout _ => do
      let stdout ← okOr (fromUtf8 stdout) "gdbus returned non-UTF-8 output"
      let version ← parseVersionOutput std stdout
      .ok ⟨version, requiredApiVersion ≤ version⟩

def printScreenCastVersion (gdbus : Gdbus) : Report :=
  .after (discover std gdbus) fun info =>
    .println s!"screen-cast-version={info.version}"
      (.println s!"required-minimum={requiredApiVersion} compatible={info.compatible}" .success)

end Model

section Strips

theorem stripPrefix_eq_some_iff (front text rest : List Char) :
    stripPrefix front text = some rest ↔ text = front ++ rest := by
  unfold stripPrefix
  constructor
  · intro stripped
    split_ifs at stripped with starts
    obtain ⟨back, rfl⟩ := List.isPrefixOf_iff_prefix.mp starts
    rw [List.drop_left, Option.some_inj] at stripped
    rw [stripped]
  · rintro rfl
    rw [if_pos (List.isPrefixOf_iff_prefix.mpr (List.prefix_append front rest)), List.drop_left]

theorem stripSuffix_eq_some_iff (back text rest : List Char) :
    stripSuffix back text = some rest ↔ text = rest ++ back := by
  unfold stripSuffix
  constructor
  · intro stripped
    split_ifs at stripped with ends
    obtain ⟨front, rfl⟩ := List.isSuffixOf_iff_suffix.mp ends
    rw [List.length_append, Nat.add_sub_cancel, List.take_left, Option.some_inj] at stripped
    rw [stripped]
  · rintro rfl
    rw [if_pos (List.isSuffixOf_iff_suffix.mpr (List.suffix_append rest back)),
      List.length_append, Nat.add_sub_cancel, List.take_left]

def Blank (text : List Char) : Prop := ∀ character ∈ text, isWhitespace character = true

theorem trim_split (text : List Char) :
    ∃ before after, text = before ++ trim text ++ after ∧ Blank before ∧ Blank after := by
  refine ⟨text.takeWhile isWhitespace, (text.dropWhile isWhitespace).rtakeWhile isWhitespace, ?_,
    fun _ taken => List.mem_takeWhile_imp taken, fun _ taken => List.mem_rtakeWhile_imp taken⟩
  rw [trim, List.append_assoc, List.rdropWhile_append_rtakeWhile, List.takeWhile_append_dropWhile]

/-- Blanks around a text that has none at its ends. -/
theorem trim_padded {before after : List Char} (first last : Char) (middle : List Char)
    (blank : Blank before) (blankAfter : Blank after) (opens : isWhitespace first = false)
    (closes : isWhitespace last = false) :
    trim (before ++ (first :: (middle ++ [last])) ++ after) = first :: (middle ++ [last]) := by
  have reversed : ∀ character ∈ after.reverse, isWhitespace character = true :=
    fun character inside => blankAfter character (List.mem_reverse.mp inside)
  have front : (before ++ (first :: (middle ++ [last])) ++ after).dropWhile isWhitespace =
      first :: (middle ++ [last]) ++ after := by
    rw [List.append_assoc, List.dropWhile_append_of_pos blank, List.cons_append,
      List.dropWhile_cons_of_neg (by simp [opens])]
  have back : (first :: (middle ++ [last]) ++ after).reverse =
      after.reverse ++ (last :: (middle.reverse ++ [first])) := by simp
  rw [trim, front, List.rdropWhile, back, List.dropWhile_append_of_pos reversed,
    List.dropWhile_cons_of_neg (by simp [closes])]
  simp

end Strips

/-- A variant with a number in it, with or without the name of its type. -/
def Announces (text : List Char) (version : Nat) : Prop :=
  ∃ before type digits after,
    text = before ++ ('(' :: '<' :: (type ++ digits) ++ ['>', ',', ')']) ++ after ∧
      Blank before ∧ Blank after ∧ (type = [] ∨ type = "uint32 ".toList) ∧ digits ≠ [] ∧
      (∀ digit ∈ digits, digit.isDigit = true) ∧ Nat.ofDigitChars 10 digits 0 = version ∧
      version ≤ 2 ^ 32 - 1

theorem digits_read (value : List Char) (version : Nat) :
    ((value.isEmpty || !value.all Char.isDigit) = false ∧
      parseUnsigned (2 ^ 32 - 1) value = some version) ↔
    value ≠ [] ∧ (∀ digit ∈ value, digit.isDigit = true) ∧
      Nat.ofDigitChars 10 value 0 = version ∧ version ≤ 2 ^ 32 - 1 := by
  rw [parseUnsigned_eq_some_iff]
  constructor
  · rintro ⟨number, digits, spelled, nonempty, each, same, small⟩
    have decimal : ∀ digit ∈ value, digit.isDigit = true := by simp_all
    obtain rfl | rfl := spelled
    · exact ⟨nonempty, each, same, small⟩
    · -- a plus sign is no digit
      exact absurd (decimal '+' List.mem_cons_self) (by decide)
  · rintro ⟨nonempty, each, same, small⟩
    refine ⟨?_, value, .inl rfl, nonempty, each, same, small⟩
    simpa [nonempty] using each

theorem version_digits_cases (value : List Char) :
    value = versionDigits value ∨ value = "uint32 ".toList ++ versionDigits value := by
  cases stripped : stripPrefix "uint32 ".toList value with
  | none =>
      left
      rw [versionDigits, stripped]
      rfl
  | some rest =>
      right
      rw [versionDigits, stripped]
      exact (stripPrefix_eq_some_iff _ _ _).mp stripped

theorem version_digits_typed {type digits : List Char}
    (typed : type = [] ∨ type = "uint32 ".toList)
    (decimal : ∀ digit ∈ digits, digit.isDigit = true) :
    versionDigits (type ++ digits) = digits := by
  obtain rfl | rfl := typed
  · have untyped : stripPrefix "uint32 ".toList digits = none := by
      rw [Option.eq_none_iff_forall_ne_some]
      intro rest stripped
      have starts : 'u' ∈ digits := by
        rw [(stripPrefix_eq_some_iff _ _ _).mp stripped]
        simp
      exact absurd (decimal 'u' starts) (by decide)
    rw [versionDigits, List.nil_append, untyped]
    rfl
  · rw [versionDigits, (stripPrefix_eq_some_iff _ _ digits).mpr rfl]
    rfl

/-- What is between the brackets decides. -/
theorem value_ok_iff (std : StdTexts) (value : List Char) (version : Nat) :
    (if value.isEmpty || !value.all Char.isDigit then
        .err ("invalid ScreenCast version value: " ++ std.debug (.ofList value))
      else
        okOr (parseUnsigned (2 ^ 32 - 1) value)
          ("ScreenCast version is out of range: " ++ String.ofList value) : Outcome String Nat) =
      .ok version ↔
    value ≠ [] ∧ (∀ digit ∈ value, digit.isDigit = true) ∧
      Nat.ofDigitChars 10 value 0 = version ∧ version ≤ 2 ^ 32 - 1 := by
  rw [← digits_read]
  cases refused : value.isEmpty || !value.all Char.isDigit with
  | true => simp
  | false => simp [okOr_eq_ok_iff]

theorem parse_version_ok_iff (std : StdTexts) (output : String) (version : Nat) :
    parseVersionOutput std output = .ok version ↔ Announces output.toList version := by
  unfold parseVersionOutput
  rw [Outcome.bind_eq_ok_iff]
  simp only [okOr_eq_ok_iff, Option.bind_eq_some_iff, stripPrefix_eq_some_iff,
    stripSuffix_eq_some_iff, value_ok_iff]
  constructor
  · rintro ⟨value, ⟨_, trimmed, rfl⟩, decimal⟩
    obtain ⟨before, after, split, blank, blankAfter⟩ := trim_split output.toList
    rw [trimmed] at split
    obtain plain | typed := version_digits_cases value
    · refine ⟨before, [], versionDigits value, after, ?_, blank, blankAfter, .inl rfl, decimal⟩
      rw [List.nil_append, ← plain]
      simpa using split
    · refine ⟨before, "uint32 ".toList, versionDigits value, after, ?_, blank, blankAfter, .inr rfl,
        decimal⟩
      rw [← typed]
      simpa using split
  · rintro ⟨before, type, digits, after, split, blank, blankAfter, typed, decimal⟩
    refine ⟨type ++ digits, ⟨_, ?_, rfl⟩, ?_⟩
    · have padded := trim_padded '(' ')' ('<' :: (type ++ digits) ++ ['>', ',']) blank blankAfter
        (by decide) (by decide)
      rw [split]
      simpa using padded
    · rw [version_digits_typed typed decimal.2.1]
      exact decimal

/-- `gdbus` has succeeded with an answer that announces a version. -/
def Answers (gdbus : Gdbus) (version : Nat) : Prop :=
  ∃ status stdout stderr text, gdbus = .exited true status stdout stderr ∧
    fromUtf8 stdout = some text ∧ Announces text.toList version

theorem discover_ok_iff (std : StdTexts) (gdbus : Gdbus) (info : ScreenCastInfo) :
    discover std gdbus = .ok info ↔
      Answers gdbus info.version ∧
        info.compatible = decide (requiredApiVersion ≤ info.version) := by
  unfold Answers discover
  split
  · simp
  · simp
  · rename_i status stdout stderr
    simp only [Outcome.bind_eq_ok_iff, okOr_eq_ok_iff, parse_version_ok_iff]
    constructor
    · rintro ⟨text, decoded, version, announced, same⟩
      cases same
      exact ⟨⟨status, stdout, stderr, text, rfl, decoded, announced⟩, rfl⟩
    · rintro ⟨⟨_, _, _, text, same, decoded, announced⟩, compatible⟩
      cases same
      refine ⟨text, decoded, info.version, announced, ?_⟩
      rw [← compatible]

theorem parse_version_returns (std : StdTexts) (output : String) :
    (parseVersionOutput std output).Returns := by
  unfold parseVersionOutput
  apply Outcome.returns_bind (okOr_returns _ _)
  intro value _
  dsimp only
  split
  · trivial
  · exact okOr_returns _ _

theorem discover_returns (std : StdTexts) (gdbus : Gdbus) : (discover std gdbus).Returns := by
  unfold discover
  split
  · trivial
  · trivial
  · apply Outcome.returns_bind (okOr_returns _ _)
    intro text _
    apply Outcome.returns_bind (parse_version_returns std text)
    exact fun _ _ => trivial

/-- The command prints its two lines exactly for an answer that announces a
version; for any other answer it prints nothing and fails. -/
theorem screen_cast_version_exact (std : StdTexts) (gdbus : Gdbus) :
    (∃ version, Answers gdbus version ∧ printScreenCastVersion std gdbus =
        ⟨[s!"screen-cast-version={version}",
          s!"required-minimum=4 compatible={decide (4 ≤ version)}"], .ok ()⟩) ∨
      (∀ version, ¬ Answers gdbus version) ∧
        ∃ error, printScreenCastVersion std gdbus = ⟨[], .err error⟩ := by
  obtain ⟨info, found⟩ | ⟨error, failed⟩ := Outcome.returns_cases (discover_returns std gdbus)
  · obtain ⟨answered, compatible⟩ := (discover_ok_iff std gdbus info).mp found
    refine .inl ⟨info.version, answered, ?_⟩
    rw [printScreenCastVersion, found]
    simp only [Report.after, compatible]
    rfl
  · refine .inr ⟨fun version answered => ?_, error, by rw [printScreenCastVersion, failed]; rfl⟩
    have found := (discover_ok_iff std gdbus ⟨version, decide (requiredApiVersion ≤ version)⟩).mpr
      ⟨answered, rfl⟩
    rw [failed] at found
    exact nomatch found

end Smiusb.ScreenCast
