import Smiusb.JpegVerdict

/-!
What the errors of `parse_jpeg_end` in rust/src/protocol.rs tell about the
input. `Evidence` spells out, for each error, the bytes it reports; a report of
corrupt bytes stays true however the input continues, a report of missing bytes
is about the end of the input.
-/

namespace Smiusb.JpegEvidence
open Execution Bytes WireProtocol JpegGrammar JpegEnd JpegVerdict

/-- The bytes before a position are SOI and complete segments and scans. -/
def Behind (input : List UInt8) (offset : Nat) : Prop :=
  offset ≤ input.length ∧ ∃ parts : List (List UInt8),
    (∀ part ∈ parts, Segment part ∨ Scan part) ∧
      input.take offset = [0xff, 0xd8] ++ parts.flatten

/-- One or more prefix bytes from `offset` on and then a code; `next` is the
position behind it. -/
def MarkerAt (input : List UInt8) (offset next : Nat) (code : UInt8) : Prop :=
  ∃ k, 1 ≤ k ∧ (∀ i, i < k → input[offset + i]? = some 0xff) ∧
    input[offset + k]? = some code ∧ code ≠ 0xff ∧ next = offset + k + 1

def WordAt (input : List UInt8) (position length : Nat) : Prop :=
  ∃ high low, input[position]? = some high ∧ input[position + 1]? = some low ∧
    length = (fromBe16 high low).toNat

/-- The bytes that an error reports. -/
inductive Evidence (input : List UInt8) : FrameParseError → Prop where
  | missingStart (absent : ¬ ∃ rest, input = [0xff, 0xd8] ++ rest) :
      Evidence input .missingJpegStart
  | expectedMarker (offset : Nat) (byte : UInt8) (behind : Behind input offset)
      (present : input[offset]? = some byte) (plain : byte ≠ 0xff) :
      Evidence input (.expectedJpegMarker offset byte)
  | truncatedMarker (offset : Nat) (behind : Behind input offset)
      (filled : ∀ byte ∈ input.drop offset, byte = 0xff) :
      Evidence input (.truncatedJpegMarker offset)
  | truncatedSegmentLength (offset next : Nat) (marker : UInt8) (behind : Behind input offset)
      (marked : MarkerAt input offset next marker) (short : input.length - next < 2) :
      Evidence input (.truncatedJpegSegmentLength offset marker)
  | invalidSegmentLength (offset next : Nat) (marker : UInt8) (length : Nat)
      (behind : Behind input offset) (marked : MarkerAt input offset next marker)
      (word : WordAt input next length) (small : length < 2) :
      Evidence input (.invalidJpegSegmentLength offset marker length)
  | truncatedSegment (offset next : Nat) (marker : UInt8) (length available : Nat)
      (behind : Behind input offset) (marked : MarkerAt input offset next marker)
      (word : WordAt input next length) (remaining : available = input.length - next)
      (short : available < length) :
      Evidence input (.truncatedJpegSegment offset marker length available)
  | invalidScanHeader (offset next length components : Nat) (behind : Behind input offset)
      (marked : MarkerAt input offset next 0xda) (word : WordAt input next length)
      (unread : length < 3 → components = 0)
      (read : 3 ≤ length → ∃ byte, input[next + 2]? = some byte ∧ components = byte.toNat)
      (bad : components = 0 ∨ length ≠ 6 + 2 * components) :
      Evidence input (.invalidJpegScanHeader offset length components)
  | unexpectedMarker (offset next : Nat) (marker : UInt8) (behind : Behind input offset)
      (marked : MarkerAt input offset next marker) (standalone : Standalone marker) :
      Evidence input (.unexpectedJpegMarker offset marker)
  | endBeforeScan (offset next : Nat) (inside : offset ≤ input.length)
      (parts : List (List UInt8)) (segments : ∀ part ∈ parts, Segment part)
      (behind : input.take offset = [0xff, 0xd8] ++ parts.flatten)
      (marked : MarkerAt input offset next 0xd9) :
      Evidence input (.jpegEndBeforeScan offset)
  | missingEnd (parts : List (List UInt8)) (each : ∀ part ∈ parts, Segment part ∨ Scan part)
      (scanned : ∃ part ∈ parts, Scan part) (whole : input = [0xff, 0xd8] ++ parts.flatten) :
      Evidence input .missingJpegEnd

section Openings
variable {inScan sawScan : Bool} {input bytes rest : List UInt8}

theorem opening_in_scan (opening : Opening inScan sawScan bytes) (inside : inScan = true) :
    sawScan = true := by
  induction opening with
  | start => exact absurd inside (by decide)
  | segment _ _ _ => exact absurd inside (by decide)
  | scan _ _ _ => rfl
  | entropy _ _ ih => exact ih rfl

/-- Without a scan the parts read so far are segments. -/
theorem opening_segments (opening : Opening inScan sawScan bytes) (unseen : sawScan = false) :
    ∃ parts : List (List UInt8), (∀ part ∈ parts, Segment part) ∧
      bytes = [0xff, 0xd8] ++ parts.flatten := by
  induction opening with
  | start => exact ⟨[], by simp, rfl⟩
  | @segment _ _ _ segment _ next ih =>
      obtain ⟨parts, segments, rfl⟩ := ih unseen
      refine ⟨parts ++ [segment], ?_, by simp⟩
      intro part member
      rcases List.mem_append.mp member with old | new
      · exact segments part old
      · rw [List.mem_singleton.mp new]
        exact next
  | scan _ _ _ => exact absurd unseen (by decide)
  | entropy before _ _ => exact absurd (opening_in_scan before rfl) (by simp [unseen])

theorem opening_behind (opening : Opening inScan sawScan bytes) (shape : input = bytes ++ rest) :
    Behind input bytes.length := by
  obtain ⟨parts, ⟨each, _⟩, same, _⟩ := opening_parts opening
  constructor
  · rw [shape, List.length_append]
    exact Nat.le_add_right _ _
  · exact ⟨parts, each, by rw [shape, List.take_left, same]⟩

theorem opening_missing_end (opening : Opening inScan true input) :
    Evidence input .missingJpegEnd := by
  obtain ⟨parts, ⟨each, scanned⟩, whole, _⟩ := opening_parts opening
  exact .missingEnd parts each (scanned rfl) whole

end Openings

section Shapes
variable {input before tail : List UInt8} {fill : Nat} {code : UInt8}

theorem marker_at_shape (shape : input = before ++ (List.replicate (fill + 1) 0xff ++ code :: tail))
    (marked : code ≠ 0xff) : MarkerAt input before.length (before.length + fill + 2) code := by
  refine ⟨fill + 1, Nat.succ_le_succ (Nat.zero_le fill), ?_, ?_, marked, rfl⟩
  · intro i inside
    rw [shape, List.getElem?_append_right (Nat.le_add_right _ _), Nat.add_sub_cancel_left,
      List.getElem?_append_left (by simpa using inside)]
    simp [inside]
  · rw [shape, List.getElem?_append_right (Nat.le_add_right _ _), Nat.add_sub_cancel_left,
      List.getElem?_append_right (by simp)]
    simp

/-- Positions behind the code count into the bytes that follow it. -/
theorem behind_marker_shape
    (shape : input = before ++ (List.replicate (fill + 1) 0xff ++ code :: tail)) (i : Nat) :
    input[before.length + fill + 2 + i]? = tail[i]? := by
  have split : input = (before ++ (List.replicate (fill + 1) 0xff ++ [code])) ++ tail := by
    rw [shape]; simp
  have length : (before ++ (List.replicate (fill + 1) 0xff ++ [code])).length =
      before.length + fill + 2 := by
    simp [Nat.add_assoc]
  rw [split, ← length, List.getElem?_append_right (Nat.le_add_right _ _),
    Nat.add_sub_cancel_left]

theorem remaining_shape
    (shape : input = before ++ (List.replicate (fill + 1) 0xff ++ code :: tail)) :
    input.length - (before.length + fill + 2) = tail.length := by
  rw [shape]
  simp only [List.length_append, List.length_replicate, List.length_cons]
  omega

end Shapes

section Errors
variable {target : Target} {input before rest : List UInt8} {progress : Progress}
  {error : FrameParseError}

theorem next_marker_evidence (shape : input = before ++ rest)
    (start : progress.cursor = before.length)
    (opening : Opening progress.inScan progress.sawScan before)
    (finds : NextMarker progress rest (.err error)) : Evidence input error := by
  have behind := opening_behind opening shape
  rw [← start] at behind
  generalize outcome : (Outcome.err error : Outcome FrameParseError FoundMarker) = refusal at finds
  cases finds with
  | missing _ scanning whole =>
      cases outcome
      have led : Lead progress.inScan rest := by rwa [Lead, if_pos scanning]
      have complete := opening_lead opening led
      rw [← shape, opening_in_scan opening scanning] at complete
      exact opening_missing_end complete
  | ended outside =>
      cases outcome
      rw [List.append_nil] at shape
      split
      · rename_i saw
        rw [← shape, saw] at opening
        exact opening_missing_end opening
      · refine .truncatedMarker _ behind ?_
        rw [start, ← shape]
        simp
  | unmarked byte tail outside plain =>
      cases outcome
      refine .expectedMarker _ byte behind ?_ plain
      rw [start, shape]
      simp
  | truncated lead fill led =>
      cases outcome
      have split : input = (before ++ lead) ++ List.replicate (fill + 1) 0xff := by
        rw [shape, List.append_assoc]
      rw [start, ← List.length_append]
      refine .truncatedMarker _ (opening_behind (opening_lead opening led) split) ?_
      intro byte member
      rw [split, List.drop_left] at member
      exact List.eq_of_mem_replicate member
  | found => cases outcome

theorem after_marker_evidence {lead tail : List UInt8} {fill : Nat} {code : UInt8}
    (shape : input = lead ++ (List.replicate (fill + 1) 0xff ++ code :: tail))
    (marked : code ≠ 0xff) {inScan sawScan : Bool} (opening : Opening inScan sawScan lead)
    (follows : AfterMarker sawScan ⟨lead.length + fill + 2, lead.length, code⟩ tail
      (.err error)) : Evidence input error := by
  have behind := opening_behind opening shape
  have marker := marker_at_shape shape marked
  have remaining := remaining_shape shape
  have position := behind_marker_shape shape
  cases follows with
  | early _ eoi unseen =>
      obtain ⟨parts, segments, same⟩ := opening_segments opening unseen
      cases eoi
      refine .endBeforeScan _ _ behind.1 parts segments ?_ marker
      rw [shape, List.take_left, same]
  | unexpected _ standalone => exact .unexpectedMarker _ _ _ behind marker standalone
  | shortLength _ carries short =>
      exact .truncatedSegmentLength _ _ _ behind marker (by rw [remaining]; exact short)
  | badLength high low body carries small =>
      exact .invalidSegmentLength _ _ _ _ behind marker
        ⟨high, low, position 0, position 1, rfl⟩ small
  | truncated high low body carries large short =>
      exact .truncatedSegment _ _ _ _ _ behind marker
        ⟨high, low, position 0, position 1, rfl⟩ remaining.symm short
  | badScan high low body components sos large whole counted bad =>
      cases sos
      refine .invalidScanHeader _ _ _ components behind marker
        ⟨high, low, position 0, position 1, rfl⟩ ?_ ?_ bad
      · intro short
        rw [counted, if_neg (Nat.not_le_of_lt short)]
      · intro long
        rw [if_pos long] at counted
        cases body with
        | nil => exact absurd (Nat.le_trans long whole) (by decide)
        | cons byte fields => exact ⟨byte, position 2, counted⟩

theorem iterates_evidence (shape : input = before ++ rest)
    (start : progress.cursor = before.length)
    (opening : Opening progress.inScan progress.sawScan before)
    (iterates : Iterates progress rest (.err error)) : Evidence input error := by
  cases iterates with
  | refused _ _ finds => exact next_marker_evidence shape start opening finds
  | decided lead tail fill code _ led marked foreign follows =>
      rw [start, ← List.length_append] at follows
      exact after_marker_evidence (by rw [shape, List.append_assoc]) marked
        (opening_lead opening led) follows

end Errors

section Reports
variable {target : Target} {input : List UInt8}

/-- A run ends with a value or with an error that the input bears out. -/
def Reported (input : List UInt8) : Outcome FrameParseError Nat → Prop
  | .ok _ => True
  | .err error => Evidence input error
  | .panicked => False
  | .diverged => False

theorem parse_step_reported (fits : input.length ≤ target.isizeMax) (progress : Progress)
    (opened : Opened input progress) :
    Iteration (Opened input) (fun progress => input.length - progress.cursor) (Reported input)
      progress (parseStep target input progress) := by
  obtain ⟨before, rest, shape, start, opening⟩ := opened
  obtain ⟨outcome, iterates⟩ := iterates_covers progress rest
  rw [iterates_computes outcome shape start fits iterates]
  have safe := (iterates_safe outcome iterates).1
  cases outcome with
  | ok flow =>
      cases flow with
      | again next =>
          obtain ⟨opened, further, below⟩ := opened_again next shape start opening iterates
          refine ⟨opened, ?_⟩
          dsimp only
          omega
      | done finish => trivial
  | err error => exact iterates_evidence shape start opening iterates
  | panicked => exact safe
  | diverged => exact safe

theorem parse_reported (fits : input.length ≤ target.isizeMax) :
    Reported input (parseJpegEnd target input) := by
  unfold parseJpegEnd
  by_cases soi : [0xff, 0xd8].isPrefixOf input = true
  · obtain ⟨rest, shape⟩ := (starts_with_soi input).mp soi
    simp only [soi, Bool.not_true, Bool.false_eq_true, ↓reduceIte]
    apply loop_rule _ _ _ _ (parse_step_reported fits)
    · exact ⟨[0xff, 0xd8], rest, shape, rfl, .start⟩
    · dsimp only
      omega
  · simp only [soi, Bool.not_false, ↓reduceIte]
    exact .missingStart (mt (starts_with_soi input).mpr soi)

end Reports

/-- The input is wrong where it was read. -/
inductive Corruption : FrameParseError → Prop where
  | missingStart : Corruption .missingJpegStart
  | expectedMarker (offset : Nat) (byte : UInt8) : Corruption (.expectedJpegMarker offset byte)
  | invalidSegmentLength (offset : Nat) (marker : UInt8) (length : Nat) :
      Corruption (.invalidJpegSegmentLength offset marker length)
  | invalidScanHeader (offset length components : Nat) :
      Corruption (.invalidJpegScanHeader offset length components)
  | unexpectedMarker (offset : Nat) (marker : UInt8) :
      Corruption (.unexpectedJpegMarker offset marker)
  | endBeforeScan (offset : Nat) : Corruption (.jpegEndBeforeScan offset)

/-- The input ends before its structure does. -/
inductive Truncation : FrameParseError → Prop where
  | marker (offset : Nat) : Truncation (.truncatedJpegMarker offset)
  | segmentLength (offset : Nat) (marker : UInt8) :
      Truncation (.truncatedJpegSegmentLength offset marker)
  | segment (offset : Nat) (marker : UInt8) (length available : Nat) :
      Truncation (.truncatedJpegSegment offset marker length available)
  | missingEnd : Truncation .missingJpegEnd

theorem evidence_kinds {input : List UInt8} {error : FrameParseError}
    (evidence : Evidence input error) : Corruption error ∨ Truncation error := by
  cases evidence with
  | missingStart => exact .inl .missingStart
  | expectedMarker => exact .inl (.expectedMarker _ _)
  | truncatedMarker => exact .inr (.marker _)
  | truncatedSegmentLength => exact .inr (.segmentLength _ _)
  | invalidSegmentLength => exact .inl (.invalidSegmentLength _ _ _)
  | truncatedSegment => exact .inr (.segment _ _ _ _)
  | invalidScanHeader => exact .inl (.invalidScanHeader _ _ _)
  | unexpectedMarker => exact .inl (.unexpectedMarker _ _)
  | endBeforeScan => exact .inl (.endBeforeScan _)
  | missingEnd => exact .inr .missingEnd

/-- Outcomes that more input cannot change. -/
def Definite {Value : Type} : Outcome FrameParseError Value → Prop
  | .ok _ => True
  | .err error => Corruption error
  | .panicked => False
  | .diverged => False

section Extension
variable {target : Target} {input extra rest tail : List UInt8} {progress : Progress}

theorem next_marker_extends {error : FrameParseError} (corrupt : Corruption error)
    (finds : NextMarker progress rest (.err error)) :
    NextMarker progress (rest ++ extra) (.err error) := by
  generalize outcome : (Outcome.err error : Outcome FrameParseError FoundMarker) = refusal at finds
  cases finds with
  | missing _ scanning whole =>
      cases outcome
      cases corrupt
  | ended outside =>
      cases outcome
      split at corrupt <;> cases corrupt
  | unmarked byte tail outside plain => exact .unmarked byte (tail ++ extra) outside plain
  | truncated lead fill led =>
      cases outcome
      cases corrupt
  | found => cases outcome

theorem after_marker_extends {sawScan : Bool} {found : FoundMarker}
    {outcome : Outcome FrameParseError (ControlFlow Progress Nat)} (definite : Definite outcome)
    (follows : AfterMarker sawScan found tail outcome) :
    AfterMarker sawScan found (tail ++ extra) outcome := by
  cases follows with
  | finished _ eoi saw => exact .finished _ eoi saw
  | early _ eoi unseen => exact .early _ eoi unseen
  | unexpected _ standalone => exact .unexpected _ standalone
  | shortLength _ carries short => cases definite
  | badLength high low body carries small => exact .badLength high low (body ++ extra) carries small
  | truncated high low body carries large short => cases definite
  | badScan high low body components sos large whole counted bad =>
      refine .badScan high low (body ++ extra) components sos large ?_ ?_ bad
      · rw [List.length_append]
        omega
      · -- the count is only read when its byte is there
        cases body with
        | nil =>
            have short : ¬ 3 ≤ (fromBe16 high low).toNat :=
              Nat.not_le_of_lt (Nat.lt_succ_of_le whole)
            rw [if_neg short] at counted ⊢
            exact counted
        | cons byte fields => exact counted
  | scan high low components fields after sos some length whole =>
      have longer : AfterMarker sawScan found
          (high :: low :: components :: (fields ++ (after ++ extra))) _ :=
        .scan high low components fields (after ++ extra) sos some length whole
      simpa using longer
  | segment high low body after plain large whole =>
      have longer : AfterMarker sawScan found (high :: low :: (body ++ (after ++ extra))) _ :=
        .segment high low body (after ++ extra) plain large whole
      simpa using longer

/-- One iteration over a longer input does the same, unless it reported that
bytes are missing. -/
theorem iterates_extends {outcome : Outcome FrameParseError (ControlFlow Progress Nat)}
    (definite : Definite outcome) (iterates : Iterates progress rest outcome) :
    Iterates progress (rest ++ extra) outcome := by
  cases iterates with
  | refused _ error finds => exact .refused _ error (next_marker_extends definite finds)
  | decided lead tail fill code _ led marked foreign follows =>
      simpa using Iterates.decided lead (tail ++ extra) fill code outcome led marked foreign
        (after_marker_extends definite follows)

theorem run_extends (fits : (input ++ extra).length ≤ target.isizeMax) (budget : Nat)
    (progress : Progress) (before rest : List UInt8) (shape : input = before ++ rest)
    (start : progress.cursor = before.length)
    (definite : Definite (loop (parseStep target input) budget progress)) :
    loop (parseStep target (input ++ extra)) budget progress =
      loop (parseStep target input) budget progress := by
  have inputFits : input.length ≤ target.isizeMax := by
    rw [List.length_append] at fits
    omega
  have longShape : input ++ extra = before ++ (rest ++ extra) := by
    rw [shape, List.append_assoc]
  induction budget generalizing progress before rest with
  | zero => exact definite.elim
  | succ budget ih =>
      obtain ⟨outcome, iterates⟩ := iterates_covers progress rest
      have short := iterates_computes outcome shape start inputFits iterates
      have safe := (iterates_safe outcome iterates).1
      simp only [loop, short] at definite ⊢
      -- an iteration that ends the loop has the verdict of the run
      cases outcome with
      | ok flow =>
          have long := iterates_computes _ longShape start fits
            (iterates_extends (by trivial) iterates)
          cases flow with
          | again next =>
              obtain ⟨part, after, rfl, some, moved, _⟩ := iterates_again next iterates
              simp only [long]
              apply ih next (before ++ part) after
              · rw [shape, List.append_assoc]
              · rw [moved, start, List.length_append]
              · exact definite
              · rw [longShape]; simp
          | done finish => simp only [long]
      | err error =>
          have long := iterates_computes _ longShape start fits (iterates_extends definite iterates)
          simp only [long]
      | panicked => exact safe.elim
      | diverged => exact safe.elim

theorem soi_extends (long : 2 ≤ input.length) (extra : List UInt8) :
    [0xff, 0xd8].isPrefixOf (input ++ extra) = [0xff, 0xd8].isPrefixOf input := by
  match input, long with
  | first :: second :: rest, _ => simp [List.isPrefixOf]

theorem parse_jpeg_end_extends (fits : (input ++ extra).length ≤ target.isizeMax)
    (long : 2 ≤ input.length) (definite : Definite (parseJpegEnd target input)) :
    parseJpegEnd target (input ++ extra) = parseJpegEnd target input := by
  unfold parseJpegEnd at definite ⊢
  rw [soi_extends long]
  by_cases soi : [0xff, 0xd8].isPrefixOf input = true
  · obtain ⟨rest, shape⟩ := (starts_with_soi input).mp soi
    simp only [soi, Bool.not_true, Bool.false_eq_true, ↓reduceIte] at definite ⊢
    have same := run_extends fits _ _ [0xff, 0xd8] rest shape rfl definite
    -- the longer input brings a larger budget, which is not used
    rw [List.length_append, Nat.add_right_comm, loop_more_budget, same]
    intro diverged
    rw [same] at diverged
    rw [diverged] at definite
    exact definite
  · simp only [soi, Bool.not_false, ↓reduceIte]

end Extension

/-- Every error of `parse_jpeg_end` tells the truth about its input. -/
theorem jpeg_error_evidence (target : Target) (x : Slice target) (error : FrameParseError)
    (refused : parseJpegEnd target x.bytes = .err error) : Evidence x.bytes error := by
  have reported := parse_reported x.fits
  rw [refused] at reported
  exact reported

/-- A second start of image behind a segment and a scan with a stuffed byte. -/
def startedTwice : List UInt8 :=
  [0xff, 0xd8] ++ [0xff, 0xe0, 0x00, 0x04, 0x11, 0x22] ++
    [0xff, 0xda, 0x00, 0x08, 0x01, 0x01, 0x00, 0x00, 0x3f, 0x00, 0x10, 0xff, 0x00, 0x20] ++
    [0xff, 0xd8]

theorem jpeg_error_evidence_second_start :
    Evidence startedTwice (.unexpectedJpegMarker 22 0xd8) :=
  jpeg_error_evidence .bits64 ⟨startedTwice, by decide⟩ _ (by decide)

/-- More input never changes a verdict that is not about missing bytes, and so
every cut through an image is reported as a cut. -/
theorem jpeg_verdicts_stable (target : Target) (y : Slice target) :
    (∀ x t, y.bytes = x ++ t → 2 ≤ x.length → Definite (parseJpegEnd target x) →
      parseJpegEnd target y.bytes = parseJpegEnd target x) ∧
    (∀ n k, parseJpegEnd target y.bytes = .ok n → 2 ≤ k → k < n →
      ∃ error, parseJpegEnd target (y.bytes.take k) = .err error ∧ Truncation error) := by
  have stable : ∀ x t, y.bytes = x ++ t → 2 ≤ x.length → Definite (parseJpegEnd target x) →
      parseJpegEnd target y.bytes = parseJpegEnd target x := by
    intro x t shape long definite
    have fits := y.fits
    rw [shape] at fits ⊢
    exact parse_jpeg_end_extends fits long definite
  refine ⟨stable, ?_⟩
  intro n k accepted low high
  have inside := ((parse_jpeg_end_iff y.fits n).mp accepted).1
  have fits := y.fits
  have length : (y.bytes.take k).length = k := List.length_take_of_le (by omega)
  have cutFits : (y.bytes.take k).length ≤ target.isizeMax := by omega
  have whole := stable (y.bytes.take k) (y.bytes.drop k)
    (List.take_append_drop k y.bytes).symm (by omega)
  have reported := parse_reported cutFits
  cases cut : parseJpegEnd target (y.bytes.take k) with
  | ok finish =>
      -- the end of the image lies behind the cut
      have early := ((parse_jpeg_end_iff cutFits finish).mp cut).1
      rw [cut, accepted] at whole
      have same := Outcome.ok.inj (whole trivial)
      omega
  | err error =>
      rw [cut] at reported whole
      rcases evidence_kinds reported with corrupt | truncated
      · rw [accepted] at whole
        exact absurd (whole corrupt) (by simp)
      · exact ⟨error, rfl, truncated⟩
  | panicked => rw [cut] at reported; exact reported.elim
  | diverged => rw [cut] at reported; exact reported.elim

end Smiusb.JpegEvidence
