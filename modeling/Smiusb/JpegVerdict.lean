import Smiusb.JpegEnd

/-!
Whole runs of `parse_jpeg_end` against the grammar. One iteration is inverted
once (`Iterates`); soundness carries an `Opening` of the grammar through the
outer loop, completeness walks the parts of a given image through it.
-/

namespace Smiusb.JpegVerdict
open Execution Bytes WireProtocol JpegGrammar JpegEnd

/-- Everything one iteration of the outer loop can do at a cursor. -/
inductive Iterates (progress : Progress) :
    List UInt8 → Outcome FrameParseError (ControlFlow Progress Nat) → Prop where
  | refused (rest : List UInt8) (error : FrameParseError)
      (finds : NextMarker progress rest (.err error)) : Iterates progress rest (.err error)
  | decided (lead tail : List UInt8) (fill : Nat) (code : UInt8)
      (outcome : Outcome FrameParseError (ControlFlow Progress Nat))
      (led : Lead progress.inScan lead) (marked : code ≠ 0xff)
      (foreign : progress.inScan = true → ¬ EntropyCode code)
      (follows : AfterMarker progress.sawScan
        ⟨progress.cursor + lead.length + fill + 2, progress.cursor + lead.length, code⟩
        tail outcome) :
      Iterates progress (lead ++ (List.replicate (fill + 1) 0xff ++ code :: tail)) outcome

section Iterations
variable {target : Target} {input before rest : List UInt8} {progress : Progress}

theorem iterates_computes (outcome : Outcome FrameParseError (ControlFlow Progress Nat))
    (shape : input = before ++ rest) (start : progress.cursor = before.length)
    (fits : input.length ≤ target.isizeMax) (iterates : Iterates progress rest outcome) :
    parseStep target input progress = outcome := by
  unfold parseStep
  cases iterates with
  | refused _ error finds => rw [next_marker_computes shape start fits finds, Outcome.err_bind]
  | decided lead tail fill code _ led marked foreign follows =>
      rw [next_marker_computes shape start fits
        (.found lead tail fill code led marked foreign), Outcome.ok_bind]
      have behind :
          input = (before ++ lead ++ List.replicate (fill + 1) 0xff ++ [code]) ++ tail := by
        rw [shape]; simp
      refine after_marker_computes behind ?_ fits follows
      simp [start]; omega

theorem iterates_covers (progress : Progress) (rest : List UInt8) :
    ∃ outcome, Iterates progress rest outcome := by
  obtain ⟨outcome, finds⟩ := next_marker_covers progress rest
  cases finds with
  | missing _ scanning whole => exact ⟨_, .refused _ _ (.missing _ scanning whole)⟩
  | ended outside => exact ⟨_, .refused _ _ (.ended outside)⟩
  | unmarked byte tail outside plain =>
      exact ⟨_, .refused _ _ (.unmarked byte tail outside plain)⟩
  | truncated lead fill led => exact ⟨_, .refused _ _ (.truncated lead fill led)⟩
  | found lead tail fill code led marked foreign =>
      obtain ⟨outcome, follows⟩ := after_marker_covers progress.sawScan
        ⟨progress.cursor + lead.length + fill + 2, progress.cursor + lead.length, code⟩ tail
      exact ⟨_, .decided lead tail fill code outcome led marked foreign follows⟩

/-- Entropy data already in front of the cursor may be counted to either side. -/
theorem next_marker_prepend (entropy : List UInt8) (whole : Lead progress.inScan entropy)
    (outcome : Outcome FrameParseError FoundMarker) (later : Progress)
    (moved : later = { progress with cursor := progress.cursor + entropy.length })
    (finds : NextMarker later rest outcome) (stays : progress.inScan = true) :
    NextMarker progress (entropy ++ rest) outcome := by
  subst moved
  rw [Lead, stays, if_pos rfl] at whole
  cases finds with
  | missing _ scanning more =>
      exact .missing _ stays (entropy_append whole more)
  | ended outside => simp [stays] at outside
  | unmarked byte tail outside plain => simp [stays] at outside
  | truncated lead fill led =>
      rw [Lead, if_pos stays] at led
      have both : Lead progress.inScan (entropy ++ lead) := by
        rw [Lead, if_pos stays]; exact entropy_append whole led
      simpa [Nat.add_assoc] using NextMarker.truncated (entropy ++ lead) fill both
  | found lead tail fill code led marked foreign =>
      rw [Lead, if_pos stays] at led
      have both : Lead progress.inScan (entropy ++ lead) := by
        rw [Lead, if_pos stays]; exact entropy_append whole led
      simpa [Nat.add_assoc] using
        NextMarker.found (entropy ++ lead) tail fill code both marked foreign

/-- Reading entropy data early or late gives the same iteration. -/
theorem parse_step_lead (entropy : List UInt8) (shape : input = before ++ (entropy ++ rest))
    (start : progress.cursor = before.length) (fits : input.length ≤ target.isizeMax)
    (led : Lead progress.inScan entropy) :
    parseStep target input progress =
      parseStep target input { progress with cursor := (before ++ entropy).length } := by
  have moved : (before ++ entropy).length = progress.cursor + entropy.length := by
    rw [List.length_append, start]
  cases stays : progress.inScan with
  | false =>
      obtain rfl : entropy = [] := by simpa [Lead, stays] using led
      rw [List.append_nil, ← start, ← stays]
  | true =>
      obtain ⟨outcome, finds⟩ :=
        next_marker_covers { progress with cursor := (before ++ entropy).length } rest
      have early := next_marker_computes
        (by rw [shape]; simp) rfl fits finds
      have late := next_marker_computes shape start fits
        (next_marker_prepend entropy led outcome _ (by rw [moved]) finds stays)
      unfold parseStep
      rw [← stays, late, early]

theorem opening_lead {lead : List UInt8} (opening : Opening progress.inScan progress.sawScan before)
    (led : Lead progress.inScan lead) :
    Opening progress.inScan progress.sawScan (before ++ lead) := by
  cases inside : progress.inScan with
  | false =>
      obtain rfl : lead = [] := by simpa [Lead, inside] using led
      simpa [inside] using opening
  | true =>
      rw [inside] at opening
      exact .entropy opening (by simpa [Lead, inside] using led)

/-- A continuing iteration reads one more complete part and at least a byte. -/
theorem iterates_again (next : Progress)
    (iterates : Iterates progress rest (.ok (.again next))) :
    ∃ part after, rest = part ++ after ∧ 0 < part.length ∧
      next.cursor = progress.cursor + part.length ∧
      ∀ before, Opening progress.inScan progress.sawScan before →
        Opening next.inScan next.sawScan (before ++ part) := by
  cases iterates with
  | decided lead tail fill code _ led marked foreign follows =>
      cases follows with
      | scan high low components fields after sos some length whole =>
          have header : ScanHeader (List.replicate (fill + 1) 0xff ++ [code] ++
              high :: low :: components :: fields) :=
            ⟨_, high, low, components, fields, ⟨by decide, fill, by rw [show code = 0xda from sos]⟩,
              some, length, whole, rfl⟩
          refine ⟨lead ++ (List.replicate (fill + 1) 0xff ++ [code] ++
            high :: low :: components :: fields), after, by simp, ?_, ?_, ?_⟩
          · simp only [List.length_append, List.length_replicate]
            omega
          · simp only [List.length_append, List.length_replicate, List.length_cons,
              List.length_nil] at whole ⊢
            omega
          · intro before opening
            have led' := opening_lead opening led
            rw [← List.append_assoc]
            exact .scan led' header
      | segment high low body after plain large whole =>
          have segment :
              Segment (List.replicate (fill + 1) 0xff ++ [code] ++ high :: low :: body) :=
            ⟨code, _, high, low, body, ⟨marked, fill, rfl⟩, plain, large, whole, rfl⟩
          refine ⟨lead ++ (List.replicate (fill + 1) 0xff ++ [code] ++ high :: low :: body), after,
            by simp, ?_, ?_, ?_⟩
          · simp only [List.length_append, List.length_replicate]
            omega
          · simp only [List.length_append, List.length_replicate, List.length_cons,
              List.length_nil] at whole ⊢
            omega
          · intro before opening
            have led' := opening_lead opening led
            rw [← List.append_assoc]
            exact .segment led' segment

/-- The accepting iteration reads the end marker of a complete image. -/
theorem iterates_done (finish : Nat)
    (opening : Opening progress.inScan progress.sawScan before)
    (start : progress.cursor = before.length)
    (iterates : Iterates progress rest (.ok (.done finish))) :
    ∃ part after, rest = part ++ after ∧ 0 < part.length ∧ finish = (before ++ part).length ∧
      Jpeg (before ++ part) := by
  cases iterates with
  | decided lead tail fill code _ led marked foreign follows =>
      have led' := opening_lead opening led
      cases follows with
      | finished _ eoi saw =>
          have ending : Marker 0xd9 (List.replicate (fill + 1) 0xff ++ [code]) :=
            ⟨by decide, fill, by rw [show code = 0xd9 from eoi]⟩
          refine ⟨lead ++ (List.replicate (fill + 1) 0xff ++ [code]), tail, by simp, ?_, ?_, ?_⟩
          · simp only [List.length_append, List.length_replicate]
            omega
          · simp only [List.length_append, List.length_replicate, List.length_singleton, start]
            omega
          · rw [← List.append_assoc]
            rw [saw] at led'
            exact opening_jpeg led' ending

/-- The two errors that blame the platform instead of the bytes. -/
def PlatformError (error : FrameParseError) : Prop :=
  error = .lengthOverflow ∨ ∃ declared, error = .declaredLengthDoesNotFit declared

/-- No shape of the input ends in a panic, and no refusal blames the platform. -/
theorem iterates_safe (outcome : Outcome FrameParseError (ControlFlow Progress Nat))
    (iterates : Iterates progress rest outcome) :
    outcome.Returns ∧ ∀ error, outcome = .err error → ¬ PlatformError error := by
  cases iterates with
  | refused _ error finds =>
      refine ⟨trivial, ?_⟩
      rintro _ ⟨⟩
      cases finds with
      | ended outside => split <;> simp [PlatformError]
      | _ => simp [PlatformError]
  | decided lead tail fill code _ led marked foreign follows =>
      cases follows <;> refine ⟨trivial, ?_⟩ <;> rintro _ ⟨⟩ <;> simp [PlatformError]

end Iterations

section Runs
variable {target : Target} {input : List UInt8}

/-- The loop invariant: the bytes behind the cursor open an image. -/
def Opened (input : List UInt8) (progress : Progress) : Prop :=
  ∃ before rest, input = before ++ rest ∧ progress.cursor = before.length ∧
    Opening progress.inScan progress.sawScan before

/-- A continuing iteration keeps the invariant and moves on inside the input. -/
theorem opened_again {before rest : List UInt8} {progress : Progress} (next : Progress)
    (shape : input = before ++ rest) (start : progress.cursor = before.length)
    (opening : Opening progress.inScan progress.sawScan before)
    (iterates : Iterates progress rest (.ok (.again next))) :
    Opened input next ∧ progress.cursor < next.cursor ∧ next.cursor ≤ input.length := by
  obtain ⟨part, after, rfl, some, moved, opened⟩ := iterates_again next iterates
  have size : input.length = before.length + (part.length + after.length) := by
    rw [shape]; simp
  refine ⟨⟨before ++ part, after, ?_, ?_, opened before opening⟩, ?_, ?_⟩
  · rw [shape, List.append_assoc]
  · rw [moved, start, List.length_append]
  · omega
  · omega

/-- What a run may end in. `floor` is a position the end must lie behind. -/
def Verdict (input : List UInt8) (floor : Nat) : Outcome FrameParseError Nat → Prop
  | .ok finish => floor < finish ∧ finish ≤ input.length ∧ Jpeg (input.take finish)
  | .err error => ¬ PlatformError error
  | .panicked => False
  | .diverged => False

theorem parse_step_iteration (fits : input.length ≤ target.isizeMax) (floor : Nat)
    (progress : Progress) (holds : Opened input progress ∧ floor ≤ progress.cursor) :
    Iteration (fun progress => Opened input progress ∧ floor ≤ progress.cursor)
      (fun progress => input.length - progress.cursor) (Verdict input floor) progress
      (parseStep target input progress) := by
  obtain ⟨⟨before, rest, shape, start, opening⟩, above⟩ := holds
  -- the shape of the remaining bytes decides the whole iteration
  obtain ⟨outcome, iterates⟩ := iterates_covers progress rest
  rw [iterates_computes outcome shape start fits iterates]
  have safe := iterates_safe outcome iterates
  cases outcome with
  | ok flow =>
      cases flow with
      | again next =>
          obtain ⟨opened, further, below⟩ := opened_again next shape start opening iterates
          refine ⟨⟨opened, by omega⟩, ?_⟩
          dsimp only
          omega
      | done finish =>
          obtain ⟨part, after, rfl, some, rfl, image⟩ := iterates_done finish opening start iterates
          have size : input.length = before.length + (part.length + after.length) := by
            rw [shape]; simp
          rw [List.length_append] at *
          refine ⟨by omega, by omega, ?_⟩
          rw [shape, ← List.length_append, ← List.append_assoc, List.take_left]
          exact image
  | err error => exact safe.2 error rfl
  | panicked => exact safe.1
  | diverged => exact safe.1

theorem run_verdict (fits : input.length ≤ target.isizeMax) (budget : Nat) (progress : Progress)
    (opened : Opened input progress) (enough : input.length - progress.cursor < budget) :
    Verdict input progress.cursor (loop (parseStep target input) budget progress) :=
  loop_rule (parseStep target input) _ _ _ (parse_step_iteration fits progress.cursor) budget
    progress ⟨opened, Nat.le_refl _⟩ enough

theorem starts_with_soi (input : List UInt8) :
    [0xff, 0xd8].isPrefixOf input = true ↔ ∃ rest, input = [0xff, 0xd8] ++ rest := by
  rw [List.isPrefixOf_iff_prefix]
  exact ⟨fun ⟨rest, same⟩ => ⟨rest, same.symm⟩, fun ⟨rest, same⟩ => ⟨rest, same.symm⟩⟩

theorem parse_verdict (fits : input.length ≤ target.isizeMax) :
    Verdict input 2 (parseJpegEnd target input) := by
  unfold parseJpegEnd
  by_cases soi : [0xff, 0xd8].isPrefixOf input = true
  · obtain ⟨rest, shape⟩ := (starts_with_soi input).mp soi
    simp only [soi, Bool.not_true, Bool.false_eq_true, ↓reduceIte]
    apply run_verdict fits
    · exact ⟨[0xff, 0xd8], rest, shape, rfl, .start⟩
    · omega
  · simp [soi, Verdict, PlatformError]

theorem entropy_code_reserved (code : UInt8) (allowed : EntropyCode code) : Reserved code := by
  rcases allowed with zero | ⟨lower, upper⟩
  · exact Or.inl zero
  · exact Or.inr (Or.inr ⟨lower, UInt8.le_trans upper (by decide)⟩)

theorem segment_advances (before lead segment rest : List UInt8) (progress : Progress)
    (shape : input = before ++ (lead ++ (segment ++ rest)))
    (start : progress.cursor = before.length) (fits : input.length ≤ target.isizeMax)
    (led : Lead progress.inScan lead) (complete : Segment segment) :
    parseStep target input progress =
      .ok (.again ⟨(before ++ lead ++ segment).length, false, progress.sawScan⟩) := by
  obtain ⟨code, marker, high, low, body, ⟨marked, fill, rfl⟩, plain, large, whole, rfl⟩ := complete
  have iterates := Iterates.decided lead (high :: low :: (body ++ rest)) fill
    code _ led marked (fun _ allowed => plain (entropy_code_reserved code allowed))
    (.segment high low body rest plain large whole)
  rw [iterates_computes _ (by rw [shape]; simp) start fits iterates]
  congr 3
  simp only [List.length_append, List.length_replicate, List.length_cons, List.length_nil, start]
  omega

theorem scan_header_advances (before lead header rest : List UInt8) (progress : Progress)
    (shape : input = before ++ (lead ++ (header ++ rest)))
    (start : progress.cursor = before.length) (fits : input.length ≤ target.isizeMax)
    (led : Lead progress.inScan lead) (complete : ScanHeader header) :
    parseStep target input progress =
      .ok (.again ⟨(before ++ lead ++ header).length, true, true⟩) := by
  obtain ⟨marker, high, low, components, fields, ⟨marked, fill, rfl⟩, some, length, whole, rfl⟩ :=
    complete
  have iterates := Iterates.decided lead
    (high :: low :: components :: (fields ++ rest)) fill 0xda _ led marked (fun _ => by decide)
    (.scan high low components fields rest rfl some length whole)
  rw [iterates_computes _ (by rw [shape]; simp) start fits iterates]
  congr 3
  simp only [List.length_append, List.length_replicate, List.length_cons, List.length_nil,
    start] at whole ⊢
  omega

/-- Complete parts are walked through one iteration each. The entropy data of
the last scan is still ahead of the cursor when its iteration ends. -/
theorem parts_advance (parts : List (List UInt8))
    (each : ∀ part ∈ parts, Segment part ∨ Scan part) (before lead rest : List UInt8)
    (progress : Progress) (shape : input = before ++ (lead ++ (parts.flatten ++ rest)))
    (start : progress.cursor = before.length) (fits : input.length ≤ target.isizeMax)
    (led : Lead progress.inScan lead)
    (opening : Opening progress.inScan progress.sawScan before) :
    ∃ spent before' lead' next,
      before' ++ lead' = before ++ (lead ++ parts.flatten) ∧ next.cursor = before'.length ∧
      Lead next.inScan lead' ∧ Opening next.inScan next.sawScan before' ∧
      (progress.sawScan = true ∨ (∃ part ∈ parts, Scan part) → next.sawScan = true) ∧
      spent ≤ parts.flatten.length ∧
      ∀ budget, loop (parseStep target input) (budget + spent) progress =
        loop (parseStep target input) budget next := by
  induction parts generalizing before lead progress with
  | nil =>
      exact ⟨0, before, lead, progress, by simp, start, led, opening, by simp, by simp, by simp⟩
  | cons part parts ih =>
      have tail := fun other member => each other (List.mem_cons_of_mem part member)
      have led' := opening_lead opening led
      rw [List.flatten_cons, List.append_assoc] at shape
      -- after a scan header the entropy data becomes the lead of the next iteration
      by_cases scan : Scan part
      · obtain ⟨header, entropy, headed, entropic, rfl⟩ := scan
        have advance := scan_header_advances before lead header (entropy ++ (parts.flatten ++ rest))
          progress (by rw [shape]; simp) start fits led headed
        obtain ⟨spent, before', lead', next, covered, cursor, after, open', saw, bound, run⟩ :=
          ih tail (before ++ lead ++ header) entropy ⟨_, true, true⟩ (by rw [shape]; simp) rfl
            entropic (.scan led' headed)
        have size := scan_header_nonempty headed
        refine ⟨spent + 1, before', lead', next, by rw [covered]; simp, cursor, after, open',
          fun _ => saw (Or.inl rfl), ?_, ?_⟩
        · rw [List.flatten_cons, List.length_append, List.length_append]
          omega
        · intro budget
          rw [← Nat.add_assoc, loop_again _ _ _ _ advance, run]
      · have segment := (each part (by simp)).resolve_right scan
        have advance := segment_advances before lead part (parts.flatten ++ rest) progress shape
          start fits led segment
        obtain ⟨spent, before', lead', next, covered, cursor, after, open', saw, bound, run⟩ :=
          ih tail (before ++ lead ++ part) [] ⟨_, false, progress.sawScan⟩ (by rw [shape]; simp)
            rfl rfl (.segment led' segment)
        have size := segment_nonempty segment
        refine ⟨spent + 1, before', lead', next, by rw [covered]; simp, cursor, after, open',
          ?_, ?_, ?_⟩
        · rintro (old | ⟨other, member, found⟩)
          · exact saw (Or.inl old)
          · rcases List.mem_cons.mp member with rfl | member
            · exact absurd found scan
            · exact saw (Or.inr ⟨other, member, found⟩)
        · rw [List.flatten_cons, List.length_append]
          omega
        · intro budget
          rw [← Nat.add_assoc, loop_again _ _ _ _ advance, run]

/-- The run from the first marker on, after any number of complete parts. -/
theorem parse_parts (parts : List (List UInt8)) (each : ∀ part ∈ parts, Segment part ∨ Scan part)
    (rest : List UInt8) (shape : input = [0xff, 0xd8] ++ parts.flatten ++ rest)
    (fits : input.length ≤ target.isizeMax) :
    ∃ budget before lead next, before ++ lead = [0xff, 0xd8] ++ parts.flatten ∧
      next.cursor = before.length ∧ Lead next.inScan lead ∧
      Opening next.inScan next.sawScan before ∧
      ((∃ part ∈ parts, Scan part) → next.sawScan = true) ∧ rest.length < budget ∧
      parseJpegEnd target input = loop (parseStep target input) budget next := by
  have soi := (starts_with_soi input).mpr ⟨parts.flatten ++ rest, by rw [shape]; simp⟩
  obtain ⟨spent, before, lead, next, covered, cursor, led, opening, saw, bound, run⟩ :=
    parts_advance parts each [0xff, 0xd8] [] rest
      ⟨2, false, false⟩ (by rw [shape]; simp) rfl fits rfl .start
  have size : input.length = 2 + (parts.flatten.length + rest.length) := by
    rw [shape]
    simp only [List.length_append, List.length_cons, List.length_nil]
    omega
  refine ⟨input.length + 1 - spent, before, lead, next, by rw [covered]; simp, cursor, led, opening,
    fun scan => saw (Or.inr scan), by omega, ?_⟩
  rw [← run, Nat.sub_add_cancel (by omega)]
  simp [parseJpegEnd, soi]

/-- Completeness: the end of a leading image is always found. -/
theorem parse_jpeg (image tail : List UInt8) (jpeg : Jpeg image) (shape : input = image ++ tail)
    (fits : input.length ≤ target.isizeMax) : parseJpegEnd target input = .ok image.length := by
  obtain ⟨parts, _, each, scan, ⟨marked, fill, rfl⟩, rfl⟩ := jpeg
  obtain ⟨budget, before, lead, next, covered, cursor, led, opening, saw, enough, run⟩ :=
    parse_parts parts each (List.replicate (fill + 1) 0xff ++ [0xd9] ++ tail)
      (by rw [shape]; simp) fits
  have iterates := Iterates.decided lead tail fill 0xd9 _ led marked
    (fun _ => by decide) (.finished tail rfl (saw scan))
  have finish := iterates_computes _
    (by rw [shape, ← List.append_assoc before, covered]; simp) cursor fits iterates
  obtain ⟨budget, rfl⟩ := Nat.exists_eq_add_of_lt enough
  rw [run, loop_done _ _ _ _ finish]
  have lengths := congrArg List.length covered
  simp only [List.length_append, List.length_replicate, List.length_cons, List.length_nil]
    at lengths ⊢
  congr 1
  omega

/-- No end is found inside complete leading parts, whatever bytes they hold. -/
theorem parse_behind_parts (parts : List (List UInt8))
    (each : ∀ part ∈ parts, Segment part ∨ Scan part) (rest : List UInt8)
    (shape : input = [0xff, 0xd8] ++ parts.flatten ++ rest) (fits : input.length ≤ target.isizeMax)
    (finish : Nat) (accepted : parseJpegEnd target input = .ok finish) :
    ([0xff, 0xd8] ++ parts.flatten).length < finish := by
  obtain ⟨budget, before, lead, next, covered, cursor, led, opening, _, enough, run⟩ :=
    parse_parts parts each rest shape fits
  have split : input = before ++ (lead ++ rest) := by rw [shape, ← covered]; simp
  -- the entropy data of a last scan counts as read before the verdict is taken
  have moved := parse_step_lead lead split cursor fits led
  have verdict := run_verdict fits budget
    { next with cursor := (before ++ lead).length }
    ⟨before ++ lead, rest, by rw [split]; simp, rfl, opening_lead opening led⟩
    (by rw [split]; simp; omega)
  rw [run, loop_congr _ budget _ _ moved] at accepted
  rw [accepted, covered] at verdict
  exact verdict.1

theorem parse_jpeg_end_iff (fits : input.length ≤ target.isizeMax) (finish : Nat) :
    parseJpegEnd target input = .ok finish ↔
      finish ≤ input.length ∧ Jpeg (input.take finish) := by
  constructor
  · intro accepted
    have verdict := parse_verdict fits
    rw [accepted] at verdict
    exact verdict.2
  · rintro ⟨inside, image⟩
    have found := parse_jpeg (input.take finish) (input.drop finish) image
      (List.take_append_drop finish input).symm fits
    rw [found, List.length_take, Nat.min_eq_left inside]

/-- Only the accepted bytes decide: whatever stands behind them is not read. -/
theorem parse_jpeg_end_local {other : List UInt8} (fits : input.length ≤ target.isizeMax)
    (fits' : other.length ≤ target.isizeMax) (finish : Nat)
    (accepted : parseJpegEnd target input = .ok finish)
    (same : other.take finish = input.take finish) :
    parseJpegEnd target other = .ok finish := by
  obtain ⟨inside, image⟩ := (parse_jpeg_end_iff fits finish).mp accepted
  have lengths := congrArg List.length same
  simp only [List.length_take] at lengths
  rw [← same] at image
  exact (parse_jpeg_end_iff fits' finish).mpr ⟨by omega, image⟩

theorem parse_stuffed (parts : List (List UInt8)) (each : ∀ part ∈ parts, Segment part ∨ Scan part)
    (header payload eoi tail : List UInt8) (headed : ScanHeader header) (ending : Marker 0xd9 eoi)
    (shape : input = [0xff, 0xd8] ++ parts.flatten ++ (header ++ stuff payload) ++ eoi ++ tail)
    (fits : input.length ≤ target.isizeMax) :
    parseJpegEnd target input = .ok (input.length - tail.length) := by
  have scan : Scan (header ++ stuff payload) := ⟨header, _, headed, entropy_stuff payload, rfl⟩
  have image : Jpeg ([0xff, 0xd8] ++ (parts ++ [header ++ stuff payload]).flatten ++ eoi) := by
    refine ⟨_, eoi, ?_, ⟨_, by simp, scan⟩, ending, rfl⟩
    intro part member
    rcases List.mem_append.mp member with old | new
    · exact each part old
    · rw [List.mem_singleton.mp new]
      exact Or.inr scan
  have found := parse_jpeg _ tail image
    (by rw [shape]; simp) fits
  rw [found, shape]
  congr 1
  simp
  omega

end Runs

/-- `parse_jpeg_end` accepts exactly the grammar at the front of its input. The
end is unique, lies behind every complete part whatever its body or stuffed
payload contains, and does not depend on the bytes that follow the image. -/
theorem jpeg_end_exact (target : Target) (x : Slice target) :
    (∀ n, parseJpegEnd target x.bytes = .ok n ↔
      n ≤ x.bytes.length ∧ Jpeg (x.bytes.take n)) ∧
    (∀ n k, n ≤ x.bytes.length → Jpeg (x.bytes.take n) →
      k ≤ x.bytes.length → Jpeg (x.bytes.take k) → n = k) ∧
    (∀ (parts : List (List UInt8)) rest n, (∀ part ∈ parts, Segment part ∨ Scan part) →
      x.bytes = [0xff, 0xd8] ++ parts.flatten ++ rest → parseJpegEnd target x.bytes = .ok n →
      ([0xff, 0xd8] ++ parts.flatten).length < n) ∧
    (∀ (parts : List (List UInt8)) header payload eoi tail,
      (∀ part ∈ parts, Segment part ∨ Scan part) →
      ScanHeader header → Marker 0xd9 eoi →
      x.bytes = [0xff, 0xd8] ++ parts.flatten ++ (header ++ stuff payload) ++ eoi ++ tail →
      parseJpegEnd target x.bytes = .ok (x.bytes.length - tail.length)) ∧
    (∀ n (y : Slice target), parseJpegEnd target x.bytes = .ok n →
      y.bytes.take n = x.bytes.take n → parseJpegEnd target y.bytes = .ok n) := by
  refine ⟨parse_jpeg_end_iff x.fits, ?_, ?_, ?_, ?_⟩
  · intro n k insideN imageN insideK imageK
    have first := (parse_jpeg_end_iff x.fits n).mpr ⟨insideN, imageN⟩
    have second := (parse_jpeg_end_iff x.fits k).mpr ⟨insideK, imageK⟩
    rw [first] at second
    exact Outcome.ok.inj second
  · intro parts rest n each shape accepted
    exact parse_behind_parts parts each rest shape x.fits n accepted
  · intro parts header payload eoi tail each headed ending shape
    exact parse_stuffed parts each header payload eoi tail headed ending shape x.fits
  · intro n y accepted same
    exact parse_jpeg_end_local x.fits y.fits n accepted same

-- A false EOI pair in an APP1 body, a stuffed prefix byte and a restart marker.
example : parseJpegEnd .bits64
    [0xff, 0xd8, 0xff, 0xe1, 0x00, 0x08, 0x11, 0xff, 0xd9, 0x22, 0x33, 0x44, 0xff, 0xda, 0x00,
      0x08, 0x01, 0x01, 0x00, 0x00, 0x3f, 0x00, 0x10, 0xff, 0x00, 0xd9, 0x20, 0xff, 0xd0, 0x30,
      0xff, 0xd9] = .ok 32 := by decide

end Smiusb.JpegVerdict
