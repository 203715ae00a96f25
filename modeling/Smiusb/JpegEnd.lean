import Smiusb.JpegGrammar
import Smiusb.WireProtocol

/-!
`parse_jpeg_end` of rust/src/protocol.rs with its outer loop, its inner scan
loop and its fill-byte loops. Each loop runs under one iteration more than the
input has bytes. The relations `NextMarker` and `AfterMarker` list what one
iteration of the outer loop can find, shape by shape, with the exact outcome.
They are a proof interface, not a second parser: `next_marker_computes` and
`after_marker_computes` tie them to the loops, and every shape is covered.
-/

namespace Smiusb.JpegEnd
open Execution Bytes WireProtocol JpegGrammar

section Model
variable (target : Target) (input : List UInt8)

def fillStep (cursor : Nat) : Outcome FrameParseError (ControlFlow Nat Nat) :=
  if input[cursor]? = some 0xff then do
    let next ← okOr (checkedAdd target cursor 1) .lengthOverflow
    .ok (.again next)
  else .ok (.done cursor)

def skipFill (cursor : Nat) : Outcome FrameParseError Nat :=
  loop (fillStep target input) (input.length + 1) cursor

structure FoundMarker where
  cursor : Nat
  offset : Nat
  marker : UInt8
  deriving DecidableEq, Repr

/-- The part both marker readers share, from a prefix byte at `markerOffset`. -/
def readMarkerCode (markerOffset : Nat) : Outcome FrameParseError FoundMarker := do
  let cursor ← okOr (checkedAdd target markerOffset 1) .lengthOverflow
  let cursor ← skipFill target input cursor
  let marker ← okOr input[cursor]? (.truncatedJpegMarker markerOffset)
  let cursor ← okOr (checkedAdd target cursor 1) .lengthOverflow
  .ok { cursor, offset := markerOffset, marker }

def scanStep (cursor : Nat) : Outcome FrameParseError (ControlFlow Nat FoundMarker) := do
  let rest ← sliceFrom input cursor
  let relative ← okOr (rest.findIdx? (· == 0xff)) .missingJpegEnd
  let markerOffset ← okOr (checkedAdd target cursor relative) .lengthOverflow
  let found ← readMarkerCode target input markerOffset
  -- 0x00 | 0xd0..=0xd7 => continue
  if found.marker = 0x00 ∨ 0xd0 ≤ found.marker ∧ found.marker ≤ 0xd7 then
    .ok (.again found.cursor)
  else .ok (.done found)

def scanForMarker (cursor : Nat) : Outcome FrameParseError FoundMarker :=
  loop (scanStep target input) (input.length + 1) cursor

def expectMarker (sawScan : Bool) (cursor : Nat) : Outcome FrameParseError FoundMarker := do
  let lead ← okOr input[cursor]? (if sawScan then .missingJpegEnd else .truncatedJpegMarker cursor)
  if lead ≠ 0xff then .err (.expectedJpegMarker cursor lead)
  else readMarkerCode target input cursor

structure Progress where
  cursor : Nat
  inScan : Bool
  sawScan : Bool
  deriving DecidableEq, Repr

def nextMarker (progress : Progress) : Outcome FrameParseError FoundMarker :=
  if progress.inScan then scanForMarker target input progress.cursor
  else expectMarker target input progress.sawScan progress.cursor

def scanComponents (cursor segmentLength : Nat) : Outcome FrameParseError Nat :=
  if 3 ≤ segmentLength then do
    let position ← plus target cursor 2
    let components ← index input position
    .ok components.toNat
  else .ok 0

/-- The rest of the iteration. The marker readers have already left the scan. -/
def afterMarker (sawScan : Bool) (found : FoundMarker) :
    Outcome FrameParseError (ControlFlow Progress Nat) :=
  let marker := found.marker
  let cursor := found.cursor
  -- EOI counts only behind a scan
  if marker = 0xd9 then
    if sawScan then .ok (.done cursor) else .err (.jpegEndBeforeScan found.offset)
  else if marker = 0x00 ∨ marker = 0x01 ∨ 0xd0 ≤ marker ∧ marker ≤ 0xd8 then
    .err (.unexpectedJpegMarker found.offset marker)
  else
    let available := input.length - cursor
    if available < 2 then .err (.truncatedJpegSegmentLength found.offset marker)
    else do
      let word ← readU16Be target input cursor
      let segmentLength := word.toNat
      if segmentLength < 2 then
        .err (.invalidJpegSegmentLength found.offset marker segmentLength)
      else do
        let segmentEnd ← okOr (checkedAdd target cursor segmentLength) .lengthOverflow
        if input.length < segmentEnd then
          .err (.truncatedJpegSegment found.offset marker segmentLength available)
        else if marker = 0xda then do
          let components ← scanComponents target input cursor segmentLength
          let expectedLength ←
            okOr ((checkedMul target components 2).bind fun value => checkedAdd target value 6)
              .lengthOverflow
          if components = 0 ∨ segmentLength ≠ expectedLength then
            .err (.invalidJpegScanHeader found.offset segmentLength components)
          else .ok (.again { cursor := segmentEnd, inScan := true, sawScan := true })
        else .ok (.again { cursor := segmentEnd, inScan := false, sawScan })

def parseStep (progress : Progress) : Outcome FrameParseError (ControlFlow Progress Nat) := do
  let found ← nextMarker target input progress
  afterMarker target input progress.sawScan found

def parseJpegEnd : Outcome FrameParseError Nat :=
  if !(List.isPrefixOf [0xff, 0xd8] input) then .err .missingJpegStart
  else loop (parseStep target input) (input.length + 1)
    { cursor := 2, inScan := false, sawScan := false }

end Model

section Readers
variable {target : Target} {input : List UInt8}

/-- The fill loop stops right behind the run of fill bytes it starts in. -/
theorem skip_fill_loop (before after : List UInt8) (fill budget : Nat)
    (shape : input = before ++ (List.replicate fill 0xff ++ after))
    (boundary : after.head? ≠ some 0xff) (fits : input.length ≤ target.isizeMax)
    (enough : fill < budget) :
    loop (fillStep target input) budget before.length = .ok (before.length + fill) := by
  have headroom := isize_headroom target
  induction fill generalizing before budget with
  | zero =>
      obtain ⟨budget, rfl⟩ := Nat.exists_eq_add_of_lt enough
      rw [Nat.zero_add]
      apply loop_done
      have outside : input[before.length]? ≠ some 0xff := by
        rw [shape, List.getElem?_append_right (Nat.le_refl _), Nat.sub_self]
        simpa [List.head?_eq_getElem?] using boundary
      simp [fillStep, outside]
  | succ fill ih =>
      cases budget with
      | zero => omega
      | succ budget =>
          have advance :
              fillStep target input before.length = .ok (.again (before.length + 1)) := by
            have prefixed : input[before.length]? = some 0xff := by
              rw [shape, List.getElem?_append_right (Nat.le_refl _), Nat.sub_self]
              simp [List.replicate_succ]
            have room : before.length + 1 ≤ target.usizeMax := by
              rw [shape] at fits
              simp at fits
              omega
            simp [fillStep, prefixed, checkedAdd_some target before.length 1 room]
          rw [loop_again _ budget _ _ advance]
          have moved := ih (before ++ [0xff]) budget
            (by rw [shape, List.replicate_succ]; simp) (by omega)
          simpa [Nat.add_assoc, Nat.add_comm 1] using moved

theorem skip_fill_shape (before after : List UInt8) (fill : Nat)
    (shape : input = before ++ (List.replicate fill 0xff ++ after))
    (boundary : after.head? ≠ some 0xff) (fits : input.length ≤ target.isizeMax) :
    skipFill target input before.length = .ok (before.length + fill) := by
  apply skip_fill_loop before after fill _ shape boundary fits
  rw [shape]
  simp
  omega

theorem read_marker_code_truncated (before : List UInt8) (fill : Nat)
    (shape : input = before ++ List.replicate (fill + 1) 0xff)
    (fits : input.length ≤ target.isizeMax) :
    readMarkerCode target input before.length = .err (.truncatedJpegMarker before.length) := by
  have headroom := isize_headroom target
  have size : input.length = before.length + (fill + 1) := by rw [shape]; simp
  have skipped := skip_fill_shape (before ++ [0xff]) [] fill
    (by rw [shape, List.replicate_succ]; simp) (by simp) fits
  have ended : input[before.length + 1 + fill]? = none :=
    List.getElem?_eq_none (by omega)
  rw [List.length_append, List.length_singleton] at skipped
  simp [readMarkerCode, checkedAdd_some target before.length 1 (by omega), skipped, ended]

theorem read_marker_code_found (before tail : List UInt8) (fill : Nat) (code : UInt8)
    (shape : input = before ++ (List.replicate (fill + 1) 0xff ++ code :: tail))
    (marked : code ≠ 0xff) (fits : input.length ≤ target.isizeMax) :
    readMarkerCode target input before.length =
      .ok ⟨before.length + fill + 2, before.length, code⟩ := by
  have headroom := isize_headroom target
  have size : input.length = before.length + (fill + 1 + (tail.length + 1)) := by
    rw [shape]; simp
  have skipped := skip_fill_shape (before ++ [0xff])
    (code :: tail) fill (by rw [shape, List.replicate_succ]; simp) (by simpa using marked) fits
  have coded : input[before.length + 1 + fill]? = some code := by
    rw [shape, Nat.add_assoc, List.getElem?_append_right (Nat.le_add_right _ _),
      Nat.add_sub_cancel_left, List.getElem?_append_right (by rw [List.length_replicate]; omega)]
    simp [Nat.add_comm]
  rw [List.length_append, List.length_singleton] at skipped
  simp only [readMarkerCode, checkedAdd_some target before.length 1 (by omega), okOr_some,
    Outcome.ok_bind, skipped, coded,
    checkedAdd_some target (before.length + 1 + fill) 1 (by omega)]
  rw [show before.length + 1 + fill + 1 = before.length + fill + 2 by omega]

/-- A plain byte changes nothing: the search for a prefix byte skips it. -/
theorem scan_step_data (before rest : List UInt8) (byte : UInt8)
    (shape : input = before ++ byte :: rest) (plain : byte ≠ 0xff) :
    scanStep target input before.length = scanStep target input (before.length + 1) := by
  have here : (sliceFrom input before.length : Outcome FrameParseError _) = .ok (byte :: rest) := by
    rw [sliceFrom_ok _ _ (by rw [shape]; simp), shape, List.drop_left]
  have behind : (sliceFrom input (before.length + 1) : Outcome FrameParseError _) = .ok rest := by
    rw [sliceFrom_ok _ _ (by rw [shape]; simp), shape, ← List.drop_drop, List.drop_left]
    rfl
  unfold scanStep
  rw [here, behind, Outcome.ok_bind, Outcome.ok_bind, List.findIdx?_cons]
  cases found : rest.findIdx? (· == 0xff) with
  | none => simp [plain]
  | some relative =>
      have moved : checkedAdd target before.length (relative + 1) =
          checkedAdd target (before.length + 1) relative := by
        simp only [checkedAdd, Nat.add_assoc, Nat.add_comm 1]
      simp [plain, moved]

theorem scan_step_missing (ended : input.drop cursor = []) (inside : cursor ≤ input.length) :
    scanStep target input cursor = .err .missingJpegEnd := by
  simp [scanStep, sliceFrom_ok input cursor inside, ended]

/-- At a prefix byte the inner loop reads one marker and decides by its code. -/
theorem scan_step_marker (before rest : List UInt8) (shape : input = before ++ 0xff :: rest)
    (fits : input.length ≤ target.isizeMax) :
    scanStep target input before.length = (do
      let found ← readMarkerCode target input before.length
      if EntropyCode found.marker then .ok (.again found.cursor) else .ok (.done found)) := by
  have headroom := isize_headroom target
  have size : input.length = before.length + (rest.length + 1) := by rw [shape]; simp
  have here : (sliceFrom input before.length : Outcome FrameParseError _) = .ok (0xff :: rest) := by
    rw [sliceFrom_ok _ _ (by omega), shape, List.drop_left]
  unfold scanStep
  rw [here, Outcome.ok_bind, List.findIdx?_cons]
  simp only [checkedAdd_some target before.length 0 (by omega), beq_self_eq_true, ↓reduceIte,
    okOr_some, Outcome.ok_bind, Nat.add_zero]
  rfl

/-- Entropy data is consumed whole: the inner loop behaves as if it had started
behind it. Markers inside cost one iteration each, plain bytes none. -/
theorem scan_loop_entropy (before entropy stop : List UInt8) (whole : Entropy entropy)
    (shape : input = before ++ (entropy ++ stop)) (fits : input.length ≤ target.isizeMax)
    (outcome : Outcome FrameParseError FoundMarker)
    (ends : ∀ budget, loop (scanStep target input) (budget + 1)
      (before.length + entropy.length) = outcome)
    (budget : Nat) (enough : entropy.length < budget) :
    loop (scanStep target input) budget before.length = outcome := by
  induction whole generalizing before budget with
  | nil =>
      obtain ⟨budget, rfl⟩ := Nat.exists_eq_add_of_lt enough
      simpa using ends budget
  | @cons item rest head _ ih =>
      have moved := ih (before ++ item) (by rw [shape]; simp)
        (by simpa [Nat.add_assoc] using ends)
      rw [List.length_append] at enough moved
      cases head with
      | data byte plain =>
          rw [loop_congr _ budget _ _
            (scan_step_data before (rest ++ stop) byte (by simpa using shape) plain)]
          exact moved budget (by simp at enough ⊢; omega)
      | marker code bytes allowed marked =>
          -- a stuffed or restart marker costs one iteration and at least two bytes
          obtain ⟨notFill, fill, rfl⟩ := marked
          have advance : scanStep target input before.length =
              .ok (.again (before.length + fill + 2)) := by
            rw [scan_step_marker before (List.replicate fill 0xff ++ code :: (rest ++ stop))
              (by rw [shape, List.replicate_succ]; simp) fits,
              read_marker_code_found before (rest ++ stop) fill code
                (by rw [shape]; simp) notFill fits]
            simp [allowed]
          simp only [List.length_append, List.length_replicate, List.length_singleton]
            at enough moved
          cases budget with
          | zero => omega
          | succ budget =>
              rw [loop_again _ budget _ _ advance]
              simpa [Nat.add_assoc] using moved budget (by omega)

end Readers

/-- What may stand before the next marker: entropy data inside a scan, nothing
outside. -/
def Lead (inScan : Bool) (bytes : List UInt8) : Prop :=
  if inScan then Entropy bytes else bytes = []

/-- What the marker readers find in the bytes from the cursor on. -/
inductive NextMarker (progress : Progress) :
    List UInt8 → Outcome FrameParseError FoundMarker → Prop where
  | missing (entropy : List UInt8) (scanning : progress.inScan = true) (whole : Entropy entropy) :
      NextMarker progress entropy (.err .missingJpegEnd)
  | ended (outside : progress.inScan = false) :
      NextMarker progress [] (.err (if progress.sawScan then .missingJpegEnd
        else .truncatedJpegMarker progress.cursor))
  | unmarked (byte : UInt8) (tail : List UInt8) (outside : progress.inScan = false)
      (plain : byte ≠ 0xff) :
      NextMarker progress (byte :: tail) (.err (.expectedJpegMarker progress.cursor byte))
  | truncated (lead : List UInt8) (fill : Nat) (led : Lead progress.inScan lead) :
      NextMarker progress (lead ++ List.replicate (fill + 1) 0xff)
        (.err (.truncatedJpegMarker (progress.cursor + lead.length)))
  | found (lead tail : List UInt8) (fill : Nat) (code : UInt8) (led : Lead progress.inScan lead)
      (marked : code ≠ 0xff) (foreign : progress.inScan = true → ¬ EntropyCode code) :
      NextMarker progress (lead ++ (List.replicate (fill + 1) 0xff ++ code :: tail))
        (.ok ⟨progress.cursor + lead.length + fill + 2, progress.cursor + lead.length, code⟩)

section NextMarkers
variable {target : Target} {input before rest : List UInt8} {progress : Progress}
  {outcome : Outcome FrameParseError FoundMarker}

theorem scan_for_marker_entropy (entropy stop : List UInt8) (whole : Entropy entropy)
    (shape : input = before ++ (entropy ++ stop)) (fits : input.length ≤ target.isizeMax)
    (ends : ∀ budget, loop (scanStep target input) (budget + 1)
      (before.length + entropy.length) = outcome) :
    scanForMarker target input before.length = outcome := by
  apply scan_loop_entropy before entropy stop whole shape fits outcome ends
  rw [shape]
  simp
  omega

theorem next_marker_computes (shape : input = before ++ rest)
    (start : progress.cursor = before.length) (fits : input.length ≤ target.isizeMax)
    (finds : NextMarker progress rest outcome) : nextMarker target input progress = outcome := by
  unfold nextMarker
  rw [start]
  cases finds with
  | missing _ scanning whole =>
      rw [if_pos scanning]
      apply scan_for_marker_entropy rest [] whole (by simpa using shape) fits
      intro budget
      apply loop_err
      exact scan_step_missing (by rw [shape]; simp) (by rw [shape]; simp)
  | ended outside =>
      rw [outside]
      have nothing : input[before.length]? = none := by rw [shape]; simp
      simp [expectMarker, nothing, start]
  | unmarked byte tail outside plain =>
      rw [outside]
      have present : input[before.length]? = some byte := by rw [shape]; simp
      simp [expectMarker, present, plain, start]
  | truncated lead fill led =>
      -- both readers end in the same call, once the lead is behind them
      have cut := read_marker_code_truncated (before ++ lead)
        fill (by rw [shape]; simp) fits
      rw [List.length_append] at cut
      cases scanning : progress.inScan with
      | true =>
          rw [Lead, scanning, if_pos rfl] at led
          have step := scan_step_marker (before ++ lead)
            (List.replicate fill 0xff) (by rw [shape, List.replicate_succ]; simp) fits
          rw [List.length_append, cut, Outcome.err_bind] at step
          rw [start]
          exact scan_for_marker_entropy lead _ led shape fits fun budget =>
            loop_err _ budget _ _ step
      | false =>
          rw [Lead, scanning] at led
          obtain rfl : lead = [] := by simpa using led
          have present : input[before.length]? = some 0xff := by
            rw [shape, List.replicate_succ]; simp
          simpa [expectMarker, present, start] using cut
  | found lead tail fill code led marked foreign =>
      have read := read_marker_code_found (before ++ lead)
        tail fill code (by rw [shape]; simp) marked fits
      rw [List.length_append] at read
      cases scanning : progress.inScan with
      | true =>
          rw [Lead, scanning, if_pos rfl] at led
          have step := scan_step_marker (before ++ lead)
            (List.replicate fill 0xff ++ code :: tail)
            (by rw [shape, List.replicate_succ]; simp) fits
          rw [List.length_append, read, Outcome.ok_bind, if_neg (foreign scanning)] at step
          rw [start]
          exact scan_for_marker_entropy lead _ led shape fits fun budget =>
            loop_done _ budget _ _ step
      | false =>
          rw [Lead, scanning] at led
          obtain rfl : lead = [] := by simpa using led
          have present : input[before.length]? = some 0xff := by
            rw [shape, List.replicate_succ]; simp
          simpa [expectMarker, present, start] using read

/-- The shapes are exhaustive. -/
theorem next_marker_covers (progress : Progress) (rest : List UInt8) :
    ∃ outcome, NextMarker progress rest outcome := by
  cases scanning : progress.inScan with
  | true =>
      obtain ⟨entropy, stop, rfl, whole, stops⟩ := entropy_split rest
      have led : Lead progress.inScan entropy := by rw [Lead, scanning, if_pos rfl]; exact whole
      rcases stops with rfl | ⟨fill, rfl⟩ | ⟨fill, code, tail, rfl, marked, foreign⟩
      · exact ⟨_, .missing _ scanning (by simpa using whole)⟩
      · exact ⟨_, .truncated entropy fill led⟩
      · exact ⟨_, .found entropy tail fill code led marked (fun _ => foreign)⟩
  | false =>
      have led : Lead progress.inScan [] := by rw [Lead, scanning]; rfl
      obtain ⟨fill, after, rfl, boundary⟩ := fill_split rest
      cases fill with
      | zero =>
          rcases boundary with rfl | ⟨byte, tail, rfl, plain⟩
          · exact ⟨_, .ended scanning⟩
          · exact ⟨_, .unmarked byte tail scanning plain⟩
      | succ fill =>
          rcases boundary with rfl | ⟨code, tail, rfl, marked⟩
          · rw [List.append_nil]
            exact ⟨_, .truncated [] fill led⟩
          · exact ⟨_, .found [] tail fill code led marked
              (fun inside => by simp [scanning] at inside)⟩

end NextMarkers

/-- Codes that carry no length and are refused between parts. -/
def Standalone (code : UInt8) : Prop :=
  code = 0x00 ∨ code = 0x01 ∨ 0xd0 ≤ code ∧ code ≤ 0xd8

theorem reserved_iff (code : UInt8) :
    Reserved code ↔ Standalone code ∨ code = 0xd9 ∨ code = 0xda := by
  simp only [Reserved, Standalone, UInt8.le_iff_toNat_le, ← UInt8.toNat_inj]
  simp
  omega

/-- What the rest of the iteration makes of the bytes behind the marker code. -/
inductive AfterMarker (sawScan : Bool) (found : FoundMarker) :
    List UInt8 → Outcome FrameParseError (ControlFlow Progress Nat) → Prop where
  | finished (tail : List UInt8) (eoi : found.marker = 0xd9) (saw : sawScan = true) :
      AfterMarker sawScan found tail (.ok (.done found.cursor))
  | early (tail : List UInt8) (eoi : found.marker = 0xd9) (unseen : sawScan = false) :
      AfterMarker sawScan found tail (.err (.jpegEndBeforeScan found.offset))
  | unexpected (tail : List UInt8) (standalone : Standalone found.marker) :
      AfterMarker sawScan found tail (.err (.unexpectedJpegMarker found.offset found.marker))
  | shortLength (tail : List UInt8) (carries : ¬ Reserved found.marker ∨ found.marker = 0xda)
      (short : tail.length < 2) :
      AfterMarker sawScan found tail
        (.err (.truncatedJpegSegmentLength found.offset found.marker))
  | badLength (high low : UInt8) (tail : List UInt8)
      (carries : ¬ Reserved found.marker ∨ found.marker = 0xda)
      (small : (fromBe16 high low).toNat < 2) :
      AfterMarker sawScan found (high :: low :: tail)
        (.err (.invalidJpegSegmentLength found.offset found.marker (fromBe16 high low).toNat))
  | truncated (high low : UInt8) (tail : List UInt8)
      (carries : ¬ Reserved found.marker ∨ found.marker = 0xda)
      (large : 2 ≤ (fromBe16 high low).toNat)
      (short : tail.length + 2 < (fromBe16 high low).toNat) :
      AfterMarker sawScan found (high :: low :: tail)
        (.err (.truncatedJpegSegment found.offset found.marker (fromBe16 high low).toNat
          (tail.length + 2)))
  | badScan (high low : UInt8) (tail : List UInt8) (components : Nat)
      (sos : found.marker = 0xda) (large : 2 ≤ (fromBe16 high low).toNat)
      (whole : (fromBe16 high low).toNat ≤ tail.length + 2)
      (counted : components =
        if 3 ≤ (fromBe16 high low).toNat then (tail.headD 0).toNat else 0)
      (bad : components = 0 ∨ (fromBe16 high low).toNat ≠ 6 + 2 * components) :
      AfterMarker sawScan found (high :: low :: tail)
        (.err (.invalidJpegScanHeader found.offset (fromBe16 high low).toNat components))
  | scan (high low components : UInt8) (fields tail : List UInt8) (sos : found.marker = 0xda)
      (some : 1 ≤ components.toNat)
      (length : (fromBe16 high low).toNat = 6 + 2 * components.toNat)
      (whole : (components :: fields).length = (fromBe16 high low).toNat - 2) :
      AfterMarker sawScan found (high :: low :: components :: (fields ++ tail))
        (.ok (.again ⟨found.cursor + (fromBe16 high low).toNat, true, true⟩))
  | segment (high low : UInt8) (body tail : List UInt8) (plain : ¬ Reserved found.marker)
      (large : 2 ≤ (fromBe16 high low).toNat)
      (whole : body.length = (fromBe16 high low).toNat - 2) :
      AfterMarker sawScan found (high :: low :: (body ++ tail))
        (.ok (.again ⟨found.cursor + (fromBe16 high low).toNat, false, sawScan⟩))

section AfterMarkers
variable {target : Target} {input lead tail : List UInt8} {sawScan : Bool} {found : FoundMarker}
  {outcome : Outcome FrameParseError (ControlFlow Progress Nat)}

/-- The two codes a length may follow pass both marker tests of the source. -/
theorem carries_tests (carries : ¬ Reserved found.marker ∨ found.marker = 0xda) :
    found.marker ≠ 0xd9 ∧
      ¬ (found.marker = 0x00 ∨ found.marker = 0x01 ∨
        0xd0 ≤ found.marker ∧ found.marker ≤ 0xd8) := by
  rcases carries with plain | sos
  · rw [reserved_iff, not_or, not_or] at plain
    exact ⟨plain.2.1, plain.1⟩
  · rw [sos]
    decide

/-- With both length bytes present the iteration continues from the length. -/
theorem after_marker_length (high low : UInt8) (body : List UInt8)
    (shape : input = lead ++ high :: low :: body) (start : found.cursor = lead.length)
    (fits : input.length ≤ target.isizeMax)
    (carries : ¬ Reserved found.marker ∨ found.marker = 0xda) :
    afterMarker target input sawScan found =
      if (fromBe16 high low).toNat < 2 then
        .err (.invalidJpegSegmentLength found.offset found.marker (fromBe16 high low).toNat)
      else if body.length + 2 < (fromBe16 high low).toNat then
        .err (.truncatedJpegSegment found.offset found.marker (fromBe16 high low).toNat
          (body.length + 2))
      else if found.marker = 0xda then do
        let components ← scanComponents target input found.cursor (fromBe16 high low).toNat
        let expectedLength ←
          okOr ((checkedMul target components 2).bind fun value => checkedAdd target value 6)
            .lengthOverflow
        if components = 0 ∨ (fromBe16 high low).toNat ≠ expectedLength then
          .err (.invalidJpegScanHeader found.offset (fromBe16 high low).toNat components)
        else .ok (.again ⟨found.cursor + (fromBe16 high low).toNat, true, true⟩)
      else .ok (.again ⟨found.cursor + (fromBe16 high low).toNat, false, sawScan⟩) := by
  have headroom := isize_headroom target
  have wordBound := (fromBe16 high low).toNat_lt
  have size : input.length = lead.length + (body.length + 2) := by rw [shape]; simp
  have remaining : input.length - found.cursor = body.length + 2 := by omega
  have word : (readU16Be target input found.cursor : Outcome FrameParseError UInt16) =
      .ok (fromBe16 high low) := by
    rw [readU16Be_ok input found.cursor fits (by omega), start, shape]
    simp [byteAt]
  have passes := carries_tests carries
  have longEnough : ¬ body.length + 2 < 2 := by omega
  have overrun : input.length < found.cursor + (fromBe16 high low).toNat ↔
      body.length + 2 < (fromBe16 high low).toNat := by omega
  simp only [afterMarker, if_neg passes.1, if_neg passes.2, remaining, if_neg longEnough, word,
    Outcome.ok_bind, overrun,
    checkedAdd_some target found.cursor (fromBe16 high low).toNat (by omega), okOr_some]

theorem scan_components_eq (high low : UInt8) (body : List UInt8)
    (shape : input = lead ++ high :: low :: body) (start : found.cursor = lead.length)
    (fits : input.length ≤ target.isizeMax) (length : Nat) (whole : length ≤ body.length + 2) :
    scanComponents target input found.cursor length =
      .ok (if 3 ≤ length then (body.headD 0).toNat else 0) := by
  have headroom := isize_headroom target
  have size : input.length = lead.length + (body.length + 2) := by rw [shape]; simp
  unfold scanComponents
  split
  · rw [plus_ok target found.cursor 2 (by omega), Outcome.ok_bind,
      index_byteAt input (found.cursor + 2) (by omega), Outcome.ok_bind, start, shape]
    cases body with
    | nil => simp at whole; omega
    | cons components fields => simp [byteAt]
  · rfl

theorem expected_length_eq (target : Target) (components : Nat) (small : components < 256) :
    (okOr ((checkedMul target components 2).bind fun value => checkedAdd target value 6)
      FrameParseError.lengthOverflow) = .ok (6 + 2 * components) := by
  have headroom := isize_headroom target
  rw [checkedMul_some target components 2 (by omega), Option.bind_some,
    checkedAdd_some target (components * 2) 6 (by omega), okOr_some]
  congr 1
  omega

theorem after_marker_computes (shape : input = lead ++ tail) (start : found.cursor = lead.length)
    (fits : input.length ≤ target.isizeMax)
    (follows : AfterMarker sawScan found tail outcome) :
    afterMarker target input sawScan found = outcome := by
  cases follows with
  | finished _ eoi saw => simp [afterMarker, eoi, saw]
  | early _ eoi unseen => simp [afterMarker, eoi, unseen]
  | unexpected _ standalone =>
      have notEoi : found.marker ≠ 0xd9 := by
        intro same
        rw [same] at standalone
        exact absurd standalone (by unfold Standalone; decide)
      simp only [afterMarker, if_neg notEoi]
      exact if_pos standalone
  | shortLength _ carries short =>
      have passes := carries_tests carries
      have remaining : input.length - found.cursor < 2 := by rw [shape, start]; simpa using short
      simp only [afterMarker, if_neg passes.1, if_neg passes.2, if_pos remaining]
  | badLength high low body carries small =>
      rw [after_marker_length high low body shape start fits carries, if_pos small]
  | truncated high low body carries large short =>
      rw [after_marker_length high low body shape start fits carries, if_neg (by omega),
        if_pos short]
  | badScan high low body components sos large whole counted bad =>
      have small : components < 256 := by
        rw [counted]
        have bound := (body.headD 0).toNat_lt
        split <;> omega
      rw [after_marker_length high low body shape start fits (Or.inr sos), if_neg (by omega),
        if_neg (by omega), if_pos sos, scan_components_eq high low body shape start fits _ whole,
        ← counted, Outcome.ok_bind, expected_length_eq target components small, Outcome.ok_bind,
        if_pos bad]
  | scan high low components fields rest sos some length whole =>
      have bound := components.toNat_lt
      simp only [List.length_cons] at whole
      rw [after_marker_length high low _ shape start fits (Or.inr sos), if_neg (by omega),
        if_neg (by simp; omega), if_pos sos,
        scan_components_eq high low _ shape start fits _ (by simp; omega),
        if_pos (by omega), Outcome.ok_bind, List.headD_cons,
        expected_length_eq target _ (by omega), Outcome.ok_bind, if_neg (by omega)]
  | segment high low body rest plain large whole =>
      have notSos : found.marker ≠ 0xda := by
        intro sos
        rw [sos] at plain
        exact plain (by decide)
      rw [after_marker_length high low _ shape start fits (Or.inl plain), if_neg (by omega),
        if_neg (by simp; omega), if_neg notSos]

theorem after_marker_covers (sawScan : Bool) (found : FoundMarker) (tail : List UInt8) :
    ∃ outcome, AfterMarker sawScan found tail outcome := by
  by_cases eoi : found.marker = 0xd9
  · cases saw : sawScan with
    | true => exact ⟨_, .finished tail eoi rfl⟩
    | false => exact ⟨_, .early tail eoi rfl⟩
  by_cases standalone : Standalone found.marker
  · exact ⟨_, .unexpected tail standalone⟩
  have carries : ¬ Reserved found.marker ∨ found.marker = 0xda := by
    rw [reserved_iff]
    by_cases sos : found.marker = 0xda
    · exact Or.inr sos
    · exact Or.inl (by simp [standalone, eoi, sos])
  match tail with
  | [] => exact ⟨_, .shortLength _ carries (by simp)⟩
  | [byte] => exact ⟨_, .shortLength _ carries (by simp)⟩
  | high :: low :: body =>
      by_cases small : (fromBe16 high low).toNat < 2
      · exact ⟨_, .badLength high low body carries small⟩
      by_cases short : body.length + 2 < (fromBe16 high low).toNat
      · exact ⟨_, .truncated high low body carries (by omega) short⟩
      by_cases sos : found.marker = 0xda
      · by_cases bad : (if 3 ≤ (fromBe16 high low).toNat then (body.headD 0).toNat else 0) = 0 ∨
            (fromBe16 high low).toNat ≠
              6 + 2 * (if 3 ≤ (fromBe16 high low).toNat then (body.headD 0).toNat else 0)
        · exact ⟨_, .badScan high low body _ sos (by omega) (by omega) rfl bad⟩
        · rw [not_or, Decidable.not_not] at bad
          obtain ⟨some, length⟩ := bad
          have long : 3 ≤ (fromBe16 high low).toNat := by
            by_contra shorter
            simp [shorter] at some
          rw [if_pos long] at some length
          cases body with
          | nil => simp at some
          | cons components fields =>
              rw [List.headD_cons] at some length
              simp only [List.length_cons] at short
              rw [← List.take_append_drop ((fromBe16 high low).toNat - 3) fields]
              refine ⟨_, .scan high low components _ _ sos (by omega) length ?_⟩
              simp
              omega
      · have plain : ¬ Reserved found.marker := carries.resolve_right sos
        rw [← List.take_append_drop ((fromBe16 high low).toNat - 2) body]
        refine ⟨_, .segment high low _ _ plain (by omega) ?_⟩
        simp
        omega

end AfterMarkers

end Smiusb.JpegEnd
