import Smiusb.JpegVerdict

/-!
`parse_frame_envelope` and `align_payload_length` of rust/src/protocol.rs, and
the frame format they decide. `WellFormedFrame` describes a packet by its four
parts; `encodeFrame` lays the parts out as the fixtures of the source do, with
the header bytes the parser does not interpret left to the caller.
-/

namespace Smiusb.FramePackets
open Execution Bytes WireProtocol JpegGrammar JpegEnd JpegVerdict

structure FrameEnvelope where
  sequence : UInt8
  unclassifiedByte23 : UInt8
  jpeg : List UInt8
  decoderMetadata : List UInt8
  padding : List UInt8
  deriving DecidableEq, Repr

section Model
variable (target : Target)

def alignPayloadLength (contentLength maxPacketSize : Nat) : Outcome FrameParseError Nat :=
  let remainder := contentLength % maxPacketSize
  if remainder = 0 then .ok contentLength
  else okOr (checkedAdd target contentLength (maxPacketSize - remainder)) .lengthOverflow

/-- `usize::try_from` on a wire word. -/
def declaredLength (declaredWire : UInt32) : Outcome FrameParseError Nat :=
  if declaredWire.toNat ≤ target.usizeMax then .ok declaredWire.toNat
  else .err (.declaredLengthDoesNotFit declaredWire)

def firstNonZero (padding : List UInt8) : Option (UInt8 × Nat) :=
  padding.zipIdx.find? fun entry => entry.1 != 0

/-- The second half of the parser, from the structural end of the image on. -/
def parsePayload (packet : List UInt8) (maxPacketSize : Nat) (sequence byte23 : UInt8) :
    Outcome FrameParseError FrameEnvelope := do
  let body ← sliceFrom packet headerSize
  let jpegLength ← parseJpegEnd target body
  let jpegEnd ← okOr (checkedAdd target headerSize jpegLength) .lengthOverflow
  let decoderEnd ← okOr (checkedAdd target jpegEnd jpegDecoderMetadataSize) .lengthOverflow
  if packet.length < decoderEnd then
    .err (.truncatedDecoderMetadata (packet.length - jpegEnd) jpegDecoderMetadataSize)
  else do
    let padding ← sliceFrom packet decoderEnd
    if maxPacketSize ≤ padding.length then
      .err (.paddingTooLong padding.length (maxPacketSize - 1))
    else
      match firstNonZero padding with
      | some (value, offset) => .err (.nonZeroPadding offset value)
      | none => do
        let contentLength ←
          okOr (checkedAdd target jpegLength jpegDecoderMetadataSize) .lengthOverflow
        let expectedPayload ← alignPayloadLength target contentLength maxPacketSize
        -- checked_sub
        let actualPayload ← okOr
          (if headerSize ≤ packet.length then some (packet.length - headerSize) else none)
          .lengthOverflow
        if actualPayload ≠ expectedPayload then
          .err (.unalignedPayload actualPayload expectedPayload maxPacketSize)
        else do
          let jpeg ← sliceRange packet headerSize jpegEnd
          let decoderMetadata ← sliceRange packet jpegEnd decoderEnd
          .ok { sequence, unclassifiedByte23 := byte23, jpeg, decoderMetadata, padding }

def parseFrameEnvelope (packet : List UInt8) (maxPacketSize : Nat) :
    Outcome FrameParseError FrameEnvelope :=
  if ¬ (maxPacketSize = highSpeedMaxPacketSize ∨ maxPacketSize = superSpeedMaxPacketSize) then
    .err (.invalidMaxPacketSize maxPacketSize)
  else if packet.length < headerSize then .err (.tooShort packet.length headerSize)
  else do
    let magic ← sliceRange packet 0 wireMagic.length
    if magic ≠ wireMagic then .err .badMagic
    else do
      let declaredWire ← readU32Le target packet 12
      let declared ← declaredLength target declaredWire
      if declared ≠ packet.length then .err (.declaredLengthMismatch declared packet.length)
      else do
        let signature ← readU32Le target packet 16
        if signature ≠ frameSignature then .err (.invalidSignature signature)
        else do
          let byte20 ← index packet 20
          let byte21 ← index packet 21
          if byte20 ≠ frameType ∨ byte21 ≠ frameSubtype then
            .err (.invalidFrameType byte20 byte21)
          else do
            let sequence ← index packet 22
            let byte23 ← index packet 23
            parsePayload target packet maxPacketSize sequence byte23

end Model

/-- The distance to the next multiple. -/
def paddingLength (contentLength maxPacketSize : Nat) : Nat :=
  (maxPacketSize - contentLength % maxPacketSize) % maxPacketSize

theorem padding_length_lt (contentLength maxPacketSize : Nat) (positive : 0 < maxPacketSize) :
    paddingLength contentLength maxPacketSize < maxPacketSize :=
  Nat.mod_lt _ positive

theorem padding_length_aligns (contentLength maxPacketSize : Nat) (positive : 0 < maxPacketSize) :
    maxPacketSize ∣ contentLength + paddingLength contentLength maxPacketSize := by
  apply Nat.dvd_of_mod_eq_zero
  have small := Nat.mod_lt contentLength positive
  rw [paddingLength, Nat.add_mod_mod, ← Nat.mod_add_mod,
    Nat.add_sub_cancel' (Nat.le_of_lt small), Nat.mod_self]

/-- Any other aligning length below the packet size is the same one. -/
theorem padding_length_unique (contentLength maxPacketSize length : Nat)
    (small : length < maxPacketSize) (aligned : maxPacketSize ∣ contentLength + length) :
    length = paddingLength contentLength maxPacketSize := by
  have positive : 0 < maxPacketSize := by omega
  have other := padding_length_aligns contentLength maxPacketSize positive
  have bound := padding_length_lt contentLength maxPacketSize positive
  rcases Nat.le_total length (paddingLength contentLength maxPacketSize) with order | order
  · have gap := (Nat.dvd_sub other aligned)
    rw [Nat.add_sub_add_left] at gap
    have zero := Nat.eq_zero_of_dvd_of_lt gap (by omega)
    omega
  · have gap := (Nat.dvd_sub aligned other)
    rw [Nat.add_sub_add_left] at gap
    have zero := Nat.eq_zero_of_dvd_of_lt gap (by omega)
    omega

theorem padding_length_least (contentLength maxPacketSize length : Nat)
    (positive : 0 < maxPacketSize) (aligned : maxPacketSize ∣ contentLength + length) :
    paddingLength contentLength maxPacketSize ≤ length := by
  by_cases small : length < maxPacketSize
  · exact Nat.le_of_eq (padding_length_unique contentLength maxPacketSize length small aligned).symm
  · have bound := padding_length_lt contentLength maxPacketSize positive
    omega

section Equations
variable {target : Target}

theorem align_payload_length_eq (target : Target) (contentLength maxPacketSize : Nat)
    (positive : 0 < maxPacketSize)
    (room : contentLength + maxPacketSize ≤ target.usizeMax) :
    alignPayloadLength target contentLength maxPacketSize =
      .ok (contentLength + paddingLength contentLength maxPacketSize) := by
  have small := Nat.mod_lt contentLength positive
  unfold alignPayloadLength paddingLength
  dsimp only
  split
  · rename_i aligned
    rw [aligned, Nat.sub_zero, Nat.mod_self, Nat.add_zero]
  · rw [checkedAdd_some target _ _ (by omega), okOr_some,
      Nat.mod_eq_of_lt
        (show maxPacketSize - contentLength % maxPacketSize < maxPacketSize by omega)]

theorem declared_length_eq (declaredWire : UInt32) :
    declaredLength target declaredWire = .ok declaredWire.toNat := by
  simp [declaredLength, word_fits_usize target declaredWire]

theorem first_non_zero_none (padding : List UInt8) :
    firstNonZero padding = none ↔ ∀ byte ∈ padding, byte = 0 := by
  simp only [firstNonZero, List.find?_eq_none, bne_iff_ne, ne_eq, not_not]
  constructor
  · intro zero byte member
    obtain ⟨position, inside, rfl⟩ := List.mem_iff_getElem.mp member
    exact zero (padding[position], position)
      (List.mk_mem_zipIdx_iff_getElem?.mpr (by simp [inside]))
  · intro zero entry member
    exact zero entry.1 (List.fst_mem_of_mem_zipIdx member)

/-- The second half of the parser without its arithmetic: the parts of the
packet by position and the checks on them. -/
def payloadVerdict (packet : List UInt8) (maxPacketSize : Nat) (sequence byte23 : UInt8)
    (jpegLength : Nat) : Outcome FrameParseError FrameEnvelope :=
  let padding := packet.drop (headerSize + jpegLength + jpegDecoderMetadataSize)
  let expected := jpegLength + jpegDecoderMetadataSize +
    paddingLength (jpegLength + jpegDecoderMetadataSize) maxPacketSize
  if packet.length < headerSize + jpegLength + jpegDecoderMetadataSize then
    .err (.truncatedDecoderMetadata (packet.length - (headerSize + jpegLength))
      jpegDecoderMetadataSize)
  else if maxPacketSize ≤ padding.length then
    .err (.paddingTooLong padding.length (maxPacketSize - 1))
  else
    match firstNonZero padding with
    | some (value, offset) => .err (.nonZeroPadding offset value)
    | none =>
      if packet.length - headerSize ≠ expected then
        .err (.unalignedPayload (packet.length - headerSize) expected maxPacketSize)
      else .ok
        { sequence
          unclassifiedByte23 := byte23
          jpeg := (packet.drop headerSize).take jpegLength
          decoderMetadata := (packet.drop (headerSize + jpegLength)).take jpegDecoderMetadataSize
          padding }

theorem parse_payload_eq (packet : List UInt8) (maxPacketSize : Nat) (sequence byte23 : UInt8)
    (long : headerSize ≤ packet.length) (fits : packet.length ≤ target.isizeMax)
    (positive : 0 < maxPacketSize) (small : maxPacketSize ≤ 1024) :
    parsePayload target packet maxPacketSize sequence byte23 = (do
      let jpegLength ← parseJpegEnd target (packet.drop headerSize)
      payloadVerdict packet maxPacketSize sequence byte23 jpegLength) := by
  have headroom := isize_headroom target
  have bodyFits : (packet.drop headerSize).length ≤ target.isizeMax := by
    rw [List.length_drop]; omega
  unfold parsePayload
  rw [sliceFrom_ok packet headerSize long, Outcome.ok_bind]
  cases accepted : parseJpegEnd target (packet.drop headerSize) with
  | ok jpegLength =>
      have inside := ((parse_jpeg_end_iff bodyFits jpegLength).mp accepted).1
      rw [List.length_drop] at inside
      have header : headerSize = 48 := rfl
      have metadata : jpegDecoderMetadataSize = 0x5000 := rfl
      rw [Outcome.ok_bind, Outcome.ok_bind, checkedAdd_some target headerSize jpegLength (by omega),
        okOr_some, Outcome.ok_bind,
        checkedAdd_some target (headerSize + jpegLength) jpegDecoderMetadataSize (by omega),
        okOr_some, Outcome.ok_bind]
      unfold payloadVerdict
      dsimp only
      by_cases cut : packet.length < headerSize + jpegLength + jpegDecoderMetadataSize
      · rw [if_pos cut, if_pos cut]
      · rw [if_neg cut, if_neg cut, sliceFrom_ok packet _ (by omega), Outcome.ok_bind]
        split
        · rfl
        split
        · rfl
        -- the padding is in order, so the parts are cut out
        rw [checkedAdd_some target jpegLength jpegDecoderMetadataSize (by omega), okOr_some,
          Outcome.ok_bind, align_payload_length_eq target (jpegLength + jpegDecoderMetadataSize)
            maxPacketSize positive (by omega), Outcome.ok_bind, okOr_some, Outcome.ok_bind,
          sliceRange_ok packet headerSize (headerSize + jpegLength) (by omega) (by omega),
          Outcome.ok_bind, sliceRange_ok packet (headerSize + jpegLength)
            (headerSize + jpegLength + jpegDecoderMetadataSize) (by omega) (by omega),
          Outcome.ok_bind, Nat.add_sub_cancel_left, Nat.add_sub_cancel_left]
  | err error => rw [Outcome.err_bind, Outcome.err_bind]
  | panicked => rw [Outcome.panicked_bind, Outcome.panicked_bind]
  | diverged => rw [Outcome.diverged_bind, Outcome.diverged_bind]

/-- The whole parser: the header checks in order, then the payload. -/
theorem parse_frame_envelope_eq (packet : List UInt8) (maxPacketSize : Nat)
    (fits : packet.length ≤ target.isizeMax) :
    parseFrameEnvelope target packet maxPacketSize =
      if ¬ (maxPacketSize = highSpeedMaxPacketSize ∨ maxPacketSize = superSpeedMaxPacketSize) then
        .err (.invalidMaxPacketSize maxPacketSize)
      else if packet.length < headerSize then .err (.tooShort packet.length headerSize)
      else if packet.take 12 ≠ wireMagic then .err .badMagic
      else if (wordAt packet 12).toNat ≠ packet.length then
        .err (.declaredLengthMismatch (wordAt packet 12).toNat packet.length)
      else if wordAt packet 16 ≠ frameSignature then .err (.invalidSignature (wordAt packet 16))
      else if byteAt packet 20 ≠ frameType ∨ byteAt packet 21 ≠ frameSubtype then
        .err (.invalidFrameType (byteAt packet 20) (byteAt packet 21))
      else (do
        let jpegLength ← parseJpegEnd target (packet.drop headerSize)
        payloadVerdict packet maxPacketSize (byteAt packet 22) (byteAt packet 23) jpegLength) := by
  unfold parseFrameEnvelope
  split
  · rfl
  · rename_i speed
    rw [Decidable.not_not] at speed
    have positive : 0 < maxPacketSize := by
      rcases speed with rfl | rfl <;> decide
    have small : maxPacketSize ≤ 1024 := by
      rcases speed with rfl | rfl <;> decide
    split
    · rfl
    · rename_i long
      have long' : 48 ≤ packet.length := Nat.le_of_not_lt long
      rw [slice_magic packet (by omega), readU32Le_ok packet 12 (by decide) (by omega),
        readU32Le_ok packet 16 (by decide) (by omega), index_byteAt packet 20 (by omega),
        index_byteAt packet 21 (by omega), index_byteAt packet 22 (by omega),
        index_byteAt packet 23 (by omega)]
      simp only [Outcome.ok_bind, declared_length_eq,
        parse_payload_eq packet maxPacketSize _ _ long' fits positive small]

end Equations

/-- The shortest all-zero string that reaches a packet boundary. -/
structure ShortestPadding (contentLength maxPacketSize : Nat) (padding : List UInt8) : Prop where
  zero : ∀ byte ∈ padding, byte = 0
  aligned : maxPacketSize ∣ contentLength + padding.length
  shortest : ∀ length, maxPacketSize ∣ contentLength + length → padding.length ≤ length

theorem shortest_padding_iff (contentLength maxPacketSize : Nat) (positive : 0 < maxPacketSize)
    (padding : List UInt8) :
    ShortestPadding contentLength maxPacketSize padding ↔
      (∀ byte ∈ padding, byte = 0) ∧
        padding.length = paddingLength contentLength maxPacketSize := by
  have aligns := padding_length_aligns contentLength maxPacketSize positive
  constructor
  · intro shortest
    have below := shortest.shortest _ aligns
    have least := padding_length_least contentLength maxPacketSize _ positive shortest.aligned
    exact ⟨shortest.zero, by omega⟩
  · rintro ⟨zero, length⟩
    exact ⟨zero, by rw [length]; exact aligns, fun other aligned => by
      rw [length]; exact padding_length_least contentLength maxPacketSize other positive aligned⟩

/-- A frame packet by its four parts. Header bytes 22 onward are free. -/
structure WellFormedFrame (target : Target) (maxPacketSize : Nat)
    (packet header jpeg metadata padding : List UInt8) : Prop where
  layout : packet = header ++ jpeg ++ metadata ++ padding
  headerLength : header.length = headerSize
  magic : header.take 12 = wireMagic
  declared : (wordAt header 12).toNat = packet.length
  signature : wordAt header 16 = frameSignature
  kind : byteAt header 20 = frameType ∧ byteAt header 21 = frameSubtype
  image : parseJpegEnd target jpeg = .ok jpeg.length
  metadataLength : metadata.length = jpegDecoderMetadataSize
  padded : ShortestPadding (jpeg.length + jpegDecoderMetadataSize) maxPacketSize padding

section Format
variable {target : Target} {packet header jpeg metadata padding : List UInt8}
  {maxPacketSize : Nat}

theorem payload_verdict_ok_iff (sequence byte23 : UInt8) (jpegLength : Nat)
    (envelope : FrameEnvelope) (positive : 0 < maxPacketSize) :
    payloadVerdict packet maxPacketSize sequence byte23 jpegLength = .ok envelope ↔
      headerSize + jpegLength + jpegDecoderMetadataSize ≤ packet.length ∧
      (∀ byte ∈ packet.drop (headerSize + jpegLength + jpegDecoderMetadataSize), byte = 0) ∧
      (packet.drop (headerSize + jpegLength + jpegDecoderMetadataSize)).length =
        paddingLength (jpegLength + jpegDecoderMetadataSize) maxPacketSize ∧
      envelope =
        { sequence
          unclassifiedByte23 := byte23
          jpeg := (packet.drop headerSize).take jpegLength
          decoderMetadata := (packet.drop (headerSize + jpegLength)).take jpegDecoderMetadataSize
          padding := packet.drop (headerSize + jpegLength + jpegDecoderMetadataSize) } := by
  have bound := padding_length_lt (jpegLength + jpegDecoderMetadataSize) maxPacketSize positive
  have size := List.length_drop (i := headerSize + jpegLength + jpegDecoderMetadataSize)
    (l := packet)
  unfold payloadVerdict
  dsimp only
  -- the checks in the order of the source; each refusal contradicts one condition
  by_cases whole : headerSize + jpegLength + jpegDecoderMetadataSize ≤ packet.length
  swap
  · simp [whole, Nat.lt_of_not_le whole]
  rw [if_neg (by omega)]
  by_cases long : maxPacketSize ≤
      (packet.drop (headerSize + jpegLength + jpegDecoderMetadataSize)).length
  · rw [if_pos long]
    constructor
    · simp
    · rintro ⟨_, _, exact, _⟩
      omega
  rw [if_neg long]
  cases first : firstNonZero
      (packet.drop (headerSize + jpegLength + jpegDecoderMetadataSize)) with
  | some entry =>
      have nonzero : ¬ ∀ byte ∈ packet.drop (headerSize + jpegLength + jpegDecoderMetadataSize),
          byte = 0 := by
        rw [← first_non_zero_none, first]
        simp
      simp [nonzero]
  | none =>
      have zero := (first_non_zero_none _).mp first
      by_cases aligned : packet.length - headerSize =
          jpegLength + jpegDecoderMetadataSize +
            paddingLength (jpegLength + jpegDecoderMetadataSize) maxPacketSize
      · rw [if_neg (by simpa using aligned)]
        constructor
        · intro same
          exact ⟨whole, zero, by omega, (Outcome.ok.inj same).symm⟩
        · rintro ⟨_, _, _, rfl⟩
          rfl
      · simp only [ne_eq, aligned, not_false_eq_true, ↓reduceIte]
        constructor
        · simp
        · rintro ⟨_, _, exact, _⟩
          omega

/-- Acceptance as one list of conditions on positions of the packet. -/
theorem parse_frame_envelope_ok_iff (envelope : FrameEnvelope)
    (fits : packet.length ≤ target.isizeMax) :
    parseFrameEnvelope target packet maxPacketSize = .ok envelope ↔
      (maxPacketSize = highSpeedMaxPacketSize ∨ maxPacketSize = superSpeedMaxPacketSize) ∧
      headerSize ≤ packet.length ∧ packet.take 12 = wireMagic ∧
      (wordAt packet 12).toNat = packet.length ∧ wordAt packet 16 = frameSignature ∧
      (byteAt packet 20 = frameType ∧ byteAt packet 21 = frameSubtype) ∧
      ∃ jpegLength, parseJpegEnd target (packet.drop headerSize) = .ok jpegLength ∧
        payloadVerdict packet maxPacketSize (byteAt packet 22) (byteAt packet 23) jpegLength =
          .ok envelope := by
  rw [parse_frame_envelope_eq packet maxPacketSize fits]
  by_cases speed : maxPacketSize = highSpeedMaxPacketSize ∨ maxPacketSize = superSpeedMaxPacketSize
  swap
  · simp [speed]
  by_cases long : headerSize ≤ packet.length
  swap
  · simp [speed, long, Nat.lt_of_not_le long]
  by_cases magic : packet.take 12 = wireMagic
  swap
  · simp [speed, Nat.not_lt_of_le long, magic]
  by_cases declared : (wordAt packet 12).toNat = packet.length
  swap
  · simp [speed, Nat.not_lt_of_le long, magic, declared]
  by_cases signature : wordAt packet 16 = frameSignature
  swap
  · simp [speed, Nat.not_lt_of_le long, magic, declared, signature]
  by_cases kind : byteAt packet 20 = frameType ∧ byteAt packet 21 = frameSubtype
  swap
  · simp only [speed, long, magic, declared, signature, kind, true_and, false_and, iff_false]
    rw [if_neg (by simp), if_neg (by omega), if_neg (by simp), if_neg (by simp), if_neg (by simp),
      if_pos (not_and_or.mp kind)]
    simp
  simp only [speed, long, magic, declared, signature, kind, and_self, true_and]
  rw [if_neg (by simp), if_neg (by omega), if_neg (by simp), if_neg (by simp), if_neg (by simp),
    if_neg (by simp), Outcome.bind_eq_ok_iff]

theorem speed_positive
    (speed : maxPacketSize = highSpeedMaxPacketSize ∨ maxPacketSize = superSpeedMaxPacketSize) :
    0 < maxPacketSize := by
  rcases speed with rfl | rfl <;> decide

/-- The image found at the front of the body is the image on its own. -/
theorem image_in_body (jpeg rest : List UInt8)
    (fits : (jpeg ++ rest).length ≤ target.isizeMax) :
    parseJpegEnd target (jpeg ++ rest) = .ok jpeg.length ↔
      parseJpegEnd target jpeg = .ok jpeg.length := by
  have alone : jpeg.length ≤ target.isizeMax := by
    rw [List.length_append] at fits; omega
  constructor <;> intro accepted
  · exact parse_jpeg_end_local fits alone _ accepted (by simp)
  · exact parse_jpeg_end_local alone fits _ accepted (by simp)

theorem accepted_well_formed (envelope : FrameEnvelope) (fits : packet.length ≤ target.isizeMax)
    (accepted : parseFrameEnvelope target packet maxPacketSize = .ok envelope) :
    WellFormedFrame target maxPacketSize packet (packet.take headerSize) envelope.jpeg
        envelope.decoderMetadata envelope.padding ∧
      (packet.take headerSize)[22]? = some envelope.sequence ∧
      (packet.take headerSize)[23]? = some envelope.unclassifiedByte23 := by
  obtain ⟨speed, long, magic, declared, signature, kind, jpegLength, found, verdict⟩ :=
    (parse_frame_envelope_ok_iff envelope fits).mp accepted
  have positive := speed_positive speed
  obtain ⟨whole, zero, shortest, rfl⟩ :=
    (payload_verdict_ok_iff _ _ jpegLength envelope positive).mp verdict
  have header : headerSize = 48 := rfl
  have metadata : jpegDecoderMetadataSize = 0x5000 := rfl
  have front : (packet.take headerSize).length = headerSize := by
    rw [List.length_take, Nat.min_eq_left long]
  have split := List.take_append_drop headerSize packet
  have imageLength : ((packet.drop headerSize).take jpegLength).length = jpegLength := by
    rw [List.length_take, List.length_drop]; omega
  have body : packet.drop headerSize =
      (packet.drop headerSize).take jpegLength ++ packet.drop (headerSize + jpegLength) := by
    rw [← List.drop_drop, List.take_append_drop]
  have rear : packet.drop (headerSize + jpegLength) =
      (packet.drop (headerSize + jpegLength)).take jpegDecoderMetadataSize ++
        packet.drop (headerSize + jpegLength + jpegDecoderMetadataSize) := by
    rw [← List.drop_drop (i := jpegDecoderMetadataSize), List.take_append_drop]
  -- the image was found in front of the rest of the packet
  have image := found
  rw [body] at image
  nth_rewrite 3 [← imageLength] at image
  have bodyFits : ((packet.drop headerSize).take jpegLength ++
      packet.drop (headerSize + jpegLength)).length ≤ target.isizeMax := by
    rw [← body, List.length_drop]; omega
  refine ⟨⟨?_, front, ?_, ?_, ?_, ?_, ?_, ?_, ?_⟩, ?_, ?_⟩
  · dsimp only
    rw [List.append_assoc, List.append_assoc, ← rear, ← body, split]
  · rw [List.take_take]; exact magic
  · rw [← wordAt_append_left _ (packet.drop headerSize) 12 (by omega), split]; exact declared
  · rw [← wordAt_append_left _ (packet.drop headerSize) 16 (by omega), split]; exact signature
  · rw [← byteAt_append_left _ (packet.drop headerSize) 20 (by omega),
      ← byteAt_append_left _ (packet.drop headerSize) 21 (by omega), split]
    exact kind
  · exact (image_in_body _ _ bodyFits).mp image
  · rw [List.length_take, List.length_drop]; omega
  · rw [imageLength]
    exact (shortest_padding_iff _ _ positive _).mpr ⟨zero, shortest⟩
  · rw [List.getElem?_take_of_lt (by omega), byteAt_eq packet 22 (by omega)]
    exact List.getElem?_eq_getElem _
  · rw [List.getElem?_take_of_lt (by omega), byteAt_eq packet 23 (by omega)]
    exact List.getElem?_eq_getElem _

theorem well_formed_accepted (fits : packet.length ≤ target.isizeMax)
    (speed : maxPacketSize = highSpeedMaxPacketSize ∨ maxPacketSize = superSpeedMaxPacketSize)
    (frame : WellFormedFrame target maxPacketSize packet header jpeg metadata padding) :
    parseFrameEnvelope target packet maxPacketSize =
      .ok ⟨byteAt header 22, byteAt header 23, jpeg, metadata, padding⟩ := by
  have positive := speed_positive speed
  have size : headerSize = 48 := rfl
  have headed := frame.headerLength
  have metadataLength := frame.metadataLength
  have lengths := congrArg List.length frame.layout
  simp only [List.length_append] at lengths
  obtain ⟨zero, shortest⟩ := (shortest_padding_iff _ _ positive _).mp frame.padded
  have layout : packet = header ++ (jpeg ++ (metadata ++ padding)) := by
    rw [frame.layout, List.append_assoc, List.append_assoc]
  have body : packet.drop headerSize = jpeg ++ (metadata ++ padding) := by
    rw [layout, List.drop_left' headed]
  have rear : packet.drop (headerSize + jpeg.length) = metadata ++ padding := by
    rw [← List.drop_drop, body, List.drop_left]
  have rest : packet.drop (headerSize + jpeg.length + jpegDecoderMetadataSize) = padding := by
    rw [← List.drop_drop, rear, List.drop_left' metadataLength]
  have bodyFits : (jpeg ++ (metadata ++ padding)).length ≤ target.isizeMax := by
    rw [← body, List.length_drop]; omega
  refine (parse_frame_envelope_ok_iff _ fits).mpr
    ⟨speed, by omega, ?_, ?_, ?_, ?_, jpeg.length, ?_, ?_⟩
  · rw [layout, List.take_append_of_le_length (by omega)]; exact frame.magic
  · rw [layout, wordAt_append_left _ _ 12 (by omega), ← layout]; exact frame.declared
  · rw [layout, wordAt_append_left _ _ 16 (by omega)]; exact frame.signature
  · rw [layout, byteAt_append_left _ _ 20 (by omega), byteAt_append_left _ _ 21 (by omega)]
    exact frame.kind
  · rw [body]; exact (image_in_body _ _ bodyFits).mpr frame.image
  · refine (payload_verdict_ok_iff _ _ _ _ positive).mpr ⟨by omega, ?_, ?_, ?_⟩
    · rw [rest]; exact zero
    · rw [rest]; exact shortest
    · rw [rest, rear, body, List.take_left, List.take_left' metadataLength, layout,
        byteAt_append_left _ _ 22 (by omega), byteAt_append_left _ _ 23 (by omega)]

/-- The image decides where it ends, so one packet has one split, even for
readers that disagree on the packet size. -/
theorem well_formed_unique {otherSize : Nat} {header' jpeg' metadata' padding' : List UInt8}
    (fits : packet.length ≤ target.isizeMax)
    (frame : WellFormedFrame target maxPacketSize packet header jpeg metadata padding)
    (other : WellFormedFrame target otherSize packet header' jpeg' metadata' padding') :
    header = header' ∧ jpeg = jpeg' ∧ metadata = metadata' ∧ padding = padding' := by
  have same : header ++ (jpeg ++ (metadata ++ padding)) =
      header' ++ (jpeg' ++ (metadata' ++ padding')) := by
    simp only [← List.append_assoc, ← frame.layout, ← other.layout]
  obtain ⟨rfl, bodies⟩ :=
    List.append_inj same (frame.headerLength.trans other.headerLength.symm)
  have lengths := congrArg List.length frame.layout
  simp only [List.length_append] at lengths
  have bodyFits : (jpeg ++ (metadata ++ padding)).length ≤ target.isizeMax := by
    simp only [List.length_append]; omega
  -- both readings run the same parser over the same body
  have first := (image_in_body jpeg _ bodyFits).mpr frame.image
  have second := (image_in_body jpeg' _ (bodies ▸ bodyFits)).mpr other.image
  rw [bodies, second] at first
  obtain ⟨rfl, rears⟩ := List.append_inj bodies (Outcome.ok.inj first).symm
  obtain ⟨rfl, rfl⟩ := List.append_inj rears (frame.metadataLength.trans other.metadataLength.symm)
  exact ⟨rfl, rfl, rfl, rfl⟩

end Format

/-- The 48 header bytes around the interpreted fields; `reserved` are bytes
24 to 47. -/
def encodeHeader (total : Nat) (sequence byte23 : UInt8) (reserved : List UInt8) : List UInt8 :=
  wireMagic ++ toLe32 (UInt32.ofNat total) ++ toLe32 frameSignature ++
    [frameType, frameSubtype, sequence, byte23] ++ reserved

def zeroPadding (maxPacketSize : Nat) (jpeg : List UInt8) : List UInt8 :=
  List.replicate (paddingLength (jpeg.length + jpegDecoderMetadataSize) maxPacketSize) 0

def encodeFrame (maxPacketSize : Nat) (sequence byte23 : UInt8)
    (reserved jpeg metadata : List UInt8) : List UInt8 :=
  let padding := zeroPadding maxPacketSize jpeg
  let total := headerSize + jpeg.length + metadata.length + padding.length
  encodeHeader total sequence byte23 reserved ++ jpeg ++ metadata ++ padding

section Encoding
variable {target : Target} {packet header jpeg metadata padding reserved : List UInt8}
  {maxPacketSize : Nat} {sequence byte23 : UInt8}

theorem length_encode_header (total : Nat) (reservedLength : reserved.length = 24) :
    (encodeHeader total sequence byte23 reserved).length = headerSize := by
  simp [encodeHeader, reservedLength, wireMagic, headerSize]

theorem length_encode_frame (reservedLength : reserved.length = 24) :
    (encodeFrame maxPacketSize sequence byte23 reserved jpeg metadata).length =
      headerSize + jpeg.length + metadata.length + (zeroPadding maxPacketSize jpeg).length := by
  simp only [encodeFrame, List.length_append, length_encode_header _ reservedLength]

theorem zero_padding_shortest (positive : 0 < maxPacketSize) :
    ShortestPadding (jpeg.length + jpegDecoderMetadataSize) maxPacketSize
      (zeroPadding maxPacketSize jpeg) := by
  refine (shortest_padding_iff _ _ positive _).mpr ⟨fun byte member => ?_, ?_⟩
  · exact List.eq_of_mem_replicate member
  · exact List.length_replicate

theorem encode_header_word (total : Nat) (small : total < 2 ^ 32) :
    (wordAt (encodeHeader total sequence byte23 reserved) 12).toNat = total := by
  have word : wordAt (encodeHeader total sequence byte23 reserved) 12 = UInt32.ofNat total :=
    fromLe32_toLe32 _
  rw [word, UInt32.toNat_ofNat', Nat.mod_eq_of_lt small]

theorem encode_header_signature (total : Nat) :
    wordAt (encodeHeader total sequence byte23 reserved) 16 = frameSignature :=
  fromLe32_toLe32 _

theorem encode_frame_well_formed (positive : 0 < maxPacketSize)
    (reservedLength : reserved.length = 24) (image : parseJpegEnd target jpeg = .ok jpeg.length)
    (metadataLength : metadata.length = jpegDecoderMetadataSize)
    (small : (encodeFrame maxPacketSize sequence byte23 reserved jpeg metadata).length < 2 ^ 32) :
    WellFormedFrame target maxPacketSize
      (encodeFrame maxPacketSize sequence byte23 reserved jpeg metadata)
      (encodeHeader (headerSize + jpeg.length + metadata.length +
        (zeroPadding maxPacketSize jpeg).length) sequence byte23 reserved)
      jpeg metadata (zeroPadding maxPacketSize jpeg) where
  layout := rfl
  headerLength := length_encode_header _ reservedLength
  magic := rfl
  declared := by
    rw [length_encode_frame reservedLength] at small ⊢
    exact encode_header_word _ small
  signature := encode_header_signature _
  kind := ⟨rfl, rfl⟩
  image := image
  metadataLength := metadataLength
  padded := zero_padding_shortest positive

/-- A packet in the format is the encoding of its own parts. -/
theorem well_formed_encoded (positive : 0 < maxPacketSize)
    (frame : WellFormedFrame target maxPacketSize packet header jpeg metadata padding) :
    packet = encodeFrame maxPacketSize (byteAt header 22) (byteAt header 23) (header.drop 24)
      jpeg metadata := by
  have headed : header.length = 48 := frame.headerLength
  obtain ⟨zero, shortest⟩ := (shortest_padding_iff _ _ positive _).mp frame.padded
  have padded : padding = zeroPadding maxPacketSize jpeg := by
    rw [zeroPadding, ← shortest]
    exact List.eq_replicate_of_mem zero
  have total : UInt32.ofNat (headerSize + jpeg.length + metadata.length + padding.length) =
      wordAt header 12 := by
    have lengths := congrArg List.length frame.layout
    simp only [List.length_append, frame.headerLength] at lengths
    rw [← lengths, ← frame.declared, UInt32.ofNat_toNat]
  have kind : (header.drop 20).take 4 =
      [frameType, frameSubtype, byteAt header 22, byteAt header 23] := by
    rw [take_four header 20 (by omega), ← byteAt_eq header 20, ← byteAt_eq header 21,
      ← byteAt_eq header 22, ← byteAt_eq header 23, frame.kind.1, frame.kind.2]
  have parts : header = encodeHeader
      (headerSize + jpeg.length + metadata.length + padding.length)
      (byteAt header 22) (byteAt header 23) (header.drop 24) := by
    calc header
        = header.take 12 ++ (header.drop 12).take 4 ++ (header.drop 16).take 4 ++
            (header.drop 20).take 4 ++ header.drop 24 := by
          simp only [List.append_assoc, ← List.drop_drop (i := 4) (j := 20),
            ← List.drop_drop (i := 4) (j := 16), ← List.drop_drop (i := 4) (j := 12),
            List.take_append_drop]
      _ = _ := by
          rw [encodeHeader, total, frame.magic, take_word header 12 (by omega),
            take_word header 16 (by omega), frame.signature, kind]
  rw [frame.layout, encodeFrame, ← padded, ← parts]

theorem encode_frame_parses (speed : maxPacketSize = highSpeedMaxPacketSize ∨
      maxPacketSize = superSpeedMaxPacketSize)
    (reservedLength : reserved.length = 24) (image : parseJpegEnd target jpeg = .ok jpeg.length)
    (metadataLength : metadata.length = jpegDecoderMetadataSize)
    (small : (encodeFrame maxPacketSize sequence byte23 reserved jpeg metadata).length < 2 ^ 32)
    (fits : (encodeFrame maxPacketSize sequence byte23 reserved jpeg metadata).length ≤
      target.isizeMax) :
    parseFrameEnvelope target (encodeFrame maxPacketSize sequence byte23 reserved jpeg metadata)
        maxPacketSize =
      .ok ⟨sequence, byte23, jpeg, metadata, zeroPadding maxPacketSize jpeg⟩ :=
  well_formed_accepted fits speed
    (encode_frame_well_formed (speed_positive speed) reservedLength image metadataLength small)

end Encoding

/-- `parse_frame_envelope` accepts exactly the well-formed frames and returns
their parts. Decoding inverts `encodeFrame` in both directions, and a packet
has one split, whichever packet size it is read for. -/
theorem frame_envelope_exact (target : Target) (packet : Slice target) (maxPacketSize : Nat) :
    (∀ envelope, parseFrameEnvelope target packet.bytes maxPacketSize = .ok envelope ↔
      (maxPacketSize = 512 ∨ maxPacketSize = 1024) ∧
      ∃ header, WellFormedFrame target maxPacketSize packet.bytes header envelope.jpeg
          envelope.decoderMetadata envelope.padding ∧
        header[22]? = some envelope.sequence ∧
        header[23]? = some envelope.unclassifiedByte23) ∧
    (∀ sequence byte23 reserved jpeg metadata,
      (maxPacketSize = 512 ∨ maxPacketSize = 1024) → reserved.length = 24 →
      parseJpegEnd target jpeg = .ok jpeg.length → metadata.length = 0x5000 →
      packet.bytes.length < 2 ^ 32 →
      packet.bytes = encodeFrame maxPacketSize sequence byte23 reserved jpeg metadata →
      parseFrameEnvelope target packet.bytes maxPacketSize =
        .ok ⟨sequence, byte23, jpeg, metadata, zeroPadding maxPacketSize jpeg⟩) ∧
    (∀ envelope, parseFrameEnvelope target packet.bytes maxPacketSize = .ok envelope →
      ∃ reserved, reserved.length = 24 ∧
        packet.bytes = encodeFrame maxPacketSize envelope.sequence envelope.unclassifiedByte23
          reserved envelope.jpeg envelope.decoderMetadata) ∧
    (∀ otherSize header jpeg metadata padding header' jpeg' metadata' padding',
      WellFormedFrame target maxPacketSize packet.bytes header jpeg metadata padding →
      WellFormedFrame target otherSize packet.bytes header' jpeg' metadata' padding' →
      header = header' ∧ jpeg = jpeg' ∧ metadata = metadata' ∧ padding = padding') := by
  refine ⟨fun envelope => ⟨fun accepted => ?_, ?_⟩, ?_, ?_, ?_⟩
  · have speed := ((parse_frame_envelope_ok_iff envelope packet.fits).mp accepted).1
    exact ⟨speed, _, accepted_well_formed envelope packet.fits accepted⟩
  · rintro ⟨speed, header, frame, sequence, byte23⟩
    rw [well_formed_accepted packet.fits speed frame, byteAt, byteAt,
      List.getD_eq_getElem?_getD, List.getD_eq_getElem?_getD, sequence, byte23]
    rfl
  · intro sequence byte23 reserved jpeg metadata speed reservedLength image metadataLength small
      encoded
    have fits := packet.fits
    rw [encoded] at small fits ⊢
    exact encode_frame_parses speed reservedLength image metadataLength small fits
  · intro envelope accepted
    have speed := ((parse_frame_envelope_ok_iff envelope packet.fits).mp accepted).1
    obtain ⟨frame, sequence, byte23⟩ := accepted_well_formed envelope packet.fits accepted
    have headed := frame.headerLength
    refine ⟨(packet.bytes.take headerSize).drop 24, by rw [List.length_drop, headed]; rfl, ?_⟩
    have encoded := well_formed_encoded (speed_positive speed) frame
    rwa [byteAt, byteAt, List.getD_eq_getElem?_getD, List.getD_eq_getElem?_getD, sequence,
      byte23] at encoded
  · intro otherSize header jpeg metadata padding header' jpeg' metadata' padding' frame other
    exact well_formed_unique packet.fits frame other

end Smiusb.FramePackets
