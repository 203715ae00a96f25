import Smiusb.Bytes

/-!
The packet types, errors and fixed-layout parsers of rust/src/protocol.rs: the
shared header, canonical command requests, frame acknowledgements and the mode
table. Every slice, index and conversion of the source is kept with its panic.
Each parser gets one closed equation on real slices, where no panic is left;
later modules use that equation and never unfold the parser again. The request
builders of the same file are not part of this module.
-/

namespace Smiusb.WireProtocol
open Execution Bytes

/-- The ASCII bytes of "smifalconsta". -/
def wireMagic : List UInt8 :=
  [0x73, 0x6d, 0x69, 0x66, 0x61, 0x6c, 0x63, 0x6f, 0x6e, 0x73, 0x74, 0x61]

def headerSize : Nat := 48
def commandClass : UInt32 := 6
def frameSignature : UInt32 := 0xa0000002
def frameType : UInt8 := 0x04
def frameSubtype : UInt8 := 0x01
def jpegDecoderMetadataSize : Nat := 0x5000
def highSpeedMaxPacketSize : Nat := 512
def superSpeedMaxPacketSize : Nat := 1024
def frameAckSize : Nat := 1024
def frameAckSignature : UInt32 := 0x010001e9

structure WireHeader where
  word12 : UInt32
  word16 : UInt32
  byte20 : UInt8
  deriving DecidableEq, Repr

structure CommandRequest where
  length : Nat
  opcode : UInt8
  deriving DecidableEq, Repr

structure Mode where
  width : UInt32
  height : UInt32
  refreshHz : UInt32
  bitsPerPixel : UInt32
  deriving DecidableEq, Repr

structure FrameAck where
  sequence : UInt8
  unclassifiedBytes21To23 : List UInt8
  deriving DecidableEq, Repr

inductive FrameAckParseError where
  | invalidPacketLength (actual expected : Nat)
  | badMagic
  | invalidDeclaredLength (actual : UInt32)
  | invalidSignature (actual : UInt32)
  deriving DecidableEq, Repr

inductive FrameParseError where
  | invalidMaxPacketSize (actual : Nat)
  | tooShort (actual minimum : Nat)
  | badMagic
  | declaredLengthDoesNotFit (declared : UInt32)
  | declaredLengthMismatch (declared actual : Nat)
  | invalidSignature (actual : UInt32)
  | invalidFrameType (byte20 byte21 : UInt8)
  | missingJpegStart
  | expectedJpegMarker (offset : Nat) (byte : UInt8)
  | truncatedJpegMarker (offset : Nat)
  | truncatedJpegSegmentLength (offset : Nat) (marker : UInt8)
  | invalidJpegSegmentLength (offset : Nat) (marker : UInt8) (length : Nat)
  | truncatedJpegSegment (offset : Nat) (marker : UInt8) (length available : Nat)
  | invalidJpegScanHeader (offset length components : Nat)
  | unexpectedJpegMarker (offset : Nat) (marker : UInt8)
  | jpegEndBeforeScan (offset : Nat)
  | missingJpegEnd
  | lengthOverflow
  | truncatedDecoderMetadata (actual expected : Nat)
  | paddingTooLong (actual maximum : Nat)
  | nonZeroPadding (offset : Nat) (value : UInt8)
  | unalignedPayload (actual expected maxPacketSize : Nat)
  deriving DecidableEq, Repr

inductive ParseError where
  | tooShort (actual minimum : Nat)
  | badMagic
  | invalidRequestLength (declared actual : Nat)
  | invalidRequestClass (received : UInt32)
  deriving DecidableEq, Repr

/-- Lower-case hexadecimal digits, zero-filled on the left to `width`. -/
def lowerHex (width value : Nat) : String :=
  String.ofList ((Nat.toDigits 16 value).leftpad width '0')

def ParseError.display : ParseError → String
  | .tooShort actual minimum => s!"packet is {actual} bytes; need at least {minimum}"
  | .badMagic => "packet does not start with SMIUSB magic"
  | .invalidRequestLength declared actual =>
      s!"request declares {declared} bytes but has {actual}"
  | .invalidRequestClass received =>
      "unsupported request class 0x" ++ lowerHex 0 received.toNat

def FrameParseError.display : FrameParseError → String
  | .invalidMaxPacketSize actual =>
      s!"unsupported bulk max-packet size {actual}; expected 512 or 1024"
  | .tooShort actual minimum => s!"frame is {actual} bytes; need at least {minimum}"
  | .badMagic => "frame does not start with SMIUSB magic"
  | .declaredLengthDoesNotFit declared =>
      s!"declared frame length {declared} does not fit this platform"
  | .declaredLengthMismatch declared actual =>
      s!"frame declares {declared} bytes but capture has {actual}"
  | .invalidSignature actual =>
      "invalid SM768 frame signature 0x" ++ lowerHex 8 actual.toNat ++ "; expected 0x" ++
        lowerHex 8 frameSignature.toNat
  | .invalidFrameType byte20 byte21 =>
      "invalid SM768 frame type 0x" ++ lowerHex 2 byte20.toNat ++ "/0x" ++
        lowerHex 2 byte21.toNat ++ "; expected 0x" ++ lowerHex 2 frameType.toNat ++ "/0x" ++
        lowerHex 2 frameSubtype.toNat
  | .missingJpegStart => "frame payload does not start with JPEG SOI"
  | .expectedJpegMarker offset byte =>
      s!"expected a JPEG marker at payload offset {offset}, found 0x" ++ lowerHex 2 byte.toNat
  | .truncatedJpegMarker offset => s!"truncated JPEG marker at payload offset {offset}"
  | .truncatedJpegSegmentLength offset marker =>
      "truncated JPEG 0x" ++ lowerHex 2 marker.toNat ++
        s!" segment length at payload offset {offset}"
  | .invalidJpegSegmentLength offset marker length =>
      "invalid JPEG 0x" ++ lowerHex 2 marker.toNat ++
        s!" segment length {length} at payload offset {offset}"
  | .truncatedJpegSegment offset marker length available =>
      "JPEG 0x" ++ lowerHex 2 marker.toNat ++
        s!" segment at payload offset {offset} declares {length} bytes but only {available} remain"
  | .invalidJpegScanHeader offset length components =>
      s!"invalid JPEG SOS header at payload offset {offset}: length={length}, " ++
        s!"components={components}"
  | .unexpectedJpegMarker offset marker =>
      "unexpected JPEG marker 0x" ++ lowerHex 2 marker.toNat ++ s!" at payload offset {offset}"
  | .jpegEndBeforeScan offset => s!"JPEG EOI at payload offset {offset} appears before any scan"
  | .missingJpegEnd => "JPEG payload has no structural EOI marker"
  | .lengthOverflow => "frame layout length overflows this platform"
  | .truncatedDecoderMetadata actual expected =>
      s!"decoder metadata has {actual} bytes; expected exactly {expected}"
  | .paddingTooLong actual maximum => s!"frame has {actual} padding bytes; maximum is {maximum}"
  | .nonZeroPadding offset value =>
      s!"frame padding byte {offset} is 0x" ++ lowerHex 2 value.toNat ++ "; expected zero"
  | .unalignedPayload actual expected maxPacketSize =>
      s!"post-header payload is {actual} bytes; expected {expected} for {maxPacketSize}-byte " ++
        "packet alignment"

def FrameAckParseError.display : FrameAckParseError → String
  | .invalidPacketLength actual expected =>
      s!"frame ACK packet is {actual} bytes; expected exactly {expected}"
  | .badMagic => "frame ACK does not start with SMIUSB magic"
  | .invalidDeclaredLength actual => s!"frame ACK declares {actual} bytes; expected {frameAckSize}"
  | .invalidSignature actual =>
      "invalid frame ACK signature 0x" ++ lowerHex 8 actual.toNat ++ "; expected 0x" ++
        lowerHex 8 frameAckSignature.toNat

section Reads
variable {Error : Type} (target : Target)

def readU32Le (bytes : List UInt8) (offset : Nat) : Outcome Error UInt32 := do
  let stop ← plus target offset 4
  let field ← sliceRange bytes offset stop
  match field with
  | [b0, b1, b2, b3] => .ok (fromLe32 b0 b1 b2 b3)
  -- expect("validated slice")
  | _ => .panicked

def readU16Be (bytes : List UInt8) (offset : Nat) : Outcome Error UInt16 := do
  let stop ← plus target offset 2
  let field ← sliceRange bytes offset stop
  match field with
  | [high, low] => .ok (fromBe16 high low)
  | _ => .panicked

/-- The bytes and words of a packet, read without the slicing protocol. -/
def byteAt (bytes : List UInt8) (position : Nat) : UInt8 := bytes.getD position 0

def wordAt (bytes : List UInt8) (offset : Nat) : UInt32 :=
  fromLe32 (byteAt bytes offset) (byteAt bytes (offset + 1)) (byteAt bytes (offset + 2))
    (byteAt bytes (offset + 3))

variable {target}

theorem byteAt_eq (bytes : List UInt8) (position : Nat) (inside : position < bytes.length) :
    byteAt bytes position = bytes[position] := by
  simp [byteAt, inside]

theorem index_byteAt (bytes : List UInt8) (position : Nat) (inside : position < bytes.length) :
    (index bytes position : Outcome Error UInt8) = .ok (byteAt bytes position) := by
  rw [index_ok bytes position inside, byteAt_eq bytes position inside]

/-- Header fields sit at small fixed offsets, so their end is representable. -/
theorem readU32Le_ok (bytes : List UInt8) (offset : Nat) (near : offset < 2 ^ 16)
    (inside : offset + 4 ≤ bytes.length) :
    (readU32Le target bytes offset : Outcome Error UInt32) = .ok (wordAt bytes offset) := by
  have headroom := isize_headroom target
  unfold readU32Le
  rw [plus_ok target offset 4 (by omega), Outcome.ok_bind,
    sliceRange_ok bytes offset (offset + 4) (by omega) inside, Outcome.ok_bind,
    Nat.add_sub_cancel_left, take_four bytes offset inside]
  simp only [wordAt, byteAt_eq bytes offset (by omega), byteAt_eq bytes (offset + 1) (by omega),
    byteAt_eq bytes (offset + 2) (by omega), byteAt_eq bytes (offset + 3) (by omega)]

theorem readU16Be_ok (bytes : List UInt8) (offset : Nat) (fits : bytes.length ≤ target.isizeMax)
    (inside : offset + 2 ≤ bytes.length) :
    (readU16Be target bytes offset : Outcome Error UInt16) =
      .ok (fromBe16 (byteAt bytes offset) (byteAt bytes (offset + 1))) := by
  have headroom := isize_headroom target
  unfold readU16Be
  rw [plus_ok target offset 2 (by omega), Outcome.ok_bind,
    sliceRange_ok bytes offset (offset + 2) (by omega) inside, Outcome.ok_bind,
    Nat.add_sub_cancel_left, take_two bytes offset inside]
  simp only [byteAt_eq bytes offset (by omega), byteAt_eq bytes (offset + 1) (by omega)]

theorem byteAt_append_left (front back : List UInt8) (position : Nat)
    (inside : position < front.length) :
    byteAt (front ++ back) position = byteAt front position := by
  simp [byteAt, List.getElem?_append_left inside]

theorem wordAt_append_left (front back : List UInt8) (offset : Nat)
    (inside : offset + 4 ≤ front.length) :
    wordAt (front ++ back) offset = wordAt front offset := by
  simp only [wordAt, byteAt_append_left front back offset (by omega),
    byteAt_append_left front back (offset + 1) (by omega),
    byteAt_append_left front back (offset + 2) (by omega),
    byteAt_append_left front back (offset + 3) (by omega)]

theorem take_word (bytes : List UInt8) (offset : Nat) (inside : offset + 4 ≤ bytes.length) :
    (bytes.drop offset).take 4 = toLe32 (wordAt bytes offset) := by
  rw [wordAt, toLe32_fromLe32, take_four bytes offset inside, byteAt_eq bytes offset (by omega),
    byteAt_eq bytes (offset + 1) (by omega), byteAt_eq bytes (offset + 2) (by omega),
    byteAt_eq bytes (offset + 3) (by omega)]

end Reads

section Parsers
variable (target : Target)

def parseHeader (packet : List UInt8) : Outcome ParseError WireHeader :=
  if packet.length < 21 then .err (.tooShort packet.length 21)
  else do
    let magic ← sliceRange packet 0 wireMagic.length
    if magic ≠ wireMagic then .err .badMagic
    else do
      let word12 ← readU32Le target packet 12
      let word16 ← readU32Le target packet 16
      let byte20 ← index packet 20
      .ok { word12, word16, byte20 }

def parseCanonicalCommandRequest (packet : List UInt8) : Outcome ParseError CommandRequest := do
  let header ← parseHeader target packet
  let declared := header.word12.toNat % (target.usizeMax + 1)
  if declared ≠ packet.length then .err (.invalidRequestLength declared packet.length)
  else if header.word16 ≠ commandClass then .err (.invalidRequestClass header.word16)
  else .ok { length := declared, opcode := header.byte20 }

def parseFrameAck (packet : List UInt8) : Outcome FrameAckParseError FrameAck :=
  if packet.length ≠ frameAckSize then .err (.invalidPacketLength packet.length frameAckSize)
  else do
    let magic ← sliceRange packet 0 wireMagic.length
    if magic ≠ wireMagic then .err .badMagic
    else do
      let declaredLength ← readU32Le target packet 12
      if declaredLength ≠ UInt32.ofNat frameAckSize then
        .err (.invalidDeclaredLength declaredLength)
      else do
        let signature ← readU32Le target packet 16
        if signature ≠ frameAckSignature then .err (.invalidSignature signature)
        else do
          let sequence ← index packet 20
          let unclassified ← sliceRange packet 21 24
          match unclassified with
          | [b21, b22, b23] => .ok { sequence, unclassifiedBytes21To23 := [b21, b22, b23] }
          -- expect("validated ACK header slice")
          | _ => .panicked

/-- The complete chunks of a slice; a shorter remainder is not visited. -/
def chunksExact (width : Nat) (bytes : List UInt8) : List (List UInt8) :=
  (List.range (bytes.length / width)).map fun row => (bytes.drop (row * width)).take width

def readMode (row : List UInt8) : Outcome ParseError Mode := do
  let width ← readU32Le target row 0
  let height ← readU32Le target row 4
  let refreshHz ← readU32Le target row 8
  let bitsPerPixel ← readU32Le target row 12
  .ok { width, height, refreshHz, bitsPerPixel }

def Mode.isPlausible (mode : Mode) : Bool :=
  decide (320 ≤ mode.width ∧ mode.width ≤ 16384) &&
    decide (200 ≤ mode.height ∧ mode.height ≤ 16384) &&
    decide (1 ≤ mode.refreshHz ∧ mode.refreshHz ≤ 1000) &&
    [8, 16, 24, 30, 32].contains mode.bitsPerPixel

def collectModes : List (List UInt8) → List Mode → Outcome ParseError (List Mode)
  | [], modes => .ok modes
  | row :: rest, modes => do
      let mode ← readMode target row
      -- a zero row and an implausible row both end the table
      if mode = { width := 0, height := 0, refreshHz := 0, bitsPerPixel := 0 } then .ok modes
      else if !mode.isPlausible then .ok modes
      else collectModes rest (modes ++ [mode])

def parseObservedModes (packet : List UInt8) : Outcome ParseError (List Mode) := do
  let _ ← parseHeader target packet
  if packet.length < headerSize then .err (.tooShort packet.length headerSize)
  else do
    let rows ← sliceFrom packet headerSize
    collectModes target ((chunksExact 16 rows).take 256) []

end Parsers

section Equations
variable {target : Target}

theorem slice_magic {Error : Type} (packet : List UInt8) (long : 12 ≤ packet.length) :
    (sliceRange packet 0 wireMagic.length : Outcome Error (List UInt8)) = .ok (packet.take 12) := by
  rw [sliceRange_ok packet 0 wireMagic.length (Nat.zero_le _) long]
  rfl

def headerOf (packet : List UInt8) : WireHeader :=
  { word12 := wordAt packet 12, word16 := wordAt packet 16, byte20 := byteAt packet 20 }

theorem parse_header_eq (packet : List UInt8) :
    parseHeader target packet =
      if packet.length < 21 then .err (.tooShort packet.length 21)
      else if packet.take 12 ≠ wireMagic then .err .badMagic
      else .ok (headerOf packet) := by
  unfold parseHeader
  split
  · rfl
  · rename_i long
    rw [slice_magic packet (by omega), Outcome.ok_bind]
    split
    · rfl
    · rw [readU32Le_ok packet 12 (by decide) (by omega), Outcome.ok_bind,
        readU32Le_ok packet 16 (by decide) (by omega), Outcome.ok_bind,
        index_byteAt packet 20 (by omega), Outcome.ok_bind]
      rfl

theorem word_as_usize (word : UInt32) : word.toNat % (target.usizeMax + 1) = word.toNat :=
  Nat.mod_eq_of_lt (Nat.lt_succ_of_le (word_fits_usize target word))

theorem parse_canonical_command_request_eq (packet : List UInt8) :
    parseCanonicalCommandRequest target packet =
      if packet.length < 21 then .err (.tooShort packet.length 21)
      else if packet.take 12 ≠ wireMagic then .err .badMagic
      else if (wordAt packet 12).toNat ≠ packet.length then
        .err (.invalidRequestLength (wordAt packet 12).toNat packet.length)
      else if wordAt packet 16 ≠ commandClass then .err (.invalidRequestClass (wordAt packet 16))
      else .ok { length := packet.length, opcode := byteAt packet 20 } := by
  unfold parseCanonicalCommandRequest
  rw [parse_header_eq packet]
  split
  · rfl
  · split
    · rfl
    · simp only [Outcome.ok_bind, headerOf, word_as_usize]
      split
      · rfl
      · rename_i declared
        rw [Decidable.not_not.mp declared]

theorem parse_frame_ack_eq (packet : List UInt8) :
    parseFrameAck target packet =
      if packet.length ≠ frameAckSize then .err (.invalidPacketLength packet.length frameAckSize)
      else if packet.take 12 ≠ wireMagic then .err .badMagic
      else if wordAt packet 12 ≠ UInt32.ofNat frameAckSize then
        .err (.invalidDeclaredLength (wordAt packet 12))
      else if wordAt packet 16 ≠ frameAckSignature then .err (.invalidSignature (wordAt packet 16))
      else .ok
        { sequence := byteAt packet 20
          unclassifiedBytes21To23 := [byteAt packet 21, byteAt packet 22, byteAt packet 23] } := by
  unfold parseFrameAck
  split
  · rfl
  · rename_i exactLength
    have length : packet.length = 1024 := Decidable.not_not.mp exactLength
    have trailing : (packet.drop 21).take 3 =
        [byteAt packet 21, byteAt packet 22, byteAt packet 23] := by
      rw [List.drop_eq_getElem_cons (by omega), List.drop_eq_getElem_cons (by omega),
        List.drop_eq_getElem_cons (by omega), byteAt_eq packet 21 (by omega),
        byteAt_eq packet 22 (by omega), byteAt_eq packet 23 (by omega)]
      rfl
    rw [slice_magic packet (by omega), Outcome.ok_bind,
      readU32Le_ok packet 12 (by decide) (by omega),
      readU32Le_ok packet 16 (by decide) (by omega), index_byteAt packet 20 (by omega),
      sliceRange_ok packet 21 24 (by omega) (by omega), trailing]
    rfl

def modeOf (row : List UInt8) : Mode :=
  { width := wordAt row 0, height := wordAt row 4, refreshHz := wordAt row 8,
    bitsPerPixel := wordAt row 12 }

theorem read_mode_eq (row : List UInt8) (exactLength : row.length = 16) :
    readMode target row = .ok (modeOf row) := by
  unfold readMode
  rw [readU32Le_ok row 0 (by decide) (by omega), readU32Le_ok row 4 (by decide) (by omega),
    readU32Le_ok row 8 (by decide) (by omega), readU32Le_ok row 12 (by decide) (by omega)]
  rfl

/-- The zero row needs no case of its own: it is implausible. -/
theorem collect_modes_eq (rows : List (List UInt8)) (modes : List Mode)
    (exactLength : ∀ row ∈ rows, row.length = 16) :
    collectModes target rows modes =
      .ok (modes ++ (rows.map modeOf).takeWhile Mode.isPlausible) := by
  induction rows generalizing modes with
  | nil => simp [collectModes]
  | cons row rest ih =>
      have tail := ih (modes ++ [modeOf row])
        (fun other member => exactLength other (List.mem_cons_of_mem row member))
      simp only [collectModes, read_mode_eq row (exactLength row (by simp)), Outcome.ok_bind]
      by_cases credible : (modeOf row).isPlausible = true
      · have present :
            modeOf row ≠ { width := 0, height := 0, refreshHz := 0, bitsPerPixel := 0 } := by
          intro zero
          rw [zero] at credible
          exact absurd credible (by decide)
        simp [present, credible, tail]
      · simp [credible]

theorem chunks_exact_length (width : Nat) (bytes : List UInt8) :
    ∀ chunk ∈ chunksExact width bytes, chunk.length = width := by
  intro chunk member
  obtain ⟨row, inside, rfl⟩ := List.mem_map.mp member
  have whole : (row + 1) * width ≤ bytes.length :=
    Nat.le_trans (Nat.mul_le_mul_right width (List.mem_range.mp inside))
      (Nat.div_mul_le_self bytes.length width)
  rw [Nat.add_mul, Nat.one_mul] at whole
  rw [List.length_take, List.length_drop]
  omega

/-- The longest plausible run of complete rows after the header, 256 at most. -/
def observedModes (packet : List UInt8) : List Mode :=
  (((chunksExact 16 (packet.drop headerSize)).take 256).map modeOf).takeWhile Mode.isPlausible

theorem parse_observed_modes_eq (packet : List UInt8) :
    parseObservedModes target packet =
      if packet.length < 21 then .err (.tooShort packet.length 21)
      else if packet.take 12 ≠ wireMagic then .err .badMagic
      else if packet.length < headerSize then .err (.tooShort packet.length headerSize)
      else .ok (observedModes packet) := by
  unfold parseObservedModes
  rw [parse_header_eq packet]
  split
  · rfl
  · split
    · rfl
    · rw [Outcome.ok_bind]
      split
      · rfl
      · rw [sliceFrom_ok packet headerSize (by omega), Outcome.ok_bind, collect_modes_eq]
        · rfl
        · intro row member
          exact chunks_exact_length 16 _ row (List.mem_of_mem_take member)

end Equations

end Smiusb.WireProtocol
