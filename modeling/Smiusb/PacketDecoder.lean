import Smiusb.FramePackets

/-!
`decode` of rust/src/main.rs over the parsers of rust/src/protocol.rs, and why
no packet can crash it. What was printed before a failure stays printed.
`println!` panics when standard output cannot be written, whatever the packet
holds; writes are taken to succeed here.
-/

namespace Smiusb.PacketDecoder
open Execution Bytes WireProtocol JpegGrammar JpegEnd JpegVerdict FramePackets

/-- The printed lines and how the function ended. -/
structure Report where
  lines : List String
  ending : Outcome String Unit
  deriving DecidableEq, Repr

namespace Report

def success : Report := ⟨[], .ok ()⟩

def println (line : String) (rest : Report) : Report :=
  { rest with lines := line :: rest.lines }

/-- The operator `?` on a fallible call. -/
def after {Value : Type} (call : Outcome String Value) (next : Value → Report) : Report :=
  match call with
  | .ok value => next value
  | .err error => ⟨[], .err error⟩
  | .panicked => ⟨[], .panicked⟩
  | .diverged => ⟨[], .diverged⟩

theorem after_returns {Value : Type} (call : Outcome String Value) (next : Value → Report)
    (comesBack : call.Returns) (each : ∀ value, (next value).ending.Returns) :
    (after call next).ending.Returns := by
  cases call with
  | ok value => exact each value
  | err error => trivial
  | panicked => exact comesBack
  | diverged => exact comesBack

end Report

/-- The scrutinee of `if let Ok(value)`: a declared error is no failure there. -/
def succeeded {Error Value : Type} : Outcome Error Value → Outcome String (Option Value)
  | .ok value => .ok (some value)
  | .err _ => .ok none
  | .panicked => .panicked
  | .diverged => .diverged

theorem succeeded_returns {Error Value : Type} (call : Outcome Error Value)
    (comesBack : call.Returns) : (succeeded call).Returns := by
  cases call with
  | ok value => trivial
  | err error => trivial
  | panicked => exact comesBack
  | diverged => exact comesBack

section Lines

/-- The formats `{:#04x}` and `{:#010x}`, by their number of digits. -/
def prefixedHex (digits value : Nat) : String := "0x" ++ lowerHex digits value

def frameLine (frame : FrameEnvelope) : String :=
  "sequence=" ++ toString frame.sequence ++
    " byte23=" ++ prefixedHex 2 frame.unclassifiedByte23.toNat ++
    " jpeg=" ++ toString frame.jpeg.length ++
    " decoder=" ++ toString frame.decoderMetadata.length ++
    " padding=" ++ toString frame.padding.length

def frameAckLine (ack : FrameAck) : String :=
  "frame-ack sequence=" ++ toString ack.sequence ++ " bytes21-23=" ++
    String.join (ack.unclassifiedBytes21To23.map fun byte => lowerHex 2 byte.toNat)

def headerLine (packetLength : Nat) (header : WireHeader) : String :=
  "bytes=" ++ toString packetLength ++ " word12=" ++ prefixedHex 8 header.word12.toNat ++
    " word16=" ++ prefixedHex 8 header.word16.toNat ++
    " byte20=" ++ prefixedHex 2 header.byte20.toNat

def requestLine (request : CommandRequest) : String :=
  "request class=" ++ prefixedHex 0 commandClass.toNat ++
    " opcode=" ++ prefixedHex 2 request.opcode.toNat ++ " length=" ++ toString request.length

def modeLine (index : Nat) (mode : Mode) : String :=
  "mode[" ++ toString index ++ "]=" ++ toString mode.width ++ "x" ++ toString mode.height ++
    "@" ++ toString mode.refreshHz ++ " " ++ toString mode.bitsPerPixel ++ "bpp"

def modeLines (modes : List Mode) : List String :=
  modes.zipIdx.map fun entry => modeLine entry.2 entry.1

end Lines

section Model
variable (target : Target) (packet : List UInt8)

def decodeFrame : Report :=
  let payloadLength := packet.length - headerSize
  let maxPacketSize :=
    if payloadLength % superSpeedMaxPacketSize = 0 then superSpeedMaxPacketSize
    else highSpeedMaxPacketSize
  .after ((parseFrameEnvelope target packet maxPacketSize).mapError FrameParseError.display)
    fun frame => .println (frameLine frame) .success

def decodeFrameAck : Report :=
  .after ((parseFrameAck target packet).mapError FrameAckParseError.display)
    fun ack => .println (frameAckLine ack) .success

/-- The mode table is tried last, and only on a packet with a whole header. -/
def decodeModes : Report :=
  if packet.length < headerSize then .success
  else .after ((parseObservedModes target packet).mapError ParseError.display)
    fun modes => ⟨modeLines modes, .ok ()⟩

def decodeRequest : Report :=
  .after (succeeded (parseCanonicalCommandRequest target packet)) fun
    | some request => .println (requestLine request) .success
    | none => decodeModes target packet

def decode : Report :=
  .after ((parseHeader target packet).mapError ParseError.display) fun header =>
    -- the signature alone decides that a packet is read as a frame
    if header.word16 = frameSignature then decodeFrame target packet
    else if packet.length = frameAckSize ∧ header.word16 = frameAckSignature then
      decodeFrameAck target packet
    else .println (headerLine packet.length header) (decodeRequest target packet)

end Model

section Cursors
variable {target : Target} {input : List UInt8}

/-- The fill loop moves by one byte while it is on a fill byte. -/
theorem fill_step_advances (fits : input.length ≤ target.isizeMax) (cursor : Nat) :
    Advances (fillStep target input) id input.length cursor := by
  have headroom := isize_headroom target
  unfold Advances fillStep
  by_cases filled : input[cursor]? = some 0xff
  · obtain ⟨strict, _⟩ := List.getElem?_eq_some_iff.mp filled
    rw [if_pos filled, checkedAdd_some target cursor 1 (by omega)]
    refine ⟨trivial, ?_⟩
    rintro next ⟨⟩
    exact ⟨Nat.lt_succ_self cursor, strict⟩
  · rw [if_neg filled]
    exact ⟨trivial, fun next done => by simp at done⟩

/-- A marker that begins inside the input also ends inside it. -/
theorem read_marker_code_bounds (before rest : List UInt8) (shape : input = before ++ 0xff :: rest)
    (fits : input.length ≤ target.isizeMax) :
    (readMarkerCode target input before.length).Returns ∧
      ∀ found, readMarkerCode target input before.length = .ok found →
        before.length < found.cursor ∧ found.cursor ≤ input.length := by
  obtain ⟨fill, after, rfl, boundary⟩ := fill_split rest
  rcases boundary with rfl | ⟨code, tail, rfl, marked⟩
  · rw [read_marker_code_truncated before fill (by simpa [List.replicate_succ] using shape) fits]
    exact ⟨trivial, fun found absent => by simp at absent⟩
  · rw [read_marker_code_found before tail fill code
      (by simpa [List.replicate_succ] using shape) marked fits]
    refine ⟨trivial, ?_⟩
    rintro found ⟨⟩
    have size : input.length = before.length + (fill + tail.length + 2) := by
      rw [shape]; simp; omega
    constructor
    · dsimp only
      omega
    · dsimp only
      omega

/-- The search for the next prefix byte is an induction over the bytes it skips. -/
theorem scan_step_bounds (before rest : List UInt8) (shape : input = before ++ rest)
    (fits : input.length ≤ target.isizeMax) :
    Advances (scanStep target input) id input.length before.length := by
  induction rest generalizing before with
  | nil =>
      unfold Advances
      rw [scan_step_missing (by rw [shape]; simp) (by rw [shape]; simp)]
      exact ⟨trivial, fun next absent => by simp at absent⟩
  | cons byte rest ih =>
      -- a plain byte hands the step on to the next position
      by_cases plain : byte = 0xff
      · subst plain
        obtain ⟨comesBack, bounds⟩ := read_marker_code_bounds before rest shape fits
        unfold Advances
        rw [scan_step_marker before rest shape fits]
        cases read : readMarkerCode target input before.length with
        | ok found =>
            rw [Outcome.ok_bind]
            by_cases allowed : EntropyCode found.marker
            · rw [if_pos allowed]
              refine ⟨trivial, ?_⟩
              rintro next ⟨⟩
              exact bounds found read
            · rw [if_neg allowed]
              exact ⟨trivial, fun next done => by simp at done⟩
        | err error => exact ⟨trivial, fun next absent => by simp at absent⟩
        | panicked => simp [read, Outcome.Returns] at comesBack
        | diverged => simp [read, Outcome.Returns] at comesBack
      · obtain ⟨comesBack, moves⟩ := ih (before ++ [byte]) (by rw [shape]; simp)
        rw [List.length_append, List.length_singleton,
          ← scan_step_data before rest byte shape plain] at comesBack moves
        refine ⟨comesBack, ?_⟩
        intro next again
        obtain ⟨further, below⟩ := moves next again
        exact ⟨Nat.lt_of_succ_lt further, below⟩

theorem scan_step_advances (fits : input.length ≤ target.isizeMax) (cursor : Nat)
    (inside : cursor ≤ input.length) :
    Advances (scanStep target input) id input.length cursor := by
  have bounds := scan_step_bounds (input.take cursor) (input.drop cursor)
    (List.take_append_drop cursor input).symm fits
  rwa [List.length_take_of_le inside] at bounds

theorem parse_step_advances (fits : input.length ≤ target.isizeMax) (progress : Progress)
    (inside : progress.cursor ≤ input.length) :
    Advances (parseStep target input) Progress.cursor input.length progress := by
  have shape := (List.take_append_drop progress.cursor input).symm
  have start := (List.length_take_of_le inside).symm
  obtain ⟨outcome, iterates⟩ := iterates_covers progress (input.drop progress.cursor)
  unfold Advances
  rw [iterates_computes outcome shape start fits iterates]
  refine ⟨(iterates_safe outcome iterates).1, ?_⟩
  rintro next rfl
  obtain ⟨part, after, split, some, moved, _⟩ := iterates_again next iterates
  have size := congrArg List.length split
  rw [List.length_drop, List.length_append] at size
  constructor
  · omega
  · omega

end Cursors

section Parsers
variable {target : Target} {packet : List UInt8}

theorem parse_header_returns (target : Target) (packet : List UInt8) :
    (parseHeader target packet).Returns := by
  rw [parse_header_eq packet]
  split_ifs <;> trivial

theorem parse_canonical_command_request_returns (target : Target) (packet : List UInt8) :
    (parseCanonicalCommandRequest target packet).Returns := by
  rw [parse_canonical_command_request_eq packet]
  split_ifs <;> trivial

theorem parse_frame_ack_returns (target : Target) (packet : List UInt8) :
    (parseFrameAck target packet).Returns := by
  rw [parse_frame_ack_eq packet]
  split_ifs <;> trivial

theorem parse_observed_modes_returns (target : Target) (packet : List UInt8) :
    (parseObservedModes target packet).Returns := by
  rw [parse_observed_modes_eq packet]
  split_ifs <;> trivial

/-- A call comes back, and not with an error that blames the platform. -/
def Sound {Value : Type} : Outcome FrameParseError Value → Prop
  | .ok _ => True
  | .err error => ¬ PlatformError error
  | .panicked => False
  | .diverged => False

theorem sound_returns {Value : Type} {call : Outcome FrameParseError Value} (sound : Sound call) :
    call.Returns ∧ ∀ error, call = .err error → ¬ PlatformError error := by
  cases call with
  | ok value => exact ⟨trivial, fun error absent => by simp at absent⟩
  | err error => exact ⟨trivial, fun other same => by cases same; exact sound⟩
  | panicked => exact sound.elim
  | diverged => exact sound.elim

/-- A check that names a fault of the packet, before the rest of a parser. -/
theorem sound_check {Value : Type} {fault : Prop} [Decidable fault] {error : FrameParseError}
    {rest : Outcome FrameParseError Value} (bytes : ¬ PlatformError error) (sound : Sound rest) :
    Sound (if fault then .err error else rest) := by
  split_ifs
  · exact bytes
  · exact sound

theorem parse_jpeg_end_sound (fits : packet.length ≤ target.isizeMax) :
    Sound (parseJpegEnd target packet) := by
  have verdict := parse_verdict fits
  cases parsed : parseJpegEnd target packet with
  | ok finish => trivial
  | err error => rwa [parsed] at verdict
  | panicked => rwa [parsed] at verdict
  | diverged => rwa [parsed] at verdict

theorem payload_verdict_sound (maxPacketSize : Nat) (sequence byte23 : UInt8) (jpegLength : Nat) :
    Sound (payloadVerdict packet maxPacketSize sequence byte23 jpegLength) := by
  apply sound_check (by simp [PlatformError])
  apply sound_check (by simp [PlatformError])
  split
  · simp [Sound, PlatformError]
  · apply sound_check (by simp [PlatformError])
    trivial

theorem parse_frame_envelope_sound (fits : packet.length ≤ target.isizeMax) (maxPacketSize : Nat) :
    Sound (parseFrameEnvelope target packet maxPacketSize) := by
  have bodyFits : (packet.drop headerSize).length ≤ target.isizeMax := by
    rw [List.length_drop]
    omega
  have image := sound_returns (parse_jpeg_end_sound bodyFits)
  rw [parse_frame_envelope_eq packet maxPacketSize fits]
  -- the six checks of the header, then the payload
  apply sound_check (by simp [PlatformError])
  apply sound_check (by simp [PlatformError])
  apply sound_check (by simp [PlatformError])
  apply sound_check (by simp [PlatformError])
  apply sound_check (by simp [PlatformError])
  apply sound_check (by simp [PlatformError])
  apply Outcome.bind_rule Sound
  · intro jpegLength _
    exact payload_verdict_sound maxPacketSize _ _ jpegLength
  · exact image.2
  · exact image.1

theorem decode_returns (fits : packet.length ≤ target.isizeMax) :
    (decode target packet).ending.Returns := by
  apply Report.after_returns
  · rw [Outcome.returns_mapError]
    exact parse_header_returns target _
  · intro header
    split_ifs
    · apply Report.after_returns
      · rw [Outcome.returns_mapError]
        exact (sound_returns (parse_frame_envelope_sound fits _)).1
      · intro frame
        trivial
    · apply Report.after_returns
      · rw [Outcome.returns_mapError]
        exact parse_frame_ack_returns target _
      · intro ack
        trivial
    · apply Report.after_returns
      · exact succeeded_returns _ (parse_canonical_command_request_returns target _)
      · rintro (_ | request)
        · dsimp only [decodeModes]
          split_ifs
          · trivial
          · apply Report.after_returns
            · rw [Outcome.returns_mapError]
              exact parse_observed_modes_returns target _
            · intro modes
              trivial
        · trivial

end Parsers

/-- No packet crashes a parser or `decode`: they come back, each iteration of
the nested loops moves the cursor forward inside the input, and no error blames
the platform. -/
theorem decoder_never_crashes (target : Target) (packet : Slice target) (maxPacketSize : Nat) :
    ((parseHeader target packet.bytes).Returns ∧
      (parseCanonicalCommandRequest target packet.bytes).Returns ∧
      (parseFrameAck target packet.bytes).Returns ∧
      (parseObservedModes target packet.bytes).Returns ∧
      (parseJpegEnd target packet.bytes).Returns ∧
      (parseFrameEnvelope target packet.bytes maxPacketSize).Returns ∧
      (decode target packet.bytes).ending.Returns) ∧
    (∀ progress, progress.cursor ≤ packet.bytes.length →
      Advances (parseStep target packet.bytes) Progress.cursor packet.bytes.length progress) ∧
    (∀ cursor, cursor ≤ packet.bytes.length →
      Advances (scanStep target packet.bytes) id packet.bytes.length cursor ∧
      Advances (fillStep target packet.bytes) id packet.bytes.length cursor) ∧
    (∀ extra progress, progress.cursor ≤ packet.bytes.length →
      loop (parseStep target packet.bytes) (packet.bytes.length + 1 + extra) progress =
        loop (parseStep target packet.bytes) (packet.bytes.length + 1) progress) ∧
    (∀ extra cursor, cursor ≤ packet.bytes.length →
      loop (scanStep target packet.bytes) (packet.bytes.length + 1 + extra) cursor =
          scanForMarker target packet.bytes cursor ∧
        loop (fillStep target packet.bytes) (packet.bytes.length + 1 + extra) cursor =
          skipFill target packet.bytes cursor) ∧
    (∀ error, parseJpegEnd target packet.bytes = .err error ∨
        parseFrameEnvelope target packet.bytes maxPacketSize = .err error →
      error ≠ .lengthOverflow ∧ ∀ declared, error ≠ .declaredLengthDoesNotFit declared) := by
  have fits := packet.fits
  have outer := parse_step_advances fits
  have inner := scan_step_advances fits
  have image := sound_returns (parse_jpeg_end_sound fits)
  have frame := sound_returns (parse_frame_envelope_sound fits maxPacketSize)
  refine ⟨⟨parse_header_returns target _, parse_canonical_command_request_returns target _,
    parse_frame_ack_returns target _, parse_observed_modes_returns target _, image.1, frame.1,
    decode_returns fits⟩, outer, ?_, ?_, ?_, ?_⟩
  · intro cursor inside
    exact ⟨inner cursor inside, fill_step_advances fits cursor⟩
  · intro extra progress inside
    exact (loop_advancing _ _ _ outer _ progress inside (by omega)).2 extra
  · intro extra cursor inside
    constructor
    · exact (loop_advancing _ id _ inner _ cursor inside (by dsimp only [id]; omega)).2 extra
    · exact (loop_advancing _ id _ (fun cursor _ => fill_step_advances fits cursor) _ cursor inside
        (by dsimp only [id]; omega)).2 extra
  · intro error refused
    have bytes : ¬ PlatformError error := by
      rcases refused with jpeg | envelope
      · exact image.2 error jpeg
      · exact frame.2 error envelope
    constructor
    · intro overflow
      exact bytes (.inl overflow)
    · intro declared wide
      exact bytes (.inr ⟨declared, wide⟩)

end Smiusb.PacketDecoder
