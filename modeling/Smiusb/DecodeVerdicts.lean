import Smiusb.PacketDecoder

/-!
What `decode` of rust/src/main.rs decides, compared with the strict parsers it
is built on: which packets it refuses, and what it prints for the others. The
bulk packet size of a frame is not known offline, so `decode` infers it from
the length of the payload.
-/

namespace Smiusb.DecodeVerdicts
open Execution Bytes WireProtocol FramePackets PacketDecoder

/-- The size `decode` reads a frame with. -/
def inferredMaxPacketSize (packet : List UInt8) : Nat :=
  if (packet.length - headerSize) % superSpeedMaxPacketSize = 0 then superSpeedMaxPacketSize
  else highSpeedMaxPacketSize

section Speeds
variable {target : Target} {packet header jpeg metadata padding : List UInt8}

theorem inferred_speed (packet : List UInt8) :
    inferredMaxPacketSize packet = highSpeedMaxPacketSize ∨
      inferredMaxPacketSize packet = superSpeedMaxPacketSize := by
  unfold inferredMaxPacketSize
  split_ifs
  · exact .inr rfl
  · exact .inl rfl

/-- Padding that is shortest for one size and happens to reach a boundary of a
multiple of it is shortest for that multiple. -/
theorem shortest_padding_multiple {contentLength small large : Nat} (divides : small ∣ large)
    (shortest : ShortestPadding contentLength small padding)
    (aligned : large ∣ contentLength + padding.length) :
    ShortestPadding contentLength large padding where
  zero := shortest.zero
  aligned := aligned
  shortest := by
    intro length reaches
    exact shortest.shortest length (Nat.dvd_trans divides reaches)

theorem well_formed_payload {maxPacketSize : Nat}
    (frame : WellFormedFrame target maxPacketSize packet header jpeg metadata padding) :
    packet.length - headerSize = jpeg.length + jpegDecoderMetadataSize + padding.length := by
  have lengths := congrArg List.length frame.layout
  simp only [List.length_append, frame.headerLength, frame.metadataLength] at lengths
  omega

/-- A frame in the format of either size is in the format of the inferred one. -/
theorem well_formed_inferred {maxPacketSize : Nat}
    (speed : maxPacketSize = highSpeedMaxPacketSize ∨ maxPacketSize = superSpeedMaxPacketSize)
    (frame : WellFormedFrame target maxPacketSize packet header jpeg metadata padding) :
    WellFormedFrame target (inferredMaxPacketSize packet) packet header jpeg metadata padding := by
  have payload := well_formed_payload frame
  have aligned := frame.padded.aligned
  unfold inferredMaxPacketSize
  split_ifs with whole
  · -- only the padding depends on the size
    rw [payload] at whole
    have divides : maxPacketSize ∣ superSpeedMaxPacketSize := by
      rcases speed with rfl | rfl <;> decide
    exact { frame with
      padded := shortest_padding_multiple divides frame.padded (Nat.dvd_of_mod_eq_zero whole) }
  · rcases speed with rfl | rfl
    · exact frame
    · rw [payload] at whole
      exact absurd (Nat.mod_eq_zero_of_dvd aligned) whole

/-- Two readings of one packet agree, for whichever sizes: the image decides
where everything is. -/
theorem accepted_alike {firstSize secondSize : Nat} {first second : FrameEnvelope}
    (fits : packet.length ≤ target.isizeMax)
    (one : parseFrameEnvelope target packet firstSize = .ok first)
    (two : parseFrameEnvelope target packet secondSize = .ok second) : first = second := by
  obtain ⟨frame, sequence, byte23⟩ := accepted_well_formed first fits one
  obtain ⟨other, sequence', byte23'⟩ := accepted_well_formed second fits two
  obtain ⟨_, image, extra, fill⟩ := well_formed_unique fits frame other
  have sequences := Option.some.inj (sequence.symm.trans sequence')
  have bytes := Option.some.inj (byte23.symm.trans byte23')
  cases first
  cases second
  simp_all

theorem accepted_inferred {maxPacketSize : Nat} {envelope : FrameEnvelope}
    (fits : packet.length ≤ target.isizeMax)
    (accepted : parseFrameEnvelope target packet maxPacketSize = .ok envelope) :
    parseFrameEnvelope target packet (inferredMaxPacketSize packet) = .ok envelope := by
  have speed := ((parse_frame_envelope_ok_iff envelope fits).mp accepted).1
  have frame := well_formed_inferred speed (accepted_well_formed envelope fits accepted).1
  have inferred := well_formed_accepted fits (inferred_speed packet) frame
  rw [inferred, accepted_alike fits accepted inferred]

end Speeds

/-- The shared header is there. -/
def Headed (packet : List UInt8) : Prop := 21 ≤ packet.length ∧ packet.take 12 = wireMagic

/-- What a strict parser makes of a packet. -/
inductive Reading where
  | frame (envelope : FrameEnvelope)
  | frameAck (ack : FrameAck)
  | request (command : CommandRequest)
  deriving DecidableEq, Repr

/-- One of the strict parsers accepts the packet with this result. -/
inductive Accepts (target : Target) (packet : List UInt8) : Reading → Prop where
  | frame (maxPacketSize : Nat) (envelope : FrameEnvelope)
      (speed : maxPacketSize = 512 ∨ maxPacketSize = 1024)
      (accepted : parseFrameEnvelope target packet maxPacketSize = .ok envelope) :
      Accepts target packet (.frame envelope)
  | frameAck (ack : FrameAck) (accepted : parseFrameAck target packet = .ok ack) :
      Accepts target packet (.frameAck ack)
  | request (command : CommandRequest)
      (accepted : parseCanonicalCommandRequest target packet = .ok command) :
      Accepts target packet (.request command)

/-- The lines that show a reading. A request comes after the raw header words. -/
def Reading.lines (packet : List UInt8) : Reading → List String
  | .frame envelope => [frameLine envelope]
  | .frameAck ack => [frameAckLine ack]
  | .request command => [headerLine packet.length (headerOf packet), requestLine command]

/-- The word at 16 that each strict parser asks for. -/
def Reading.signature : Reading → UInt32
  | .frame _ => frameSignature
  | .frameAck _ => frameAckSignature
  | .request _ => commandClass

section Acceptance
variable {target : Target} {packet : List UInt8}

theorem parse_frame_ack_ok_iff (ack : FrameAck) :
    parseFrameAck target packet = .ok ack ↔
      packet.length = frameAckSize ∧ packet.take 12 = wireMagic ∧
      wordAt packet 12 = UInt32.ofNat frameAckSize ∧ wordAt packet 16 = frameAckSignature ∧
      ack = ⟨byteAt packet 20, [byteAt packet 21, byteAt packet 22, byteAt packet 23]⟩ := by
  rw [parse_frame_ack_eq packet]
  split_ifs <;> simp_all [eq_comm]

theorem parse_canonical_command_request_ok_iff (request : CommandRequest) :
    parseCanonicalCommandRequest target packet = .ok request ↔
      21 ≤ packet.length ∧ packet.take 12 = wireMagic ∧
      (wordAt packet 12).toNat = packet.length ∧ wordAt packet 16 = commandClass ∧
      request = ⟨packet.length, byteAt packet 20⟩ := by
  rw [parse_canonical_command_request_eq packet]
  by_cases long : 21 ≤ packet.length
  · rw [if_neg (Nat.not_lt_of_le long)]
    split_ifs <;> simp_all [eq_comm]
  · simp [long, Nat.lt_of_not_le long]

theorem accepts_headed {reading : Reading} (fits : packet.length ≤ target.isizeMax)
    (accepts : Accepts target packet reading) :
    Headed packet ∧ wordAt packet 16 = reading.signature := by
  cases accepts with
  | frame maxPacketSize envelope speed accepted =>
      obtain ⟨_, long, magic, _, signature, _⟩ :=
        (parse_frame_envelope_ok_iff envelope fits).mp accepted
      exact ⟨⟨Nat.le_trans (by decide) long, magic⟩, signature⟩
  | frameAck ack accepted =>
      obtain ⟨length, magic, _, signature, _⟩ := (parse_frame_ack_ok_iff ack).mp accepted
      exact ⟨⟨Nat.le_trans (by decide) (Nat.le_of_eq length.symm), magic⟩, signature⟩
  | request command accepted =>
      obtain ⟨long, magic, _, signature, _⟩ :=
        (parse_canonical_command_request_ok_iff command).mp accepted
      exact ⟨⟨long, magic⟩, signature⟩

/-- At most one parser accepts, with one result. -/
theorem accepts_unique {first second : Reading} (fits : packet.length ≤ target.isizeMax)
    (one : Accepts target packet first) (two : Accepts target packet second) :
    first = second := by
  have signatures := (accepts_headed fits one).2.symm.trans (accepts_headed fits two).2
  have frameAck : frameSignature ≠ frameAckSignature := by decide
  have frameRequest : frameSignature ≠ commandClass := by decide
  have ackRequest : frameAckSignature ≠ commandClass := by decide
  -- the signatures differ in pairs, so only equal kinds are left
  cases one with
  | frame size envelope speed accepted =>
      cases two with
      | frame size' envelope' speed' accepted' =>
          rw [accepted_alike fits accepted accepted']
      | frameAck ack accepted' => exact absurd signatures frameAck
      | request command accepted' => exact absurd signatures frameRequest
  | frameAck ack accepted =>
      cases two with
      | frame size envelope speed accepted' => exact absurd signatures frameAck.symm
      | frameAck ack' accepted' => rw [Outcome.ok.inj (accepted.symm.trans accepted')]
      | request command accepted' => exact absurd signatures ackRequest
  | request command accepted =>
      cases two with
      | frame size envelope speed accepted' => exact absurd signatures frameRequest.symm
      | frameAck ack accepted' => exact absurd signatures ackRequest.symm
      | request command' accepted' => rw [Outcome.ok.inj (accepted.symm.trans accepted')]

end Acceptance

/-- What follows the header words of a packet that is no frame and no frame
acknowledgement. -/
inductive Remainder (target : Target) (packet : List UInt8) : List String → Prop where
  | request (command : CommandRequest)
      (accepted : parseCanonicalCommandRequest target packet = .ok command) :
      Remainder target packet [requestLine command]
  | modes (modes : List Mode) (accepted : parseObservedModes target packet = .ok modes) :
      Remainder target packet (modeLines modes)
  | bare (short : packet.length < headerSize) : Remainder target packet []

section Dispatch
variable {target : Target} {packet : List UInt8}

theorem parse_header_headed (headed : Headed packet) :
    parseHeader target packet = .ok (headerOf packet) := by
  rw [parse_header_eq packet, if_neg (Nat.not_lt_of_le headed.1),
    if_neg (Decidable.not_not.mpr headed.2)]

theorem decode_unheaded (target : Target) (unheaded : ¬ Headed packet) :
    ∃ error, decode target packet = ⟨[], .err error⟩ := by
  unfold decode
  rw [parse_header_eq packet]
  by_cases short : packet.length < 21
  · rw [if_pos short]
    exact ⟨_, rfl⟩
  · have foreign : packet.take 12 ≠ wireMagic := by
      intro magic
      exact unheaded ⟨Nat.le_of_not_lt short, magic⟩
    rw [if_neg short, if_pos foreign]
    exact ⟨_, rfl⟩

theorem decode_headed (headed : Headed packet) :
    decode target packet =
      if wordAt packet 16 = frameSignature then decodeFrame target packet
      else if packet.length = frameAckSize ∧ wordAt packet 16 = frameAckSignature then
        decodeFrameAck target packet
      else .println (headerLine packet.length (headerOf packet)) (decodeRequest target packet) := by
  unfold decode
  rw [parse_header_headed headed]
  rfl

theorem decode_request_remainder (target : Target) (headed : Headed packet) :
    ∃ rest, decodeRequest target packet = ⟨rest, .ok ()⟩ ∧ Remainder target packet rest := by
  unfold decodeRequest
  rcases Outcome.returns_cases (parse_canonical_command_request_returns target packet) with
    ⟨command, parsed⟩ | ⟨error, parsed⟩
  · rw [parsed]
    exact ⟨_, rfl, .request command parsed⟩
  · -- an unmatched request falls through to the mode table
    rw [parsed]
    by_cases short : packet.length < headerSize
    · refine ⟨[], ?_, .bare short⟩
      simp only [succeeded, Report.after, decodeModes, if_pos short]
      rfl
    · have modes : parseObservedModes target packet = .ok (observedModes packet) := by
        rw [parse_observed_modes_eq packet, if_neg (Nat.not_lt_of_le headed.1),
          if_neg (Decidable.not_not.mpr headed.2), if_neg short]
      refine ⟨modeLines (observedModes packet), ?_, .modes _ modes⟩
      simp only [succeeded, Report.after, decodeModes, if_neg short, modes]
      rfl

/-- The header words are printed first, and nothing after them can fail. -/
theorem decode_other (target : Target) (headed : Headed packet)
    (noFrame : wordAt packet 16 ≠ frameSignature)
    (noAck : ¬ (packet.length = frameAckSize ∧ wordAt packet 16 = frameAckSignature)) :
    ∃ rest, decode target packet =
        ⟨headerLine packet.length (headerOf packet) :: rest, .ok ()⟩ ∧
      Remainder target packet rest := by
  obtain ⟨rest, decoded, remainder⟩ := decode_request_remainder target headed
  refine ⟨rest, ?_, remainder⟩
  rw [decode_headed headed, if_neg noFrame, if_neg noAck, decoded]
  rfl

theorem decode_frame_eq (target : Target) (packet : List UInt8) :
    decodeFrame target packet =
      .after ((parseFrameEnvelope target packet (inferredMaxPacketSize packet)).mapError
        FrameParseError.display) fun frame => .println (frameLine frame) .success :=
  rfl

/-- A frame is printed or refused as the parser decides at the inferred size. -/
theorem decode_frame_cases (fits : packet.length ≤ target.isizeMax) :
    (∃ envelope, parseFrameEnvelope target packet (inferredMaxPacketSize packet) = .ok envelope ∧
      decodeFrame target packet = ⟨[frameLine envelope], .ok ()⟩) ∨
    (∃ error, parseFrameEnvelope target packet (inferredMaxPacketSize packet) = .err error ∧
      decodeFrame target packet = ⟨[], .err error.display⟩) := by
  have comesBack := (sound_returns
    (parse_frame_envelope_sound fits (inferredMaxPacketSize packet))).1
  rw [decode_frame_eq]
  rcases Outcome.returns_cases comesBack with ⟨envelope, parsed⟩ | ⟨error, parsed⟩
  · rw [parsed]
    exact .inl ⟨envelope, rfl, rfl⟩
  · rw [parsed]
    exact .inr ⟨error, rfl, rfl⟩

theorem decode_frame_error_iff (fits : packet.length ≤ target.isizeMax) :
    (∃ error, (decodeFrame target packet).ending = .err error) ↔
      ∃ error, parseFrameEnvelope target packet (inferredMaxPacketSize packet) = .err error := by
  rcases decode_frame_cases fits with ⟨envelope, parsed, decoded⟩ | ⟨error, parsed, decoded⟩
  · simp [parsed, decoded]
  · simp [parsed, decoded]

theorem decode_frame_ack_error_iff (headed : Headed packet) (length : packet.length = frameAckSize)
    (signature : wordAt packet 16 = frameAckSignature) :
    (∃ error, (decodeFrameAck target packet).ending = .err error) ↔
      wordAt packet 12 ≠ UInt32.ofNat frameAckSize := by
  unfold decodeFrameAck
  rw [parse_frame_ack_eq packet, if_neg (Decidable.not_not.mpr length),
    if_neg (Decidable.not_not.mpr headed.2)]
  by_cases declared : wordAt packet 12 = UInt32.ofNat frameAckSize
  · rw [if_neg (Decidable.not_not.mpr declared), if_neg (Decidable.not_not.mpr signature)]
    simp [Outcome.mapError, Report.after, Report.println, Report.success, declared]
  · rw [if_pos declared]
    simp [Outcome.mapError, Report.after, declared]

/-- The three ways to refuse a packet. -/
inductive Refused (target : Target) (packet : List UInt8) : Prop where
  | unheaded (invalid : packet.length < 21 ∨ packet.take 12 ≠ wireMagic)
  | frame (signature : wordAt packet 16 = frameSignature)
      (rejected : ∃ error,
        parseFrameEnvelope target packet (inferredMaxPacketSize packet) = .err error)
  | frameAck (length : packet.length = 1024) (signature : wordAt packet 16 = frameAckSignature)
      (declared : wordAt packet 12 ≠ 1024)

theorem decode_error_iff (fits : packet.length ≤ target.isizeMax) :
    (∃ error, (decode target packet).ending = .err error) ↔ Refused target packet := by
  by_cases headed : Headed packet
  swap
  · obtain ⟨error, decoded⟩ := decode_unheaded target headed
    rw [decoded]
    rw [Headed, not_and_or, Nat.not_le] at headed
    exact ⟨fun _ => .unheaded headed, fun _ => ⟨error, rfl⟩⟩
  rw [decode_headed headed]
  have valid : ¬ (packet.length < 21 ∨ packet.take 12 ≠ wireMagic) := by
    rw [not_or, Nat.not_lt]
    exact ⟨headed.1, Decidable.not_not.mpr headed.2⟩
  by_cases frame : wordAt packet 16 = frameSignature
  · rw [if_pos frame, decode_frame_error_iff fits]
    constructor
    · exact .frame frame
    · rintro (invalid | ⟨_, rejected⟩ | ⟨_, signature, _⟩)
      · exact absurd invalid valid
      · exact rejected
      · exact absurd (frame.symm.trans signature) (by decide)
  rw [if_neg frame]
  by_cases ack : packet.length = frameAckSize ∧ wordAt packet 16 = frameAckSignature
  · rw [if_pos ack, decode_frame_ack_error_iff headed ack.1 ack.2]
    constructor
    · exact .frameAck ack.1 ack.2
    · rintro (invalid | ⟨signature, _⟩ | ⟨_, _, declared⟩)
      · exact absurd invalid valid
      · exact absurd signature frame
      · exact declared
  · obtain ⟨rest, decoded, _⟩ := decode_request_remainder target headed
    rw [if_neg ack, decoded]
    constructor
    · rintro ⟨error, failed⟩
      simp [Report.println] at failed
    · rintro (invalid | ⟨signature, _⟩ | ⟨length, signature, _⟩)
      · exact absurd invalid valid
      · exact absurd signature frame
      · exact absurd ⟨length, signature⟩ ack

/-- An accepted packet is printed as its parser read it. -/
theorem decode_accepts {reading : Reading} (fits : packet.length ≤ target.isizeMax)
    (accepts : Accepts target packet reading) :
    decode target packet = ⟨reading.lines packet, .ok ()⟩ := by
  obtain ⟨headed, signature⟩ := accepts_headed fits accepts
  rw [decode_headed headed, signature]
  cases accepts with
  | frame maxPacketSize envelope speed accepted =>
      rw [Reading.signature, if_pos rfl, decode_frame_eq, accepted_inferred fits accepted]
      rfl
  | frameAck ack accepted =>
      have length := ((parse_frame_ack_ok_iff ack).mp accepted).1
      rw [Reading.signature, if_neg (show frameAckSignature ≠ frameSignature by decide),
        if_pos ⟨length, rfl⟩, decodeFrameAck, accepted]
      rfl
  | request command accepted =>
      have noAck : ¬ (packet.length = frameAckSize ∧ commandClass = frameAckSignature) := by
        rintro ⟨_, same⟩
        exact absurd same (by decide)
      rw [Reading.signature, if_neg (show commandClass ≠ frameSignature by decide),
        if_neg noAck, decodeRequest, accepted]
      rfl

end Dispatch

/-- Guessing the bulk packet size from the length loses nothing: what either
size accepts, the inferred size accepts with the same parts. -/
theorem inferred_size_lossless (target : Target) (packet : Slice target) :
    (∀ maxPacketSize envelope, maxPacketSize = 512 ∨ maxPacketSize = 1024 →
      parseFrameEnvelope target packet.bytes maxPacketSize = .ok envelope →
      parseFrameEnvelope target packet.bytes (inferredMaxPacketSize packet.bytes) =
        .ok envelope) ∧
    (wordAt packet.bytes 16 = frameSignature → (decode target packet.bytes).ending = .ok () →
      ∃ maxPacketSize envelope, (maxPacketSize = 512 ∨ maxPacketSize = 1024) ∧
        parseFrameEnvelope target packet.bytes maxPacketSize = .ok envelope ∧
        (decode target packet.bytes).lines = [frameLine envelope]) ∧
    (∀ high super, parseFrameEnvelope target packet.bytes 512 = .ok high →
      parseFrameEnvelope target packet.bytes 1024 = .ok super → high = super) := by
  refine ⟨?_, ?_, ?_⟩
  · intro maxPacketSize envelope _ accepted
    exact accepted_inferred packet.fits accepted
  · intro signature decoded
    have headed : Headed packet.bytes := by
      by_contra unheaded
      obtain ⟨error, refused⟩ := decode_unheaded target unheaded
      simp [refused] at decoded
    rw [decode_headed headed, if_pos signature] at decoded ⊢
    rcases decode_frame_cases packet.fits with ⟨envelope, parsed, printed⟩ | ⟨error, _, refused⟩
    · exact ⟨_, envelope, inferred_speed packet.bytes, parsed, by rw [printed]⟩
    · simp [refused] at decoded
  · intro high super one two
    exact accepted_alike packet.fits one two

/-- `decode` and the strict parsers agree on every packet. At most one parser
accepts; what it accepts is printed; and only the three kinds of `Refused`
packets are errors. -/
theorem decoder_agrees (target : Target) (packet : Slice target) :
    (∀ first second, Accepts target packet.bytes first → Accepts target packet.bytes second →
      first = second) ∧
    (∀ reading, Accepts target packet.bytes reading →
      decode target packet.bytes = ⟨reading.lines packet.bytes, .ok ()⟩) ∧
    ((∃ error, (decode target packet.bytes).ending = .err error) ↔
      Refused target packet.bytes) ∧
    (¬ Refused target packet.bytes → (decode target packet.bytes).ending = .ok ()) ∧
    (21 ≤ packet.bytes.length → packet.bytes.take 12 = wireMagic →
      wordAt packet.bytes 16 ≠ frameSignature →
      ¬ (packet.bytes.length = 1024 ∧ wordAt packet.bytes 16 = frameAckSignature) →
      ∃ rest, decode target packet.bytes =
          ⟨headerLine packet.bytes.length (headerOf packet.bytes) :: rest, .ok ()⟩ ∧
        Remainder target packet.bytes rest) := by
  refine ⟨?_, ?_, decode_error_iff packet.fits, ?_, ?_⟩
  · intro first second one two
    exact accepts_unique packet.fits one two
  · intro reading accepts
    exact decode_accepts packet.fits accepts
  · intro allowed
    have comesBack := decode_returns packet.fits
    rw [← decode_error_iff packet.fits] at allowed
    rcases Outcome.returns_cases comesBack with ⟨value, ending⟩ | failed
    · exact ending
    · exact absurd failed allowed
  · intro long magic noFrame noAck
    exact decode_other target ⟨long, magic⟩ noFrame noAck

end Smiusb.DecodeVerdicts
