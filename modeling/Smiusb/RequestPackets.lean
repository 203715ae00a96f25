import Smiusb.WireProtocol

/-!
The request builders of rust/src/protocol.rs and what the canonical request
parser reads back from them. The heartbeat carries a decimal client tag that a
reader takes up to the first NUL byte.
-/

namespace Smiusb.RequestPackets
open Execution Bytes WireProtocol

def heartbeatSize : Nat := 44
def capabilitiesOpcode : UInt8 := 0x65
def bulkHeartbeatOpcode : UInt8 := 0xec
def heartbeatTagOffset : Nat := 35
def heartbeatTagCapacity : Nat := heartbeatSize - heartbeatTagOffset - 1

inductive BuildError where
  | clientTagTooLong (digits maximum : Nat)
  deriving DecidableEq, Repr

def BuildError.display : BuildError → String
  | .clientTagTooLong digits maximum =>
      s!"heartbeat client tag has {digits} digits; maximum is {maximum}"

/-- The bytes of `to_string` on an unsigned number. -/
def decimalText (number : Nat) : List UInt8 :=
  (Nat.toDigits 10 number).map fun digit => UInt8.ofNat digit.toNat

section Model
variable {Error : Type}

def buildZeroedRequest (length : Nat) (opcode : UInt8) : Outcome Error (List UInt8) := do
  let packet := List.replicate length 0
  let packet ← copyFromSlice packet 0 wireMagic.length wireMagic
  -- `N as u32`
  let packet ← copyFromSlice packet 12 16 (toLe32 (UInt32.ofNat length))
  let packet ← copyFromSlice packet 16 20 (toLe32 commandClass)
  setIndex packet 20 opcode

def buildBulkHeartbeatRequest (target : Target) (clientTag : UInt32) :
    Outcome BuildError (List UInt8) :=
  let text := decimalText clientTag.toNat
  if heartbeatTagCapacity < text.length then
    .err (.clientTagTooLong text.length heartbeatTagCapacity)
  else do
    let packet ← buildZeroedRequest heartbeatSize bulkHeartbeatOpcode
    let stop ← plus target heartbeatTagOffset text.length
    copyFromSlice packet heartbeatTagOffset stop text

def buildCapabilitiesRequest : Outcome Error (List UInt8) :=
  buildZeroedRequest headerSize capabilitiesOpcode

end Model

section Decimals

/-- The value of a string of decimal digits. -/
def readDecimal (text : List UInt8) : Nat :=
  text.foldl (fun value byte => 10 * value + (byte.toNat - 48)) 0

theorem digit_bounds (number : Nat) :
    ∀ digit ∈ Nat.toDigits 10 number, 48 ≤ digit.toNat ∧ digit.toNat ≤ 57 := by
  intro digit member
  have isDigit := Nat.isDigit_of_mem_toDigits (by decide) (by decide) member
  simpa [Char.isDigit, UInt32.le_iff_toNat_le] using isDigit

theorem decimal_text_digits (number : Nat) :
    ∀ byte ∈ decimalText number, 48 ≤ byte.toNat ∧ byte.toNat ≤ 57 := by
  intro byte member
  obtain ⟨digit, inside, rfl⟩ := List.mem_map.mp member
  obtain ⟨lower, upper⟩ := digit_bounds number digit inside
  rw [UInt8.toNat_ofNat', Nat.mod_eq_of_lt (by omega)]
  exact ⟨lower, upper⟩

theorem read_decimal_text (number : Nat) : readDecimal (decimalText number) = number := by
  have bytes : ∀ (digits : List Char) (value : Nat),
      (∀ digit ∈ digits, 48 ≤ digit.toNat ∧ digit.toNat ≤ 57) →
      (digits.map fun digit => UInt8.ofNat digit.toNat).foldl
        (fun value byte => 10 * value + (byte.toNat - 48)) value =
      Nat.ofDigitChars 10 digits value := by
    intro digits
    induction digits with
    | nil => simp
    | cons digit rest ih =>
        intro value each
        have bound := (each digit (by simp)).2
        have small : digit.toNat < 256 := by omega
        rw [List.map_cons, List.foldl_cons, Nat.ofDigitChars_cons,
          ih _ fun other member => each other (List.mem_cons_of_mem digit member)]
        simp [Nat.mod_eq_of_lt small]
  rw [readDecimal, decimalText, bytes _ 0 (digit_bounds number), Nat.ofDigitChars_ten_toDigits]

theorem decimal_text_length (number digits : Nat) (positive : 0 < digits) :
    (decimalText number).length ≤ digits ↔ number < 10 ^ digits := by
  rw [decimalText, List.length_map, Nat.length_toDigits_le_iff (by decide) positive]

end Decimals

/-- The fields every request starts with. -/
def requestHeader (length : Nat) (opcode : UInt8) : List UInt8 :=
  wireMagic ++ (toLe32 (UInt32.ofNat length) ++ (toLe32 commandClass ++ [opcode]))

section Builders
variable {Error : Type}

theorem build_zeroed_request_eq (tail : Nat) (opcode : UInt8) :
    (buildZeroedRequest (21 + tail) opcode : Outcome Error (List UInt8)) =
      .ok (requestHeader (21 + tail) opcode ++ List.replicate tail 0) := by
  let rest := List.replicate tail (0 : UInt8)
  let length := toLe32 (UInt32.ofNat (21 + tail))
  have zeros : List.replicate (21 + tail) (0 : UInt8) =
      List.replicate 12 0 ++ (List.replicate 4 0 ++ (List.replicate 4 0 ++ 0 :: rest)) := by
    rw [show 21 + tail = 12 + (4 + (4 + (tail + 1))) by omega]
    simp only [List.replicate_add, List.replicate_succ, rest]
  -- the fields are written from left to right, each over zeros
  have first : (copyFromSlice (List.replicate (21 + tail) 0) 0 wireMagic.length wireMagic :
      Outcome Error _) =
      .ok (wireMagic ++ (List.replicate 4 0 ++ (List.replicate 4 0 ++ 0 :: rest))) := by
    rw [zeros]
    exact copyFromSlice_ok [] (List.replicate 12 0) wireMagic _ rfl rfl rfl
  have second : (copyFromSlice (wireMagic ++
      (List.replicate 4 0 ++ (List.replicate 4 0 ++ 0 :: rest))) 12 16 length :
      Outcome Error _) =
      .ok (wireMagic ++ (length ++ (List.replicate 4 0 ++ 0 :: rest))) :=
    copyFromSlice_ok wireMagic (List.replicate 4 0) length _ rfl rfl rfl
  have third : (copyFromSlice (wireMagic ++ (length ++ (List.replicate 4 0 ++ 0 :: rest))) 16 20
      (toLe32 commandClass) : Outcome Error _) =
      .ok (wireMagic ++ length ++ (toLe32 commandClass ++ 0 :: rest)) := by
    rw [← List.append_assoc wireMagic]
    exact copyFromSlice_ok (wireMagic ++ length) (List.replicate 4 0) _ _ rfl rfl rfl
  have fourth : (setIndex (wireMagic ++ length ++ (toLe32 commandClass ++ 0 :: rest)) 20 opcode :
      Outcome Error _) =
      .ok (wireMagic ++ length ++ toLe32 commandClass ++ opcode :: rest) := by
    rw [← List.append_assoc _ (toLe32 commandClass)]
    exact setIndex_ok (wireMagic ++ length ++ toLe32 commandClass) rest 0 opcode rfl
  unfold buildZeroedRequest
  dsimp only
  rw [first, Outcome.ok_bind, second, Outcome.ok_bind, third, Outcome.ok_bind, fourth]
  simp [requestHeader, length, rest]

theorem request_header_parses (target : Target) (opcode : UInt8) (tail : List UInt8)
    (small : 21 + tail.length < 2 ^ 32) :
    parseCanonicalCommandRequest target (requestHeader (21 + tail.length) opcode ++ tail) =
      .ok ⟨21 + tail.length, opcode⟩ := by
  have length : (requestHeader (21 + tail.length) opcode ++ tail).length = 21 + tail.length := by
    rw [List.length_append]
    rfl
  have magic : (requestHeader (21 + tail.length) opcode ++ tail).take 12 = wireMagic := rfl
  have declared : wordAt (requestHeader (21 + tail.length) opcode ++ tail) 12 =
      UInt32.ofNat (21 + tail.length) := fromLe32_toLe32 _
  have kind : wordAt (requestHeader (21 + tail.length) opcode ++ tail) 16 = commandClass :=
    fromLe32_toLe32 _
  have code : byteAt (requestHeader (21 + tail.length) opcode ++ tail) 20 = opcode := rfl
  rw [parse_canonical_command_request_eq, length, magic, declared, kind, code,
    UInt32.toNat_ofNat', Nat.mod_eq_of_lt small]
  simp

theorem zeroed_request_parses (target : Target) (length : Nat) (opcode : UInt8)
    (long : 21 ≤ length) (small : length < 2 ^ 32) :
    ∃ packet, (buildZeroedRequest length opcode : Outcome Error (List UInt8)) = .ok packet ∧
      packet.length = length ∧
      parseCanonicalCommandRequest target packet = .ok ⟨length, opcode⟩ := by
  obtain ⟨tail, rfl⟩ := Nat.exists_eq_add_of_le long
  refine ⟨_, build_zeroed_request_eq tail opcode, ?_, ?_⟩
  · rw [List.length_append, List.length_replicate]
    rfl
  · have parsed := request_header_parses target opcode (List.replicate tail 0)
    rw [List.length_replicate] at parsed
    exact parsed small

theorem capabilities_request_parses (target : Target) :
    ∃ packet, (buildCapabilitiesRequest : Outcome Error (List UInt8)) = .ok packet ∧
      packet.length = 48 ∧ parseCanonicalCommandRequest target packet = .ok ⟨48, 0x65⟩ :=
  zeroed_request_parses target 48 0x65 (by decide) (by decide)

/-- The heartbeat with its tag, the NUL that ends it, and zeros up to the size. -/
def heartbeatPacket (clientTag : UInt32) : List UInt8 :=
  requestHeader heartbeatSize bulkHeartbeatOpcode ++ List.replicate 14 0 ++
    (decimalText clientTag.toNat ++ List.replicate (9 - (decimalText clientTag.toNat).length) 0)

theorem build_bulk_heartbeat_request_eq (target : Target) (clientTag : UInt32) :
    buildBulkHeartbeatRequest target clientTag =
      if clientTag.toNat < 10 ^ 8 then .ok (heartbeatPacket clientTag)
      else .err (.clientTagTooLong (decimalText clientTag.toNat).length 8) := by
  have limit := decimal_text_length clientTag.toNat 8 (by decide)
  unfold buildBulkHeartbeatRequest heartbeatPacket
  rw [show heartbeatTagCapacity = 8 from rfl]
  dsimp only
  generalize decimalText clientTag.toNat = text at limit ⊢
  by_cases small : clientTag.toNat < 10 ^ 8
  swap
  · rw [if_neg small, if_pos (Nat.lt_of_not_le (mt limit.mp small))]
  have short : text.length ≤ 8 := limit.mpr small
  have room : heartbeatTagOffset + text.length ≤ target.usizeMax := by
    have offset : heartbeatTagOffset = 35 := rfl
    have headroom := isize_headroom target
    omega
  have zeros : List.replicate 23 (0 : UInt8) =
      List.replicate 14 0 ++
        (List.replicate text.length 0 ++ List.replicate (9 - text.length) 0) := by
    rw [← List.replicate_add, ← List.replicate_add]
    congr 1
    omega
  have written : (copyFromSlice (requestHeader (21 + 23) bulkHeartbeatOpcode ++
      List.replicate 23 0) heartbeatTagOffset (heartbeatTagOffset + text.length) text :
      Outcome BuildError _) =
      .ok (requestHeader (21 + 23) bulkHeartbeatOpcode ++ List.replicate 14 0 ++
        (text ++ List.replicate (9 - text.length) 0)) := by
    rw [zeros, ← List.append_assoc (requestHeader _ _)]
    exact copyFromSlice_ok _ _ _ _ rfl (by simp) (by simp)
  rw [if_pos small, if_neg (Nat.not_lt_of_le short), show heartbeatSize = 21 + 23 from rfl,
    build_zeroed_request_eq, Outcome.ok_bind, plus_ok target _ _ room, Outcome.ok_bind, written]

end Builders

/-- What a reader takes for the tag: the bytes up to the first NUL. -/
def tagText (packet : List UInt8) : List UInt8 :=
  (packet.drop heartbeatTagOffset).takeWhile (· != 0)

/-- A packet whose tag field holds a number in decimal and nothing else. -/
structure CarriesTag (packet : List UInt8) (clientTag : UInt32) : Prop where
  length : packet.length = 44
  lead : ∀ position, 21 ≤ position → position < 35 → packet[position]? = some 0
  text : tagText packet = decimalText clientTag.toNat
  digits : ∀ byte ∈ tagText packet, 48 ≤ byte.toNat ∧ byte.toNat ≤ 57
  reads : readDecimal (tagText packet) = clientTag.toNat
  terminated : 35 + (tagText packet).length < 44
  rest : ∀ position, 35 + (tagText packet).length ≤ position → position < 44 →
    packet[position]? = some 0

section Tags
variable {clientTag : UInt32}

theorem heartbeat_tag_text (clientTag : UInt32) :
    tagText (heartbeatPacket clientTag) = decimalText clientTag.toNat := by
  have nonzero : ∀ byte ∈ decimalText clientTag.toNat, (byte != 0) = true := by
    intro byte member
    have digit := (decimal_text_digits clientTag.toNat byte member).1
    simp only [bne_iff_ne, ne_eq]
    rintro rfl
    exact absurd digit (by decide)
  have behind : (heartbeatPacket clientTag).drop heartbeatTagOffset =
      decimalText clientTag.toNat ++
        List.replicate (9 - (decimalText clientTag.toNat).length) 0 :=
    List.drop_left' rfl
  rw [tagText, behind, List.takeWhile_append_of_pos nonzero, List.takeWhile_replicate]
  simp

theorem heartbeat_carries_tag (small : clientTag.toNat < 10 ^ 8) :
    CarriesTag (heartbeatPacket clientTag) clientTag := by
  have short := (decimal_text_length clientTag.toNat 8 (by decide)).mpr small
  have text := heartbeat_tag_text clientTag
  constructor
  case text => exact text
  case digits =>
    rw [text]
    exact decimal_text_digits clientTag.toNat
  case reads => rw [text, read_decimal_text]
  case terminated =>
    rw [text]
    omega
  case length =>
    have front : (requestHeader heartbeatSize bulkHeartbeatOpcode ++
        List.replicate 14 (0 : UInt8)).length = 35 := rfl
    rw [heartbeatPacket, List.length_append, front, List.length_append, List.length_replicate]
    omega
  case lead =>
    intro position lower upper
    rw [heartbeatPacket, List.append_assoc,
      List.getElem?_append_right (by exact lower), List.getElem?_append_left]
    · rw [List.getElem?_replicate]
      exact if_pos (by change position - 21 < 14; omega)
    · rw [List.length_replicate]
      change position - 21 < 14
      omega
  case rest =>
    intro position lower upper
    rw [text] at lower
    have inside : 35 ≤ position := by omega
    rw [heartbeatPacket, List.getElem?_append_right (by exact inside),
      List.getElem?_append_right, List.getElem?_replicate]
    · exact if_pos (by change position - 35 - _ < _; omega)
    · change _ ≤ position - 35
      omega

theorem heartbeat_parses (target : Target) (small : clientTag.toNat < 10 ^ 8) :
    parseCanonicalCommandRequest target (heartbeatPacket clientTag) = .ok ⟨44, 0xec⟩ := by
  have size := (heartbeat_carries_tag small).length
  rw [heartbeatPacket, List.append_assoc] at size ⊢
  rw [List.length_append] at size
  have parsed := request_header_parses target bulkHeartbeatOpcode (List.replicate 14 0 ++
    (decimalText clientTag.toNat ++ List.replicate (9 - (decimalText clientTag.toNat).length) 0))
  rw [show 21 + _ = 44 from size] at parsed
  exact parsed (by decide)

end Tags

/-- Requests come back from the parser as they were built. The heartbeat exists
exactly for tags of at most eight digits, and its tag can be read back. -/
theorem requests_read_back (target : Target) :
    (∀ (length : Nat) (opcode : UInt8), 21 ≤ length → length < 2 ^ 32 →
      ∃ packet, (buildZeroedRequest length opcode : Outcome BuildError _) = .ok packet ∧
        packet.length = length ∧
        parseCanonicalCommandRequest target packet = .ok ⟨length, opcode⟩) ∧
    (∀ clientTag, (∃ packet, buildBulkHeartbeatRequest target clientTag = .ok packet) ↔
      clientTag.toNat < 10 ^ 8) ∧
    (∀ clientTag packet, buildBulkHeartbeatRequest target clientTag = .ok packet →
      parseCanonicalCommandRequest target packet = .ok ⟨44, 0xec⟩ ∧
        CarriesTag packet clientTag) ∧
    (∀ first second packet, buildBulkHeartbeatRequest target first = .ok packet →
      buildBulkHeartbeatRequest target second = .ok packet → first = second) := by
  have accepted : ∀ clientTag packet, buildBulkHeartbeatRequest target clientTag = .ok packet →
      clientTag.toNat < 10 ^ 8 ∧ packet = heartbeatPacket clientTag := by
    intro clientTag packet built
    rw [build_bulk_heartbeat_request_eq] at built
    split_ifs at built with small
    exact ⟨small, (Outcome.ok.inj built).symm⟩
  refine ⟨?_, ?_, ?_, ?_⟩
  · intro length opcode long small
    exact zeroed_request_parses target length opcode long small
  · intro clientTag
    constructor
    · rintro ⟨packet, built⟩
      exact (accepted clientTag packet built).1
    · intro small
      exact ⟨_, by rw [build_bulk_heartbeat_request_eq, if_pos small]⟩
  · intro clientTag packet built
    obtain ⟨small, rfl⟩ := accepted clientTag packet built
    exact ⟨heartbeat_parses target small, heartbeat_carries_tag small⟩
  · intro first second packet one two
    obtain ⟨_, rfl⟩ := accepted first packet one
    obtain ⟨_, same⟩ := accepted second _ two
    have texts := congrArg tagText same
    rw [heartbeat_tag_text, heartbeat_tag_text] at texts
    have numbers := congrArg readDecimal texts
    rw [read_decimal_text, read_decimal_text] at numbers
    exact UInt32.toNat_inj.mp numbers

end Smiusb.RequestPackets
