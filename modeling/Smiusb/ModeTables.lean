import Smiusb.WireProtocol

/-!
The mode table at offset 48 as a format, and `parse_observed_modes` of
rust/src/protocol.rs as its decoder. A table is a run of plausible rows closed
by something that is not one; whatever follows the closing row is not read.
-/

namespace Smiusb.ModeTables
open Execution Bytes WireProtocol

/-- One 16-byte row. -/
def encodeMode (mode : Mode) : List UInt8 :=
  toLe32 mode.width ++ toLe32 mode.height ++ toLe32 mode.refreshHz ++ toLe32 mode.bitsPerPixel

def encodeModes (modes : List Mode) : List UInt8 := modes.flatMap encodeMode

/-- A row that ends the table. -/
def StopRow (row : List UInt8) : Prop :=
  row.length = 16 ∧ ((∀ byte ∈ row, byte = 0) ∨ (modeOf row).isPlausible = false)

/-- Modes followed by a trailer that is not read as more of them. -/
structure Table (capacity : Nat) (modes : List Mode) (trailer : List UInt8) : Prop where
  bounded : modes.length ≤ capacity
  genuine : ∀ mode ∈ modes, mode.isPlausible = true
  closed : trailer.length < 16 ∨ StopRow (trailer.take 16) ∨ modes.length = capacity

section Rows

@[simp] theorem length_encode_mode (mode : Mode) : (encodeMode mode).length = 16 := rfl

theorem mode_of_encode (mode : Mode) : modeOf (encodeMode mode) = mode := by
  have width : wordAt (encodeMode mode) 0 = mode.width := fromLe32_toLe32 _
  have height : wordAt (encodeMode mode) 4 = mode.height := fromLe32_toLe32 _
  have refresh : wordAt (encodeMode mode) 8 = mode.refreshHz := fromLe32_toLe32 _
  have depth : wordAt (encodeMode mode) 12 = mode.bitsPerPixel := fromLe32_toLe32 _
  rw [modeOf, width, height, refresh, depth]

theorem encode_mode_of (row : List UInt8) (exactLength : row.length = 16) :
    encodeMode (modeOf row) = row := by
  calc encodeMode (modeOf row)
      = (row.drop 0).take 4 ++ (row.drop 4).take 4 ++ (row.drop 8).take 4 ++
          (row.drop 12).take 4 := by
        rw [take_word row 0 (by omega), take_word row 4 (by omega), take_word row 8 (by omega),
          take_word row 12 (by omega)]
        rfl
    _ = row := by
        have last : (row.drop 12).take 4 = row.drop 12 :=
          List.take_of_length_le (by rw [List.length_drop]; omega)
        rw [last, List.drop_zero]
        simp only [List.append_assoc, ← List.drop_drop (i := 4) (j := 8),
          ← List.drop_drop (i := 4) (j := 4), List.take_append_drop]

theorem zero_row_rejected (row : List UInt8) (exactLength : row.length = 16)
    (zero : ∀ byte ∈ row, byte = 0) : (modeOf row).isPlausible = false := by
  rw [List.eq_replicate_of_mem zero, exactLength]
  decide

theorem stop_row_rejected (row : List UInt8) (stop : StopRow row) :
    (modeOf row).isPlausible = false := by
  rcases stop.2 with zero | rejected
  · exact zero_row_rejected row stop.1 zero
  · exact rejected

theorem chunks_exact_short (bytes : List UInt8) (short : bytes.length < 16) :
    chunksExact 16 bytes = [] := by
  rw [chunksExact, Nat.div_eq_of_lt short]
  rfl

theorem chunks_exact_append (row rest : List UInt8) (exactLength : row.length = 16) :
    chunksExact 16 (row ++ rest) = row :: chunksExact 16 rest := by
  have count : (row ++ rest).length / 16 = rest.length / 16 + 1 := by
    rw [List.length_append, exactLength]
    omega
  unfold chunksExact
  rw [count, List.range_succ_eq_map, List.map_cons, List.map_map]
  congr 1
  · rw [Nat.zero_mul, List.drop_zero, List.take_left' exactLength]
  · apply List.map_congr_left
    intro index _
    dsimp only [Function.comp]
    rw [Nat.succ_mul, Nat.add_comm, ← List.drop_drop, List.drop_left' exactLength]

/-- A complete row in front of other bytes. -/
theorem chunks_exact_long (bytes : List UInt8) (long : 16 ≤ bytes.length) :
    chunksExact 16 bytes = bytes.take 16 :: chunksExact 16 (bytes.drop 16) := by
  have split := chunks_exact_append (bytes.take 16) (bytes.drop 16) (List.length_take_of_le long)
  rwa [List.take_append_drop] at split

end Rows

section Tables
variable {capacity : Nat} {modes : List Mode} {trailer : List UInt8}

/-- What the decoder reads from the rows. -/
def decodeRows (capacity : Nat) (rows : List UInt8) : List Mode :=
  (((chunksExact 16 rows).take capacity).map modeOf).takeWhile Mode.isPlausible

theorem decode_trailer (closed : trailer.length < 16 ∨ StopRow (trailer.take 16) ∨ capacity = 0) :
    decodeRows capacity trailer = [] := by
  unfold decodeRows
  by_cases short : trailer.length < 16
  · rw [chunks_exact_short trailer short]
    simp
  rw [chunks_exact_long trailer (Nat.le_of_not_lt short)]
  rcases closed with short' | stop | full
  · exact absurd short' short
  · cases capacity with
    | zero => rfl
    | succ room => simp [stop_row_rejected _ stop]
  · rw [full]
    rfl

theorem decode_mode (capacity : Nat) (mode : Mode) (rest : List UInt8)
    (genuine : mode.isPlausible = true) :
    decodeRows (capacity + 1) (encodeMode mode ++ rest) = mode :: decodeRows capacity rest := by
  unfold decodeRows
  rw [chunks_exact_append _ _ (length_encode_mode mode), List.take_succ_cons, List.map_cons,
    mode_of_encode, List.takeWhile_cons_of_pos genuine]

/-- Decoding inverts encoding, whatever the trailer holds. -/
theorem decode_table (table : Table capacity modes trailer) :
    decodeRows capacity (encodeModes modes ++ trailer) = modes := by
  induction modes generalizing capacity with
  | nil =>
      rw [show encodeModes [] ++ trailer = trailer from rfl]
      exact decode_trailer (by simpa [eq_comm] using table.closed)
  | cons mode rest ih =>
      cases capacity with
      | zero => exact absurd table.bounded (by simp)
      | succ room =>
          have inner : Table room rest trailer := by
            constructor
            · exact Nat.le_of_succ_le_succ table.bounded
            · intro other member
              exact table.genuine other (List.mem_cons_of_mem mode member)
            · simpa using table.closed
          rw [encodeModes, List.flatMap_cons, List.append_assoc,
            decode_mode room mode _ (table.genuine mode (by simp))]
          exact congrArg (mode :: ·) (ih inner)

/-- Every byte string is a table. -/
theorem table_covers (capacity : Nat) (rows : List UInt8) :
    ∃ modes trailer, rows = encodeModes modes ++ trailer ∧ Table capacity modes trailer := by
  induction capacity generalizing rows with
  | zero => exact ⟨[], rows, rfl, Nat.le_refl 0, by simp, .inr (.inr rfl)⟩
  | succ room ih =>
      by_cases short : rows.length < 16
      · exact ⟨[], rows, rfl, Nat.zero_le _, by simp, .inl short⟩
      have first : (rows.take 16).length = 16 := List.length_take_of_le (Nat.le_of_not_lt short)
      cases genuine : (modeOf (rows.take 16)).isPlausible with
      | false => exact ⟨[], rows, rfl, Nat.zero_le _, by simp, .inr (.inl ⟨first, .inr genuine⟩)⟩
      | true =>
          obtain ⟨modes, trailer, split, table⟩ := ih (rows.drop 16)
          refine ⟨modeOf (rows.take 16) :: modes, trailer, ?_, ?_⟩
          · rw [encodeModes, List.flatMap_cons, encode_mode_of _ first, List.append_assoc]
            exact (List.take_append_drop 16 rows).symm.trans (congrArg _ split)
          · constructor
            · exact Nat.succ_le_succ table.bounded
            · simpa [genuine] using table.genuine
            · simpa using table.closed

@[simp] theorem length_encode_modes (modes : List Mode) :
    (encodeModes modes).length = 16 * modes.length := by
  induction modes with
  | nil => rfl
  | cons mode rest ih =>
      rw [encodeModes, List.flatMap_cons, List.length_append, length_encode_mode,
        List.length_cons, ← encodeModes, ih]
      omega

/-- The bytes of a table that decide it: its rows and the row that stops it. -/
def decidedLength (capacity : Nat) (modes : List Mode) : Nat :=
  16 * min (modes.length + 1) capacity

theorem table_decided (rest : List UInt8) (table : Table capacity modes trailer)
    (long : decidedLength capacity modes ≤ (encodeModes modes ++ trailer).length) :
    ∃ stop, (encodeModes modes ++ trailer).take (decidedLength capacity modes) =
        encodeModes modes ++ stop ∧ Table capacity modes (stop ++ rest) := by
  have bounded := table.bounded
  rw [List.length_append, length_encode_modes] at long
  unfold decidedLength at long ⊢
  by_cases full : modes.length = capacity
  · refine ⟨[], ?_, bounded, table.genuine, .inr (.inr full)⟩
    rw [List.append_nil, Nat.min_eq_right (by omega), ← full,
      List.take_left' (length_encode_modes modes)]
  · rw [Nat.min_eq_left (by omega)] at long ⊢
    -- the stopping row is complete, so the trailer starts with it
    have whole : 16 ≤ trailer.length := by omega
    have stop : StopRow (trailer.take 16) := by
      rcases table.closed with short | stop | full'
      · omega
      · exact stop
      · exact absurd full' full
    refine ⟨trailer.take 16, ?_, bounded, table.genuine, .inr (.inl ?_)⟩
    · rw [Nat.mul_add, Nat.mul_one, ← length_encode_modes, List.take_length_add_append]
    · rwa [List.take_left' stop.1]

end Tables

section Packets
variable {target : Target} {packet header trailer : List UInt8} {modes : List Mode}

/-- A packet by its parts: a header with the magic, the rows, the trailer. -/
structure ModePacket (packet header : List UInt8) (modes : List Mode) (trailer : List UInt8) :
    Prop where
  layout : packet = header ++ encodeModes modes ++ trailer
  headerLength : header.length = 48
  magic : header.take 12 = wireMagic
  table : Table 256 modes trailer

theorem mode_packet_parses (target : Target) (parts : ModePacket packet header modes trailer) :
    parseObservedModes target packet = .ok modes := by
  have headed : header.length = headerSize := parts.headerLength
  have layout : packet = header ++ (encodeModes modes ++ trailer) := by
    rw [parts.layout, List.append_assoc]
  have long : headerSize ≤ packet.length := by
    rw [layout, List.length_append, headed]
    exact Nat.le_add_right _ _
  have magic : packet.take 12 = wireMagic := by
    rw [layout, List.take_append_of_le_length (by rw [parts.headerLength]; decide)]
    exact parts.magic
  have rows : observedModes packet = modes := by
    rw [observedModes, layout, List.drop_left' headed]
    exact decode_table parts.table
  rw [parse_observed_modes_eq packet, if_neg (Nat.not_lt_of_le (Nat.le_trans (by decide) long)),
    if_neg (Decidable.not_not.mpr magic), if_neg (Nat.not_lt_of_le long), rows]

/-- What was decoded is the table in the packet. -/
theorem parsed_mode_packet (parsed : parseObservedModes target packet = .ok modes) :
    ∃ trailer, ModePacket packet (packet.take 48) modes trailer := by
  have equation := parsed
  rw [parse_observed_modes_eq packet] at equation
  split_ifs at equation with short foreign headless
  have long : 48 ≤ packet.length := Nat.le_of_not_lt headless
  obtain ⟨found, trailer, split, table⟩ := table_covers 256 (packet.drop 48)
  have parts : ModePacket packet (packet.take 48) found trailer := by
    constructor
    · rw [List.append_assoc, ← split, List.take_append_drop]
    · exact List.length_take_of_le long
    · rw [List.take_take]
      exact Decidable.not_not.mp foreign
    · exact table
  -- the decoder is a function, so the table it found is this one
  have same := (mode_packet_parses target parts).symm.trans parsed
  rw [Outcome.ok.inj same] at parts
  exact ⟨trailer, parts⟩

/-- A packet that agrees up to the stopping row holds the same table. -/
theorem mode_packet_decided {other : List UInt8} (target : Target)
    (parts : ModePacket packet header modes trailer)
    (long : 48 + decidedLength 256 modes ≤ packet.length)
    (agree : other.take (48 + decidedLength 256 modes) =
      packet.take (48 + decidedLength 256 modes)) :
    parseObservedModes target other = .ok modes := by
  have layout : packet = header ++ (encodeModes modes ++ trailer) := by
    rw [parts.layout, List.append_assoc]
  have size : packet.length = 48 + (encodeModes modes ++ trailer).length := by
    rw [layout, List.length_append, parts.headerLength]
  obtain ⟨stop, kept, table⟩ := table_decided (other.drop (48 + decidedLength 256 modes))
    parts.table (by omega)
  rw [layout, ← parts.headerLength, List.take_length_add_append, kept, parts.headerLength] at agree
  refine mode_packet_parses target ⟨?_, parts.headerLength, parts.magic, table⟩
  rw [← List.append_assoc, List.append_assoc header, ← agree, List.take_append_drop]

end Packets

/-- `parse_observed_modes` returns the table and nothing of the trailer: it
inverts the encoding, accepts nothing else, and is decided by the bytes up to
the first row that is not a mode, or by the first 256 rows. -/
theorem mode_table_exact (target : Target) (packet : List UInt8) :
    (∀ header modes trailer, ModePacket packet header modes trailer →
      parseObservedModes target packet = .ok modes) ∧
    (∀ modes, parseObservedModes target packet = .ok modes →
      (∃ header trailer, ModePacket packet header modes trailer) ∧
      modes = (((chunksExact 16 (packet.drop 48)).take 256).map modeOf).takeWhile
        Mode.isPlausible) ∧
    (∀ modes other, parseObservedModes target packet = .ok modes →
      let decided := 48 + decidedLength 256 modes
      decided ≤ packet.length → other.take decided = packet.take decided →
      parseObservedModes target other = .ok modes) := by
  refine ⟨?_, ?_, ?_⟩
  · intro header modes trailer parts
    exact mode_packet_parses target parts
  · intro modes parsed
    obtain ⟨trailer, parts⟩ := parsed_mode_packet parsed
    refine ⟨⟨_, trailer, parts⟩, ?_⟩
    rw [parse_observed_modes_eq packet] at parsed
    split_ifs at parsed
    exact (Outcome.ok.inj parsed).symm
  · intro modes other parsed decided long agree
    obtain ⟨trailer, parts⟩ := parsed_mode_packet parsed
    exact mode_packet_decided target parts long agree

end Smiusb.ModeTables
