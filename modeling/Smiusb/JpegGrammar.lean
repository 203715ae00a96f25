import Smiusb.Bytes

/-!
The structural grammar of one JPEG image, as byte strings and without a parser.
Only marker structure is described: segment bodies and scan header fields are
arbitrary bytes of the declared length. `Opening` is the same language read
from the left, with the two facts about the part already read that decide what
may follow: whether entropy data may continue, and whether a scan was seen.
-/

namespace Smiusb.JpegGrammar
open Bytes

/-- A marker: any number of fill bytes before its prefix byte and its code. -/
def Marker (code : UInt8) (bytes : List UInt8) : Prop :=
  code ≠ 0xff ∧ ∃ fill, bytes = List.replicate (fill + 1) 0xff ++ [code]

/-- Codes that never introduce a length-prefixed segment outside a scan. -/
def Reserved (code : UInt8) : Prop :=
  code = 0x00 ∨ code = 0x01 ∨ 0xd0 ≤ code ∧ code ≤ 0xda

/-- Codes that belong to entropy data: a stuffed byte and the restart markers. -/
def EntropyCode (code : UInt8) : Prop :=
  code = 0x00 ∨ 0xd0 ≤ code ∧ code ≤ 0xd7

instance (code : UInt8) : Decidable (Reserved code) :=
  inferInstanceAs (Decidable (_ ∨ _ ∨ _ ∧ _))

instance (code : UInt8) : Decidable (EntropyCode code) :=
  inferInstanceAs (Decidable (_ ∨ _ ∧ _))

def Segment (bytes : List UInt8) : Prop :=
  ∃ code marker high low body,
    Marker code marker ∧ ¬ Reserved code ∧ 2 ≤ (fromBe16 high low).toNat ∧
    body.length = (fromBe16 high low).toNat - 2 ∧ bytes = marker ++ high :: low :: body

def ScanHeader (bytes : List UInt8) : Prop :=
  ∃ marker high low components fields,
    Marker 0xda marker ∧ 1 ≤ components.toNat ∧
    (fromBe16 high low).toNat = 6 + 2 * components.toNat ∧
    (components :: fields).length = (fromBe16 high low).toNat - 2 ∧
    bytes = marker ++ high :: low :: components :: fields

inductive EntropyItem : List UInt8 → Prop where
  | data (byte : UInt8) (plain : byte ≠ 0xff) : EntropyItem [byte]
  | marker (code : UInt8) (bytes : List UInt8) (allowed : EntropyCode code)
      (marked : Marker code bytes) : EntropyItem bytes

inductive Entropy : List UInt8 → Prop where
  | nil : Entropy []
  | cons {item rest : List UInt8} (head : EntropyItem item) (tail : Entropy rest) :
      Entropy (item ++ rest)

def Scan (bytes : List UInt8) : Prop :=
  ∃ header entropy, ScanHeader header ∧ Entropy entropy ∧ bytes = header ++ entropy

theorem segment_nonempty {bytes : List UInt8} (segment : Segment bytes) : 0 < bytes.length := by
  obtain ⟨_, _, _, _, _, _, _, _, _, rfl⟩ := segment
  simp only [List.length_append, List.length_cons]
  omega

theorem scan_header_nonempty {bytes : List UInt8} (header : ScanHeader bytes) :
    0 < bytes.length := by
  obtain ⟨_, _, _, _, _, _, _, _, _, rfl⟩ := header
  simp only [List.length_append, List.length_cons]
  omega

/-- A whole image: SOI, segments and scans in any order, at least one scan, EOI. -/
def Jpeg (bytes : List UInt8) : Prop :=
  ∃ (parts : List (List UInt8)) (eoi : List UInt8),
    (∀ part ∈ parts, Segment part ∨ Scan part) ∧ (∃ part ∈ parts, Scan part) ∧
    Marker 0xd9 eoi ∧ bytes = [0xff, 0xd8] ++ parts.flatten ++ eoi

/-- Byte stuffing as an encoder applies it to an entropy payload. -/
def stuff (payload : List UInt8) : List UInt8 :=
  payload.flatMap fun byte => if byte = 0xff then [0xff, 0x00] else [byte]

theorem entropy_append {left right : List UInt8} (first : Entropy left) (second : Entropy right) :
    Entropy (left ++ right) := by
  induction first with
  | nil => exact second
  | cons head _ ih =>
      rw [List.append_assoc]
      exact .cons head ih

theorem entropy_stuff (payload : List UInt8) : Entropy (stuff payload) := by
  induction payload with
  | nil => exact .nil
  | cons byte rest ih =>
      have head : EntropyItem (if byte = 0xff then [0xff, 0x00] else [byte]) := by
        split
        · exact .marker 0x00 _ (by decide) ⟨by decide, 0, rfl⟩
        · rename_i plain
          exact .data byte plain
      simpa [stuff] using Entropy.cons head ih

/-- Every byte string is a run of fill bytes and a rest that is empty or starts
with something else. -/
theorem fill_split (bytes : List UInt8) :
    ∃ fill after, bytes = List.replicate fill 0xff ++ after ∧
      (after = [] ∨ ∃ code tail, after = code :: tail ∧ code ≠ 0xff) := by
  induction bytes with
  | nil => exact ⟨0, [], rfl, Or.inl rfl⟩
  | cons byte rest ih =>
      by_cases prefixed : byte = 0xff
      · obtain ⟨fill, after, split, boundary⟩ := ih
        exact ⟨fill + 1, after, by rw [prefixed, split, List.replicate_succ]; rfl, boundary⟩
      · exact ⟨0, byte :: rest, rfl, Or.inr ⟨byte, rest, rfl, prefixed⟩⟩

/-- Where entropy data stops: at the end of the bytes, in an unfinished marker,
or at a marker that does not belong to it. -/
def EntropyStop (stop : List UInt8) : Prop :=
  stop = [] ∨ (∃ fill, stop = List.replicate (fill + 1) 0xff) ∨
    ∃ fill code tail, stop = List.replicate (fill + 1) 0xff ++ code :: tail ∧
      code ≠ 0xff ∧ ¬ EntropyCode code

theorem entropy_split (bytes : List UInt8) :
    ∃ entropy stop, bytes = entropy ++ stop ∧ Entropy entropy ∧ EntropyStop stop := by
  -- An entropy marker takes several bytes at once, so the induction is on length.
  induction size : bytes.length using Nat.strongRecOn generalizing bytes with
  | ind size ih =>
      obtain ⟨fill, after, rfl, boundary⟩ := fill_split bytes
      cases fill with
      | zero =>
          rcases boundary with rfl | ⟨byte, tail, rfl, plain⟩
          · exact ⟨[], [], rfl, .nil, Or.inl rfl⟩
          · obtain ⟨entropy, stop, rfl, whole, stops⟩ :=
              ih tail.length (by simp at size; omega) tail rfl
            exact ⟨byte :: entropy, stop, rfl, .cons (.data byte plain) whole, stops⟩
      | succ fill =>
          rcases boundary with rfl | ⟨code, tail, rfl, marked⟩
          · exact ⟨[], List.replicate (fill + 1) 0xff, by simp, .nil, Or.inr (Or.inl ⟨fill, rfl⟩)⟩
          · by_cases allowed : EntropyCode code
            · obtain ⟨entropy, stop, rfl, whole, stops⟩ :=
                ih tail.length (by simp at size; omega) tail rfl
              refine ⟨(List.replicate (fill + 1) 0xff ++ [code]) ++ entropy, stop, by simp, ?_,
                stops⟩
              exact .cons (.marker code _ allowed ⟨marked, fill, rfl⟩) whole
            · exact ⟨[], _, rfl, .nil, Or.inr (Or.inr ⟨fill, code, tail, rfl, marked, allowed⟩)⟩

/-- The bytes read so far: SOI and complete parts. Entropy data may continue
only while the last part is a scan. -/
inductive Opening : Bool → Bool → List UInt8 → Prop where
  | start : Opening false false [0xff, 0xd8]
  | segment {inScan sawScan : Bool} {bytes segment : List UInt8}
      (before : Opening inScan sawScan bytes) (next : Segment segment) :
      Opening false sawScan (bytes ++ segment)
  | scan {inScan sawScan : Bool} {bytes header : List UInt8}
      (before : Opening inScan sawScan bytes) (next : ScanHeader header) :
      Opening true true (bytes ++ header)
  | entropy {sawScan : Bool} {bytes entropy : List UInt8}
      (before : Opening true sawScan bytes) (next : Entropy entropy) :
      Opening true sawScan (bytes ++ entropy)

/-- Segments and scans laid end to end. The flag records that one is a scan. -/
def Parts (sawScan : Bool) (parts : List (List UInt8)) : Prop :=
  (∀ part ∈ parts, Segment part ∨ Scan part) ∧ (sawScan = true → ∃ part ∈ parts, Scan part)

theorem opening_parts {inScan sawScan : Bool} {bytes : List UInt8}
    (opening : Opening inScan sawScan bytes) :
    ∃ parts, Parts sawScan parts ∧ bytes = [0xff, 0xd8] ++ parts.flatten ∧
      (inScan = true → ∃ front last, parts = front ++ [last] ∧ Scan last) := by
  induction opening with
  | start => exact ⟨[], ⟨by simp, by simp⟩, rfl, by simp⟩
  | @segment _ _ _ segment _ next ih =>
      obtain ⟨parts, ⟨each, some⟩, rfl, _⟩ := ih
      refine ⟨parts ++ [segment], ⟨?_, ?_⟩, by simp, by simp⟩
      · intro part member
        rcases List.mem_append.mp member with old | new
        · exact each part old
        · rw [List.mem_singleton.mp new]
          exact Or.inl next
      · intro saw
        obtain ⟨part, member, scan⟩ := some saw
        exact ⟨part, List.mem_append_left _ member, scan⟩
  | @scan _ _ _ header _ next ih =>
      obtain ⟨parts, ⟨each, _⟩, rfl, _⟩ := ih
      have whole : Scan header := ⟨header, [], next, .nil, by simp⟩
      refine ⟨parts ++ [header], ⟨?_, ?_⟩, by simp, fun _ => ⟨parts, header, rfl, whole⟩⟩
      · intro part member
        rcases List.mem_append.mp member with old | new
        · exact each part old
        · rw [List.mem_singleton.mp new]
          exact Or.inr whole
      · exact fun _ => ⟨header, by simp, whole⟩
  | @entropy _ _ entropy _ next ih =>
      obtain ⟨parts, ⟨each, _⟩, rfl, last⟩ := ih
      obtain ⟨front, scan, rfl, header, data, headed, entropic, rfl⟩ := last rfl
      have longer : Scan (header ++ data ++ entropy) :=
        ⟨header, data ++ entropy, headed, entropy_append entropic next, List.append_assoc ..⟩
      refine ⟨front ++ [header ++ data ++ entropy], ⟨?_, ?_⟩, by simp,
        fun _ => ⟨front, _, rfl, longer⟩⟩
      · intro part member
        rcases List.mem_append.mp member with old | new
        · exact each part (List.mem_append_left _ old)
        · rw [List.mem_singleton.mp new]
          exact Or.inr longer
      · exact fun _ => ⟨_, by simp, longer⟩

theorem opening_jpeg {inScan : Bool} {bytes eoi : List UInt8} (opening : Opening inScan true bytes)
    (ending : Marker 0xd9 eoi) : Jpeg (bytes ++ eoi) := by
  obtain ⟨parts, ⟨each, some⟩, rfl, _⟩ := opening_parts opening
  exact ⟨parts, eoi, each, some rfl, ending, rfl⟩

end Smiusb.JpegGrammar
