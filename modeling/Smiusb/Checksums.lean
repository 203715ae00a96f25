import Smiusb.Bytes
import Smiusb.FrameQueue
import Smiusb.SinkGate
import Smiusb.SingleChange

/-!
`Frame::checksum` of `rust/src/frame.rs` and `fnv1a64` of `rust/src/jpeg.rs`:
two FNV-1a loops written apart from each other. Both multiply by the same odd
prime modulo `2 ^ 64`, and that multiplication can be undone.
-/

namespace Smiusb.Checksums
open Bytes FrameQueue SinkGate SingleChange

/-! `jpeg.rs` -/

/-- `FNV_OFFSET`, the same constant in both functions. -/
def fnvOffset : UInt64 := 0xcbf29ce484222325

/-- `FNV_PRIME`, the same constant in both functions. -/
def fnvPrime : UInt64 := 0x100000001b3

/-- The closure that `fnv1a64` folds; `u64` multiplication in Lean wraps. -/
def fold1a (checksum : UInt64) (byte : UInt8) : UInt64 :=
  (checksum ^^^ byte.toUInt64) * fnvPrime

def fnv1a64 (bytes : List UInt8) : UInt64 :=
  bytes.foldl fold1a fnvOffset

/-- `EncodedFrame::checksum`. -/
def encodedChecksum (encoded : EncodedFrame) : UInt64 :=
  fnv1a64 encoded.bytes

/-! `frame.rs` -/

/-- The body of the `for` loop, run for each byte in turn. -/
def checksumLoop (checksum : UInt64) : List UInt8 → UInt64
  | [] => checksum
  | byte :: rest =>
      let checksum := checksum ^^^ byte.toUInt64
      let checksum := checksum * fnvPrime
      checksumLoop checksum rest

/-- The bytes of a frame id, as the loop reads them. -/
def idBytes (id : FrameId) : List UInt8 :=
  toLe64 id.generation ++ toLe64 id.sequence

/-- `Frame::checksum`. -/
def frameChecksum (frame : Frame) : UInt64 :=
  checksumLoop fnvOffset (idBytes frame.id ++ toLe32 frame.layout.width ++
    toLe32 frame.layout.height ++ frame.pixels)

section Steps

-- The inverse of the prime modulo `2 ^ 64`.
theorem fnv_prime_inverse : fnvPrime * 0xce965057aff6957b = 1 := by decide

theorem times_prime_injective : Function.Injective fun word : UInt64 => word * fnvPrime := by
  intro one other same
  have undone := congrArg (· * 0xce965057aff6957b) same
  simpa only [UInt64.mul_assoc, fnv_prime_inverse, UInt64.mul_one] using undone

theorem fold1a_keeps_checksum (byte : UInt8) :
    Function.Injective fun checksum => fold1a checksum byte := by
  intro one other same
  exact (UInt64.xor_left_inj _).mp (times_prime_injective same)

theorem fold1a_keeps_byte (checksum : UInt64) : Function.Injective (fold1a checksum) := by
  intro one other same
  exact UInt8.toUInt64_inj.mp ((UInt64.xor_right_inj _).mp (times_prime_injective same))

end Steps

theorem checksum_loop_eq (checksum : UInt64) (bytes : List UInt8) :
    checksumLoop checksum bytes = bytes.foldl fold1a checksum := by
  induction bytes generalizing checksum with
  | nil => rfl
  | cons byte rest ih => exact ih _

theorem frame_checksum_eq (frame : Frame) :
    frameChecksum frame =
      fnv1a64 (toLe64 frame.id.generation ++ toLe64 frame.id.sequence ++
        toLe32 frame.layout.width ++ toLe32 frame.layout.height ++ frame.pixels) :=
  checksum_loop_eq _ _

theorem fnv1a64_detects {one other : List UInt8} (differ : DifferOnce one other) :
    fnv1a64 one ≠ fnv1a64 other :=
  foldl_detects fold1a_keeps_checksum fold1a_keeps_byte fnvOffset differ

section Frames
variable {one other : Frame}

theorem frame_checksum_detects_pixel (id : one.id = other.id) (layout : one.layout = other.layout)
    (differ : DifferOnce one.pixels other.pixels) : frameChecksum one ≠ frameChecksum other := by
  rw [frame_checksum_eq, frame_checksum_eq, id, layout]
  exact fnv1a64_detects (differ_once_append_left _ differ)

theorem frame_checksum_detects_id (layout : one.layout = other.layout)
    (pixels : one.pixels = other.pixels) (differ : DifferOnce (idBytes one.id) (idBytes other.id)) :
    frameChecksum one ≠ frameChecksum other := by
  rw [frame_checksum_eq, frame_checksum_eq, layout, pixels]
  apply fnv1a64_detects
  -- the id stands in front of the size and the pixels, which are the same
  exact differ_once_append_right _ (differ_once_append_right _ (differ_once_append_right _ differ))

end Frames

/-- One hash under two names, and it tells any two inputs apart that differ in
a single byte: of the pixels, of the id, or of an encoded picture. -/
theorem checksums_detect_changed_byte :
    (∀ frame : Frame, frameChecksum frame =
      fnv1a64 (toLe64 frame.id.generation ++ toLe64 frame.id.sequence ++
        toLe32 frame.layout.width ++ toLe32 frame.layout.height ++ frame.pixels)) ∧
    (∀ one other : List UInt8, DifferOnce one other → fnv1a64 one ≠ fnv1a64 other) ∧
    (∀ one other : Frame, one.layout = other.layout →
      (one.id = other.id ∧ DifferOnce one.pixels other.pixels) ∨
        (one.pixels = other.pixels ∧ DifferOnce (idBytes one.id) (idBytes other.id)) →
      frameChecksum one ≠ frameChecksum other) ∧
    ∀ one other : EncodedFrame, DifferOnce one.bytes other.bytes →
      encodedChecksum one ≠ encodedChecksum other := by
  refine ⟨frame_checksum_eq, fun one other => fnv1a64_detects, ?_, ?_⟩
  · rintro one other layout (⟨id, pixel⟩ | ⟨pixels, byte⟩)
    · exact frame_checksum_detects_pixel id layout pixel
    · exact frame_checksum_detects_id layout pixels byte
  · intro one other differ
    exact fnv1a64_detects differ

-- The vectors of the source's own test.
example : fnv1a64 [] = 0xcbf29ce484222325 ∧ fnv1a64 [0x61] = 0xaf63dc4c8601ec8c := by decide

end Smiusb.Checksums
