import Smiusb.Bytes
import Smiusb.FrameQueue

/-!
Frame layouts and frames of rust/src/frame.rs: the checked constructor of a
layout, its validation, and the constructor of a frame around a pixel buffer.
Whether an allocation is granted is up to the environment.
-/

namespace Smiusb.FrameLayouts
open Execution Bytes FrameQueue

def bgrxBytesPerPixel : Nat := 4
def maxDimension : UInt32 := 16384
def maxFrameBytes : Nat := 256 * 1024 * 1024

inductive FrameError where
  | zeroDimension
  | dimensionTooLarge (width height maximum : UInt32)
  | sizeOverflow
  | frameTooLarge (bytes maximum : Nat)
  | pixelLength (expected actual : Nat)
  | inconsistentLayout
  | allocationFailed (bytes : Nat)
  deriving DecidableEq, Repr

def FrameError.display : FrameError → String
  | .zeroDimension => "frame dimensions must be non-zero"
  | .dimensionTooLarge width height maximum =>
      s!"frame {width}x{height} exceeds the {maximum} pixel dimension limit"
  | .sizeOverflow => "frame byte size overflows this platform"
  | .frameTooLarge bytes maximum => s!"frame requires {bytes} bytes; safety limit is {maximum}"
  | .pixelLength expected actual => s!"BGRx buffer has {actual} bytes; expected exactly {expected}"
  | .inconsistentLayout => "BGRx frame layout is inconsistent"
  | .allocationFailed bytes => s!"cannot allocate {bytes} bytes for BGRx frame"

section Model
variable (target : Target)

/-- `usize::try_from` on a dimension. -/
def dimensionAsUsize (dimension : UInt32) : Outcome FrameError Nat :=
  if dimension.toNat ≤ target.usizeMax then .ok dimension.toNat else .err .sizeOverflow

def newLayout (width height : UInt32) : Outcome FrameError FrameLayout :=
  if width = 0 ∨ height = 0 then .err .zeroDimension
  else if maxDimension < width ∨ maxDimension < height then
    .err (.dimensionTooLarge width height maxDimension)
  else do
    let width ← dimensionAsUsize target width
    let height ← dimensionAsUsize target height
    let stride ← okOr (checkedMul target width bgrxBytesPerPixel) .sizeOverflow
    let byteLen ← okOr (checkedMul target stride height) .sizeOverflow
    if maxFrameBytes < byteLen then .err (.frameTooLarge byteLen maxFrameBytes)
    else .ok { width := UInt32.ofNat width, height := UInt32.ofNat height, stride, byteLen }

def validateLayout (layout : FrameLayout) : Outcome FrameError Unit := do
  let canonical ← newLayout target layout.width layout.height
  if layout ≠ canonical then .err .inconsistentLayout else .ok ()

def fromBgrx (id : FrameId) (layout : FrameLayout) (pixels : List UInt8) :
    Outcome FrameError Frame := do
  validateLayout target layout
  if pixels.length ≠ layout.byteLen then .err (.pixelLength layout.byteLen pixels.length)
  else .ok { id, layout, pixels }

def validateFrame (frame : Frame) : Outcome FrameError Unit := do
  validateLayout target frame.layout
  if frame.pixels.length ≠ frame.layout.byteLen then
    .err (.pixelLength frame.layout.byteLen frame.pixels.length)
  else .ok ()

def allocateZeroed (granted : Bool) (bytes : Nat) : Outcome FrameError (List UInt8) :=
  if granted then .ok (List.replicate bytes 0) else .err (.allocationFailed bytes)

end Model

/-- What the checks of a layout amount to. -/
structure Canonical (layout : FrameLayout) : Prop where
  width : 0 < layout.width.toNat ∧ layout.width.toNat ≤ 16384
  height : 0 < layout.height.toNat ∧ layout.height.toNat ≤ 16384
  stride : layout.stride = 4 * layout.width.toNat
  byteLen : layout.byteLen = layout.stride * layout.height.toNat
  bounded : layout.byteLen ≤ maxFrameBytes

theorem canonical_stride {layout : FrameLayout} (canonical : Canonical layout) :
    layout.stride = layout.width.toNat * 4 := by
  rw [canonical.stride, Nat.mul_comm]

/-- The buffer as rows of four bytes for each pixel. -/
theorem canonical_size {layout : FrameLayout} (canonical : Canonical layout) :
    layout.byteLen = layout.height.toNat * (layout.width.toNat * 4) := by
  rw [canonical.byteLen, canonical_stride canonical, Nat.mul_comm]

section Layouts
variable {target : Target}

theorem dimension_as_usize_eq (dimension : UInt32) :
    dimensionAsUsize target dimension = .ok dimension.toNat :=
  if_pos (word_fits_usize target dimension)

/-- Four bytes for each of 16384 times 16384 pixels fit a 32-bit `usize`. -/
theorem frame_size_fits (target : Target) (width height : Nat) (narrow : width ≤ 16384)
    (low : height ≤ 16384) : width * 4 * height ≤ target.usizeMax := by
  have area := Nat.mul_le_mul (Nat.mul_le_mul_right 4 narrow) low
  cases target <;> simp only [Target.usizeMax] <;> omega

/-- The constructor without its arithmetic: no multiplication overflows. -/
theorem new_layout_eq (width height : UInt32) :
    newLayout target width height =
      if width = 0 ∨ height = 0 then .err .zeroDimension
      else if maxDimension < width ∨ maxDimension < height then
        .err (.dimensionTooLarge width height maxDimension)
      else if maxFrameBytes < width.toNat * 4 * height.toNat then
        .err (.frameTooLarge (width.toNat * 4 * height.toNat) maxFrameBytes)
      else .ok ⟨width, height, width.toNat * 4, width.toNat * 4 * height.toNat⟩ := by
  unfold newLayout
  split
  · rfl
  · split
    · rfl
    · rename_i small
      rw [not_or, UInt32.not_lt, UInt32.not_lt, UInt32.le_iff_toNat_le,
        UInt32.le_iff_toNat_le] at small
      have narrow : width.toNat ≤ 16384 := small.1
      have low : height.toNat ≤ 16384 := small.2
      have row := frame_size_fits target width.toNat 1 narrow (by decide)
      rw [Nat.mul_one] at row
      simp only [dimension_as_usize_eq, Outcome.ok_bind, okOr_some,
        show bgrxBytesPerPixel = 4 from rfl, checkedMul_some target _ _ row,
        checkedMul_some target _ _ (frame_size_fits target _ _ narrow low), UInt32.ofNat_toNat]

theorem new_layout_ok_iff (width height : UInt32) (layout : FrameLayout) :
    newLayout target width height = .ok layout ↔
      layout.width = width ∧ layout.height = height ∧ Canonical layout := by
  have positive : ∀ dimension : UInt32, ¬ dimension = 0 ↔ 0 < dimension.toNat := by
    intro dimension
    rw [Nat.pos_iff_ne_zero, ne_eq, ← UInt32.toNat_inj]
    rfl
  have limited : ∀ dimension : UInt32, ¬ maxDimension < dimension ↔ dimension.toNat ≤ 16384 := by
    intro dimension
    rw [UInt32.not_lt, UInt32.le_iff_toNat_le]
    rfl
  rw [new_layout_eq]
  constructor
  · intro accepted
    split_ifs at accepted with zero large huge
    rw [not_or, positive, positive] at zero
    rw [not_or, limited, limited] at large
    cases accepted
    refine ⟨rfl, rfl, ⟨zero.1, large.1⟩, ⟨zero.2, large.2⟩, ?_, rfl, Nat.le_of_not_lt huge⟩
    exact Nat.mul_comm _ 4
  · rintro ⟨rfl, rfl, canonical⟩
    rw [if_neg, if_neg, ← canonical_stride canonical, ← canonical.byteLen,
      if_neg (Nat.not_lt_of_le canonical.bounded)]
    · rw [not_or, limited, limited]
      exact ⟨canonical.width.2, canonical.height.2⟩
    · rw [not_or, positive, positive]
      exact ⟨canonical.width.1, canonical.height.1⟩

/-- The multiplications of the constructor never overflow, on either target. -/
theorem new_layout_size (width height : UInt32) :
    newLayout target width height ≠ .err .sizeOverflow := by
  rw [new_layout_eq]
  split_ifs <;> simp

theorem validate_layout_canonical {layout : FrameLayout} (canonical : Canonical layout) :
    validateLayout target layout = .ok () := by
  have accepted := (@new_layout_ok_iff target layout.width layout.height layout).mpr
    ⟨rfl, rfl, canonical⟩
  unfold validateLayout
  rw [accepted, Outcome.ok_bind, if_neg (by simp)]

/-- Validation recomputes the layout, so it accepts the canonical ones only. -/
theorem validate_layout_ok_iff (layout : FrameLayout) :
    validateLayout target layout = .ok () ↔ Canonical layout := by
  constructor
  · intro valid
    obtain ⟨canonical, accepted, same⟩ := (Outcome.bind_eq_ok_iff _ _ _).mp valid
    obtain ⟨_, _, checked⟩ := (new_layout_ok_iff _ _ _).mp accepted
    split_ifs at same with differs
    rwa [Decidable.not_not.mp differs]
  · exact validate_layout_canonical

end Layouts

/-- A frame whose buffer is as long as its canonical layout says. -/
structure ValidFrame (frame : Frame) : Prop where
  layout : Canonical frame.layout
  pixels : frame.pixels.length = frame.layout.byteLen

section Frames
variable {target : Target}

theorem from_bgrx_ok_iff (id : FrameId) (layout : FrameLayout) (pixels : List UInt8)
    (frame : Frame) :
    fromBgrx target id layout pixels = .ok frame ↔
      frame = ⟨id, layout, pixels⟩ ∧ ValidFrame frame := by
  constructor
  · intro built
    obtain ⟨_, valid, rest⟩ := (Outcome.bind_eq_ok_iff _ _ _).mp built
    split_ifs at rest with length
    cases rest
    exact ⟨rfl, (validate_layout_ok_iff layout).mp valid, Decidable.not_not.mp length⟩
  · rintro ⟨rfl, valid⟩
    have length := valid.pixels
    unfold fromBgrx
    rw [validate_layout_canonical valid.layout, Outcome.ok_bind,
      if_neg (Decidable.not_not.mpr length)]

theorem validate_frame_ok_iff (frame : Frame) :
    validateFrame target frame = .ok () ↔ ValidFrame frame := by
  constructor
  · intro checked
    obtain ⟨_, valid, rest⟩ := (Outcome.bind_eq_ok_iff _ _ _).mp checked
    split_ifs at rest with length
    exact ⟨(validate_layout_ok_iff frame.layout).mp valid, Decidable.not_not.mp length⟩
  · intro valid
    unfold validateFrame
    rw [validate_layout_canonical valid.layout, Outcome.ok_bind,
      if_neg (Decidable.not_not.mpr valid.pixels)]

end Frames

end Smiusb.FrameLayouts
