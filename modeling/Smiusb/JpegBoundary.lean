import Smiusb.Methods
import Smiusb.SinkGate
import Smiusb.TestPattern

/-!
`Compressor::compress_bgrx` of rust/src/jpeg.rs with TurboJPEG and the
allocator as the environment. The library answers what it likes; it is only
taken to write inside the destination it is given. The scratch buffer is kept
from one call to the next, after a failed call as well.
-/

namespace Smiusb.JpegBoundary
open Execution Bytes Methods Transitions FrameQueue FrameLayouts TestPattern SinkGate

def tjpfBgrx : Nat := 3
def tjsamp422 : Nat := 1
def tjflagNorealloc : Nat := 1024
def maxJpegBufferBytes : Nat := 512 * 1024 * 1024
def cIntMax : Nat := 2 ^ 31 - 1

/-- `Vec<u8>`. -/
structure Vec where
  contents : List UInt8
  capacity : Nat
  room : contents.length ≤ capacity

namespace Vec

def new : Vec := ⟨[], 0, Nat.le_refl 0⟩

/-- A reservation that needs memory is refused, or granted with some bytes to
spare. -/
def tryReserveExact (vec : Vec) (additional : Nat) (grant : Except String Nat) :
    Except String Vec :=
  if vec.contents.length + additional ≤ vec.capacity then .ok vec
  else
    match grant with
    | .error error => .error error
    | .ok spare => .ok {
        contents := vec.contents
        capacity := vec.contents.length + additional + spare
        room := by omega }

/-- The capacity changes only when the new length needs a new allocation. -/
def resize (vec : Vec) (length : Nat) (byte : UInt8) : Vec where
  contents := vec.contents.take length ++ List.replicate (length - vec.contents.length) byte
  capacity := max vec.capacity length
  room := by
    rw [List.length_append, List.length_take, List.length_replicate]
    omega

def extendFromSlice (vec : Vec) (source : List UInt8) : Vec where
  contents := vec.contents ++ source
  capacity := max vec.capacity (vec.contents ++ source).length
  room := Nat.le_max_right _ _

/-- Foreign code wrote through the pointer to the contents. -/
def overwritten (vec : Vec) (bytes : List UInt8) (same : bytes.length = vec.contents.length) :
    Vec where
  contents := bytes
  capacity := vec.capacity
  room := by
    rw [same]
    exact vec.room

end Vec

structure Compressor where
  scratch : Vec

def Compressor.new : Compressor := ⟨Vec.new⟩

/-- `c_ulong`, whose width need not be that of `usize`. -/
structure CUlong (ulong : Target) where
  value : Nat
  fits : value ≤ ulong.usizeMax

/-- The arguments of `tjCompress2`. -/
structure CompressRequest where
  source : List UInt8
  width : Nat
  pitch : Nat
  height : Nat
  pixelFormat : Nat
  destination : List UInt8
  jpegSize : Nat
  subsampling : Nat
  quality : Nat
  flags : Nat

/-- What `tjCompress2` returns and what it leaves behind its pointers. -/
structure Compression (ulong : Target) where
  result : Int32
  pointerChanged : Bool
  jpegSize : CUlong ulong
  destination : List UInt8

structure Library (ulong : Target) where
  bufSize : (width height subsampling : Nat) → CUlong ulong
  compress : CompressRequest → Compression ulong
  globalError : Option String
  handleError : Option String
  inside : ∀ request, (compress request).destination.length = request.destination.length

/-- What a call meets outside: TurboJPEG, and the allocator's answers to its
two reservations. -/
structure Environment (ulong : Target) where
  library : Library ulong
  scratchGrant : Except String Nat
  resultGrant : Except String Nat

/-- The reasons to refuse, under their texts in `display`. -/
inductive Refusal where
  | qualityRange (quality : UInt8)
  | invalidFrame (error : FrameError)
  | invalidLayout (error : FrameError)
  | inconsistentLayout
  | widthAbi
  | heightAbi
  | strideAbi
  | rejectedDimensions (reason : String)
  | bufferPlatform
  | destinationLimit (maximum : Nat)
  | scratchAllocation (error : String)
  | capacityAbi
  | compressionFailed (reason : String)
  | changedPointer
  | sizePlatform
  | overlong (jpegSize maximum : Nat)
  | malformedBoundary
  | resultAllocation (error : String)
  deriving DecidableEq, Repr

def Refusal.display : Refusal → String
  | .qualityRange quality => s!"JPEG quality must be between 1 and 100, got {quality}"
  | .invalidFrame error => "refusing invalid frame at JPEG boundary: " ++ error.display
  | .invalidLayout error => "refusing invalid JPEG layout: " ++ error.display
  | .inconsistentLayout => "refusing inconsistent BGRx layout at JPEG boundary"
  | .widthAbi => "frame width does not fit TurboJPEG ABI"
  | .heightAbi => "frame height does not fit TurboJPEG ABI"
  | .strideAbi => "frame stride does not fit TurboJPEG ABI"
  | .rejectedDimensions reason => s!"TurboJPEG rejected output dimensions: {reason}"
  | .bufferPlatform => "TurboJPEG buffer size does not fit this platform"
  | .destinationLimit maximum =>
      s!"TurboJPEG requested a {maximum} byte destination; safety limit is {maxJpegBufferBytes}"
  | .scratchAllocation error => s!"cannot allocate bounded JPEG buffer: {error}"
  | .capacityAbi => "JPEG capacity does not fit TurboJPEG ABI"
  | .compressionFailed reason => s!"TurboJPEG compression failed: {reason}"
  | .changedPointer => "TurboJPEG changed a TJFLAG_NOREALLOC buffer pointer"
  | .sizePlatform => "encoded JPEG size does not fit this platform"
  | .overlong jpegSize maximum =>
      s!"TurboJPEG reported {jpegSize} bytes for a {maximum} byte destination"
  | .malformedBoundary => "TurboJPEG returned a malformed JPEG boundary"
  | .resultAllocation error => s!"cannot allocate compact JPEG result: {error}"

/-- The refusals that blame the layout of the frame. -/
def Refusal.ofLayout : Refusal → Bool
  | .invalidFrame _ | .invalidLayout _ | .inconsistentLayout => true
  | .widthAbi | .heightAbi | .strideAbi => true
  | _ => false

def errorString (text : Option String) : String := text.getD "unknown TurboJPEG error"

structure Dimensions where
  width : Nat
  height : Nat
  pitch : Nat

section Model
variable (target : Target) {ulong : Target}

/-- `try_from` into a type that holds the numbers up to `limit`. -/
def tryFrom (limit value : Nat) (refusal : Refusal) : Outcome Refusal Nat :=
  if value ≤ limit then .ok value else .err refusal

def admitFrame (frame : Frame) (quality : UInt8) : Outcome Refusal Dimensions :=
  if ¬ (1 ≤ quality ∧ quality ≤ 100) then .err (.qualityRange quality)
  else do
    (validateFrame target frame).mapError .invalidFrame
    let layout := frame.layout
    let canonical ← (newLayout target layout.width layout.height).mapError .invalidLayout
    if canonical ≠ layout ∨ canonical.stride ≠ layout.stride ∨
        canonical.byteLen ≠ frame.pixels.length then .err .inconsistentLayout
    else do
      let width ← tryFrom cIntMax layout.width.toNat .widthAbi
      let height ← tryFrom cIntMax layout.height.toNat .heightAbi
      let pitch ← tryFrom cIntMax layout.stride .strideAbi
      .ok { width, height, pitch }

def destinationSize (library : Library ulong) (dimensions : Dimensions) : Outcome Refusal Nat :=
  let maximum := (library.bufSize dimensions.width dimensions.height tjsamp422).value
  if maximum = ulong.usizeMax then .err (.rejectedDimensions (errorString library.globalError))
  else do
    let maximum ← tryFrom target.usizeMax maximum .bufferPlatform
    if maximum = 0 ∨ maxJpegBufferBytes < maximum then .err (.destinationLimit maximum)
    else .ok maximum

def reserveScratch (grant : Except String Nat) (maximum : Nat) :
    Method Compressor Refusal Unit := do
  let compressor ← .read
  if compressor.scratch.capacity < maximum then do
    let additional ← .ofOutcome (minus maximum compressor.scratch.contents.length)
    match compressor.scratch.tryReserveExact additional grant with
    | .error error => .ofOutcome (.err (.scratchAllocation error))
    | .ok scratch => .modify fun compressor => { compressor with scratch }
  else pure ()

def resizeScratch (maximum : Nat) : Method Compressor Refusal Unit :=
  .modify fun compressor => { compressor with scratch := compressor.scratch.resize maximum 0 }

def compressRequest (frame : Frame) (quality : UInt8) (dimensions : Dimensions)
    (destination : List UInt8) (jpegSize : Nat) : CompressRequest where
  source := frame.pixels
  width := dimensions.width
  pitch := dimensions.pitch
  height := dimensions.height
  pixelFormat := tjpfBgrx
  destination
  jpegSize
  subsampling := tjsamp422
  quality := quality.toNat
  flags := tjflagNorealloc

def tjCompress2 (library : Library ulong) (frame : Frame) (quality : UInt8)
    (dimensions : Dimensions) (jpegSize : Nat) : Method Compressor Refusal (Compression ulong) where
  run compressor :=
    let request := compressRequest frame quality dimensions compressor.scratch.contents jpegSize
    let compression := library.compress request
    let scratch := compressor.scratch.overwritten compression.destination (library.inside request)
    (.ok compression, { compressor with scratch })

def reportedSize (library : Library ulong) (maximum : Nat) (compression : Compression ulong) :
    Outcome Refusal Nat :=
  if compression.result ≠ 0 then .err (.compressionFailed (errorString library.handleError))
  else if compression.pointerChanged then .err .changedPointer
  else do
    let jpegSize ← tryFrom target.usizeMax compression.jpegSize.value .sizePlatform
    if maximum < jpegSize then .err (.overlong jpegSize maximum) else .ok jpegSize

def checkBoundary (encoded : List UInt8) : Outcome Refusal Unit :=
  if encoded.length < 4 then .err .malformedBoundary
  else do
    let opening ← sliceRange encoded 0 2
    if opening ≠ [0xff, 0xd8] then .err .malformedBoundary
    else do
      let start ← minus encoded.length 2
      let closing ← sliceFrom encoded start
      if closing ≠ [0xff, 0xd9] then .err .malformedBoundary else .ok ()

def compactCopy (grant : Except String Nat) (encoded : List UInt8) (jpegSize : Nat) :
    Outcome Refusal (List UInt8) :=
  match Vec.new.tryReserveExact jpegSize grant with
  | .error error => .err (.resultAllocation error)
  | .ok bytes => .ok (bytes.extendFromSlice encoded).contents

/-- The rest of the call, once TurboJPEG is back. -/
def collectEncoded (grant : Except String Nat) (library : Library ulong) (frame : Frame)
    (quality : UInt8) (maximum : Nat) (compression : Compression ulong) :
    Method Compressor Refusal EncodedFrame := do
  let jpegSize ← .ofOutcome (reportedSize target library maximum compression)
  let compressor ← .read
  let encoded ← .ofOutcome (sliceRange compressor.scratch.contents 0 jpegSize)
  .ofOutcome (checkBoundary encoded)
  let bytes ← .ofOutcome (compactCopy grant encoded jpegSize)
  pure (compressed frame quality bytes)

def compressBgrx (environment : Environment ulong) (frame : Frame) (quality : UInt8) :
    Method Compressor Refusal EncodedFrame := do
  let dimensions ← .ofOutcome (admitFrame target frame quality)
  let maximum ← .ofOutcome (destinationSize target environment.library dimensions)
  reserveScratch environment.scratchGrant maximum
  resizeScratch maximum
  let capacity ← .ofOutcome (tryFrom ulong.usizeMax maximum .capacityAbi)
  let compression ← tjCompress2 environment.library frame quality dimensions capacity
  collectEncoded target environment.resultGrant environment.library frame quality maximum
    compression

end Model

section Buffers
variable {vec reserved : Vec} {additional length : Nat} {grant : Except String Nat}

theorem length_resize (vec : Vec) (length : Nat) (byte : UInt8) :
    (vec.resize length byte).contents.length = length := by
  unfold Vec.resize
  rw [List.length_append, List.length_take, List.length_replicate]
  omega

theorem resize_in_place (byte : UInt8) (room : length ≤ vec.capacity) :
    (vec.resize length byte).capacity = vec.capacity :=
  Nat.max_eq_left room

theorem try_reserve_ok (granted : vec.tryReserveExact additional grant = .ok reserved) :
    reserved.contents = vec.contents ∧ vec.contents.length + additional ≤ reserved.capacity := by
  unfold Vec.tryReserveExact at granted
  split at granted
  · rename_i enough
    cases granted
    exact ⟨rfl, enough⟩
  · split at granted
    · cases granted
    · cases granted
      exact ⟨rfl, Nat.le_add_right _ _⟩

end Buffers

section Outcomes
variable {Value : Type} {target ulong : Target}

/-- The computation comes back, and an error of it does not blame the layout. -/
def Harmless (call : Outcome Refusal Value) : Prop :=
  call.Returns ∧ ∀ refusal, call = .err refusal → refusal.ofLayout = false

theorem harmless_ok (value : Value) : Harmless (.ok value : Outcome Refusal Value) :=
  ⟨trivial, nofun⟩

theorem harmless_err {refusal : Refusal} (other : refusal.ofLayout = false) :
    Harmless (.err refusal : Outcome Refusal Value) := by
  refine ⟨trivial, ?_⟩
  rintro _ ⟨⟩
  exact other

theorem harmless_ite {condition : Prop} [Decidable condition] {one other : Outcome Refusal Value}
    (yes : Harmless one) (no : Harmless other) :
    Harmless (if condition then one else other) := by
  split
  · exact yes
  · exact no

theorem harmless_bind {Next : Type} {first : Outcome Refusal Value}
    {next : Value → Outcome Refusal Next} (start : Harmless first)
    (rest : ∀ value, Harmless (next value)) : Harmless (first >>= next) :=
  Outcome.bind_rule Harmless first next (fun value _ => rest value)
    (fun refusal ended => harmless_err (start.2 refusal ended)) start.1

theorem harmless_try_from (limit value : Nat) {refusal : Refusal}
    (other : refusal.ofLayout = false) : Harmless (tryFrom limit value refusal) :=
  harmless_ite (harmless_ok _) (harmless_err other)

theorem try_from_ok {limit value result : Nat} {refusal : Refusal}
    (fits : tryFrom limit value refusal = .ok result) : result = value := by
  unfold tryFrom at fits
  split_ifs at fits
  cases fits
  rfl

def dimensionsOf (frame : Frame) : Dimensions where
  width := frame.layout.width.toNat
  height := frame.layout.height.toNat
  pitch := frame.layout.stride

/-- A valid frame passes all layout checks on either target. -/
theorem admit_frame_eq {frame : Frame} (valid : ValidFrame frame) (quality : UInt8) :
    admitFrame target frame quality =
      if ¬ (1 ≤ quality ∧ quality ≤ 100) then .err (.qualityRange quality)
      else .ok (dimensionsOf frame) := by
  have accepted := (@new_layout_ok_iff target frame.layout.width frame.layout.height
    frame.layout).mpr ⟨rfl, rfl, valid.layout⟩
  have small : 4 * 16384 ≤ cIntMax := by decide
  have fits : ∀ value refusal, value ≤ 4 * 16384 → tryFrom cIntMax value refusal = .ok value :=
    fun _ _ bound => if_pos (Nat.le_trans bound small)
  have wide := valid.layout.width.2
  have tall := valid.layout.height.2
  have stride := valid.layout.stride
  unfold admitFrame
  dsimp only
  rw [(validate_frame_ok_iff frame).mpr valid, accepted, valid.pixels, fits _ _ (by omega),
    fits _ _ (by omega), fits _ _ (by omega)]
  simp only [Outcome.mapError, Outcome.ok_bind, ne_eq, not_true_eq_false, or_self, if_false]
  rfl

theorem harmless_admission {frame : Frame} (valid : ValidFrame frame) (quality : UInt8) :
    Harmless (admitFrame target frame quality) := by
  rw [admit_frame_eq valid]
  exact harmless_ite (harmless_err rfl) (harmless_ok _)

theorem harmless_destination (library : Library ulong) (dimensions : Dimensions) :
    Harmless (destinationSize target library dimensions) := by
  apply harmless_ite (harmless_err rfl)
  apply harmless_bind (harmless_try_from _ _ rfl)
  intro maximum
  exact harmless_ite (harmless_err rfl) (harmless_ok _)

theorem destination_bounded {library : Library ulong} {dimensions : Dimensions} {maximum : Nat}
    (asked : destinationSize target library dimensions = .ok maximum) :
    maximum ≤ maxJpegBufferBytes := by
  unfold destinationSize at asked
  dsimp only at asked
  split at asked
  · cases asked
  · obtain ⟨_, _, limited⟩ := (Outcome.bind_eq_ok_iff _ _ _).mp asked
    split_ifs at limited with outside
    cases limited
    rw [not_or, Nat.not_lt] at outside
    exact outside.2

theorem harmless_reported (library : Library ulong) (maximum : Nat)
    (compression : Compression ulong) :
    Harmless (reportedSize target library maximum compression) := by
  apply harmless_ite (harmless_err rfl)
  apply harmless_ite (harmless_err rfl)
  apply harmless_bind (harmless_try_from _ _ rfl)
  intro jpegSize
  exact harmless_ite (harmless_err rfl) (harmless_ok _)

theorem reported_ok {library : Library ulong} {maximum jpegSize : Nat}
    {compression : Compression ulong}
    (reported : reportedSize target library maximum compression = .ok jpegSize) :
    jpegSize = compression.jpegSize.value ∧ jpegSize ≤ maximum := by
  unfold reportedSize at reported
  split_ifs at reported
  obtain ⟨_, fits, limited⟩ := (Outcome.bind_eq_ok_iff _ _ _).mp reported
  split_ifs at limited with outside
  cases limited
  exact ⟨try_from_ok fits, Nat.le_of_not_lt outside⟩

/-- What passes the check begins and ends as a JPEG file does. -/
structure Bracketed (encoded : List UInt8) : Prop where
  length : 4 ≤ encoded.length
  opening : encoded.take 2 = [0xff, 0xd8]
  closing : encoded.drop (encoded.length - 2) = [0xff, 0xd9]

theorem check_boundary_eq (encoded : List UInt8) :
    checkBoundary encoded =
      if encoded.length < 4 ∨ encoded.take 2 ≠ [0xff, 0xd8] ∨
        encoded.drop (encoded.length - 2) ≠ [0xff, 0xd9] then .err .malformedBoundary
      else .ok () := by
  unfold checkBoundary
  by_cases short : encoded.length < 4
  · rw [if_pos short, if_pos (.inl short)]
  · rw [if_neg short, sliceRange_ok _ _ _ (by decide) (by omega), Outcome.ok_bind,
      minus_ok _ _ (by omega), Outcome.ok_bind, sliceFrom_ok _ _ (by omega), Outcome.ok_bind,
      List.drop_zero]
    simp only [short, false_or]
    split_ifs <;> simp_all

theorem harmless_boundary (encoded : List UInt8) : Harmless (checkBoundary encoded) := by
  rw [check_boundary_eq]
  exact harmless_ite (harmless_err rfl) (harmless_ok _)

theorem boundary_ok {encoded : List UInt8} (passed : checkBoundary encoded = .ok ()) :
    Bracketed encoded := by
  rw [check_boundary_eq] at passed
  split_ifs at passed with malformed
  rw [not_or, not_or, Nat.not_lt, Decidable.not_not, Decidable.not_not] at malformed
  exact ⟨malformed.1, malformed.2.1, malformed.2.2⟩

theorem harmless_copy (grant : Except String Nat) (encoded : List UInt8) (jpegSize : Nat) :
    Harmless (compactCopy grant encoded jpegSize) := by
  unfold compactCopy
  split
  · exact harmless_err rfl
  · exact harmless_ok _

theorem copy_ok {grant : Except String Nat} {encoded bytes : List UInt8} {jpegSize : Nat}
    (copied : compactCopy grant encoded jpegSize = .ok bytes) : bytes = encoded := by
  unfold compactCopy at copied
  split at copied
  · cases copied
  · rename_i reserved granted
    cases copied
    have empty : reserved.contents = [] := (try_reserve_ok granted).1
    change reserved.contents ++ encoded = encoded
    rw [empty, List.nil_append]

end Outcomes

section Calls
variable {target ulong : Target}

/-- Where a call of the compressor may stop. -/
def Stopped (refusal : Refusal) (after : Compressor) : Prop :=
  refusal.ofLayout = false ∧ after.scratch.contents.length ≤ maxJpegBufferBytes

theorem meets_harmless {Value Next : Type} {call : Outcome Refusal Value}
    {next : Value → Method Compressor Refusal Next} {object : Compressor}
    {returned : Next → Compressor → Prop} (harmless : Harmless call)
    (held : object.scratch.contents.length ≤ maxJpegBufferBytes)
    (rest : ∀ value, call = .ok value → Meets (next value) object returned Stopped) :
    Meets (Method.ofOutcome call >>= next) object returned Stopped :=
  meets_outcome_bind harmless.1 rest fun refusal ended => ⟨harmless.2 refusal ended, held⟩

/-- The subtraction does not underflow, and the reservation makes the room
that the following resize needs. -/
theorem reserve_scratch_meets (grant : Except String Nat) (maximum : Nat) (before : Compressor) :
    Meets (reserveScratch grant maximum) before
      (fun _ after => after.scratch.contents = before.scratch.contents ∧
        maximum ≤ after.scratch.capacity)
      (fun refusal after => refusal.ofLayout = false ∧ after = before) := by
  have room := before.scratch.room
  unfold reserveScratch
  apply meets_read_bind
  split
  · rename_i small
    rw [minus_ok _ _ (by omega)]
    refine meets_outcome_bind trivial ?_ nofun
    rintro _ ⟨⟩
    split
    · refine meets_outcome trivial nofun ?_
      rintro _ ⟨⟩
      exact ⟨rfl, rfl⟩
    · rename_i scratch granted
      obtain ⟨same, enough⟩ := try_reserve_ok granted
      have large : maximum ≤ scratch.capacity := by omega
      exact meets_modify ⟨same, large⟩
  · rename_i enough
    exact ⟨rfl, Nat.le_of_not_lt enough⟩

theorem tj_compress2_meets (library : Library ulong) (frame : Frame) (quality : UInt8)
    (dimensions : Dimensions) (jpegSize : Nat) (object : Compressor)
    {failed : Refusal → Compressor → Prop} :
    Meets (tjCompress2 library frame quality dimensions jpegSize) object
      (fun compression after => after.scratch.contents = compression.destination ∧
        compression = library.compress
          (compressRequest frame quality dimensions object.scratch.contents jpegSize))
      failed := ⟨rfl, rfl⟩

/-- An encoded frame as the caller may rely on it: the frame's own description
around a part of what the library wrote. -/
def Delivered (target : Target) (library : Library ulong) (frame : Frame) (quality : UInt8)
    (before : Compressor) (encoded : EncodedFrame) : Prop :=
  ∃ maximum, destinationSize target library (dimensionsOf frame) = .ok maximum ∧
    let compression := library.compress (compressRequest frame quality (dimensionsOf frame)
      (before.scratch.resize maximum 0).contents maximum)
    encoded.id = frame.id ∧ encoded.width = frame.layout.width ∧
      encoded.height = frame.layout.height ∧ encoded.quality = quality ∧
      encoded.bytes = compression.destination.take compression.jpegSize.value ∧
      encoded.bytes.length = compression.jpegSize.value ∧ encoded.bytes.length ≤ maximum ∧
      Bracketed encoded.bytes

theorem collect_encoded_meets (target : Target) (grant : Except String Nat)
    (library : Library ulong) (frame : Frame) (quality : UInt8) {maximum : Nat}
    {compression : Compression ulong} {object : Compressor}
    (written : object.scratch.contents = compression.destination)
    (length : compression.destination.length = maximum) (small : maximum ≤ maxJpegBufferBytes) :
    Meets (collectEncoded target grant library frame quality maximum compression) object
      (fun encoded after => after = object ∧ ∃ bytes, encoded = compressed frame quality bytes ∧
        bytes = compression.destination.take compression.jpegSize.value ∧
        bytes.length = compression.jpegSize.value ∧ bytes.length ≤ maximum ∧ Bracketed bytes)
      Stopped := by
  have held : object.scratch.contents.length ≤ maxJpegBufferBytes := by
    rw [written, length]
    exact small
  unfold collectEncoded
  apply meets_harmless (harmless_reported _ _ _) held
  intro jpegSize reported
  obtain ⟨rfl, limited⟩ := reported_ok reported
  apply meets_read_bind
  rw [written, sliceRange_ok _ _ _ (Nat.zero_le _) (by omega)]
  apply meets_harmless (harmless_ok _) held
  rintro _ ⟨⟩
  apply meets_harmless (harmless_boundary _) held
  intro _ passed
  apply meets_harmless (harmless_copy _ _ _) held
  intro bytes copied
  have same := copy_ok copied
  rw [List.drop_zero, Nat.sub_zero] at passed same
  have size : bytes.length = compression.jpegSize.value := by
    rw [same, List.length_take]
    omega
  refine ⟨rfl, bytes, rfl, same, size, by omega, ?_⟩
  rw [same]
  exact boundary_ok passed

theorem compress_bgrx_meets (target : Target) (environment : Environment ulong) {frame : Frame}
    (valid : ValidFrame frame) (quality : UInt8) {before : Compressor}
    (held : before.scratch.contents.length ≤ maxJpegBufferBytes) :
    Meets (compressBgrx target environment frame quality) before
      (fun encoded after => after.scratch.contents.length ≤ maxJpegBufferBytes ∧
        Delivered target environment.library frame quality before encoded)
      Stopped := by
  unfold compressBgrx
  apply meets_harmless (harmless_admission valid quality) held
  intro dimensions admitted
  have same : dimensions = dimensionsOf frame := by
    rw [admit_frame_eq valid] at admitted
    split_ifs at admitted
    cases admitted
    rfl
  subst same
  apply meets_harmless (harmless_destination _ _) held
  intro maximum asked
  have small := destination_bounded asked
  apply meets_bind (fun _ after => after.scratch.contents = before.scratch.contents ∧
    maximum ≤ after.scratch.capacity)
  · apply (reserve_scratch_meets environment.scratchGrant maximum before).weaken
    · exact fun _ _ reserved => reserved
    · rintro refusal _ ⟨other, rfl⟩
      exact ⟨other, held⟩
  intro _ reserved ⟨kept, _⟩
  -- from here on the scratch buffer is as long as the destination
  apply meets_bind (fun _ after => after.scratch.contents =
    (before.scratch.resize maximum 0).contents)
  · apply meets_modify
    simp only [Vec.resize, kept]
  intro _ resized contents
  have length : resized.scratch.contents.length = maximum := by
    rw [contents, length_resize]
  apply meets_harmless (harmless_try_from _ _ rfl) (by omega)
  intro capacity fits
  cases try_from_ok fits
  apply meets_bind _ (tj_compress2_meets _ _ _ _ _ resized)
  rintro compression written ⟨output, answer⟩
  rw [contents] at answer
  have inside : compression.destination.length = maximum := by
    rw [answer, environment.library.inside]
    exact length_resize _ _ _
  apply (collect_encoded_meets target environment.resultGrant environment.library frame quality
    output inside small).weaken
  · rintro _ _ ⟨rfl, bytes, rfl, same, size, limited, bracketed⟩
    refine ⟨by rw [output, inside]; exact small, maximum, asked, rfl, rfl, rfl, rfl, ?_, ?_,
      limited, bracketed⟩
    · rw [← answer]
      exact same
    · rw [← answer]
      exact size
  · exact fun _ _ stopped => stopped

/-- Everything a call asks for is granted, and TurboJPEG does its work: it asks
for a destination within bounds, fills any such destination with a JPEG file
and reports success. -/
structure Succeeds (target : Target) (environment : Environment ulong) (frame : Frame)
    (quality : UInt8) : Prop where
  scratch : ∃ spare, environment.scratchGrant = .ok spare
  result : ∃ spare, environment.resultGrant = .ok spare
  compresses : ∃ maximum,
    destinationSize target environment.library (dimensionsOf frame) = .ok maximum ∧
    ∀ destination, destination.length = maximum →
      let compression := environment.library.compress
        (compressRequest frame quality (dimensionsOf frame) destination maximum)
      compression.result = 0 ∧ compression.pointerChanged = false ∧
        compression.jpegSize.value ≤ maximum ∧
        Bracketed (compression.destination.take compression.jpegSize.value)

theorem destination_fits {library : Library ulong} {dimensions : Dimensions} {maximum : Nat}
    (asked : destinationSize target library dimensions = .ok maximum) :
    maximum ≤ target.usizeMax ∧ maximum ≤ ulong.usizeMax := by
  unfold destinationSize at asked
  dsimp only at asked
  split_ifs at asked
  obtain ⟨_, fits, limited⟩ := (Outcome.bind_eq_ok_iff _ _ _).mp asked
  split_ifs at limited
  cases limited
  unfold tryFrom at fits
  split_ifs at fits with small
  cases fits
  exact ⟨small, (library.bufSize _ _ _).fits⟩

theorem reserve_scratch_granted {grant : Except String Nat} {spare : Nat}
    (granted : grant = .ok spare) (maximum : Nat) (before : Compressor) :
    Meets (reserveScratch grant maximum) before
      (fun _ after => after.scratch.contents = before.scratch.contents) (fun _ _ => False) := by
  have room := before.scratch.room
  subst granted
  unfold reserveScratch
  apply meets_read_bind
  split
  · rw [minus_ok _ _ (by omega)]
    refine meets_outcome_bind trivial ?_ nofun
    rintro _ ⟨⟩
    have reserved : ∃ scratch, before.scratch.tryReserveExact
        (maximum - before.scratch.contents.length) (.ok spare) = .ok scratch := by
      unfold Vec.tryReserveExact
      split_ifs
      · exact ⟨_, rfl⟩
      · exact ⟨_, rfl⟩
    obtain ⟨scratch, granted⟩ := reserved
    rw [granted]
    exact meets_modify (try_reserve_ok granted).1
  · exact meets_pure rfl

theorem collect_encoded_succeeds {environment : Environment ulong} {frame : Frame} {quality : UInt8}
    {maximum spare : Nat} {compression : Compression ulong} {object : Compressor}
    (granted : environment.resultGrant = .ok spare) (fits : maximum ≤ target.usizeMax)
    (written : object.scratch.contents = compression.destination)
    (length : compression.destination.length = maximum)
    (done : compression.result = 0) (kept : compression.pointerChanged = false)
    (inside : compression.jpegSize.value ≤ maximum)
    (bracketed : Bracketed (compression.destination.take compression.jpegSize.value)) :
    Meets (collectEncoded target environment.resultGrant environment.library frame quality maximum
        compression) object
      (fun encoded _ => ∃ bytes, encoded = compressed frame quality bytes) (fun _ _ => False) := by
  have reported : reportedSize target environment.library maximum compression =
      .ok compression.jpegSize.value := by
    unfold reportedSize tryFrom
    rw [if_neg (Decidable.not_not.mpr done), if_neg (by rw [kept]; decide), if_pos (by omega),
      Outcome.ok_bind, if_neg (by omega)]
  have passed : checkBoundary (compression.destination.take compression.jpegSize.value) =
      .ok () := by
    rw [check_boundary_eq, if_neg]
    rw [not_or, not_or, Nat.not_lt, Decidable.not_not, Decidable.not_not]
    exact ⟨bracketed.length, bracketed.opening, bracketed.closing⟩
  have copied : ∃ bytes, compactCopy environment.resultGrant
      (compression.destination.take compression.jpegSize.value) compression.jpegSize.value =
        .ok bytes := by
    unfold compactCopy Vec.tryReserveExact
    rw [granted]
    split_ifs
    · exact ⟨_, rfl⟩
    · exact ⟨_, rfl⟩
  obtain ⟨bytes, copied⟩ := copied
  unfold collectEncoded
  rw [reported]
  refine meets_outcome_bind trivial ?_ nofun
  rintro _ ⟨⟩
  apply meets_read_bind
  rw [written, sliceRange_ok _ _ _ (Nat.zero_le _) (by omega), List.drop_zero, Nat.sub_zero]
  refine meets_outcome_bind trivial ?_ nofun
  rintro _ ⟨⟩
  rw [passed]
  refine meets_outcome_bind trivial ?_ nofun
  rintro _ ⟨⟩
  rw [copied]
  refine meets_outcome_bind trivial ?_ nofun
  rintro _ ⟨⟩
  exact meets_pure ⟨_, rfl⟩

/-- A call whose surroundings do their part encodes the frame, whatever is left
in the scratch buffer. -/
theorem compress_bgrx_succeeds {environment : Environment ulong} {frame : Frame} {quality : UInt8}
    (valid : ValidFrame frame) (range : 1 ≤ quality ∧ quality ≤ 100)
    (succeeds : Succeeds target environment frame quality) (before : Compressor) :
    Meets (compressBgrx target environment frame quality) before
      (fun encoded _ => ∃ bytes, encoded = compressed frame quality bytes) (fun _ _ => False) := by
  obtain ⟨⟨spare, scratch⟩, ⟨spare', result⟩, maximum, asked, compresses⟩ := succeeds
  obtain ⟨usize, word⟩ := destination_fits asked
  unfold compressBgrx
  rw [admit_frame_eq valid, if_neg (Decidable.not_not.mpr range)]
  refine meets_outcome_bind trivial ?_ nofun
  rintro _ ⟨⟩
  rw [asked]
  refine meets_outcome_bind trivial ?_ nofun
  rintro _ ⟨⟩
  apply meets_bind _ (reserve_scratch_granted scratch maximum before)
  intro _ reserved _
  apply meets_bind (fun _ after => after.scratch.contents.length = maximum)
  · exact meets_modify (length_resize _ _ _)
  intro _ resized length
  rw [tryFrom, if_pos word]
  refine meets_outcome_bind trivial ?_ nofun
  rintro _ ⟨⟩
  apply meets_bind _ (tj_compress2_meets _ _ _ _ _ resized)
  rintro _ written ⟨output, rfl⟩
  obtain ⟨done, kept, inside, bracketed⟩ := compresses _ length
  exact collect_encoded_succeeds result usize output
    ((environment.library.inside _).trans length) done kept inside bracketed

end Calls

/-- The frames that the program can have. -/
inductive Produced (target : Target) : Frame → Prop where
  | captured (id : FrameId) (layout : FrameLayout) (pixels : List UInt8) (frame : Frame)
      (built : fromBgrx target id layout pixels = .ok frame) : Produced target frame
  | pattern (granted : Bool) (id : FrameId) (layout : FrameLayout) (frame : Frame)
      (built : testPattern target granted id layout = .ok frame) : Produced target frame

theorem produced_valid {target : Target} {frame : Frame} (produced : Produced target frame) :
    ValidFrame frame := by
  cases produced with
  | captured id layout pixels frame built => exact ((from_bgrx_ok_iff _ _ _ _).mp built).2
  | pattern granted id layout frame built =>
      -- the pattern ends in the same constructor
      obtain ⟨_, _, built⟩ := (Outcome.bind_eq_ok_iff _ _ _).mp built
      obtain ⟨_, _, built⟩ := (Outcome.bind_eq_ok_iff _ _ _).mp built
      obtain ⟨_, _, built⟩ := (Outcome.bind_eq_ok_iff _ _ _).mp built
      obtain ⟨_, _, built⟩ := (Outcome.bind_eq_ok_iff _ _ _).mp built
      exact ((from_bgrx_ok_iff _ _ _ _).mp built).2

/-- One call of `compress_bgrx` with everything outside it. -/
structure Call (target ulong : Target) where
  environment : Environment ulong
  frame : Frame
  quality : UInt8
  produced : Produced target frame

section Histories
variable {target ulong : Target}

def compressCall (compressor : Compressor) (call : Call target ulong) :
    Compressor × Outcome Refusal EncodedFrame :=
  ((compressBgrx target call.environment call.frame call.quality).run compressor).swap

/-- The compressor after some calls, of which any may have failed. -/
def compressorAfter (calls : List (Call target ulong)) : Compressor :=
  finish compressCall Compressor.new calls

theorem scratch_bounded (calls : List (Call target ulong)) :
    (compressorAfter calls).scratch.contents.length ≤ maxJpegBufferBytes := by
  unfold compressorAfter finish
  apply List.foldlRecOn calls _ (motive := fun compressor : Compressor =>
    compressor.scratch.contents.length ≤ maxJpegBufferBytes) (Nat.zero_le _)
  intro compressor held call _
  have met := compress_bgrx_meets target call.environment (produced_valid call.produced)
    call.quality held
  obtain ⟨comesBack, values, errors⟩ := met.elim
  rcases Outcome.returns_cases comesBack with ⟨encoded, ended⟩ | ⟨refusal, ended⟩
  · exact (values encoded ended).1
  · exact (errors refusal ended).2

/-- What holds of a call on a compressor with this scratch buffer. -/
structure SafeCall (before : Compressor) (call : Call target ulong) : Prop where
  returns : (compressCall before call).2.Returns
  refusal : ∀ refusal, (compressCall before call).2 = .err refusal → refusal.ofLayout = false
  additional : ∀ maximum, before.scratch.capacity < maximum →
    before.scratch.contents.length ≤ maximum
  reserved : ∀ maximum after,
    (reserveScratch call.environment.scratchGrant maximum).run before = (.ok (), after) →
      maximum ≤ after.scratch.capacity ∧
        (after.scratch.resize maximum 0).capacity = after.scratch.capacity
  encoded : ∀ encoded, (compressCall before call).2 = .ok encoded →
    Delivered target call.environment.library call.frame call.quality before encoded

/-- Whatever TurboJPEG and the allocator answered so far, the next call is
safe. -/
theorem jpeg_boundary_safe (target ulong : Target) :
    (∀ width height, newLayout target width height ≠ .err .sizeOverflow) ∧
      ∀ (earlier : List (Call target ulong)) (call : Call target ulong),
        SafeCall (compressorAfter earlier) call := by
  refine ⟨new_layout_size, ?_⟩
  intro earlier call
  have met := compress_bgrx_meets target call.environment (produced_valid call.produced)
    call.quality (scratch_bounded earlier)
  obtain ⟨returns, values, errors⟩ := met.elim
  constructor
  · exact returns
  · exact fun refusal ended => (errors refusal ended).1
  · exact fun maximum small =>
      Nat.le_of_lt (Nat.lt_of_le_of_lt (compressorAfter earlier).scratch.room small)
  · intro maximum after ended
    have reservation := (reserve_scratch_meets call.environment.scratchGrant maximum
      (compressorAfter earlier)).elim.2.1 ()
    rw [ended] at reservation
    have room := (reservation rfl).2
    exact ⟨room, resize_in_place 0 room⟩
  · exact fun encoded ended => (values encoded ended).2

-- With a library that writes four bytes a frame of one pixel comes out.
example :
    let library : Library .bits64 := {
      bufSize := fun _ _ _ => ⟨6, by decide⟩
      compress := fun request => {
        result := 0
        pointerChanged := false
        jpegSize := ⟨4, by decide⟩
        destination := request.destination.mapIdx fun position _ =>
          [0xff, 0xd8, 0xff, 0xd9].getD position 0 }
      globalError := none
      handleError := none
      inside := fun _ => List.length_mapIdx }
    let frame : Frame := ⟨⟨1, 7⟩, ⟨1, 1, 4, 4⟩, [0, 0, 0, 255]⟩
    ((compressBgrx .bits64 ⟨library, .ok 0, .ok 0⟩ frame 80).run Compressor.new).1 =
      .ok (compressed frame 80 [0xff, 0xd8, 0xff, 0xd9]) := rfl

end Histories

end Smiusb.JpegBoundary
