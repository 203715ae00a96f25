import Mathlib.Data.Nat.ModEq
import Mathlib.Tactic.NormNum.Prime
import Smiusb.Blocks
import Smiusb.FrameLayouts

/-!
`Frame::test_pattern` of rust/src/frame.rs: eight vertical bars and a square
with inverted colours whose place depends on the frame number. The image is
described pixel by pixel; the nested loops write exactly that image.
-/

namespace Smiusb.TestPattern
open Execution Bytes Blocks FrameQueue FrameLayouts

/-- `[u8; 4]` in BGRx order. -/
structure Pixel where
  blue : UInt8
  green : UInt8
  red : UInt8
  filler : UInt8
  deriving DecidableEq, Repr

def Pixel.bytes (pixel : Pixel) : List UInt8 :=
  [pixel.blue, pixel.green, pixel.red, pixel.filler]

def Pixel.inverted (pixel : Pixel) : Pixel :=
  { pixel with blue := ~~~pixel.blue, green := ~~~pixel.green, red := ~~~pixel.red }

def bars : List Pixel :=
  [⟨255, 255, 255, 255⟩, -- white
    ⟨0, 255, 255, 255⟩, -- yellow
    ⟨255, 255, 0, 255⟩, -- cyan
    ⟨0, 255, 0, 255⟩, -- green
    ⟨255, 0, 255, 255⟩, -- magenta
    ⟨0, 0, 255, 255⟩, -- red
    ⟨255, 0, 0, 255⟩, -- blue
    ⟨0, 0, 0, 255⟩] -- black

@[ext]
structure Square where
  xStart : Nat
  yStart : Nat
  size : Nat
  deriving DecidableEq, Repr

section Model
variable (target : Target)

/-- `((sequence % span) * factor % span) as usize`, in `u64` arithmetic. -/
def squareStart (sequence : UInt64) (factor span : Nat) : Outcome FrameError Nat := do
  let folded ← remainder sequence.toNat span
  let moved ← times u64Max folded factor
  let start ← remainder moved span
  .ok (start % (target.usizeMax + 1))

def placeSquare (sequence : UInt64) (width height : Nat) : Outcome FrameError Square := do
  let size := min (min width height) 64
  let xRoom ← minus width size
  let xSpan ← plus target xRoom 1
  let yRoom ← minus height size
  let ySpan ← plus target yRoom 1
  let xStart ← squareStart target sequence 37 xSpan
  let yStart ← squareStart target sequence 23 ySpan
  .ok { xStart, yStart, size }

def patternPixel (square : Square) (width x y : Nat) : Outcome FrameError Pixel := do
  let scaled ← times target.usizeMax x bars.length
  let bar ← divide scaled width
  match bars[bar]? with
  | none => .panicked
  | some pixel => do
      let xStop ← plus target square.xStart square.size
      -- the second range is built only when the first one contains `x`
      if square.xStart ≤ x ∧ x < xStop then do
        let yStop ← plus target square.yStart square.size
        if square.yStart ≤ y ∧ y < yStop then .ok pixel.inverted else .ok pixel
      else .ok pixel

def writePixel (square : Square) (stride width y x : Nat) (pixels : List UInt8) :
    Outcome FrameError (List UInt8) := do
  let pixel ← patternPixel target square width x y
  let row ← times target.usizeMax y stride
  let column ← times target.usizeMax x bgrxBytesPerPixel
  let offset ← plus target row column
  let stop ← plus target offset bgrxBytesPerPixel
  copyFromSlice pixels offset stop pixel.bytes

def testPattern (granted : Bool) (id : FrameId) (layout : FrameLayout) :
    Outcome FrameError Frame := do
  validateLayout target layout
  let width := layout.width.toNat
  let height := layout.height.toNat
  let square ← placeSquare target id.sequence width height
  let pixels ← allocateZeroed granted layout.byteLen
  let pixels ← forRange
    (fun y => forRange (fun x => writePixel target square layout.stride width y x) width)
    height pixels
  fromBgrx target id layout pixels

end Model

/-! The image that the pattern is meant to be. -/

def squareSize (width height : Nat) : Nat := min (min width height) 64

def squareOf (sequence width height : Nat) : Square where
  xStart := 37 * sequence % (width - squareSize width height + 1)
  yStart := 23 * sequence % (height - squareSize width height + 1)
  size := squareSize width height

def Square.Covers (square : Square) (x y : Nat) : Prop :=
  (square.xStart ≤ x ∧ x < square.xStart + square.size) ∧
    square.yStart ≤ y ∧ y < square.yStart + square.size

instance (square : Square) (x y : Nat) : Decidable (square.Covers x y) :=
  inferInstanceAs (Decidable ((_ ∧ _) ∧ _ ∧ _))

def barAt (width x : Nat) : Pixel := bars.getD (8 * x / width) ⟨0, 0, 0, 255⟩

def pixelAt (square : Square) (width x y : Nat) : Pixel :=
  if square.Covers x y then (barAt width x).inverted else barAt width x

def image (square : Square) (width height : Nat) : List UInt8 :=
  blocks (fun y => blocks (fun x => (pixelAt square width x y).bytes) width) height

section Squares
variable {width height : Nat}

theorem square_size_bounds (width height : Nat) :
    squareSize width height ≤ width ∧ squareSize width height ≤ height := by
  unfold squareSize
  omega

theorem square_inside (sequence width height : Nat) :
    (squareOf sequence width height).xStart + (squareOf sequence width height).size ≤ width ∧
      (squareOf sequence width height).yStart + (squareOf sequence width height).size ≤
        height := by
  have bounds := square_size_bounds width height
  have span : ∀ room : Nat, 0 < room + 1 := Nat.succ_pos
  have x := Nat.mod_lt (37 * sequence) (span (width - squareSize width height))
  have y := Nat.mod_lt (23 * sequence) (span (height - squareSize width height))
  simp only [squareOf]
  omega

theorem square_start_eq (target : Target) (sequence : UInt64) (factor span : Nat)
    (positive : 0 < span) (small : span ≤ 16384) (slow : factor ≤ 64) :
    squareStart target sequence factor span = .ok (factor * sequence.toNat % span) := by
  have folded := Nat.mod_lt sequence.toNat positive
  have moved : sequence.toNat % span * factor ≤ 16384 * 64 :=
    Nat.mul_le_mul (by omega) slow
  have start := Nat.mod_lt (sequence.toNat % span * factor) positive
  have headroom := isize_headroom target
  unfold squareStart
  rw [remainder_ok _ _ positive, Outcome.ok_bind,
    times_ok _ _ _ (Nat.le_trans moved (by decide)), Outcome.ok_bind,
    remainder_ok _ _ positive, Outcome.ok_bind, Nat.mod_eq_of_lt (by omega), Nat.mod_mul_mod,
    Nat.mul_comm]

theorem place_square_eq (target : Target) (sequence : UInt64) (wide : width ≤ 16384)
    (tall : height ≤ 16384) (some : 0 < width ∧ 0 < height) :
    placeSquare target sequence width height = .ok (squareOf sequence.toNat width height) := by
  have bounds := square_size_bounds width height
  have nonempty : 0 < squareSize width height := by
    unfold squareSize
    omega
  have headroom := isize_headroom target
  unfold placeSquare
  rw [show min (min width height) 64 = squareSize width height from rfl]
  dsimp only
  rw [minus_ok _ _ bounds.1, Outcome.ok_bind, plus_ok target _ _ (by omega), Outcome.ok_bind,
    minus_ok _ _ bounds.2, Outcome.ok_bind, plus_ok target _ _ (by omega), Outcome.ok_bind,
    square_start_eq target sequence 37 _ (by omega) (by omega) (by decide), Outcome.ok_bind,
    square_start_eq target sequence 23 _ (by omega) (by omega) (by decide), Outcome.ok_bind]
  rfl

end Squares

/-- Sizes at which no pixel computation can overflow. -/
structure Placed (square : Square) (width : Nat) : Prop where
  wide : width ≤ 16384
  xStop : square.xStart + square.size ≤ 16384
  yStop : square.yStart + square.size ≤ 16384

section Pixels
variable {target : Target} {square : Square} {stride width x y : Nat}

theorem bar_index_bound (width x : Nat) (inside : x < width) : 8 * x / width < 8 := by
  rw [Nat.div_lt_iff_lt_mul (Nat.zero_lt_of_lt inside)]
  omega

theorem bar_at_index (inside : x < width) : bars[8 * x / width]? = some (barAt width x) := by
  unfold barAt
  rw [List.getD_eq_getElem?_getD,
    List.getElem?_eq_getElem (by exact bar_index_bound width x inside)]
  rfl

theorem pattern_pixel_eq (target : Target) (placed : Placed square width) (inside : x < width)
    (y : Nat) :
    patternPixel target square width x y = .ok (pixelAt square width x y) := by
  obtain ⟨wide, xStop, yStop⟩ := placed
  have headroom := isize_headroom target
  unfold patternPixel
  rw [show bars.length = 8 from rfl, times_ok _ _ _ (by omega), Outcome.ok_bind,
    divide_ok _ _ (by omega), Outcome.ok_bind, Nat.mul_comm x 8, bar_at_index inside]
  dsimp only
  rw [plus_ok target _ _ (by omega), Outcome.ok_bind, plus_ok target _ _ (by omega),
    Outcome.ok_bind]
  unfold pixelAt
  by_cases column : square.xStart ≤ x ∧ x < square.xStart + square.size
  · rw [if_pos column]
    by_cases row : square.yStart ≤ y ∧ y < square.yStart + square.size
    · have covers : square.Covers x y := ⟨column, row⟩
      rw [if_pos row, if_pos covers]
    · have outside : ¬ square.Covers x y := fun covers => row covers.2
      rw [if_neg row, if_neg outside]
  · have outside : ¬ square.Covers x y := fun covers => column covers.1
    rw [if_neg column, if_neg outside]

/-- One iteration overwrites the four bytes of its pixel. -/
theorem write_pixel_eq (front slot rest : List UInt8) (placed : Placed square width)
    (inside : x < width) (start : front.length = y * stride + x * 4) (length : slot.length = 4)
    (room : front.length + 4 ≤ target.usizeMax) :
    writePixel target square stride width y x (front ++ (slot ++ rest)) =
      .ok (front ++ ((pixelAt square width x y).bytes ++ rest)) := by
  unfold writePixel
  rw [pattern_pixel_eq target placed inside, Outcome.ok_bind,
    times_ok _ _ _ (by omega), Outcome.ok_bind, show bgrxBytesPerPixel = 4 from rfl,
    times_ok _ _ _ (by omega), Outcome.ok_bind, plus_ok target _ _ (by omega), Outcome.ok_bind,
    plus_ok target _ _ (by omega), Outcome.ok_bind]
  exact copyFromSlice_ok front slot _ rest start.symm (by rw [length]) (by rw [length]; rfl)

theorem length_row (square : Square) (width y : Nat) :
    (blocks (fun x => (pixelAt square width x y).bytes) width).length = width * 4 :=
  length_blocks width fun _ _ => rfl

theorem length_image (square : Square) (width height : Nat) :
    (image square width height).length = height * (width * 4) :=
  length_blocks height fun y _ => length_row square width y

/-- The inner loop writes one row of the image. -/
theorem write_row_eq (front slot rest : List UInt8) (placed : Placed square width)
    (start : front.length = y * (width * 4)) (length : slot.length = width * 4)
    (room : front.length + width * 4 ≤ target.usizeMax) :
    forRange (fun x => writePixel target square (width * 4) width y x) width
        (front ++ (slot ++ rest)) =
      .ok (front ++ (blocks (fun x => (pixelAt square width x y).bytes) width ++ rest)) := by
  have each : ∀ x, x < width → (pixelAt square width x y).bytes.length = 4 := fun _ _ => rfl
  apply forRange_fill _ each front slot rest length
  intro x inside before pixel after offset size
  apply write_pixel_eq before pixel after placed inside _ size
  · omega
  · rw [offset, start]

/-- Both loops write the whole image, whatever the buffer held before. -/
theorem write_image_eq {height : Nat} (buffer : List UInt8) (placed : Placed square width)
    (length : buffer.length = height * (width * 4))
    (room : buffer.length ≤ target.usizeMax) :
    forRange (fun y => forRange (fun x => writePixel target square (width * 4) width y x) width)
        height buffer =
      .ok (image square width height) := by
  have filled := forRange_fill
    (fun y => forRange (fun x => writePixel target square (width * 4) width y x) width)
    (fun y _ => length_row square width y) [] buffer [] length ?_
  · simpa [image] using filled
  · intro y inside front slot rest start size
    rw [List.length_nil, Nat.zero_add] at start
    have below : (y + 1) * (width * 4) ≤ height * (width * 4) :=
      Nat.mul_le_mul_right _ inside
    rw [Nat.succ_mul] at below
    exact write_row_eq front slot rest placed start size (by omega)

end Pixels

section Images
variable {width height x y : Nat}

theorem image_pixel (square : Square) (column : x < width) (row : y < height) :
    ((image square width height).drop (y * (width * 4) + 4 * x)).take 4 =
      (pixelAt square width x y).bytes := by
  have line := take_block (fun y (_ : y < height) => length_row square width y) y row
  have each : ∀ x, x < width → (pixelAt square width x y).bytes.length = 4 := fun _ _ => rfl
  have bytes := take_block each x column
  rw [← line, List.drop_take, List.drop_drop, List.take_take, Nat.min_eq_left (by omega),
    Nat.mul_comm x 4] at bytes
  exact bytes

theorem filler_bar (width x : Nat) : (barAt width x).filler = 255 := by
  have each : ∀ pixel ∈ bars, pixel.filler = 255 := by decide
  unfold barAt
  rw [List.getD_eq_getElem?_getD]
  cases found : bars[8 * x / width]? with
  | none => rfl
  | some pixel => exact each pixel (List.mem_of_getElem? found)

theorem test_pattern_eq (target : Target) (id : FrameId) {layout : FrameLayout}
    (canonical : Canonical layout) :
    testPattern target true id layout =
      .ok ⟨id, layout, image (squareOf id.sequence.toNat layout.width.toNat layout.height.toNat)
        layout.width.toNat layout.height.toNat⟩ := by
  have wide := canonical.width.2
  have tall := canonical.height.2
  have inside := square_inside id.sequence.toNat layout.width.toNat layout.height.toNat
  have placed := Placed.mk wide (Nat.le_trans inside.1 wide) (Nat.le_trans inside.2 tall)
  have size := canonical_size canonical
  have room : (List.replicate layout.byteLen (0 : UInt8)).length ≤ target.usizeMax := by
    rw [List.length_replicate]
    exact Nat.le_trans canonical.bounded (by cases target <;> decide)
  have built := (@from_bgrx_ok_iff target id layout
    (image (squareOf id.sequence.toNat layout.width.toNat layout.height.toNat)
      layout.width.toNat layout.height.toNat) _).mpr
    ⟨rfl, canonical, by rw [length_image]; exact size.symm⟩
  unfold testPattern
  rw [validate_layout_canonical canonical, Outcome.ok_bind]
  dsimp only
  rw [place_square_eq target id.sequence wide tall ⟨canonical.width.1, canonical.height.1⟩,
    Outcome.ok_bind, allocateZeroed, if_pos rfl, Outcome.ok_bind, canonical_stride canonical,
    write_image_eq _ placed (by rw [List.length_replicate, size]) room, Outcome.ok_bind, built]

theorem pixel_bytes (square : Square) (width x y : Nat) :
    (pixelAt square width x y).bytes =
      if square.Covers x y then
        [~~~(barAt width x).blue, ~~~(barAt width x).green, ~~~(barAt width x).red, 255]
      else [(barAt width x).blue, (barAt width x).green, (barAt width x).red, 255] := by
  have filler := filler_bar width x
  unfold pixelAt
  split_ifs
  · simp only [Pixel.bytes, Pixel.inverted, filler]
  · simp only [Pixel.bytes, filler]

end Images

/-- `test_pattern` produces the specified image on every accepted layout, at
every frame number, without a panic. -/
theorem test_pattern_exact (target : Target) (width height : UInt32) (layout : FrameLayout)
    (accepted : newLayout target width height = .ok layout) (id : FrameId) :
    let square := squareOf id.sequence.toNat width.toNat height.toNat
    ∃ frame, testPattern target true id layout = .ok frame ∧ frame.id = id ∧
      frame.layout = layout ∧ layout.byteLen = 4 * width.toNat * height.toNat ∧
      frame.pixels.length = layout.byteLen ∧
      (square.xStart + square.size ≤ width.toNat ∧ square.yStart + square.size ≤ height.toNat) ∧
      (∀ x y, x < width.toNat → y < height.toNat →
        8 * x / width.toNat < 8 ∧ bars[8 * x / width.toNat]? = some (barAt width.toNat x) ∧
        y * layout.stride + 4 * x + 4 ≤ layout.byteLen ∧
        (frame.pixels.drop (y * layout.stride + 4 * x)).take 4 =
          if square.Covers x y then
            [~~~(barAt width.toNat x).blue, ~~~(barAt width.toNat x).green,
              ~~~(barAt width.toNat x).red, 255]
          else [(barAt width.toNat x).blue, (barAt width.toNat x).green,
            (barAt width.toNat x).red, 255]) ∧
      validateFrame target frame = .ok () := by
  obtain ⟨rfl, rfl, canonical⟩ := (new_layout_ok_iff width height layout).mp accepted
  have stride := canonical_stride canonical
  have size := canonical_size canonical
  refine ⟨_, test_pattern_eq target id canonical, rfl, rfl, ?_, ?_, square_inside _ _ _, ?_, ?_⟩
  · rw [canonical.byteLen, canonical.stride]
  · rw [length_image, size]
  · intro x y column row
    refine ⟨bar_index_bound _ x column, bar_at_index column, ?_, ?_⟩
    · have below : (y + 1) * (layout.width.toNat * 4) ≤ layout.byteLen := by
        rw [size]
        exact Nat.mul_le_mul_right _ row
      rw [Nat.succ_mul] at below
      rw [stride]
      omega
    · rw [stride, image_pixel _ column row, pixel_bytes]
  · refine (validate_frame_ok_iff _).mpr ⟨canonical, ?_⟩
    rw [length_image, size]

theorem test_pattern_exact_narrow :
    let layout : FrameLayout := ⟨3, 2, 12, 24⟩
    newLayout .bits32 3 2 = .ok layout ∧
      ∃ frame, testPattern .bits32 true ⟨1, 18446744073709551615⟩ layout = .ok frame ∧
        frame.pixels.length = 24 ∧ (frame.pixels.drop 4).take 4 = [0, 0, 255, 255] := by
  obtain ⟨frame, made, _, _, _, length, _, pixels, _⟩ :=
    test_pattern_exact .bits32 3 2 ⟨3, 2, 12, 24⟩ rfl ⟨1, 18446744073709551615⟩
  obtain ⟨_, _, _, pixel⟩ := pixels 1 0 (by decide) (by decide)
  exact ⟨rfl, frame, made, length, pixel⟩

section Motion
variable {width height : Nat} {first second : Square}

theorem inverted_ne (pixel : Pixel) : pixel.inverted ≠ pixel := by
  intro same
  have blue : (~~~pixel.blue).toNat = pixel.blue.toNat :=
    congrArg (fun pixel => pixel.blue.toNat) same
  rw [UInt8.toNat_not] at blue
  have range := pixel.blue.toNat_lt
  simp only [UInt8.size] at blue
  omega

theorem bytes_injective {pixel other : Pixel} (same : pixel.bytes = other.bytes) :
    pixel = other := by
  cases pixel
  cases other
  simpa [Pixel.bytes] using same

theorem covers_of_pixel {x y : Nat}
    (same : pixelAt first width x y = pixelAt second width x y) (covered : first.Covers x y) :
    second.Covers x y := by
  unfold pixelAt at same
  rw [if_pos covered] at same
  by_contra outside
  rw [if_neg outside] at same
  exact inverted_ne _ same

/-- Wherever the first square is, equal images put the second at or before it. -/
theorem start_le_of_image (same : image first width height = image second width height)
    (shown : 0 < first.size) (wide : first.xStart + first.size ≤ width)
    (tall : first.yStart + first.size ≤ height) :
    second.xStart ≤ first.xStart ∧ second.yStart ≤ first.yStart := by
  have column : first.xStart < width := by omega
  have row : first.yStart < height := by omega
  -- the corner pixel tells the squares apart
  have corner : pixelAt first width first.xStart first.yStart =
      pixelAt second width first.xStart first.yStart := by
    apply bytes_injective
    rw [← image_pixel first column row, same, image_pixel second column row]
  have covered : first.Covers first.xStart first.yStart :=
    ⟨⟨Nat.le_refl _, by omega⟩, Nat.le_refl _, by omega⟩
  have both := covers_of_pixel corner covered
  exact ⟨both.1.1, both.2.1⟩

theorem image_eq_iff (sequence next : Nat) (some : 0 < width ∧ 0 < height) :
    image (squareOf sequence width height) width height =
        image (squareOf next width height) width height ↔
      squareOf sequence width height = squareOf next width height := by
  have shown : 0 < squareSize width height := by
    unfold squareSize
    omega
  constructor
  · intro same
    have here := square_inside sequence width height
    have there := square_inside next width height
    have back := start_le_of_image same shown here.1 here.2
    have forth := start_le_of_image same.symm shown there.1 there.2
    have x := Nat.le_antisymm forth.1 back.1
    have y := Nat.le_antisymm forth.2 back.2
    exact Square.ext x y rfl
  · intro same
    rw [same]

theorem start_returns_iff (factor sequence span : Nat) :
    factor * sequence % span = factor * (sequence + 1) % span ↔ span ∣ factor := by
  have later : factor * sequence ≤ factor * (sequence + 1) :=
    Nat.mul_le_mul_left _ (Nat.le_succ _)
  have step : factor * (sequence + 1) - factor * sequence = factor := by
    rw [Nat.mul_succ, Nat.add_sub_cancel_left]
  have returns := Nat.modEq_iff_dvd' (n := span) later
  rwa [step] at returns

/-- The sizes whose horizontal span divides 37 and whose vertical span divides
23, although one of the two is more than 1. -/
def Stuck (width height : Nat) : Prop :=
  (height ≤ 64 ∧ width = height + 36) ∨ (width ≤ 64 ∧ height = width + 22) ∨
    (width = 100 ∧ height = 86)

instance (width height : Nat) : Decidable (Stuck width height) :=
  inferInstanceAs (Decidable ((height ≤ 64 ∧ width = height + 36) ∨
    (width ≤ 64 ∧ height = width + 22) ∨ (width = 100 ∧ height = 86)))

theorem square_returns_iff (sequence : Nat) (some : 0 < width ∧ 0 < height)
    (room : squareSize width height < width ∨ squareSize width height < height) :
    squareOf sequence width height = squareOf (sequence + 1) width height ↔
      Stuck width height := by
  have split : squareOf sequence width height = squareOf (sequence + 1) width height ↔
      width - squareSize width height + 1 ∣ 37 ∧ height - squareSize width height + 1 ∣ 23 := by
    rw [← start_returns_iff 37 sequence, ← start_returns_iff 23 sequence, Square.ext_iff]
    exact ⟨fun same => ⟨same.1, same.2.1⟩, fun same => ⟨same.1, same.2, rfl⟩⟩
  have bounds := square_size_bounds width height
  have attained : squareSize width height = width ∨ squareSize width height = height ∨
      squareSize width height = 64 := by
    unfold squareSize
    omega
  have limit : squareSize width height ≤ 64 := Nat.min_le_right _ _
  rw [split, Nat.dvd_prime (by norm_num), Nat.dvd_prime (by norm_num)]
  unfold Stuck
  generalize squareSize width height = size at bounds attained limit room ⊢
  omega

end Motion

/-- The square of an accepted layout moves with every frame unless the layout
is stuck. -/
theorem test_pattern_moves_iff (target : Target) (width height : UInt32) (layout : FrameLayout)
    (accepted : newLayout target width height = .ok layout)
    (room : min (min width.toNat height.toNat) 64 < width.toNat ∨
      min (min width.toNat height.toNat) 64 < height.toNat)
    (generation sequence : UInt64) (more : sequence.toNat < 2 ^ 64 - 1) :
    ∃ now next, testPattern target true ⟨generation, sequence⟩ layout = .ok now ∧
      testPattern target true ⟨generation, sequence + 1⟩ layout = .ok next ∧
      (now.pixels ≠ next.pixels ↔ ¬ Stuck width.toNat height.toNat) := by
  obtain ⟨rfl, rfl, canonical⟩ := (new_layout_ok_iff width height layout).mp accepted
  have positive := And.intro canonical.width.1 canonical.height.1
  have following : (sequence + 1).toNat = sequence.toNat + 1 := by
    rw [UInt64.toNat_add]
    exact Nat.mod_eq_of_lt (Nat.succ_lt_of_lt_pred more)
  refine ⟨_, _, test_pattern_eq target _ canonical, test_pattern_eq target _ canonical, ?_⟩
  dsimp only
  rw [following]
  exact not_congr ((image_eq_iff _ _ positive).trans (square_returns_iff _ positive room))

theorem test_pattern_moves_wide :
    ∃ layout now next, newLayout .bits64 800 100 = .ok layout ∧
      testPattern .bits64 true ⟨1, 0⟩ layout = .ok now ∧
      testPattern .bits64 true ⟨1, 1⟩ layout = .ok next ∧ now.pixels ≠ next.pixels := by
  obtain ⟨now, next, made, made', moves⟩ :=
    test_pattern_moves_iff .bits64 800 100 ⟨800, 100, 3200, 320000⟩ rfl (by decide) 1 0 (by decide)
  exact ⟨_, now, next, rfl, made, made', moves.mpr (by decide)⟩

/-- With 100 by 64 pixels the square stands at the left edge in every frame. -/
theorem test_pattern_stands_still :
    ∃ layout now next, newLayout .bits64 100 64 = .ok layout ∧
      testPattern .bits64 true ⟨1, 0⟩ layout = .ok now ∧
      testPattern .bits64 true ⟨1, 1⟩ layout = .ok next ∧
      min (min 100 64) 64 < 100 ∧ now.pixels = next.pixels := by
  have accepted : newLayout .bits64 100 64 = .ok ⟨100, 64, 400, 25600⟩ := rfl
  have canonical := ((new_layout_ok_iff _ _ _).mp accepted).2.2
  refine ⟨_, _, _, accepted, test_pattern_eq _ _ canonical, test_pattern_eq _ _ canonical,
    by decide, ?_⟩
  exact (image_eq_iff 0 1 (by decide)).mpr (by decide)

end Smiusb.TestPattern
