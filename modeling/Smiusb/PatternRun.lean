import Smiusb.Checksums
import Smiusb.CommandLine
import Smiusb.JpegBoundary
import Smiusb.Methods
import Smiusb.TestPattern

/-!
`simulate_pattern` of `rust/src/main.rs`: the offline run through the frame
queue. Test patterns are submitted one after the other, then the queue is
emptied into the encoder, and a summary is printed. Allocations and TurboJPEG
are the surroundings; what is printed is kept as data with its text beside it.
-/

namespace Smiusb.PatternRun
open Execution Bytes Methods FrameQueue FrameLayouts TestPattern SinkGate JpegBoundary Checksums
  CommandLine WireProtocol

def maxPatternWorkBytes : Nat := 512 * 1024 * 1024

def frameIdText (id : FrameId) : String := s!"{id.generation.toNat}:{id.sequence.toNat}"

/-- A line of output with what it is printed from. -/
inductive Line where
  | pipeline (layout : FrameLayout) (queueCapacity : Nat) (generation : UInt64)
  | plan (quality : UInt8) (encode : Bool)
  | captured (frame : Frame) (dropped : Option FrameId)
  | encoded (frame : Frame) (jpeg : EncodedFrame)
  | encoderInput (frame : Frame)
  | summary (snapshot : PipelineSnapshot)
  deriving DecidableEq, Repr

def Line.text : Line → String
  | .pipeline layout queueCapacity generation =>
      s!"pipeline format=BGRx width={layout.width.toNat} height={layout.height.toNat} " ++
      s!"stride={layout.stride} frame-bytes={layout.byteLen} " ++
      s!"queue-capacity={queueCapacity} generation={generation.toNat}"
  | .plan quality encode =>
      s!"encode-plan=JPEG-4:2:2-after-BGRx quality={quality.toNat} execute={encode} " ++
      "transport=disabled"
  | .captured frame dropped =>
      "capture id=" ++ frameIdText frame.id ++ " checksum=" ++
      lowerHex 16 (frameChecksum frame).toNat ++ " queued" ++
      match dropped with
      | none => ""
      | some oldest => " drop-old=" ++ frameIdText oldest
  | .encoded frame jpeg =>
      "encoded id=" ++ frameIdText jpeg.id ++ " raw-checksum=" ++
      lowerHex 16 (frameChecksum frame).toNat ++ s!" jpeg-bytes={jpeg.bytes.length} " ++
      "jpeg-fnv1a64=" ++ lowerHex 16 (encodedChecksum jpeg).toNat ++
      s!" jpeg={jpeg.width.toNat}x{jpeg.height.toNat} quality={jpeg.quality.toNat} " ++
      "subsampling=4:2:2"
  | .encoderInput frame =>
      "encoder-input id=" ++ frameIdText frame.id ++ " checksum=" ++
      lowerHex 16 (frameChecksum frame).toNat ++ s!" bytes={frame.layout.byteLen}"
  | .summary snapshot =>
      s!"summary generation={snapshot.generation.toNat} capacity={snapshot.capacity} " ++
      s!"accepted={snapshot.stats.accepted} dequeued={snapshot.stats.dequeued} " ++
      s!"dropped-capacity={snapshot.stats.droppedCapacity} queued={snapshot.queued} " ++
      "usb-transmission=disabled"

inductive PatternError where
  | layout (error : FrameError)
  | workOverflow
  | tooMuchWork (bytes : Nat)
  | queueOverflow
  | tooMuchRetained (bytes : Nat)
  | pipeline (error : PipelineError)
  | generate (error : FrameError)
  | rejected (outcome : SubmitOutcome)
  | noEncoder (reason : String)
  | encode (id : FrameId) (refusal : Refusal)
  | beforeSink (mismatch : GenerationMismatch)
  deriving DecidableEq, Repr

def pipelineErrorText : PipelineError → String
  | .zeroCapacity => "frame queue capacity must be non-zero"
  | .generationNotIncreasing active requested =>
      s!"generation must increase (active {active.toNat}, requested {requested.toNat})"

def mismatchText (mismatch : GenerationMismatch) : String :=
  s!"stale work from generation {mismatch.received.toNat}; " ++
  s!"active generation is {mismatch.active.toNat}"

/-- The derived `Debug` text. -/
def submitOutcomeText : SubmitOutcome → String
  | .queued => "Queued"
  | .droppedOldest id =>
      s!"DroppedOldest(FrameId \x7b generation: {id.generation.toNat}, " ++
      s!"sequence: {id.sequence.toNat} \x7d)"
  | .rejectedGeneration active received =>
      s!"RejectedGeneration \x7b active: {active.toNat}, received: {received.toNat} \x7d"
  | .rejectedSequence last received =>
      s!"RejectedSequence \x7b last: {last.toNat}, received: {received.toNat} \x7d"

def PatternError.display : PatternError → String
  | .layout error => "invalid pattern layout: " ++ error.display
  | .workOverflow => "pattern workload size overflow"
  | .tooMuchWork bytes =>
      s!"pattern would generate {bytes} bytes; reduce dimensions or frame count below the " ++
      s!"{maxPatternWorkBytes} byte safety limit"
  | .queueOverflow => "pattern queue size overflow"
  | .tooMuchRetained bytes =>
      s!"pattern queue could retain {bytes} bytes; reduce dimensions or queue capacity"
  | .pipeline error => pipelineErrorText error
  | .generate error => "cannot generate test pattern: " ++ error.display
  | .rejected outcome => "offline pipeline rejected generated frame: " ++ submitOutcomeText outcome
  | .noEncoder reason => "cannot initialize offline JPEG encoder: " ++ reason
  | .encode id refusal => "cannot encode frame " ++ frameIdText id ++ ": " ++ refusal.display
  | .beforeSink mismatch => "dropping encoded frame before sink: " ++ mismatchText mismatch

/-- The allocator's answer for each test pattern, TurboJPEG's for a new
compressor, and what the compression of each frame meets. -/
structure Surroundings (ulong : Target) where
  granted : UInt64 → Bool
  handle : Except (Option String) Unit
  compression : UInt64 → Environment ulong

/-- The local variables that change, and what is printed so far. -/
structure Session where
  pipeline : FramePipeline
  compressor : Option Compressor
  printed : List Line

abbrev Step (Value : Type) := Method Session PatternError Value

def println (line : Line) : Step Unit :=
  .modify fun session => { session with printed := session.printed ++ [line] }

def onPipeline {Value : Type} (call : FramePipeline → FramePipeline × Value) : Step Value where
  run session :=
    let (pipeline, value) := call session.pipeline
    (.ok value, { session with pipeline })

def ofExcept {Error Value : Type} (convert : Error → PatternError) :
    Except Error Value → Outcome PatternError Value
  | .ok value => .ok value
  | .error error => .err (convert error)

section Model
variable (target : Target) {ulong : Target}

/-- The checks before anything is set up; `frames as usize` cuts bits off. -/
def admitPattern (options : PatternOptions) : Outcome PatternError FrameLayout := do
  let layout ← (newLayout target options.width options.height).mapError .layout
  let frames := options.frames % (target.usizeMax + 1)
  let totalWork ← okOr (checkedMul target layout.byteLen frames) .workOverflow
  if maxPatternWorkBytes < totalWork then .err (.tooMuchWork totalWork)
  else
    let residentFrames := min options.queueCapacity frames
    let residentBytes ← okOr (checkedMul target layout.byteLen residentFrames) .queueOverflow
    if maxPatternWorkBytes < residentBytes then .err (.tooMuchRetained residentBytes)
    else .ok layout

def reportCapture (frame : Frame) : SubmitOutcome → Step Unit
  | .queued => println (.captured frame none)
  | .droppedOldest dropped => println (.captured frame (some dropped))
  | unexpected => .ofOutcome (.err (.rejected unexpected))

/-- The body of the first loop. -/
def capture (surroundings : Surroundings ulong) (layout : FrameLayout) (sequence : UInt64) :
    Step Unit := do
  let frame ← .ofOutcome ((testPattern target (surroundings.granted sequence) ⟨1, sequence⟩
    layout).mapError .generate)
  let outcome ← onPipeline fun pipeline => submit pipeline frame
  reportCapture frame outcome

def initCompressor (surroundings : Surroundings ulong) (encode : Bool) : Step Unit :=
  if encode then do
    .ofOutcome (ofExcept (fun text => .noEncoder (errorString text)) surroundings.handle)
    .modify fun session => { session with compressor := some Compressor.new }
  else pure ()

/-- `compress_bgrx` on the compressor of the session. -/
def encodeWith (environment : Environment ulong) (frame : Frame) (quality : UInt8)
    (compressor : Compressor) : Step EncodedFrame where
  run session :=
    let (outcome, after) := (compressBgrx target environment frame quality).run compressor
    (outcome.mapError (.encode frame.id), { session with compressor := some after })

def deliver (surroundings : Surroundings ulong) (quality : UInt8) (frame : Frame) : Step Unit := do
  let session ← .read
  match session.compressor with
  | some compressor => do
      let jpeg ← encodeWith target (surroundings.compression frame.id.sequence) frame quality
        compressor
      let gate ← onPipeline fun pipeline => withCurrentGeneration pipeline jpeg.id (some ())
      .ofOutcome (gate.mapError .beforeSink)
      println (.encoded frame jpeg)
  | none => println (.encoderInput frame)

/-- One round of `while let Some(frame) = pipeline.try_take()`. -/
def deliverNext (surroundings : Surroundings ulong) (quality : UInt8) : Step Bool := do
  let taken ← onPipeline tryTake
  match taken with
  | none => pure false
  | some frame => do
      deliver target surroundings quality frame
      pure true

/-- From `begin_generation` on. -/
def runPattern (surroundings : Surroundings ulong) (budget : Nat) (options : PatternOptions)
    (encode : Bool) (layout : FrameLayout) : Step Unit := do
  let began ← onPipeline fun pipeline => beginGeneration pipeline 1
  let _ ← .ofOutcome (ofExcept .pipeline began)
  println (.pipeline layout options.queueCapacity 1)
  println (.plan options.quality encode)
  .forEach (fun sequence => capture target surroundings layout (UInt64.ofNat sequence))
    (List.range options.frames)
  initCompressor surroundings encode
  .whileLoop (deliverNext target surroundings options.quality) budget
  let session ← .read
  println (.summary (snapshot session.pipeline))

def simulatePattern (surroundings : Surroundings ulong) (budget : Nat) (options : PatternOptions)
    (encode : Bool) : Outcome PatternError Unit × List Line :=
  let start : Outcome PatternError (FrameLayout × FramePipeline) := do
    let layout ← admitPattern target options
    let pipeline ← ofExcept .pipeline (new options.queueCapacity 0)
    .ok (layout, pipeline)
  match start with
  | .ok (layout, pipeline) =>
      let (outcome, session) :=
        (runPattern target surroundings budget options encode layout).run ⟨pipeline, none, []⟩
      (outcome, session.printed)
  | .err error => (.err error, [])
  | .panicked => (.panicked, [])
  | .diverged => (.diverged, [])

end Model

/-! The queue between the two loops. -/

/-- The test pattern of a sequence number. -/
def patternFrame (layout : FrameLayout) (sequence : Nat) : Frame where
  id := ⟨1, UInt64.ofNat sequence⟩
  layout
  pixels := image (squareOf (UInt64.ofNat sequence).toNat layout.width.toNat layout.height.toNat)
    layout.width.toNat layout.height.toNat

/-- The newest sequences that a queue of this capacity holds. -/
def retained (capacity count : Nat) : List Nat :=
  List.range' (count - min count capacity) (min count capacity)

def queueAfter (layout : FrameLayout) (capacity count : Nat) : FramePipeline where
  state := {
    value := {
      generation := 1
      capacity
      lastSequence := if count = 0 then none else some (UInt64.ofNat (count - 1))
      frames := (retained capacity count).map (patternFrame layout)
      stats := { accepted := count, droppedCapacity := count - min count capacity } }
    poisoned := false }

section Queue
variable {capacity count : Nat}

theorem retained_room (room : count < capacity) :
    retained capacity (count + 1) = retained capacity count ++ [count] := by
  unfold retained
  rw [Nat.min_eq_left (by omega), Nat.min_eq_left (by omega), Nat.sub_self, Nat.sub_self,
    List.range'_concat]
  simp

theorem retained_full (positive : 0 < capacity) (full : capacity ≤ count) :
    ∃ rest, retained capacity count = (count - capacity) :: rest ∧
      retained capacity (count + 1) = rest ++ [count] := by
  unfold retained
  obtain ⟨fewer, rfl⟩ := Nat.exists_eq_succ_of_ne_zero (Nat.ne_of_gt positive)
  rw [Nat.min_eq_right full, Nat.min_eq_right (by omega), List.range'_succ]
  refine ⟨_, rfl, ?_⟩
  rw [List.range'_concat]
  congr 2 <;> omega

theorem length_retained : (retained capacity count).length = min count capacity :=
  List.length_range'

theorem sequence_increases (small : count ≤ 1000) (some : count ≠ 0) :
    ¬ UInt64.ofNat count ≤ UInt64.ofNat (count - 1) := by
  rw [UInt64.le_iff_toNat_le, UInt64.toNat_ofNat', UInt64.toNat_ofNat',
    Nat.mod_eq_of_lt (by omega), Nat.mod_eq_of_lt (by omega)]
  omega

theorem saturating_add_one {counter : Nat} (small : counter ≤ 1000) :
    saturatingAdd counter 1 = counter + 1 :=
  Nat.min_eq_left (Nat.le_trans (Nat.succ_le_succ small) (by decide))

/-- One more submission: the queue takes it, and a full one drops its oldest
frame. -/
theorem submit_next (layout : FrameLayout) (positive : 0 < capacity) (small : count ≤ 1000) :
    submit (queueAfter layout capacity count) (patternFrame layout count) =
      (queueAfter layout capacity (count + 1),
        if count < capacity then .queued else .droppedOldest ⟨1, UInt64.ofNat (count - capacity)⟩)
    := by
  have fresh : ((queueAfter layout capacity count).state.value.lastSequence.filter fun last =>
      decide ((patternFrame layout count).id.sequence ≤ last)) = none := by
    by_cases first : count = 0
    · simp [queueAfter, first]
    · simp [queueAfter, patternFrame, first, Option.filter, sequence_increases small first]
  have length : (queueAfter layout capacity count).state.value.frames.length =
      min count capacity := by
    rw [← length_retained]
    exact List.length_map _
  unfold submit
  simp only [lock_state_eq]
  rw [if_neg (by simp [queueAfter, patternFrame]), fresh]
  by_cases room : count < capacity
  · have notFull : ¬ (queueAfter layout capacity count).state.value.frames.length =
        (queueAfter layout capacity count).state.value.capacity := by
      rw [length]
      change ¬ min count capacity = capacity
      omega
    have dropped : count - min count capacity = count + 1 - min (count + 1) capacity := by omega
    simp only [notFull, if_false, if_pos room]
    simp [release, queueAfter, retained_room room, saturating_add_one small, patternFrame, dropped]
  · have full : (queueAfter layout capacity count).state.value.frames.length =
        (queueAfter layout capacity count).state.value.capacity := by
      rw [length]
      change min count capacity = capacity
      omega
    obtain ⟨rest, oldest, kept⟩ := retained_full positive (Nat.not_lt.mp room)
    have dropped : saturatingAdd (count - min count capacity) 1 =
        count + 1 - min (count + 1) capacity := by
      rw [saturating_add_one (by omega)]
      omega
    simp only [full, if_true, if_neg room]
    simp [release, queueAfter, oldest, kept, saturating_add_one small, patternFrame, dropped]

/-- The queue after all submissions and some takes. -/
def queueDrained (layout : FrameLayout) (capacity count taken : Nat) : FramePipeline :=
  { state := { (queueAfter layout capacity count).state with
      value := { (queueAfter layout capacity count).state.value with
        frames := ((retained capacity count).drop taken).map (patternFrame layout)
        stats := {
          accepted := count
          dequeued := taken
          droppedCapacity := count - min count capacity } } } }

theorem take_next (layout : FrameLayout) {taken : Nat} (small : count ≤ 1000)
    (more : taken < min count capacity) :
    tryTake (queueDrained layout capacity count taken) =
      (queueDrained layout capacity count (taken + 1),
        some (patternFrame layout (count - min count capacity + taken))) := by
  have inside : taken < (retained capacity count).length := by
    rw [length_retained]
    exact more
  have here : (retained capacity count)[taken] = count - min count capacity + taken := by
    simp [retained]
  have split : (queueDrained layout capacity count taken).state.value.frames =
      patternFrame layout (count - min count capacity + taken) ::
        ((retained capacity count).drop (taken + 1)).map (patternFrame layout) := by
    change ((retained capacity count).drop taken).map (patternFrame layout) = _
    rw [List.drop_eq_getElem_cons inside, here, List.map_cons]
  have counted : saturatingAdd taken 1 = taken + 1 := saturating_add_one (by omega)
  unfold tryTake
  simp only [lock_state_eq, split]
  simp [release, queueDrained, counted]

theorem take_last (layout : FrameLayout) :
    tryTake (queueDrained layout capacity count (min count capacity)) =
      (queueDrained layout capacity count (min count capacity), none) := by
  have empty : (queueDrained layout capacity count (min count capacity)).state.value.frames =
      [] := by
    change ((retained capacity count).drop (min count capacity)).map (patternFrame layout) = []
    rw [List.drop_of_length_le (Nat.le_of_eq length_retained), List.map_nil]
  unfold tryTake
  simp only [lock_state_eq, empty]
  rfl

/-- The gate lets a frame of the running generation through. -/
theorem gate_open (layout : FrameLayout) {taken : Nat} {id : FrameId}
    (current : id.generation = 1) :
    withCurrentGeneration (queueDrained layout capacity count taken) id (some ()) =
      (queueDrained layout capacity count taken, .ok ()) := by
  unfold withCurrentGeneration
  rw [lock_state_eq]
  dsimp only
  have same : ¬ id.generation ≠ (queueDrained layout capacity count taken).state.value.generation :=
    Decidable.not_not.mpr current
  rw [if_neg same]
  rfl

end Queue

/-! The run. -/

/-- A full queue gives up the frame that many places back. -/
def droppedBy (capacity sequence : Nat) : Option FrameId :=
  if sequence < capacity then none else some ⟨1, UInt64.ofNat (sequence - capacity)⟩

def captureLine (layout : FrameLayout) (capacity sequence : Nat) : Line :=
  .captured (patternFrame layout sequence) (droppedBy capacity sequence)

/-- The line of a frame that reached the end of the pipeline. -/
def Delivers (layout : FrameLayout) (quality : UInt8) (encode : Bool) (sequence : Nat)
    (line : Line) : Prop :=
  if encode then
    ∃ bytes, line = .encoded (patternFrame layout sequence)
      (compressed (patternFrame layout sequence) quality bytes)
  else line = .encoderInput (patternFrame layout sequence)

def summaryOf (capacity count : Nat) : PipelineSnapshot where
  generation := 1
  queued := 0
  capacity
  stats := {
    accepted := count
    dequeued := min count capacity
    droppedCapacity := count - min count capacity }

section Run
variable {target ulong : Target} {surroundings : Surroundings ulong} {layout : FrameLayout}
  {session : Session} {failed : PatternError → Session → Prop}

theorem println_meets (line : Line) :
    Meets (println line) session
      (fun _ after => after = { session with printed := session.printed ++ [line] }) failed :=
  meets_modify rfl

theorem on_pipeline_meets {Value : Type} (call : FramePipeline → FramePipeline × Value)
    {pipeline : FramePipeline} {value : Value}
    (answer : call session.pipeline = (pipeline, value)) :
    Meets (onPipeline call) session
      (fun found after => found = value ∧ after = { session with pipeline }) failed := by
  have ran : (onPipeline call).run session = (.ok value, { session with pipeline }) := by
    simp only [onPipeline, answer]
  unfold Meets
  rw [ran]
  exact ⟨rfl, rfl⟩

theorem admit_pattern_eq {options : PatternOptions} (few : options.frames ≤ 1000)
    (accepted : newLayout target options.width options.height = .ok layout)
    (work : layout.byteLen * options.frames ≤ maxPatternWorkBytes) :
    admitPattern target options = .ok layout := by
  have wide : maxPatternWorkBytes ≤ target.usizeMax := by cases target <;> decide
  have whole : options.frames % (target.usizeMax + 1) = options.frames := by
    apply Nat.mod_eq_of_lt
    cases target <;> simp only [Target.usizeMax] <;> omega
  -- what the queue retains is part of the work
  have part : layout.byteLen * min options.queueCapacity options.frames ≤
      layout.byteLen * options.frames := Nat.mul_le_mul_left _ (Nat.min_le_right _ _)
  unfold admitPattern
  rw [accepted]
  simp only [Outcome.mapError, Outcome.ok_bind, whole]
  rw [checkedMul_some target _ _ (by omega), okOr_some, Outcome.ok_bind, if_neg (by omega),
    checkedMul_some target _ _ (by omega), okOr_some, Outcome.ok_bind, if_neg (by omega)]

theorem capture_meets {capacity count : Nat} (canonical : Canonical layout)
    (positive : 0 < capacity) (small : count ≤ 1000)
    (granted : surroundings.granted (UInt64.ofNat count) = true) (printed : List Line) :
    Meets (capture target surroundings layout (UInt64.ofNat count))
      ⟨queueAfter layout capacity count, none, printed⟩
      (fun _ after => after = ⟨queueAfter layout capacity (count + 1), none,
        printed ++ [captureLine layout capacity count]⟩) failed := by
  unfold capture
  rw [granted, test_pattern_eq target _ canonical]
  refine meets_outcome_bind trivial ?_ nofun
  rintro _ ⟨⟩
  apply meets_bind _ (on_pipeline_meets _ (submit_next layout positive small))
  rintro _ _ ⟨rfl, rfl⟩
  unfold captureLine droppedBy
  by_cases room : count < capacity
  · rw [if_pos room, if_pos room]
    exact println_meets _
  · rw [if_neg room, if_neg room]
    exact println_meets _

theorem encode_with_meets {environment : Environment ulong} {frame : Frame} {quality : UInt8}
    (valid : ValidFrame frame) (range : 1 ≤ quality ∧ quality ≤ 100)
    (succeeds : Succeeds target environment frame quality) (compressor : Compressor) :
    Meets (encodeWith target environment frame quality compressor) session
      (fun jpeg after => (∃ bytes, jpeg = compressed frame quality bytes) ∧
        ∃ compressor, after = { session with compressor := some compressor }) failed := by
  obtain ⟨returns, values, errors⟩ :=
    (compress_bgrx_succeeds valid range succeeds compressor).elim
  obtain ⟨jpeg, ended⟩ | ⟨refusal, ended⟩ := Outcome.returns_cases returns
  · unfold Meets encodeWith
    simp only [ended, Outcome.mapError]
    exact ⟨values jpeg ended, _, rfl⟩
  · exact (errors refusal ended).elim

/-- What the second loop keeps: so many frames are taken from the queue, and so
many of them have their lines. -/
structure Drained (layout : FrameLayout) (quality : UInt8) (encode : Bool) (capacity count : Nat)
    (before : List Line) (taken told : Nat) (session : Session) : Prop where
  queue : session.pipeline = queueDrained layout capacity count taken
  encoder : session.compressor.isSome = encode
  lines : ∃ deliveries, session.printed = before ++ deliveries ∧
    List.Forall₂ (Delivers layout quality encode)
      (List.range' (count - min count capacity) told) deliveries

section Draining
variable {capacity count taken : Nat} {quality : UInt8} {encode : Bool} {before : List Line}

theorem drained_println {told : Nat} {line : Line}
    (held : Drained layout quality encode capacity count before taken told session)
    (delivers : Delivers layout quality encode (count - min count capacity + told) line) :
    Meets (println line) session
      (fun _ after => Drained layout quality encode capacity count before taken (told + 1) after)
      failed := by
  obtain ⟨deliveries, printed, each⟩ := held.lines
  apply (println_meets _).weaken _ fun _ _ fails => fails
  rintro _ _ rfl
  refine ⟨held.queue, held.encoder, deliveries ++ [line], ?_, ?_⟩
  · rw [printed, List.append_assoc]
  · rw [List.range'_concat, Nat.one_mul]
    exact List.rel_append each (.cons delivers .nil)

theorem deliver_meets (canonical : Canonical layout) (range : 1 ≤ quality ∧ quality ≤ 100)
    (encoder : encode = true → Succeeds target
      (surroundings.compression (UInt64.ofNat (count - min count capacity + taken)))
      (patternFrame layout (count - min count capacity + taken)) quality)
    (held : Drained layout quality encode capacity count before (taken + 1) taken session) :
    Meets (deliver target surroundings quality
        (patternFrame layout (count - min count capacity + taken))) session
      (fun _ after =>
        Drained layout quality encode capacity count before (taken + 1) (taken + 1) after)
      failed := by
  have valid : ValidFrame (patternFrame layout (count - min count capacity + taken)) :=
    ⟨canonical, by rw [patternFrame, length_image]; exact (canonical_size canonical).symm⟩
  have kind := held.encoder
  unfold deliver
  apply meets_read_bind
  cases found : session.compressor with
  | none =>
      have plain : encode = false := by
        rw [← kind, found]
        rfl
      apply drained_println held
      rw [Delivers, plain]
      rfl
  | some compressor =>
      have encodes : encode = true := by
        rw [← kind, found]
        rfl
      apply meets_bind _ (encode_with_meets valid range (encoder encodes) compressor)
      rintro jpeg _ ⟨⟨bytes, rfl⟩, next, rfl⟩
      have passes := @gate_open capacity count layout (taken + 1) (compressed (patternFrame layout
        (count - min count capacity + taken)) quality bytes).id rfl
      rw [← held.queue] at passes
      apply meets_bind _ (on_pipeline_meets _ passes)
      rintro _ _ ⟨rfl, rfl⟩
      refine meets_outcome_bind trivial ?_ nofun
      rintro _ ⟨⟩
      have still : Drained layout quality encode capacity count before (taken + 1) taken
          ⟨session.pipeline, some next, session.printed⟩ := ⟨held.queue, encodes.symm, held.lines⟩
      apply drained_println still
      rw [Delivers, encodes]
      exact ⟨bytes, rfl⟩

theorem deliver_next_meets (canonical : Canonical layout) (range : 1 ≤ quality ∧ quality ≤ 100)
    (few : count ≤ 1000) (more : taken < min count capacity)
    (encoder : encode = true → ∀ sequence < count, Succeeds target
      (surroundings.compression (UInt64.ofNat sequence)) (patternFrame layout sequence) quality)
    (held : Drained layout quality encode capacity count before taken taken session) :
    Meets (deliverNext target surroundings quality) session
      (fun again after => again = true ∧
        Drained layout quality encode capacity count before (taken + 1) (taken + 1) after)
      failed := by
  have answer := take_next layout few more
  rw [← held.queue] at answer
  unfold deliverNext
  apply meets_bind _ (on_pipeline_meets _ answer)
  rintro _ _ ⟨rfl, rfl⟩
  have holding : Drained layout quality encode capacity count before (taken + 1) taken
      ⟨queueDrained layout capacity count (taken + 1), session.compressor, session.printed⟩ :=
    ⟨rfl, held.encoder, held.lines⟩
  have inside : count - min count capacity + taken < count := by omega
  apply meets_bind _
    (deliver_meets canonical range (fun encodes => encoder encodes _ inside) holding)
  intro _ after delivered
  exact meets_pure ⟨rfl, delivered⟩

theorem deliver_last_meets
    (held : Drained layout quality encode capacity count before (min count capacity)
      (min count capacity) session) :
    Meets (deliverNext target surroundings quality) session
      (fun again after => again = false ∧
        Drained layout quality encode capacity count before (min count capacity)
          (min count capacity) after)
      failed := by
  have answer := @take_last capacity count layout
  rw [← held.queue] at answer
  unfold deliverNext
  apply meets_bind _ (on_pipeline_meets _ answer)
  rintro _ _ ⟨rfl, rfl⟩
  exact meets_pure ⟨rfl, held⟩

end Draining

/-- The surroundings do their part for every frame of the run. -/
structure Cooperative (target : Target) (surroundings : Surroundings ulong) (layout : FrameLayout)
    (options : PatternOptions) (encode : Bool) : Prop where
  memory : ∀ sequence < options.frames, surroundings.granted (UInt64.ofNat sequence) = true
  handle : encode = true → surroundings.handle = .ok ()
  encoder : encode = true → ∀ sequence < options.frames, Succeeds target
    (surroundings.compression (UInt64.ofNat sequence)) (patternFrame layout sequence)
    options.quality

/-- The lines of the whole run; the encoder decides what its own contain. -/
def Printed (layout : FrameLayout) (options : PatternOptions) (encode : Bool)
    (lines : List Line) : Prop :=
  ∃ deliveries, lines =
      [.pipeline layout options.queueCapacity 1, .plan options.quality encode] ++
      (List.range options.frames).map (captureLine layout options.queueCapacity) ++ deliveries ++
      [.summary (summaryOf options.queueCapacity options.frames)] ∧
    List.Forall₂ (Delivers layout options.quality encode)
      (List.range' (options.frames - min options.frames options.queueCapacity)
        (min options.frames options.queueCapacity)) deliveries

theorem init_compressor_meets {encode : Bool}
    (handle : encode = true → surroundings.handle = .ok ()) (fresh : session.compressor = none) :
    Meets (initCompressor surroundings encode) session
      (fun _ after => after.pipeline = session.pipeline ∧ after.printed = session.printed ∧
        after.compressor.isSome = encode) failed := by
  unfold initCompressor
  cases encode with
  | false => exact meets_pure ⟨rfl, rfl, by rw [fresh]; rfl⟩
  | true =>
      rw [if_pos rfl, handle rfl]
      refine meets_outcome_bind trivial ?_ nofun
      rintro _ ⟨⟩
      exact meets_modify ⟨rfl, rfl, rfl⟩

/-- The session in the first loop, before the round of this number. -/
def sessionAt (layout : FrameLayout) (options : PatternOptions) (encode : Bool) (count : Nat) :
    Session where
  pipeline := queueAfter layout options.queueCapacity count
  compressor := none
  printed := [.pipeline layout options.queueCapacity 1, .plan options.quality encode] ++
    (List.range count).map (captureLine layout options.queueCapacity)

theorem captures_meets {options : PatternOptions} {encode : Bool} (canonical : Canonical layout)
    (few : options.frames ≤ 1000) (positive : 0 < options.queueCapacity)
    (memory : ∀ sequence < options.frames, surroundings.granted (UInt64.ofNat sequence) = true) :
    Meets (.forEach (fun sequence => capture target surroundings layout (UInt64.ofNat sequence))
        (List.range options.frames)) (sessionAt layout options encode 0)
      (fun _ after => after = sessionAt layout options encode options.frames) failed := by
  apply meets_forRange (fun count after => after = sessionAt layout options encode count) _ _ rfl
  rintro count _ inside rfl
  apply (capture_meets canonical positive (by omega) (memory count inside) _).weaken _
    fun _ _ fails => fails
  rintro _ _ rfl
  rw [sessionAt, List.range_succ, List.map_append, ← List.append_assoc]
  rfl

theorem begin_first {capacity : Nat} {pipeline : FramePipeline} (layout : FrameLayout)
    (created : new capacity 0 = .ok pipeline) :
    beginGeneration pipeline 1 = (queueAfter layout capacity 0, .ok 0) := by
  unfold new at created
  split_ifs at created
  cases created
  rfl

theorem snapshot_drained (layout : FrameLayout) (capacity count : Nat) :
    snapshot (queueDrained layout capacity count (min count capacity)) =
      summaryOf capacity count := by
  have empty : (retained capacity count).drop (min count capacity) = [] :=
    List.drop_of_length_le (Nat.le_of_eq length_retained)
  unfold snapshot
  rw [lock_state_eq]
  simp [queueDrained, queueAfter, summaryOf, empty]

theorem run_pattern_meets {options : PatternOptions} {encode : Bool} {budget : Nat}
    {pipeline : FramePipeline} (canonical : Canonical layout) (few : options.frames ≤ 1000)
    (positive : 0 < options.queueCapacity)
    (range : 1 ≤ options.quality ∧ options.quality ≤ 100)
    (cooperative : Cooperative target surroundings layout options encode)
    (enough : min options.frames options.queueCapacity < budget)
    (created : new options.queueCapacity 0 = .ok pipeline) :
    Meets (runPattern target surroundings budget options encode layout) ⟨pipeline, none, []⟩
      (fun _ after => Printed layout options encode after.printed) (fun _ _ => False) := by
  unfold runPattern
  apply meets_bind _ (on_pipeline_meets _ (begin_first layout created))
  rintro _ _ ⟨rfl, rfl⟩
  refine meets_outcome_bind trivial ?_ nofun
  rintro _ ⟨⟩
  apply meets_bind _ (println_meets _)
  rintro _ _ rfl
  apply meets_bind _ (println_meets _)
  rintro _ _ rfl
  apply meets_bind _ (captures_meets canonical few positive cooperative.memory)
  rintro _ _ rfl
  apply meets_bind _ (init_compressor_meets cooperative.handle rfl)
  rintro _ ready ⟨queue, printed, kind⟩
  -- the second loop: one frame a round, until the queue is empty
  apply meets_bind _ (meets_whileLoop
    (fun taken => Drained layout options.quality encode options.queueCapacity options.frames
      ready.printed taken taken)
    (Drained layout options.quality encode options.queueCapacity options.frames ready.printed
      (min options.frames options.queueCapacity) (min options.frames options.queueCapacity))
    (min options.frames options.queueCapacity)
    (fun taken _ more held => deliver_next_meets canonical range few more cooperative.encoder held)
    (fun _ held => deliver_last_meets held)
    ⟨queue, kind, [], (List.append_nil _).symm, .nil⟩ budget enough)
  intro _ after drained
  obtain ⟨deliveries, lines, each⟩ := drained.lines
  apply meets_read_bind
  apply (println_meets _).weaken _ fun _ _ fails => fails
  rintro _ _ rfl
  refine ⟨deliveries, ?_, each⟩
  have final : snapshot after.pipeline = summaryOf options.queueCapacity options.frames := by
    rw [drained.queue, snapshot_drained]
  dsimp only
  rw [lines, printed, final]
  rfl

end Run

theorem parsed_ranges {target : Target} {arguments : List String} {options : PatternOptions}
    (parsed : parsePatternArgs target arguments = .ok options) :
    (1 ≤ options.frames ∧ options.frames ≤ 1000) ∧
      (1 ≤ options.queueCapacity ∧ options.queueCapacity ≤ 256) ∧
      1 ≤ options.quality.toNat ∧ options.quality.toNat ≤ 100 := by
  cases arguments with
  | nil => cases parsed
  | cons dimensions rest =>
      obtain ⟨pairs, -, denotes⟩ := (parse_pattern_args_ok_iff _ _ _).mp parsed
      exact ⟨denotes.frameRange, denotes.queueRange, denotes.qualityRange⟩

/-- The offline run delivers the newest frames: every submission is taken, the
older ones are dropped for it, and what is left when the submissions end is
delivered in order, with the submitted pixels. -/
theorem pattern_run_delivers_newest {target ulong : Target} (surroundings : Surroundings ulong)
    (arguments : List String) (options : PatternOptions) (layout : FrameLayout) (encode : Bool)
    (budget : Nat) (parsed : parsePatternArgs target arguments = .ok options)
    (accepted : newLayout target options.width options.height = .ok layout)
    (work : layout.byteLen * options.frames ≤ maxPatternWorkBytes)
    (cooperative : Cooperative target surroundings layout options encode)
    (enough : min options.frames options.queueCapacity < budget) :
    (simulatePattern target surroundings budget options encode).1 = .ok () ∧
      Printed layout options encode
        (simulatePattern target surroundings budget options encode).2 ∧
      ∀ sequence < options.frames,
        testPattern target true ⟨1, UInt64.ofNat sequence⟩ layout =
          .ok (patternFrame layout sequence) := by
  have canonical := ((new_layout_ok_iff _ _ _).mp accepted).2.2
  obtain ⟨frames, queue, quality⟩ := parsed_ranges parsed
  have range : 1 ≤ options.quality ∧ options.quality ≤ 100 := by
    rw [UInt8.le_iff_toNat_le, UInt8.le_iff_toNat_le]
    exact quality
  obtain ⟨pipeline, created⟩ : ∃ pipeline, new options.queueCapacity 0 = .ok pipeline :=
    ⟨_, if_neg (Nat.ne_of_gt queue.1)⟩
  have start : simulatePattern target surroundings budget options encode =
      (((runPattern target surroundings budget options encode layout).run ⟨pipeline, none, []⟩).1,
        ((runPattern target surroundings budget options encode layout).run
          ⟨pipeline, none, []⟩).2.printed) := by
    unfold simulatePattern
    rw [admit_pattern_eq frames.2 accepted work, created]
    rfl
  obtain ⟨returns, values, errors⟩ :=
    (run_pattern_meets canonical frames.2 queue.1 range cooperative enough created).elim
  rw [start]
  obtain ⟨_, ended⟩ | ⟨error, ended⟩ := Outcome.returns_cases returns
  · exact ⟨ended, values () ended, fun sequence _ => test_pattern_eq target _ canonical⟩
  · exact (errors error ended).elim

/-- A library that writes the shortest file the boundary check accepts. -/
def sampleLibrary : Library .bits64 where
  bufSize := fun _ _ _ => ⟨6, by decide⟩
  compress := fun request => {
    result := 0
    pointerChanged := false
    jpegSize := ⟨4, by decide⟩
    destination :=
      if request.destination.length = 6 then [0xff, 0xd8, 0xff, 0xd9, 0, 0]
      else request.destination }
  globalError := none
  handleError := none
  inside := by
    intro request
    dsimp only
    split
    · rename_i six
      rw [six]
      rfl
    · rfl

def sampleSurroundings : Surroundings .bits64 where
  granted := fun _ => true
  handle := .ok ()
  compression := fun _ => ⟨sampleLibrary, .ok 0, .ok 0⟩

theorem sample_succeeds (frame : Frame) (quality : UInt8) :
    Succeeds .bits64 ⟨sampleLibrary, .ok 0, .ok 0⟩ frame quality := by
  refine ⟨⟨0, rfl⟩, ⟨0, rfl⟩, 6, by rfl, ?_⟩
  intro destination six
  have written : (sampleLibrary.compress (compressRequest frame quality (dimensionsOf frame)
      destination 6)).destination = [0xff, 0xd8, 0xff, 0xd9, 0, 0] := if_pos six
  have file : Bracketed (List.take 4 [0xff, 0xd8, 0xff, 0xd9, 0, 0]) :=
    ⟨by decide, by decide, by decide⟩
  refine ⟨rfl, rfl, (by decide : 4 ≤ 6), ?_⟩
  rw [written]
  exact file

-- Three frames of one pixel through a queue of two, encoded.
theorem pattern_run_delivers_two_of_three :
    let options : PatternOptions := ⟨1, 1, 3, 2, 80⟩
    (simulatePattern .bits64 sampleSurroundings 3 options true).1 = .ok () ∧
      Printed ⟨1, 1, 4, 4⟩ options true
        (simulatePattern .bits64 sampleSurroundings 3 options true).2 ∧
      ∀ sequence < options.frames,
        testPattern .bits64 true ⟨1, UInt64.ofNat sequence⟩ ⟨1, 1, 4, 4⟩ =
          .ok (patternFrame ⟨1, 1, 4, 4⟩ sequence) :=
  pattern_run_delivers_newest sampleSurroundings ["1x1", "--queue", "2", "--frames", "3"] _ _ true 3
    (by decide +kernel) (by decide) (by decide)
    ⟨fun _ _ => rfl, fun _ => rfl, fun _ _ _ => sample_succeeds _ _⟩ (by decide)

end Smiusb.PatternRun
