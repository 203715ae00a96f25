import Smiusb.PatternRun

/-!
The offline run of `simulate_pattern` when its surroundings do not do their
part. A pattern may find no memory, TurboJPEG may give no handle or refuse a
frame. Wherever that happens the run stops with the error of that place, and
what it has printed is the record of the whole run up to there. The queue
itself never refuses anything.
-/

namespace Smiusb.PatternFailures
open Execution Bytes Methods FrameQueue FrameLayouts TestPattern SinkGate JpegBoundary CommandLine
  PatternRun

/-- A run that has stopped: its error, and the lines so far. -/
inductive Halted {ulong : Target} (surroundings : Surroundings ulong) (layout : FrameLayout)
    (options : PatternOptions) (encode : Bool) : PatternError → List Line → Prop
  | capture (count : Nat) (inside : count < options.frames)
      (refused : surroundings.granted (UInt64.ofNat count) = false) :
      Halted surroundings layout options encode (.generate (.allocationFailed layout.byteLen))
        (sessionAt layout options encode count).printed
  | encoder (text : Option String) (wanted : encode = true)
      (failed : surroundings.handle = .error text) :
      Halted surroundings layout options encode (.noEncoder (errorString text))
        (sessionAt layout options encode options.frames).printed
  | delivery (told : Nat) (more : told < min options.frames options.queueCapacity)
      (wanted : encode = true) (refusal : Refusal) (deliveries : List Line)
      (each : List.Forall₂ (Delivers layout options.quality encode)
        (List.range' (options.frames - min options.frames options.queueCapacity) told)
        deliveries) :
      Halted surroundings layout options encode
        (.encode ⟨1, UInt64.ofNat
          (options.frames - min options.frames options.queueCapacity + told)⟩ refusal)
        ((sessionAt layout options encode options.frames).printed ++ deliveries)

section Run
variable {target ulong : Target} {surroundings : Surroundings ulong} {layout : FrameLayout}
  {session : Session}

theorem test_pattern_refused (target : Target) (id : FrameId) (canonical : Canonical layout) :
    testPattern target false id layout = .err (.allocationFailed layout.byteLen) := by
  unfold testPattern
  rw [validate_layout_canonical canonical, Outcome.ok_bind]
  dsimp only
  rw [place_square_eq target id.sequence canonical.width.2 canonical.height.2
    ⟨canonical.width.1, canonical.height.1⟩, Outcome.ok_bind]
  rfl

theorem capture_refused {returned : Unit → Session → Prop} {count : Nat}
    (canonical : Canonical layout)
    (refused : surroundings.granted (UInt64.ofNat count) = false) :
    Meets (capture target surroundings layout (UInt64.ofNat count)) session returned
      fun error after =>
        error = .generate (.allocationFailed layout.byteLen) ∧ after = session := by
  unfold capture
  rw [refused, test_pattern_refused target _ canonical]
  refine meets_outcome_bind trivial nofun ?_
  rintro _ ⟨⟩
  exact ⟨rfl, rfl⟩

theorem captures_end {options : PatternOptions} {encode : Bool} (canonical : Canonical layout)
    (few : options.frames ≤ 1000) (positive : 0 < options.queueCapacity) :
    Meets (.forEach (fun sequence => capture target surroundings layout (UInt64.ofNat sequence))
        (List.range options.frames)) (sessionAt layout options encode 0)
      (fun _ after => after = sessionAt layout options encode options.frames)
      fun error after => Halted surroundings layout options encode error after.printed := by
  apply meets_forRange (fun count after => after = sessionAt layout options encode count) _ _ rfl
  rintro count _ inside rfl
  cases granted : surroundings.granted (UInt64.ofNat count) with
  | false =>
      apply (capture_refused canonical granted).weaken fun _ _ returned => returned
      rintro _ _ ⟨rfl, rfl⟩
      exact .capture count inside granted
  | true =>
      apply (capture_meets canonical positive (by omega) granted _).weaken _
        fun _ _ fails => fails
      rintro _ _ rfl
      rw [sessionAt, List.range_succ, List.map_append, ← List.append_assoc]
      rfl

/-- The compressor's buffer never grows past its limit. -/
def Bounded (session : Session) : Prop :=
  ∀ compressor, session.compressor = some compressor →
    compressor.scratch.contents.length ≤ maxJpegBufferBytes

theorem init_compressor_ends {encode : Bool} (fresh : session.compressor = none) :
    Meets (initCompressor surroundings encode) session
      (fun _ after => after.pipeline = session.pipeline ∧ after.printed = session.printed ∧
        after.compressor.isSome = encode ∧ Bounded after)
      fun error after => after = session ∧ encode = true ∧
        ∃ text, surroundings.handle = .error text ∧ error = .noEncoder (errorString text) := by
  unfold initCompressor
  cases encode with
  | false => exact meets_pure ⟨rfl, rfl, by rw [fresh]; rfl, by simp [Bounded, fresh]⟩
  | true =>
      rw [if_pos rfl]
      cases handle : surroundings.handle with
      | ok _ =>
          apply meets_ok_bind rfl
          refine meets_modify ⟨rfl, rfl, rfl, ?_⟩
          rintro compressor ⟨⟩
          exact Nat.zero_le _
      | error text =>
          refine meets_outcome_bind trivial nofun ?_
          rintro _ ⟨⟩
          exact ⟨rfl, rfl, text, rfl, rfl⟩

theorem encode_with_ends {environment : Environment ulong} {frame : Frame} (quality : UInt8)
    (valid : ValidFrame frame) {compressor : Compressor}
    (held : compressor.scratch.contents.length ≤ maxJpegBufferBytes) :
    Meets (encodeWith target environment frame quality compressor) session
      (fun jpeg after => (∃ bytes, jpeg = compressed frame quality bytes) ∧
        ∃ next, next.scratch.contents.length ≤ maxJpegBufferBytes ∧
          after = { session with compressor := some next })
      fun error after => after.printed = session.printed ∧
        ∃ refusal, error = .encode frame.id refusal := by
  obtain ⟨returns, values, errors⟩ :=
    (compress_bgrx_meets target environment valid quality held).elim
  obtain ⟨jpeg, ended⟩ | ⟨refusal, ended⟩ := Outcome.returns_cases returns
  · obtain ⟨bounded, _, _, id, width, height, chosen, _⟩ := values jpeg ended
    have shape : jpeg = compressed frame quality jpeg.bytes := by
      cases jpeg
      simp_all [compressed]
    unfold Meets encodeWith
    simp only [ended, Outcome.mapError]
    exact ⟨⟨_, shape⟩, _, bounded, rfl⟩
  · unfold Meets encodeWith
    simp only [ended, Outcome.mapError]
    exact ⟨trivial, refusal, rfl⟩

section Draining
variable {options : PatternOptions} {encode : Bool} {taken : Nat}

/-- What the second loop keeps. -/
structure Delivering (layout : FrameLayout) (options : PatternOptions) (encode : Bool)
    (taken told : Nat) (session : Session) : Prop where
  drained : Drained layout options.quality encode options.queueCapacity options.frames
    (sessionAt layout options encode options.frames).printed taken told session
  bounded : Bounded session

theorem delivering_println {told : Nat} {line : Line} {failed : PatternError → Session → Prop}
    (held : Delivering layout options encode taken told session)
    (delivers : Delivers layout options.quality encode
      (options.frames - min options.frames options.queueCapacity + told) line) :
    Meets (println line) session
      (fun _ after => Delivering layout options encode taken (told + 1) after) failed := by
  have drained : Meets (println line) session
      (fun _ after => Drained layout options.quality encode options.queueCapacity options.frames
        (sessionAt layout options encode options.frames).printed taken (told + 1) after) failed :=
    drained_println held.drained delivers
  exact ⟨drained, held.bounded⟩

theorem deliver_ends (canonical : Canonical layout)
    (more : taken < min options.frames options.queueCapacity)
    (held : Delivering layout options encode (taken + 1) taken session) :
    Meets (deliver target surroundings options.quality (patternFrame layout
        (options.frames - min options.frames options.queueCapacity + taken))) session
      (fun _ after => Delivering layout options encode (taken + 1) (taken + 1) after)
      fun error after => Halted surroundings layout options encode error after.printed := by
  have valid : ValidFrame (patternFrame layout
      (options.frames - min options.frames options.queueCapacity + taken)) :=
    ⟨canonical, by rw [patternFrame, length_image]; exact (canonical_size canonical).symm⟩
  have kind := held.drained.encoder
  unfold deliver
  apply meets_read_bind
  cases found : session.compressor with
  | none =>
      have plain : encode = false := by
        rw [← kind, found]
        rfl
      apply delivering_println held
      rw [Delivers, plain]
      rfl
  | some compressor =>
      have encodes : encode = true := by
        rw [← kind, found]
        rfl
      apply meets_bind fun jpeg after => (∃ bytes, jpeg = compressed (patternFrame layout
          (options.frames - min options.frames options.queueCapacity + taken)) options.quality
          bytes) ∧
        ∃ next, next.scratch.contents.length ≤ maxJpegBufferBytes ∧
          after = { session with compressor := some next }
      · apply (encode_with_ends options.quality valid (held.bounded compressor found)).weaken
          fun _ _ encoded => encoded
        rintro _ after ⟨printed, refusal, rfl⟩
        obtain ⟨deliveries, lines, each⟩ := held.drained.lines
        rw [printed, lines]
        exact .delivery taken more encodes refusal deliveries each
      rintro jpeg _ ⟨⟨bytes, rfl⟩, next, bounded, rfl⟩
      have passes := @gate_open options.queueCapacity options.frames layout (taken + 1)
        (compressed (patternFrame layout
          (options.frames - min options.frames options.queueCapacity + taken)) options.quality
          bytes).id rfl
      rw [← held.drained.queue] at passes
      apply meets_bind _ (on_pipeline_meets _ passes)
      rintro _ _ ⟨rfl, rfl⟩
      apply meets_ok_bind rfl
      have still : Delivering layout options encode (taken + 1) taken
          ⟨session.pipeline, some next, session.printed⟩ := by
        refine ⟨⟨held.drained.queue, encodes.symm, held.drained.lines⟩, ?_⟩
        rintro _ ⟨⟩
        exact bounded
      apply delivering_println still
      rw [Delivers, encodes]
      exact ⟨bytes, rfl⟩

theorem deliver_next_ends (canonical : Canonical layout) (few : options.frames ≤ 1000)
    (more : taken < min options.frames options.queueCapacity)
    (held : Delivering layout options encode taken taken session) :
    Meets (deliverNext target surroundings options.quality) session
      (fun again after => again = true ∧
        Delivering layout options encode (taken + 1) (taken + 1) after)
      fun error after => Halted surroundings layout options encode error after.printed := by
  have answer := take_next layout few more
  rw [← held.drained.queue] at answer
  unfold deliverNext
  apply meets_bind _ (on_pipeline_meets _ answer)
  rintro _ _ ⟨rfl, rfl⟩
  have holding : Delivering layout options encode (taken + 1) taken
      ⟨queueDrained layout options.queueCapacity options.frames (taken + 1), session.compressor,
        session.printed⟩ :=
    ⟨⟨rfl, held.drained.encoder, held.drained.lines⟩, held.bounded⟩
  apply meets_bind _ (deliver_ends canonical more holding)
  intro _ after delivered
  exact meets_pure ⟨rfl, delivered⟩

theorem deliver_last_ends {failed : PatternError → Session → Prop}
    (held : Delivering layout options encode (min options.frames options.queueCapacity)
      (min options.frames options.queueCapacity) session) :
    Meets (deliverNext target surroundings options.quality) session
      (fun again after => again = false ∧
        Delivering layout options encode (min options.frames options.queueCapacity)
          (min options.frames options.queueCapacity) after) failed := by
  have answer := @take_last options.queueCapacity options.frames layout
  rw [← held.drained.queue] at answer
  unfold deliverNext
  apply meets_bind _ (on_pipeline_meets _ answer)
  rintro _ _ ⟨rfl, rfl⟩
  exact meets_pure ⟨rfl, held⟩

end Draining

theorem run_pattern_ends {options : PatternOptions} {encode : Bool} {budget : Nat}
    {pipeline : FramePipeline} (canonical : Canonical layout) (few : options.frames ≤ 1000)
    (positive : 0 < options.queueCapacity)
    (enough : min options.frames options.queueCapacity < budget)
    (created : new options.queueCapacity 0 = .ok pipeline) :
    Meets (runPattern target surroundings budget options encode layout) ⟨pipeline, none, []⟩
      (fun _ after => Printed layout options encode after.printed)
      fun error after => Halted surroundings layout options encode error after.printed := by
  unfold runPattern
  apply meets_bind _ (on_pipeline_meets _ (begin_first layout created))
  rintro _ _ ⟨rfl, rfl⟩
  apply meets_ok_bind rfl
  apply meets_bind _ (println_meets _)
  rintro _ _ rfl
  apply meets_bind _ (println_meets _)
  rintro _ _ rfl
  apply meets_bind _ (captures_end canonical few positive)
  rintro _ _ rfl
  apply meets_bind fun _ ready => Delivering layout options encode 0 0 ready
  · apply (init_compressor_ends rfl).weaken
    · rintro _ ready ⟨queue, printed, kind, bounded⟩
      exact ⟨⟨queue, kind, [], by rw [printed, List.append_nil], .nil⟩, bounded⟩
    · rintro error _ ⟨rfl, wanted, text, failed, rfl⟩
      exact .encoder text wanted failed
  intro _ ready delivering
  apply meets_bind _ (meets_whileLoop
    (fun taken => Delivering layout options encode taken taken)
    (Delivering layout options encode (min options.frames options.queueCapacity)
      (min options.frames options.queueCapacity))
    (min options.frames options.queueCapacity)
    (fun taken _ more held => deliver_next_ends canonical few more held)
    (fun _ held => deliver_last_ends held) delivering budget enough)
  intro _ after delivered
  obtain ⟨deliveries, lines, each⟩ := delivered.drained.lines
  apply meets_read_bind
  apply (println_meets _).weaken _ fun _ _ fails => fails
  rintro _ _ rfl
  refine ⟨deliveries, ?_, each⟩
  have final : snapshot after.pipeline = summaryOf options.queueCapacity options.frames := by
    rw [delivered.drained.queue, snapshot_drained]
  dsimp only
  rw [lines, final]
  rfl

theorem new_layout_returns (target : Target) (width height : UInt32) :
    (newLayout target width height).Returns := by
  rw [new_layout_eq]
  split_ifs <;> trivial

theorem admit_pattern_returns (target : Target) (options : PatternOptions) :
    (admitPattern target options).Returns := by
  apply Outcome.returns_bind
  · rw [Outcome.returns_mapError]
    exact new_layout_returns _ _ _
  intro layout _
  apply Outcome.returns_bind (okOr_returns _ _)
  intro totalWork _
  dsimp only
  split
  · trivial
  · apply Outcome.returns_bind (okOr_returns _ _)
    intro residentBytes _
    split <;> trivial

theorem admitted_layout {options : PatternOptions}
    (admitted : admitPattern target options = .ok layout) :
    newLayout target options.width options.height = .ok layout := by
  obtain ⟨found, accepted, rest⟩ := (Outcome.bind_eq_ok_iff _ _ _).mp admitted
  obtain ⟨totalWork, _, rest⟩ := (Outcome.bind_eq_ok_iff _ _ _).mp rest
  dsimp only at rest
  split at rest
  · cases rest
  · obtain ⟨residentBytes, _, rest⟩ := (Outcome.bind_eq_ok_iff _ _ _).mp rest
    split at rest
    · cases rest
    · cases rest
      exact (Outcome.mapError_eq_ok_iff _ _ _).mp accepted

/-- A run that was admitted is the run of its pipeline. -/
theorem simulate_pattern_admitted {options : PatternOptions} {encode : Bool} {budget : Nat}
    {pipeline : FramePipeline} (admitted : admitPattern target options = .ok layout)
    (created : new options.queueCapacity 0 = .ok pipeline) :
    simulatePattern target surroundings budget options encode =
      (((runPattern target surroundings budget options encode layout).run ⟨pipeline, none, []⟩).1,
        ((runPattern target surroundings budget options encode layout).run
          ⟨pipeline, none, []⟩).2.printed) := by
  unfold simulatePattern
  rw [admitted, created]
  rfl

theorem simulate_pattern_refused {options : PatternOptions} {error : PatternError}
    (refused : admitPattern target options = .err error) (encode : Bool) (budget : Nat) :
    simulatePattern target surroundings budget options encode = (.err error, []) := by
  unfold simulatePattern
  rw [refused]
  rfl

end Run

/-- Whatever the allocator and TurboJPEG answer, the run comes back: it is
refused with nothing printed, or complete, or it has stopped at one of three
places with the record up to there. -/
theorem pattern_run_stops_in_place {target ulong : Target} (surroundings : Surroundings ulong)
    (arguments : List String) (options : PatternOptions) (encode : Bool) (budget : Nat)
    (parsed : parsePatternArgs target arguments = .ok options)
    (enough : min options.frames options.queueCapacity < budget) :
    let result := simulatePattern target surroundings budget options encode
    (∃ error, admitPattern target options = .err error ∧ result = (.err error, [])) ∨
      ∃ layout, newLayout target options.width options.height = .ok layout ∧
        (result.1 = .ok () ∧ Printed layout options encode result.2 ∨
          ∃ error, result.1 = .err error ∧
            Halted surroundings layout options encode error result.2) := by
  obtain ⟨frames, queue, -⟩ := parsed_ranges parsed
  obtain ⟨pipeline, created⟩ : ∃ pipeline, new options.queueCapacity 0 = .ok pipeline :=
    ⟨_, if_neg (Nat.ne_of_gt queue.1)⟩
  obtain ⟨layout, admitted⟩ | ⟨error, refused⟩ :=
    Outcome.returns_cases (admit_pattern_returns target options)
  · have accepted := admitted_layout admitted
    have canonical := ((new_layout_ok_iff _ _ _).mp accepted).2.2
    obtain ⟨returns, values, errors⟩ :=
      (run_pattern_ends canonical frames.2 queue.1 enough created).elim
    refine .inr ⟨layout, accepted, ?_⟩
    rw [simulate_pattern_admitted admitted created]
    obtain ⟨_, ended⟩ | ⟨error, ended⟩ := Outcome.returns_cases returns
    · exact .inl ⟨ended, values () ended⟩
    · exact .inr ⟨error, ended, errors error ended⟩
  · exact .inl ⟨error, refused, simulate_pattern_refused refused encode budget⟩

/-- There is no memory for the third pattern. -/
def starvedSurroundings : Surroundings .bits64 :=
  { sampleSurroundings with granted := fun sequence => sequence < 2 }

theorem pattern_run_stops_in_place_starved :
    let options : PatternOptions := ⟨1, 1, 3, 2, 80⟩
    let result := simulatePattern .bits64 starvedSurroundings 3 options true
    (∃ error, admitPattern .bits64 options = .err error ∧ result = (.err error, [])) ∨
      ∃ layout, newLayout .bits64 options.width options.height = .ok layout ∧
        (result.1 = .ok () ∧ Printed layout options true result.2 ∨
          ∃ error, result.1 = .err error ∧
            Halted starvedSurroundings layout options true error result.2) :=
  pattern_run_stops_in_place starvedSurroundings ["1x1", "--queue", "2", "--frames", "3"] _ true 3
    (by decide +kernel) (by decide)

end Smiusb.PatternFailures
