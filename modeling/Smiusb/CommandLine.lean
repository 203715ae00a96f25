import Smiusb.FrameQueue
import Smiusb.HexText
import Smiusb.Texts

/-!
`parse_args` and `parse_pattern_args` of `rust/src/main.rs`. The pattern
command takes its dimensions first and then options with a value each. An
option may come once, in any place; whether one has come is remembered while
the rest is read, so the proof carries it along.
-/

namespace Smiusb.CommandLine
open Execution Bytes FrameQueue HexText Texts

structure PatternOptions where
  width : UInt32
  height : UInt32
  frames : Nat
  queueCapacity : Nat
  quality : UInt8
  deriving DecidableEq, Repr

def defaultPatternFrames : Nat := 6
def defaultQueueCapacity : Nat := 2
def defaultJpegQuality : Nat := 80
def maxPatternFrames : Nat := 1000
def maxQueueCapacity : Nat := 256

/-- The options of the pattern command; each has a variable and a flag. -/
inductive OptionName where
  | frames
  | queue
  | quality
  deriving DecidableEq, Repr

namespace OptionName

def text : OptionName → String
  | .frames => "--frames"
  | .queue => "--queue"
  | .quality => "--quality"

def ofText (option : String) : Option OptionName :=
  if option = "--frames" then some .frames
  else if option = "--queue" then some .queue
  else if option = "--quality" then some .quality
  else none

def default : OptionName → Nat
  | .frames => defaultPatternFrames
  | .queue => defaultQueueCapacity
  | .quality => defaultJpegQuality

/-- The largest value of the type it is parsed as: `u64`, `usize`, `u8`. -/
def typeMax (target : Target) : OptionName → Nat
  | .frames => u64Max
  | .queue => target.usizeMax
  | .quality => 2 ^ 8 - 1

/-- The largest value that is accepted in the end. -/
def limit : OptionName → Nat
  | .frames => maxPatternFrames
  | .queue => maxQueueCapacity
  | .quality => 100

end OptionName

inductive ArgumentError where
  | missingDimensions
  | malformedDimensions
  | malformedWidth
  | malformedHeight
  | missingValue (option : String)
  | malformed (name : OptionName)
  | duplicate (option : String)
  | unknown (option : String)
  | outOfRange (name : OptionName)
  | malformedDuration
  | hex (error : HexError)
  | usage
  deriving DecidableEq, Repr

def ArgumentError.display (std : StdTexts) : ArgumentError → String
  | .missingDimensions => "--pattern requires WIDTHxHEIGHT"
  | .malformedDimensions => "pattern dimensions must use WIDTHxHEIGHT"
  | .malformedWidth => "pattern width must be a positive integer"
  | .malformedHeight => "pattern height must be a positive integer"
  | .missingValue option => s!"{option} requires a value"
  | .malformed .frames => "frame count must be a positive integer"
  | .malformed .queue => "queue capacity must be a positive integer"
  | .malformed .quality => "JPEG quality must be an integer from 1 to 100"
  | .duplicate option => s!"duplicate option: {option}"
  | .unknown option => s!"unknown pattern option: {option}"
  | .outOfRange .frames => s!"frame count must be between 1 and {maxPatternFrames}"
  | .outOfRange .queue => s!"queue capacity must be between 1 and {maxQueueCapacity}"
  | .outOfRange .quality => "JPEG quality must be between 1 and 100"
  | .malformedDuration => "duration must be a positive integer"
  | .hex error => error.display std
  | .usage =>
      "usage: smiusbd-rs --observe [--duration SECONDS]\n" ++
      "       smiusbd-rs --decode-hex HEX\n" ++
      "       smiusbd-rs --decode-hex-file PATH|-\n" ++
      "       smiusbd-rs --protocol-info\n" ++
      "       smiusbd-rs --pattern WIDTHxHEIGHT [--frames COUNT] [--queue CAPACITY]\n" ++
      "       smiusbd-rs --encode-plan WIDTHxHEIGHT [--frames COUNT] [--queue CAPACITY] " ++
      "[--quality 1..100]\n" ++
      "       smiusbd-rs --screen-cast-version"

/-- The variables `frames`, `queue_capacity`, `quality` and their flags. -/
structure OptionState where
  value : OptionName → Nat
  saw : OptionName → Bool

def OptionState.start : OptionState := ⟨OptionName.default, fun _ => false⟩

def OptionState.take (state : OptionState) (name : OptionName) (value : Nat) : OptionState where
  value := Function.update state.value name value
  saw := Function.update state.saw name true

namespace OptionState
variable (state : OptionState) (value : Nat) {name other : OptionName}

theorem take_value_self : (state.take name value).value name = value := Function.update_self ..

theorem take_value_of_ne (apart : other ≠ name) :
    (state.take name value).value other = state.value other := Function.update_of_ne apart ..

theorem take_saw_self : (state.take name value).saw name = true := Function.update_self ..

theorem take_saw_of_ne (apart : other ≠ name) :
    (state.take name value).saw other = state.saw other := Function.update_of_ne apart ..

end OptionState

/-- The `while let` loop. The three guarded arms differ in the variable, the
type and the message; a known option that no arm takes is a duplicate. -/
def readOptions (target : Target) (state : OptionState) :
    List String → Outcome ArgumentError (OptionName → Nat)
  | [] => .ok state.value
  | [option] => .err (.missingValue option)
  | option :: value :: rest =>
      match OptionName.ofText option with
      | none => .err (.unknown option)
      | some name =>
          if state.saw name then .err (.duplicate option)
          else do
            let parsed ← okOr (parseUnsigned (name.typeMax target) value.toList) (.malformed name)
            readOptions target (state.take name parsed) rest

/-- The set `['x', 'X']`. -/
def isCross (character : Char) : Bool := character = 'x' || character = 'X'

def inRange (name : OptionName) (value : Nat) : Bool := 1 ≤ value && value ≤ name.limit

/-- `parse_pattern_args` once the dimensions are cut apart. -/
def parseValues (target : Target) (width height : List Char) (options : List String) :
    Outcome ArgumentError PatternOptions := do
  let width ← okOr (parseUnsigned (2 ^ 32 - 1) width) .malformedWidth
  let height ← okOr (parseUnsigned (2 ^ 32 - 1) height) .malformedHeight
  let values ← readOptions target .start options
  if !inRange .frames (values .frames) then .err (.outOfRange .frames)
  else if !inRange .queue (values .queue) then .err (.outOfRange .queue)
  else if !inRange .quality (values .quality) then .err (.outOfRange .quality)
  else
    .ok {
      width := UInt32.ofNat width
      height := UInt32.ofNat height
      frames := values .frames
      queueCapacity := values .queue
      quality := UInt8.ofNat (values .quality) }

def parsePatternArgs (target : Target) : List String → Outcome ArgumentError PatternOptions
  | [] => .err .missingDimensions
  | dimensions :: options => do
      let separator ← okOr (find isCross dimensions.toList) .malformedDimensions
      let (width, heightWithSeparator) ← splitAt dimensions.toList separator
      let height ← Texts.sliceFrom heightWithSeparator 1
      if width.isEmpty || height.isEmpty || height.any isCross then .err .malformedDimensions
      else parseValues target width height options

inductive Command where
  | observe (duration : Option Nat)
  | decodeHex (packet : List UInt8)
  | decodeHexFile (path : String)
  | protocolInfo
  | pattern (options : PatternOptions) (encode : Bool)
  | screenCastVersion
  deriving DecidableEq, Repr

/-- The arms after the pattern dispatch, in the order of the source. -/
def parseOtherArgs : List String → Outcome ArgumentError Command
  | ["--observe"] => .ok (.observe none)
  | ["--observe", "--duration", seconds] => do
      let seconds ← okOr (parseUnsigned u64Max seconds.toList) .malformedDuration
      if seconds = 0 then .err .malformedDuration else .ok (.observe (some seconds))
  | ["--decode-hex", input] => do
      let packet ← (parseHex input).mapError .hex
      .ok (.decodeHex packet)
  | ["--decode-hex-file", path] => .ok (.decodeHexFile path)
  | ["--protocol-info"] => .ok .protocolInfo
  | ["--screen-cast-version"] => .ok .screenCastVersion
  | _ => .err .usage

/-- `arguments[0]` and `arguments[1..]` would panic without a first argument. -/
def parseArgs (target : Target) (arguments : List String) : Outcome ArgumentError Command :=
  if arguments.head?.any fun mode => mode = "--pattern" || mode = "--encode-plan" then
    match arguments with
    | [] => .panicked
    | mode :: rest => do
        let options ← parsePatternArgs target rest
        .ok (.pattern options (mode = "--encode-plan"))
  else parseOtherArgs arguments

/-! The language of the pattern command. -/

def flatten (pairs : List (String × String)) : List String :=
  pairs.flatMap fun pair => [pair.1, pair.2]

/-- Width and height around a single cross. -/
def Dimensions (text : List Char) (width height : UInt32) : Prop :=
  ∃ front cross back, text = front ++ cross :: back ∧ (cross = 'x' ∨ cross = 'X') ∧
    front ≠ [] ∧ back ≠ [] ∧ (∀ character ∈ front ++ back, character ≠ 'x' ∧ character ≠ 'X') ∧
    Unsigned (2 ^ 32 - 1) front width.toNat ∧ Unsigned (2 ^ 32 - 1) back height.toNat

/-- The value of an option: the one given, or else the one from before. -/
def Setting (target : Target) (pairs : List (String × String)) (before : OptionName → Nat)
    (name : OptionName) (value : Nat) : Prop :=
  (∃ text, (name.text, text) ∈ pairs ∧ Unsigned (name.typeMax target) text.toList value) ∨
    (name.text ∉ pairs.map Prod.fst ∧ value = before name)

/-- The arguments spell the options. -/
structure Denotes (target : Target) (dimensions : String) (pairs : List (String × String))
    (options : PatternOptions) : Prop where
  size : Dimensions dimensions.toList options.width options.height
  distinct : (pairs.map Prod.fst).Nodup
  known : ∀ pair ∈ pairs, pair.1 ∈ ["--frames", "--queue", "--quality"]
  frames : Setting target pairs OptionName.default .frames options.frames
  queue : Setting target pairs OptionName.default .queue options.queueCapacity
  quality : Setting target pairs OptionName.default .quality options.quality.toNat
  frameRange : 1 ≤ options.frames ∧ options.frames ≤ 1000
  queueRange : 1 ≤ options.queueCapacity ∧ options.queueCapacity ≤ 256
  qualityRange : 1 ≤ options.quality.toNat ∧ options.quality.toNat ≤ 100

section Names

theorem ofText_eq_some_iff (option : String) (name : OptionName) :
    OptionName.ofText option = some name ↔ option = name.text := by
  constructor
  · intro found
    unfold OptionName.ofText at found
    split_ifs at found with frames queue quality
    · cases found; exact frames
    · cases found; exact queue
    · cases found; exact quality
  · rintro rfl
    cases name <;> rfl

theorem text_injective {one other : OptionName} (same : one.text = other.text) : one = other := by
  have found := (ofText_eq_some_iff other.text one).mpr same.symm
  rw [(ofText_eq_some_iff other.text other).mpr rfl] at found
  exact (Option.some.inj found).symm

theorem known_iff (option : String) :
    option ∈ ["--frames", "--queue", "--quality"] ↔ ∃ name : OptionName, option = name.text := by
  constructor
  · intro known
    obtain rfl | rfl | rfl : option = "--frames" ∨ option = "--queue" ∨ option = "--quality" := by
      simpa using known
    · exact ⟨.frames, rfl⟩
    · exact ⟨.queue, rfl⟩
    · exact ⟨.quality, rfl⟩
  · rintro ⟨name, rfl⟩
    cases name <;> decide

end Names

section Options
variable {target : Target}

/-- What the loop accepts from a given state on: new options, each once. -/
structure Accepted (target : Target) (state : OptionState) (pairs : List (String × String))
    (values : OptionName → Nat) : Prop where
  distinct : (pairs.map Prod.fst).Nodup
  fresh : ∀ pair ∈ pairs, ∃ name : OptionName, pair.1 = name.text ∧ state.saw name = false
  settings : ∀ name, Setting target pairs state.value name (values name)

theorem flatten_eq_nil {pairs : List (String × String)} (empty : [] = flatten pairs) :
    pairs = [] := by
  cases pairs with
  | nil => rfl
  | cons pair rest => cases empty

theorem flatten_eq_cons {pairs : List (String × String)} {option value : String}
    {rest : List String} (split : option :: value :: rest = flatten pairs) :
    ∃ later, pairs = (option, value) :: later ∧ rest = flatten later := by
  cases pairs with
  | nil => cases split
  | cons pair later =>
      obtain ⟨rfl, tail⟩ := List.cons.inj split
      obtain ⟨rfl, rest⟩ := List.cons.inj tail
      exact ⟨later, rfl, rest⟩

theorem flatten_injective {pairs pairs' : List (String × String)}
    (same : flatten pairs = flatten pairs') : pairs = pairs' := by
  induction pairs generalizing pairs' with
  | nil => exact (flatten_eq_nil same).symm
  | cons pair rest ih =>
      obtain ⟨later, rfl, tail⟩ := flatten_eq_cons same
      rw [ih tail]

section Front
variable {state : OptionState} {name : OptionName} {value : String}
  {later : List (String × String)} {values : OptionName → Nat}

/-- Behind an option the rest is accepted by a state that knows the option. -/
theorem accepted_uncons (accepted : Accepted target state ((name.text, value) :: later) values) :
    state.saw name = false ∧
      Unsigned (name.typeMax target) value.toList (values name) ∧
      Accepted target (state.take name (values name)) later values := by
  obtain ⟨distinct, fresh, settings⟩ := accepted
  rw [List.map_cons, List.nodup_cons] at distinct
  have unseen : state.saw name = false := by
    obtain ⟨other, same, unseen⟩ := fresh _ List.mem_cons_self
    rwa [text_injective same]
  have own : Unsigned (name.typeMax target) value.toList (values name) := by
    obtain ⟨text, given, number⟩ | ⟨absent, -⟩ := settings name
    · obtain same | later := List.mem_cons.mp given
      · rwa [(Prod.mk.inj same).2] at number
      · exact absurd (List.mem_map_of_mem later) distinct.1
    · exact absurd List.mem_cons_self absent
  refine ⟨unseen, own, distinct.2, ?_, ?_⟩
  · intro pair inside
    obtain ⟨other, same, unseen⟩ := fresh pair (List.mem_cons_of_mem _ inside)
    have apart : other ≠ name := by
      rintro rfl
      exact distinct.1 (List.mem_map.mpr ⟨pair, inside, same⟩)
    exact ⟨other, same, by rw [state.take_saw_of_ne _ apart, unseen]⟩
  · intro other
    by_cases same : other = name
    · subst same
      exact .inr ⟨distinct.1, (state.take_value_self _).symm⟩
    · obtain ⟨text, given, number⟩ | ⟨absent, kept⟩ := settings other
      · obtain head | later := List.mem_cons.mp given
        · exact absurd (text_injective (Prod.mk.inj head).1) same
        · exact .inl ⟨text, later, number⟩
      · rw [List.map_cons, List.mem_cons, not_or] at absent
        exact .inr ⟨absent.2, by rw [kept, state.take_value_of_ne _ same]⟩

theorem accepted_cons (unseen : state.saw name = false)
    (own : Unsigned (name.typeMax target) value.toList (values name))
    (accepted : Accepted target (state.take name (values name)) later values) :
    Accepted target state ((name.text, value) :: later) values := by
  obtain ⟨distinct, fresh, settings⟩ := accepted
  -- an option seen by now is not among the later ones
  have apart : ∀ other : OptionName, (state.take name (values name)).saw other = false →
      other ≠ name := by
    rintro other unseen rfl
    rw [state.take_saw_self] at unseen
    cases unseen
  refine ⟨?_, ?_, ?_⟩
  · rw [List.map_cons, List.nodup_cons]
    refine ⟨?_, distinct⟩
    intro inside
    obtain ⟨pair, later, same⟩ := List.mem_map.mp inside
    obtain ⟨other, spelled, unseen⟩ := fresh pair later
    exact apart other unseen (text_injective (spelled.symm.trans same))
  · intro pair inside
    obtain rfl | later := List.mem_cons.mp inside
    · exact ⟨name, rfl, unseen⟩
    · obtain ⟨other, spelled, unseen⟩ := fresh pair later
      refine ⟨other, spelled, ?_⟩
      rwa [state.take_saw_of_ne _ (apart other unseen)] at unseen
  · intro other
    by_cases same : other = name
    · subst same
      exact .inl ⟨value, List.mem_cons_self, own⟩
    · obtain ⟨text, given, number⟩ | ⟨absent, kept⟩ := settings other
      · exact .inl ⟨text, List.mem_cons_of_mem _ given, number⟩
      · refine .inr ⟨?_, ?_⟩
        · rw [List.map_cons, List.mem_cons, not_or]
          exact ⟨fun equal => same (text_injective equal), absent⟩
        · rw [kept, state.take_value_of_ne _ same]

end Front

theorem accepted_nil_iff (state : OptionState) (values : OptionName → Nat) :
    Accepted target state [] values ↔ values = state.value := by
  constructor
  · intro accepted
    funext name
    obtain ⟨text, given, -⟩ | ⟨-, kept⟩ := accepted.settings name
    · exact absurd given List.not_mem_nil
    · exact kept
  · rintro rfl
    exact ⟨List.nodup_nil, by simp, fun name => .inr ⟨by simp, rfl⟩⟩

theorem read_options_ok_iff (state : OptionState) (arguments : List String)
    (values : OptionName → Nat) :
    readOptions target state arguments = .ok values ↔
      ∃ pairs, arguments = flatten pairs ∧ Accepted target state pairs values := by
  induction state, arguments using readOptions.induct with
  | case1 state =>
      rw [readOptions, Outcome.ok.injEq, eq_comm, ← @accepted_nil_iff target]
      constructor
      · intro accepted
        exact ⟨[], rfl, accepted⟩
      · rintro ⟨pairs, empty, accepted⟩
        rwa [flatten_eq_nil empty] at accepted
  | case2 state option =>
      rw [readOptions]
      constructor
      · intro ended
        cases ended
      · rintro ⟨pairs, split, -⟩
        cases pairs <;> cases split
  | case3 state option value rest unknown =>
      rw [readOptions, unknown]
      constructor
      · intro ended
        cases ended
      · rintro ⟨pairs, split, accepted⟩
        obtain ⟨later, rfl, -⟩ := flatten_eq_cons split
        obtain ⟨name, spelled, -⟩ := accepted.fresh _ List.mem_cons_self
        rw [(ofText_eq_some_iff option name).mpr spelled] at unknown
        cases unknown
  | case4 state option value rest name known seen =>
      rw [readOptions, known]
      simp only [seen]
      constructor
      · intro ended
        cases ended
      · rintro ⟨pairs, split, accepted⟩
        obtain ⟨later, rfl, -⟩ := flatten_eq_cons split
        obtain rfl := (ofText_eq_some_iff option name).mp known
        rw [(accepted_uncons accepted).1] at seen
        cases seen
  | case5 state option value rest name known unseen ih =>
      obtain rfl := (ofText_eq_some_iff option name).mp known
      rw [Bool.not_eq_true] at unseen
      rw [readOptions, known]
      simp only [unseen, Bool.false_eq_true, if_false]
      rw [Outcome.bind_eq_ok_iff]
      simp only [okOr_eq_ok_iff, parseUnsigned_eq_some_iff, ih]
      constructor
      · rintro ⟨parsed, number, later, rfl, accepted⟩
        -- the option does not come again, so it keeps this value
        have kept : values name = parsed := by
          obtain ⟨text, given, -⟩ | ⟨-, kept⟩ := accepted.settings name
          · obtain ⟨other, spelled, unseen⟩ := accepted.fresh _ given
            rw [← text_injective spelled, state.take_saw_self] at unseen
            cases unseen
          · rw [kept, state.take_value_self]
        subst kept
        exact ⟨_, rfl, accepted_cons unseen number accepted⟩
      · rintro ⟨pairs, split, accepted⟩
        obtain ⟨later, rfl, rfl⟩ := flatten_eq_cons split
        obtain ⟨-, number, accepted⟩ := accepted_uncons accepted
        exact ⟨_, number, later, rfl, accepted⟩

theorem read_options_returns (state : OptionState) (arguments : List String) :
    (readOptions target state arguments).Returns := by
  induction state, arguments using readOptions.induct with
  | case1 state => trivial
  | case2 state option => trivial
  | case3 state option value rest unknown =>
      rw [readOptions, unknown]
      trivial
  | case4 state option value rest name known seen =>
      rw [readOptions, known]
      simp only [seen]
      trivial
  | case5 state option value rest name known unseen ih =>
      rw [readOptions, known]
      simp only [unseen]
      exact Outcome.returns_bind (okOr_returns _ _) fun parsed _ => ih parsed

end Options

section Dimensions
variable {target : Target}

theorem isCross_iff (character : Char) :
    isCross character = true ↔ character = 'x' ∨ character = 'X' := by
  simp [isCross]

theorem not_isCross_iff (character : Char) :
    isCross character = false ↔ character ≠ 'x' ∧ character ≠ 'X' := by
  simp [isCross]

/-- A cross takes one byte, so the slice behind it starts at a character. -/
theorem slice_behind_cross {Error : Type} {cross : Char} (isCross : isCross cross = true)
    (back : List Char) :
    (Texts.sliceFrom (cross :: back) 1 : Outcome Error (List Char)) = .ok back := by
  have width : byteLen [cross] = 1 := by
    obtain rfl | rfl := (isCross_iff cross).mp isCross <;> rfl
  have cut := @splitAt_append Error [cross] back
  rw [width, List.singleton_append] at cut
  rw [Texts.sliceFrom, cut]
  rfl

theorem word_of_unsigned {text : List Char} {value : Nat}
    (number : Unsigned (2 ^ 32 - 1) text value) : (UInt32.ofNat value).toNat = value := by
  obtain ⟨_, -, -, -, -, small⟩ := number
  rw [UInt32.toNat_ofNat', Nat.mod_eq_of_lt (by omega)]

/-- The options as the loop leaves them in its variables. -/
def valuesOf (options : PatternOptions) : OptionName → Nat
  | .frames => options.frames
  | .queue => options.queueCapacity
  | .quality => options.quality.toNat

theorem inRange_iff (name : OptionName) (value : Nat) :
    (!inRange name value) = false ↔ 1 ≤ value ∧ value ≤ name.limit := by
  simp [inRange]

theorem parse_values_ok_iff (width height : List Char) (arguments : List String)
    (options : PatternOptions) :
    parseValues target width height arguments = .ok options ↔
      Unsigned (2 ^ 32 - 1) width options.width.toNat ∧
      Unsigned (2 ^ 32 - 1) height options.height.toNat ∧
      (∃ pairs, arguments = flatten pairs ∧ Accepted target .start pairs (valuesOf options)) ∧
      ∀ name, 1 ≤ valuesOf options name ∧ valuesOf options name ≤ name.limit := by
  rw [parseValues, Outcome.bind_eq_ok_iff]
  simp only [Outcome.bind_eq_ok_iff, okOr_eq_ok_iff, parseUnsigned_eq_some_iff,
    read_options_ok_iff]
  constructor
  · rintro ⟨wide, width, high, height, values, read, rest⟩
    split_ifs at rest with frames queue quality
    cases rest
    rw [Bool.not_eq_true, inRange_iff] at frames queue quality
    have small : (UInt8.ofNat (values .quality)).toNat = values .quality := by
      have limit : values .quality ≤ 100 := quality.2
      rw [UInt8.toNat_ofNat', Nat.mod_eq_of_lt (by omega)]
    have same : valuesOf ⟨UInt32.ofNat wide, UInt32.ofNat high, values .frames, values .queue,
        UInt8.ofNat (values .quality)⟩ = values := by
      funext name
      cases name with
      | frames => rfl
      | queue => rfl
      | quality => exact small
    rw [same]
    refine ⟨by rwa [word_of_unsigned width], by rwa [word_of_unsigned height], read, ?_⟩
    intro name
    cases name with
    | frames => exact frames
    | queue => exact queue
    | quality => exact quality
  · rintro ⟨width, height, read, ranges⟩
    refine ⟨_, width, _, height, _, read, ?_⟩
    rw [if_neg (by rw [Bool.not_eq_true, inRange_iff]; exact ranges .frames),
      if_neg (by rw [Bool.not_eq_true, inRange_iff]; exact ranges .queue),
      if_neg (by rw [Bool.not_eq_true, inRange_iff]; exact ranges .quality)]
    simp [valuesOf]

/-- The parser up to the values, on a text that is cut at its first cross. -/
theorem parse_pattern_args_at {dimensions : String} {front back : List Char} {cross : Char}
    (text : dimensions.toList = front ++ cross :: back) (crossed : isCross cross = true)
    (clean : ∀ character ∈ front, isCross character = false) (arguments : List String) :
    parsePatternArgs target (dimensions :: arguments) =
      if front.isEmpty || back.isEmpty || back.any isCross then .err .malformedDimensions
      else parseValues target front back arguments := by
  have found : find isCross (front ++ cross :: back) = some (byteLen front) :=
    (find_eq_some_iff ..).mpr ⟨front, cross, back, rfl, rfl, crossed, clean⟩
  rw [parsePatternArgs, text, found, okOr_some, Outcome.ok_bind, splitAt_append, Outcome.ok_bind]
  dsimp only
  rw [slice_behind_cross crossed, Outcome.ok_bind]

theorem accepted_of_denotes {dimensions : String} {pairs : List (String × String)}
    {options : PatternOptions} (denotes : Denotes target dimensions pairs options) :
    Accepted target .start pairs (valuesOf options) ∧
      ∀ name, 1 ≤ valuesOf options name ∧ valuesOf options name ≤ name.limit := by
  refine ⟨⟨denotes.distinct, ?_, ?_⟩, ?_⟩
  · intro pair inside
    obtain ⟨name, spelled⟩ := (known_iff _).mp (denotes.known pair inside)
    exact ⟨name, spelled, rfl⟩
  · intro name
    cases name with
    | frames => exact denotes.frames
    | queue => exact denotes.queue
    | quality => exact denotes.quality
  · intro name
    cases name with
    | frames => exact denotes.frameRange
    | queue => exact denotes.queueRange
    | quality => exact denotes.qualityRange

theorem parse_pattern_args_ok_iff (dimensions : String) (arguments : List String)
    (options : PatternOptions) :
    parsePatternArgs target (dimensions :: arguments) = .ok options ↔
      ∃ pairs, arguments = flatten pairs ∧ Denotes target dimensions pairs options := by
  constructor
  · intro parsed
    obtain ⟨separator, found, -⟩ := (Outcome.bind_eq_ok_iff ..).mp parsed
    rw [okOr_eq_ok_iff, find_eq_some_iff] at found
    obtain ⟨front, cross, back, text, -, crossed, clean⟩ := found
    rw [parse_pattern_args_at text crossed clean] at parsed
    split_ifs at parsed with malformed
    obtain ⟨width, height, ⟨pairs, rfl, accepted⟩, ranges⟩ := (parse_values_ok_iff ..).mp parsed
    simp only [Bool.or_eq_true, List.isEmpty_iff, List.any_eq_true, not_or, not_exists, not_and,
      Bool.not_eq_true] at malformed
    refine ⟨pairs, rfl, ⟨front, cross, back, text, (isCross_iff cross).mp crossed, malformed.1.1,
      malformed.1.2, ?_, width, height⟩, accepted.distinct, ?_, accepted.settings .frames,
      accepted.settings .queue, accepted.settings .quality, ranges .frames, ranges .queue,
      ranges .quality⟩
    · intro character inside
      rw [← not_isCross_iff]
      obtain inside | inside := List.mem_append.mp inside
      · exact clean character inside
      · exact malformed.2 character inside
    · intro pair inside
      obtain ⟨name, spelled, -⟩ := accepted.fresh pair inside
      exact (known_iff _).mpr ⟨name, spelled⟩
  · rintro ⟨pairs, rfl, denotes⟩
    obtain ⟨front, cross, back, text, crossed, wide, high, clean, width, height⟩ := denotes.size
    obtain ⟨accepted, ranges⟩ := accepted_of_denotes denotes
    have wellFormed : (front.isEmpty || back.isEmpty || back.any isCross) = false := by
      simp only [Bool.or_eq_false_iff, List.isEmpty_eq_false_iff, List.any_eq_false,
        Bool.not_eq_true]
      exact ⟨⟨wide, high⟩, fun character inside =>
        (not_isCross_iff _).mpr (clean character (List.mem_append_right _ inside))⟩
    rw [parse_pattern_args_at text ((isCross_iff cross).mpr crossed) fun character inside =>
      (not_isCross_iff _).mpr (clean character (List.mem_append_left _ inside)), wellFormed]
    exact (parse_values_ok_iff ..).mpr ⟨width, height, ⟨pairs, rfl, accepted⟩, ranges⟩

theorem parse_values_returns (width height : List Char) (arguments : List String) :
    (parseValues target width height arguments).Returns := by
  apply Outcome.returns_bind (okOr_returns _ _)
  intro width _
  apply Outcome.returns_bind (okOr_returns _ _)
  intro height _
  apply Outcome.returns_bind (read_options_returns _ _)
  intro values _
  split_ifs <;> trivial

theorem parse_pattern_args_returns (arguments : List String) :
    (parsePatternArgs target arguments).Returns := by
  cases arguments with
  | nil => trivial
  | cons dimensions options =>
      cases found : find isCross dimensions.toList with
      | none =>
          rw [parsePatternArgs, found]
          trivial
      | some separator =>
          obtain ⟨front, cross, back, text, -, crossed, clean⟩ := (find_eq_some_iff ..).mp found
          rw [parse_pattern_args_at text crossed clean]
          split_ifs
          · trivial
          · exact parse_values_returns _ _ _

end Dimensions

section Commands
variable {target : Target}

theorem denotes_perm {dimensions : String} {pairs pairs' : List (String × String)}
    {options : PatternOptions} (same : pairs.Perm pairs')
    (denotes : Denotes target dimensions pairs options) :
    Denotes target dimensions pairs' options := by
  have names := same.map Prod.fst
  have setting : ∀ name value, Setting target pairs OptionName.default name value →
      Setting target pairs' OptionName.default name value := by
    rintro name value (⟨text, given, number⟩ | ⟨absent, kept⟩)
    · exact .inl ⟨text, same.mem_iff.mp given, number⟩
    · exact .inr ⟨mt names.mem_iff.mpr absent, kept⟩
  exact {
    size := denotes.size
    distinct := names.nodup_iff.mp denotes.distinct
    known := fun pair inside => denotes.known pair (same.mem_iff.mpr inside)
    frames := setting _ _ denotes.frames
    queue := setting _ _ denotes.queue
    quality := setting _ _ denotes.quality
    frameRange := denotes.frameRange
    queueRange := denotes.queueRange
    qualityRange := denotes.qualityRange }

theorem parse_other_args_returns (arguments : List String) :
    (parseOtherArgs arguments).Returns := by
  unfold parseOtherArgs
  split
  · trivial
  · apply Outcome.returns_bind (okOr_returns _ _)
    intro seconds _
    split_ifs <;> trivial
  · apply Outcome.returns_bind ((Outcome.returns_mapError _ _).mpr (parse_hex_returns _))
    intro packet _
    trivial
  · trivial
  · trivial
  · trivial
  · trivial

theorem parse_other_args_no_pattern (arguments : List String) (options : PatternOptions)
    (encode : Bool) : parseOtherArgs arguments ≠ .ok (.pattern options encode) := by
  unfold parseOtherArgs
  split
  · simp
  · rw [ne_eq, Outcome.bind_eq_ok_iff]
    rintro ⟨seconds, -, ended⟩
    split_ifs at ended
    cases ended
  · rw [ne_eq, Outcome.bind_eq_ok_iff]
    rintro ⟨packet, -, ended⟩
    cases ended
  · simp
  · simp
  · simp
  · simp

/-- The two names of the pattern command, the second of which also encodes. -/
theorem parse_args_pattern_iff (arguments : List String) (options : PatternOptions)
    (encode : Bool) :
    parseArgs target arguments = .ok (.pattern options encode) ↔
      ∃ rest, arguments = (if encode then "--encode-plan" else "--pattern") :: rest ∧
        parsePatternArgs target rest = .ok options := by
  unfold parseArgs
  cases arguments with
  | nil => simpa using parse_other_args_no_pattern [] options encode
  | cons mode rest =>
      rw [List.head?_cons, Option.any_some]
      by_cases named : mode = "--pattern" ∨ mode = "--encode-plan"
      · rw [if_pos (by simpa using named), Outcome.bind_eq_ok_iff]
        constructor
        · rintro ⟨found, parsed, ended⟩
          cases ended
          refine ⟨rest, ?_, parsed⟩
          obtain rfl | rfl := named <;> rfl
        · rintro ⟨later, split, parsed⟩
          obtain ⟨rfl, rfl⟩ := List.cons.inj split
          refine ⟨options, parsed, ?_⟩
          cases encode <;> rfl
      · rw [if_neg (by simpa using named)]
        constructor
        · intro ended
          exact absurd ended (parse_other_args_no_pattern _ _ _)
        · rintro ⟨later, split, -⟩
          obtain ⟨rfl, -⟩ := List.cons.inj split
          refine absurd ?_ named
          cases encode
          · exact .inl rfl
          · exact .inr rfl

theorem parse_args_returns (arguments : List String) : (parseArgs target arguments).Returns := by
  unfold parseArgs
  split_ifs with pattern
  · cases arguments with
    | nil => simp at pattern
    | cons mode rest =>
        exact Outcome.returns_bind (parse_pattern_args_returns rest) fun options _ => trivial
  · exact parse_other_args_returns arguments

end Commands

/-- The pattern command's language: its dimensions, then known options with a
value each, none twice. The order of the options is immaterial, and no list of
arguments makes the parser panic. -/
theorem pattern_arguments_exact (target : Target) :
    (∀ arguments options, parsePatternArgs target arguments = .ok options ↔
      ∃ dimensions pairs, arguments = dimensions :: flatten pairs ∧
        Denotes target dimensions pairs options) ∧
    (∀ dimensions pairs pairs' options, pairs.Perm pairs' →
      parsePatternArgs target (dimensions :: flatten pairs) = .ok options →
      parsePatternArgs target (dimensions :: flatten pairs') = .ok options) ∧
    (∀ arguments, (parsePatternArgs target arguments).Returns) ∧
    ∀ arguments options encode, parseArgs target arguments = .ok (.pattern options encode) ↔
      ∃ rest, arguments = (if encode then "--encode-plan" else "--pattern") :: rest ∧
        parsePatternArgs target rest = .ok options := by
  refine ⟨?_, ?_, parse_pattern_args_returns, parse_args_pattern_iff⟩
  · intro arguments options
    cases arguments with
    | nil => simp [parsePatternArgs]
    | cons dimensions rest =>
        rw [parse_pattern_args_ok_iff]
        constructor
        · rintro ⟨pairs, rfl, denotes⟩
          exact ⟨dimensions, pairs, rfl, denotes⟩
        · rintro ⟨_, pairs, split, denotes⟩
          obtain ⟨rfl, rfl⟩ := List.cons.inj split
          exact ⟨pairs, rfl, denotes⟩
  · intro dimensions pairs pairs' options same parsed
    obtain ⟨found, split, denotes⟩ := (parse_pattern_args_ok_iff ..).mp parsed
    rw [← flatten_injective split] at denotes
    exact (parse_pattern_args_ok_iff ..).mpr ⟨pairs', rfl, denotes_perm same denotes⟩

end Smiusb.CommandLine
