import Smiusb.Observer
import Smiusb.PatternFailures
import Smiusb.ScreenCast

/-!
`main` of `rust/src/main.rs`: the command line, the command that it names, and
the exit status. The commands are the functions of the other modules, joined
here into the whole program with what it writes to either stream. `program` is
`main` as it is started: `env::args` panics at an argument that is not Unicode,
and so does the first line that cannot be written.
-/

namespace Smiusb.MainProgram
open Execution Bytes Methods FrameQueue PacketDecoder HexText CommandLine RequestPackets

/-- Everything outside the program that its commands meet. -/
structure World (ulong : Target) where
  texts : HexText.StdTexts
  castTexts : ScreenCast.StdTexts
  files : Files
  /-- `none` for an observer whose loop is never left: it has no duration, no
  signal comes and no listing fails. -/
  observer : Option Observer.Surroundings
  pattern : PatternRun.Surroundings ulong
  gdbus : ScreenCast.Gdbus

/-- A command's output and its result. -/
structure Performed where
  stdout : List String
  stderr : List String
  result : Outcome String Unit

def Performed.ofReport (report : Report) : Performed := ⟨report.lines, [], report.ending⟩

/-- The program's output and its exit status. -/
structure Ended where
  stdout : List String
  stderr : List String
  status : Outcome Empty Nat

section Model
variable (target : Target) {ulong : Target} (world : World ulong) (budget : Nat)

def perform : Command → Performed
  | .observe duration =>
      match world.observer with
      | some surroundings =>
          let (outcome, state) := (Observer.observe surroundings duration).run Observer.idle
          ⟨[], state.printed.map Observer.Event.text, outcome⟩
      | none => ⟨[], [], .diverged⟩
  | .decodeHex packet => .ofReport (decode target packet)
  | .decodeHexFile path =>
      .ofReport (.after ((readHexFile target world.files path).mapError
        (HexFileError.display world.texts)) (decode target))
  | .protocolInfo => .ofReport (printProtocolInfo target)
  | .pattern options encode =>
      let (outcome, lines) :=
        PatternRun.simulatePattern target world.pattern budget options encode
      ⟨lines.map PatternRun.Line.text, [], outcome.mapError PatternRun.PatternError.display⟩
  | .screenCastVersion =>
      .ofReport (ScreenCast.printScreenCastVersion world.castTexts world.gdbus)

/-- The last `match` of `main`. -/
def finish (performed : Performed) : Ended :=
  match performed.result with
  | .ok () => ⟨performed.stdout, performed.stderr, .ok 0⟩
  | .err error => ⟨performed.stdout, performed.stderr ++ ["smiusbd-rs: " ++ error], .ok 1⟩
  | .panicked => ⟨performed.stdout, performed.stderr, .panicked⟩
  | .diverged => ⟨performed.stdout, performed.stderr, .diverged⟩

def main (arguments : List String) : Ended :=
  match parseArgs target arguments with
  | .ok command => finish (perform target world budget command)
  | .err error => ⟨[], [error.display world.texts], .ok 2⟩
  | .panicked => ⟨[], [], .panicked⟩
  | .diverged => ⟨[], [], .diverged⟩

/-- How many lines either stream takes before a write to it fails; `none` if
none fails. -/
structure Streams where
  stdout : Option Nat
  stderr : Option Nat

/-- `println!` and `eprintln!` panic when they cannot write. No command writes
to the standard output behind a line of the standard error output. -/
def Ended.written (streams : Streams) (ended : Ended) : Ended :=
  match streams.stdout.filter (· < ended.stdout.length) with
  | some room => ⟨ended.stdout.take room, [], .panicked⟩
  | none =>
      match streams.stderr.filter (· < ended.stderr.length) with
      | some room => ⟨ended.stdout, ended.stderr.take room, .panicked⟩
      | none => ended

/-- `env::args().skip(1).collect()`; `none` is an argument that is not Unicode. -/
def collectArguments (argv : List (Option String)) : Option (List String) :=
  (argv.mapM id).map (List.drop 1)

def program (streams : Streams) (argv : List (Option String)) : Ended :=
  match collectArguments argv with
  | some arguments => (main target world budget arguments).written streams
  | none => ⟨[], [], .panicked⟩

end Model

section Sizes

theorem characters_le_utf8 (text : String) : text.toList.length ≤ (utf8 text).length := by
  have bytes : (utf8 text).length = text.toList.utf8Encode.size := by simp [utf8]
  rw [bytes]
  induction text.toList with
  | nil => simp
  | cons character rest ih =>
      have single : [character].utf8Encode.size = character.utf8Size := by
        rw [List.utf8Encode_singleton, List.size_toByteArray, String.length_utf8EncodeChar]
      have positive := character.utf8Size_pos
      rw [List.utf8Encode_cons, ByteArray.size_append, List.length_cons]
      omega

/-- A packet takes no more bytes than the text that spells it. -/
theorem packet_le_text {text : String} {packet : List UInt8} (parsed : parseHex text = .ok packet) :
    packet.length ≤ (utf8 text).length := by
  rw [parse_hex_ok_iff] at parsed
  have digits := spells_length parsed
  have fewer : (withoutSeparators text.toList).length ≤ text.toList.length :=
    List.length_filter_le ..
  have longer := characters_le_utf8 text
  omega

end Sizes

section Observing
open Observer

/-- The device lists that the observer gets before a listing fails. -/
def heard : List Listing → List DeviceList
  | .devices found :: rest => found :: heard rest
  | _ => []

theorem polls_return (listings : List Listing) (state : State)
    (room : state.generation.toNat + arrivalsFrom state.previous (heard listings) ≤ u64Max) :
    ((Method.forEach poll listings).run state).1.Returns := by
  induction listings generalizing state with
  | nil => trivial
  | cons listing rest ih =>
      rw [Method.forEach, Method.run_bind]
      cases listing with
      | failed errorName => trivial
      | nullList => trivial
      | devices found =>
          rw [heard, arrivalsFrom, ← Nat.add_assoc] at room
          have now : state.generation.toNat +
              (arrivals state.previous (collectDevices found)).length ≤ u64Max := by omega
          rw [(poll_ok_iff found).mpr ⟨now, rfl⟩]
          apply ih
          rw [after_poll_generation found now]
          exact room

theorem observe_returns (surroundings : Observer.Surroundings) (duration : Option Nat)
    (room : arrivalsFrom .empty (heard surroundings.listings) ≤ u64Max) :
    ((observe surroundings duration).run idle).1.Returns := by
  unfold observe
  rw [Method.run_bind, Method.ofOutcome]
  cases surroundings.initialized with
  | failed errorName => trivial
  | nullContext => trivial
  | ready =>
      dsimp only [newContext]
      rw [Method.run_bind, Method.ofOutcome]
      unfold checkDeadline
      by_cases fits : duration.isNone ∨ surroundings.deadlineFits
      · rw [if_pos fits]
        exact polls_return surroundings.listings idle (by simpa [idle] using room)
      · rw [if_neg fits]
        trivial

end Observing

section Returning
variable {target ulong : Target} {world : World ulong} {budget : Nat}

theorem read_hex_text_returns (reader : Reader) (limit : Nat) :
    (readHexText target reader limit).Returns := by
  apply Outcome.returns_bind (okOr_returns _ _)
  intro readLimit _
  apply Outcome.returns_bind (okOr_returns _ _)
  intro readLimit _
  apply Outcome.returns_bind
  · rw [Outcome.returns_mapError, readToEnd]
    split_ifs
    · trivial
    · trivial
    · cases reader.failure <;> trivial
  intro textBytes _
  split
  · trivial
  · exact Outcome.returns_bind (okOr_returns _ _) fun text _ => parse_hex_returns text

theorem read_hex_file_returns (files : Files) (path : String) :
    (readHexFile target files path).Returns := by
  unfold readHexFile
  split
  · rw [Outcome.returns_mapError]
    exact read_hex_text_returns _ _
  · split
    · trivial
    · split
      · trivial
      · split
        · trivial
        · rw [Outcome.returns_mapError]
          exact read_hex_text_returns _ _

theorem read_packet_fits {files : Files} {path : String} {packet : List UInt8}
    (read : readHexFile target files path = .ok packet) : packet.length ≤ target.isizeMax := by
  have fits : ∀ reader, Decodes target reader maxHexTextBytes packet →
      packet.length ≤ target.isizeMax := by
    intro reader decodes
    obtain ⟨text, content, parsed⟩ := decodes.decoded
    have small := packet_le_text parsed
    rw [content] at small
    exact Nat.le_trans small decodes.holds
  obtain ⟨_, decodes⟩ | ⟨_, file, _, _, _, _, decodes⟩ := (read_hex_file_ok_iff _ _ _).mp read
  · exact fits _ decodes
  · exact fits _ decodes

theorem protocol_info_returns (target : Target) : (printProtocolInfo target).ending = .ok () := by
  obtain ⟨capabilities, built, -⟩ := @capabilities_request_parses String target
  have heartbeat := build_bulk_heartbeat_request_eq target 0
  rw [if_pos (by decide)] at heartbeat
  unfold printProtocolInfo
  rw [built, heartbeat]
  rfl

theorem simulate_pattern_returns {rest : List String} {options : PatternOptions} {encode : Bool}
    (surroundings : PatternRun.Surroundings ulong)
    (parsed : parsePatternArgs target rest = .ok options) (enough : 256 < budget) :
    (PatternRun.simulatePattern target surroundings budget options encode).1.Returns := by
  obtain ⟨frames, queue, -⟩ := PatternRun.parsed_ranges parsed
  obtain ⟨pipeline, created⟩ : ∃ pipeline, new options.queueCapacity 0 = .ok pipeline :=
    ⟨_, if_neg (Nat.ne_of_gt queue.1)⟩
  obtain ⟨layout, admitted⟩ | ⟨error, refused⟩ :=
    Outcome.returns_cases (PatternFailures.admit_pattern_returns target options)
  · have accepted := PatternFailures.admitted_layout admitted
    have canonical := ((FrameLayouts.new_layout_ok_iff _ _ _).mp accepted).2.2
    rw [PatternFailures.simulate_pattern_admitted admitted created]
    exact (PatternFailures.run_pattern_ends canonical frames.2 queue.1 (by omega) created).elim.1
  · rw [PatternFailures.simulate_pattern_refused refused]
    trivial

theorem decode_hex_arguments {arguments : List String} {packet : List UInt8}
    (parsed : parseArgs target arguments = .ok (.decodeHex packet)) :
    ∃ input, arguments = ["--decode-hex", input] ∧ parseHex input = .ok packet := by
  unfold parseArgs at parsed
  split at parsed
  · split at parsed
    · cases parsed
    · obtain ⟨options, -, named⟩ := (Outcome.bind_eq_ok_iff _ _ _).mp parsed
      cases named
  · unfold parseOtherArgs at parsed
    split at parsed
    · cases parsed
    · obtain ⟨seconds, -, rest⟩ := (Outcome.bind_eq_ok_iff _ _ _).mp parsed
      split at rest <;> cases rest
    · obtain ⟨found, spelled, same⟩ := (Outcome.bind_eq_ok_iff _ _ _).mp parsed
      cases same
      exact ⟨_, rfl, (Outcome.mapError_eq_ok_iff _ _ _).mp spelled⟩
    all_goals cases parsed

/-- The command of an accepted command line comes back. -/
theorem perform_returns {arguments : List String} {command : Command}
    {surroundings : Observer.Surroundings} (stops : world.observer = some surroundings)
    (inMemory : ∀ argument ∈ arguments, (utf8 argument).length ≤ target.isizeMax)
    (calm : Observer.arrivalsFrom .empty (heard surroundings.listings) ≤ u64Max)
    (enough : 256 < budget) (parsed : parseArgs target arguments = .ok command) :
    (perform target world budget command).result.Returns := by
  cases command with
  | observe duration =>
      unfold perform
      rw [stops]
      exact observe_returns surroundings duration calm
  | decodeHex packet =>
      obtain ⟨input, rfl, spelled⟩ := decode_hex_arguments parsed
      have fits := Nat.le_trans (packet_le_text spelled) (inMemory input (by simp))
      exact decode_returns fits
  | decodeHexFile path =>
      change (Report.after ((readHexFile target world.files path).mapError _) _).ending.Returns
      obtain ⟨packet, read⟩ | ⟨error, refused⟩ :=
        Outcome.returns_cases (read_hex_file_returns world.files path)
      · rw [read]
        exact decode_returns (read_packet_fits read)
      · rw [refused]
        trivial
  | protocolInfo =>
      change (printProtocolInfo target).ending.Returns
      rw [protocol_info_returns]
      trivial
  | pattern options encode =>
      obtain ⟨rest, -, accepted⟩ := (parse_args_pattern_iff _ _ _).mp parsed
      change (Outcome.mapError _ _).Returns
      rw [Outcome.returns_mapError]
      exact simulate_pattern_returns world.pattern accepted enough
  | screenCastVersion =>
      exact Report.after_returns _ _ (ScreenCast.discover_returns _ _) fun _ => trivial

end Returning

/-- A refused command line has status 2 and its error alone, a command that is
done has 0, and one that failed has 1 and its message last. -/
def EndsOrderly {ulong : Target} (target : Target) (world : World ulong) (budget : Nat)
    (arguments : List String) (ended : Ended) : Prop :=
  (∃ error, parseArgs target arguments = .err error ∧ ended.status = .ok 2 ∧
      ended.stdout = [] ∧ ended.stderr = [error.display world.texts]) ∨
    ∃ command, parseArgs target arguments = .ok command ∧
      ended.stdout = (perform target world budget command).stdout ∧
      (ended.status = .ok 0 ∧ (perform target world budget command).result = .ok () ∧
          ended.stderr = (perform target world budget command).stderr ∨
        ∃ error, ended.status = .ok 1 ∧
          (perform target world budget command).result = .err error ∧
          ended.stderr = (perform target world budget command).stderr ++ ["smiusbd-rs: " ++ error])

theorem main_ends {target ulong : Target} {world : World ulong} {budget : Nat}
    {arguments : List String} {surroundings : Observer.Surroundings}
    (stops : world.observer = some surroundings)
    (inMemory : ∀ argument ∈ arguments, (utf8 argument).length ≤ target.isizeMax)
    (calm : Observer.arrivalsFrom .empty (heard surroundings.listings) ≤ u64Max)
    (enough : 256 < budget) :
    EndsOrderly target world budget arguments (main target world budget arguments) := by
  unfold main
  obtain ⟨command, parsed⟩ | ⟨error, refused⟩ :=
    Outcome.returns_cases (@parse_args_returns target arguments)
  · rw [parsed]
    right
    refine ⟨command, parsed, ?_⟩
    dsimp only
    unfold finish
    have returns : (perform target world budget command).result.Returns :=
      perform_returns stops inMemory calm enough parsed
    obtain ⟨_, done⟩ | ⟨error, failed⟩ := Outcome.returns_cases returns
    · rw [done]
      exact ⟨rfl, .inl ⟨rfl, rfl, rfl⟩⟩
    · rw [failed]
      exact ⟨rfl, .inr ⟨error, rfl, rfl, rfl⟩⟩
  · rw [refused]
    exact .inl ⟨error, refused, rfl, rfl, rfl⟩

/-- The adapter is there at the first poll, and the second fails; standard
input holds a header with nothing behind it. -/
def quietWorld : World .bits64 where
  texts := ⟨fun _ => "", fun path => path, "", fun _ => ""⟩
  castTexts := ⟨fun text => text, fun _ => ""⟩
  files := ⟨⟨utf8 "73 6d", none⟩, fun _ => .error "not found"⟩
  observer := some ⟨.ready, true,
    [.devices [some ⟨0, 0x090c, 0x0768, 0x0300, 0x0100, 2, 5, 1, 4⟩], .failed "LIBUSB_ERROR_IO"]⟩
  pattern := PatternRun.sampleSurroundings
  gdbus := .notExecuted "not found"

/-- The reader holds exactly this text. -/
structure Provides (reader : Reader) (text : String) : Prop where
  content : reader.content = utf8 text
  complete : reader.failure = none
  small : (utf8 text).length ≤ maxHexTextBytes

/-- The path leads to this text, on disk or on standard input. -/
def Leads (files : Files) (path text : String) : Prop :=
  if path = "-" then Provides files.stdin text
  else ∃ file length, files.openFile path = .ok file ∧ file.metadata = .ok length ∧
    length ≤ maxHexTextBytes ∧ Provides file.reader text

section Sources
variable {target ulong : Target} {world : World ulong} {budget : Nat} {path text : String}

theorem provided_text {reader : Reader} (provides : Provides reader text) :
    readHexText target reader maxHexTextBytes = parseHex text := by
  have room : maxHexTextBytes < target.usizeMax := by cases target <;> decide
  have wide := usize_le_u64 target
  have memory : maxHexTextBytes ≤ target.isizeMax := by cases target <;> decide
  have small : reader.content.length ≤ maxHexTextBytes := by
    rw [provides.content]
    exact provides.small
  have taken : readToEnd target reader (maxHexTextBytes + 1) = .ok (utf8 text) := by
    rw [read_to_end_ok_iff, ← provides.content]
    exact ⟨(List.take_of_length_le (by omega)).symm, by omega, fun _ => provides.complete⟩
  rw [readHexText, checkedAdd_some target maxHexTextBytes 1 room, okOr_some, Outcome.ok_bind,
    if_pos (by omega), okOr_some, Outcome.ok_bind, taken]
  simp only [Outcome.mapError, Outcome.ok_bind]
  rw [if_neg (Nat.not_lt.mpr provides.small), (from_utf8_eq_some_iff _ _).mpr rfl, okOr_some,
    Outcome.ok_bind]

theorem led_file (target : Target) {files : Files} (leads : Leads files path text) :
    ∃ wrap, readHexFile target files path = (parseHex text).mapError wrap := by
  unfold Leads at leads
  unfold readHexFile
  split_ifs at leads ⊢ with stdin
  · rw [provided_text leads]
    exact ⟨_, rfl⟩
  · obtain ⟨file, length, opened, inspected, small, provides⟩ := leads
    simp only [opened, inspected]
    rw [if_neg (Nat.not_lt.mpr small), provided_text provides]
    exact ⟨_, rfl⟩

theorem main_decode_hex (text : String) :
    main target world budget ["--decode-hex", text] =
      match (parseHex text).mapError ArgumentError.hex with
      | .ok packet => finish (.ofReport (decode target packet))
      | .err error => ⟨[], [error.display world.texts], .ok 2⟩
      | .panicked => ⟨[], [], .panicked⟩
      | .diverged => ⟨[], [], .diverged⟩ := by
  have parsed : parseArgs target ["--decode-hex", text] =
      (parseHex text).mapError ArgumentError.hex >>= fun packet => .ok (.decodeHex packet) := by
    simp [parseArgs, parseOtherArgs]
  unfold main
  rw [parsed]
  cases (parseHex text).mapError ArgumentError.hex <;> rfl

end Sources

/-- A packet may be given on the command line or in a file: when the text is
well formed the two runs are the same. A malformed text is a refused command
line in the one case and a failed command in the other. -/
theorem decode_sources_agree {target ulong : Target} (world : World ulong) (budget : Nat)
    (path text : String) (leads : Leads world.files path text) :
    (∀ packet, parseHex text = .ok packet →
      main target world budget ["--decode-hex-file", path] =
        main target world budget ["--decode-hex", text]) ∧
    ∀ error, parseHex text = .err error →
      (main target world budget ["--decode-hex", text]).status = .ok 2 ∧
      (main target world budget ["--decode-hex-file", path]).status = .ok 1 ∧
      (main target world budget ["--decode-hex", text]).stdout = [] ∧
      (main target world budget ["--decode-hex-file", path]).stdout = [] := by
  obtain ⟨wrap, read⟩ := led_file target leads
  have file : main target world budget ["--decode-hex-file", path] =
      finish (.ofReport (.after (((parseHex text).mapError wrap).mapError
        (HexFileError.display world.texts)) (decode target))) := by
    rw [← read]
    simp [main, parseArgs, parseOtherArgs, perform]
  rw [main_decode_hex, file]
  constructor
  · intro packet parsed
    rw [parsed]
    rfl
  · intro error refused
    rw [refused]
    exact ⟨rfl, rfl, rfl, rfl⟩

theorem decode_sources_agree_quiet :
    Leads quietWorld.files "-" "73 6d" ∧
      main .bits64 quietWorld 257 ["--decode-hex-file", "-"] =
        main .bits64 quietWorld 257 ["--decode-hex", "73 6d"] := by
  have leads : Leads quietWorld.files "-" "73 6d" := ⟨rfl, rfl, by decide⟩
  exact ⟨leads, (decode_sources_agree quietWorld 257 "-" "73 6d" leads).1 [0x73, 0x6d] (by decide)⟩

end Smiusb.MainProgram
