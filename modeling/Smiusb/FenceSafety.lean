import Smiusb.RestartFence

/-!
What the interposer guarantees along every run: which calls reach the real
libusb, what a call without a handle leaves behind, and what the enabled fence
keeps away from the vendor code.
-/

namespace Smiusb.FenceSafety
open Bytes Transitions RestartFence

variable {Handle Callback : Type} {target : Target} {environment : Option String}

variable (Handle Callback target environment) in
/-- The steps of the process. -/
abbrev Steps := PoolStep (@Begins Handle Callback) (@Moves Handle Callback target environment)

section Invariants
variable {shared after : Shared Callback} {call : Call Handle} {dispatch : Dispatch Callback}
  {label : Label Handle Callback}

/-- The cached flag is what the environment variable says, once it is read. -/
def FlagAgrees (environment : Option String) (shared : Shared Callback) : Prop :=
  shared.restartOnDisconnect = .unread ∨ shared.restartOnDisconnect = stored environment

theorem loaded_flag_agrees : FlagAgrees environment (loaded : Shared Callback) := .inl rfl

theorem enabled_flag (agrees : FlagAgrees environment shared)
    (enabled : enabledBy environment = true) : shared.restartOnDisconnect ≠ .disabled := by
  intro disabled
  rcases agrees with unread | kept
  · rw [unread] at disabled
    contradiction
  · rw [kept, stored, if_pos enabled] at disabled
    contradiction

/-- A call without a handle stays away from the real function, and shows no
transferred bytes once it has passed its first statement. -/
structure CallSound (call : Call Handle) : Prop where
  handled : call.phase = .resolved → call.handle ≠ none
  shown : call.handle = none → call.phase ≠ .entered → call.function.clearsTransferred = true →
    ∀ count ∈ call.transferred, count = 0

/-- The vendor callback is not about to be told that an SM768 has left. -/
def DispatchSound (environment : Option String) (dispatch : Dispatch Callback) : Prop :=
  enabledBy environment = true → dispatch.phase = .calling →
    dispatch.event = .deviceLeft → sm768 dispatch.device = false

def TaskSound (environment : Option String) : Task Handle Callback → Prop
  | .call call => CallSound call
  | .dispatch dispatch => DispatchSound environment dispatch
  | .register _ => True

/-- The events that may occur. -/
def Safe (environment : Option String) : Label Handle Callback → Prop
  | .invoked _ handle _ => handle ≠ none
  | .returned call reply =>
      (call.handle = none → call.function.clearsTransferred = true →
        ∀ count ∈ call.transferred, count = 0) ∧
      (enabledBy environment = true → call.function.fenced = true → reply ≠ some errorNoDevice)
  | .callback _ event device =>
      enabledBy environment = true → event = .deviceLeft → sm768 device = false
  | _ => True

theorem begins_sound {task : Task Handle Callback} (begun : Begins shared task label) :
    TaskSound environment task ∧ Safe environment label := by
  cases begun with
  | call function handle transferred alive known =>
      refine ⟨⟨?_, ?_⟩, trivial⟩
      · intro resolved
        contradiction
      · intro _ later
        exact absurd rfl later
  | dispatch callback event device alive known =>
      refine ⟨?_, trivial⟩
      intro _ calling
      contradiction
  | register callback alive => exact ⟨trivial, trivial⟩

/-- A move changes the cached flag only to what the variable says. -/
theorem call_moves_flag {next : Option (Call Handle)} (agrees : FlagAgrees environment shared)
    (moved : CallMoves target environment shared call label after next) :
    FlagAgrees environment after := by
  cases moved with
  | enable undecided enabled => exact .inr rfl
  | disable undecided disabled => exact .inr rfl
  | _ => exact agrees

theorem dispatch_moves_flag {next : Option (Dispatch Callback)}
    (agrees : FlagAgrees environment shared)
    (moved : DispatchMoves environment shared dispatch label after next) :
    FlagAgrees environment after := by
  cases moved with
  | enable undecided enabled => exact .inr rfl
  | disable undecided disabled => exact .inr rfl
  | _ => exact agrees

/-- A call that has passed its first statement may move on without touching
what it shows, as long as it stays away from the real function. -/
theorem sound_moves_on (sound : CallSound call) (past : call.phase ≠ .entered) (phase : CallPhase)
    (away : phase ≠ .resolved) : CallSound { call with phase } := by
  constructor
  · intro resolved
    exact absurd resolved away
  · intro null _
    exact sound.shown null past

theorem call_moves_sound {next : Option (Call Handle)} (sound : CallSound call)
    (moved : CallMoves target environment shared call label after next) :
    ∀ later ∈ next, CallSound later := by
  intro later member
  cases moved with
  | clear entered null =>
      cases member
      refine ⟨fun resolved => by contradiction, ?_⟩
      intro _ _ clears count shown
      have zeroed : call.transferred.map (fun _ => (0 : Int)) = some count := by
        rw [← Option.mem_def.mp shown]
        exact (if_pos clears).symm
      obtain ⟨_, _, zero⟩ := Option.map_eq_some_iff.mp zeroed
      exact zero.symm
  | log cleared =>
      cases member
      exact sound_moves_on sound (by simp [cleared]) _ (by simp)
  | resolve handle entered given =>
      cases member
      exact ⟨fun _ => by simp [given], fun null => by simp [given] at null⟩
  | invoke result count resolved =>
      -- the real function may write any count, but this call has a handle
      cases member
      exact ⟨fun again => by contradiction, fun null => absurd null (sound.handled resolved)⟩
  | fence result phase | unread result phase | enable phase =>
      cases member
      exact sound_moves_on sound (by simp [phase]) _ (by simp)
  | unresolved | finish | unfenced | disable | restart => contradiction

theorem dispatch_moves_sound {next : Option (Dispatch Callback)}
    (agrees : FlagAgrees environment shared)
    (moved : DispatchMoves environment shared dispatch label after next) :
    ∀ later ∈ next, DispatchSound environment later := by
  intro later member enabled calling left
  cases moved with
  | pass entered calm =>
      cases member
      rcases calm with other | disabled
      · exact absurd left other
      · exact absurd disabled (enabled_flag agrees enabled)
  | disable undecided disabled => simp [enabled] at disabled
  | describe descriptor describing readable =>
      -- only a device of another kind goes on to the callback
      cases member
      subst readable
      cases kind : sm768 dispatch.device with
      | false => rfl
      | true => simp [kind] at calling
  | fence | unread | enable => cases member; contradiction
  | restart | deliver => contradiction

theorem call_moves_safe {next : Option (Call Handle)} (agrees : FlagAgrees environment shared)
    (sound : CallSound call) (moved : CallMoves target environment shared call label after next) :
    Safe environment label := by
  cases moved with
  | invoke result count resolved => exact sound.handled resolved
  | finish result completed calm =>
      refine ⟨fun null => sound.shown null (by simp [completed]), ?_⟩
      -- a fenced call that lost its device does not return here
      intro _ fenced lost
      apply calm
      refine ⟨fenced, ?_⟩
      simpa using (Option.ite_none_right_eq_some.mp lost).2
  | unfenced result completed lost disabled =>
      refine ⟨fun null => sound.shown null (by simp [completed]), ?_⟩
      intro enabled
      exact absurd disabled (enabled_flag agrees enabled)
  | disable undecided disabled =>
      refine ⟨fun null => sound.shown null (by simp [undecided]), ?_⟩
      intro enabled
      simp [enabled] at disabled
  | _ => trivial

theorem dispatch_moves_safe {next : Option (Dispatch Callback)}
    (sound : DispatchSound environment dispatch)
    (moved : DispatchMoves environment shared dispatch label after next) :
    Safe environment label := by
  cases moved with
  | deliver calling => exact fun enabled => sound enabled calling
  | _ => trivial

theorem moves_sound {task : Task Handle Callback} {next : Option (Task Handle Callback)}
    (agrees : FlagAgrees environment shared) (sound : TaskSound environment task)
    (moved : Moves target environment shared task label after next) :
    FlagAgrees environment after ∧ (∀ later ∈ next, TaskSound environment later) ∧
      Safe environment label := by
  cases moved with
  | call alive moved =>
      refine ⟨call_moves_flag agrees moved, ?_, call_moves_safe agrees sound moved⟩
      intro later member
      obtain ⟨call, held, rfl⟩ := Option.map_eq_some_iff.mp member
      exact call_moves_sound sound moved call held
  | dispatch alive moved =>
      refine ⟨dispatch_moves_flag agrees moved, ?_, dispatch_moves_safe sound moved⟩
      intro later member
      obtain ⟨dispatch, held, rfl⟩ := Option.map_eq_some_iff.mp member
      exact dispatch_moves_sound agrees moved dispatch held
  | register alive moved =>
      refine ⟨?_, ?_, ?_⟩
      · cases moved <;> exact agrees
      · intro later member
        obtain ⟨registration, _, rfl⟩ := Option.map_eq_some_iff.mp member
        trivial
      · cases moved <;> trivial

theorem run_sound {history : List (Label Handle Callback)}
    {final : Pool (Shared Callback) (Task Handle Callback)}
    (run : Run (Steps Handle Callback target environment) ⟨loaded, []⟩ history final) :
    FlagAgrees environment final.shared ∧
      (∀ task ∈ final.tasks, TaskSound environment task) ∧
      ∀ label ∈ history, Safe environment label := by
  apply pool_invariant _ _ _ loaded_flag_agrees _ _ run
  · intro shared task label _ begun
    exact begins_sound begun
  · intro shared task label after next agrees sound moved
    exact moves_sound agrees sound moved

end Invariants

section Counting
variable {shared after : Shared Callback} {label : Label Handle Callback}
  {task : Task Handle Callback} {next : Option (Task Handle Callback)}

/-- One for each call that enters without a handle. -/
def nullCalls : Label Handle Callback → Nat
  | .began _ none => 1
  | _ => 0

/-- One for each pass through `guard_log`. -/
def blockings : Label Handle Callback → Nat
  | .blocked _ _ => 1
  | _ => 0

/-- One for each call without a handle that `guard_log` has yet to count. -/
def uncounted : Task Handle Callback → Nat
  | .call call =>
      match call.phase with
      | .entered => if call.handle.isNone then 1 else 0
      | .cleared => 1
      | _ => 0
  | _ => 0

theorem begins_ledger (begun : Begins shared task label) :
    nullCalls label = blockings label + uncounted task := by
  cases begun with
  | call function handle transferred alive known => cases handle <;> rfl
  | dispatch => rfl
  | register => rfl

theorem moves_ledger (moved : Moves target environment shared task label after next) :
    nullCalls label + uncounted task = blockings label + (next.toList.map uncounted).sum := by
  cases moved with
  | call alive moved =>
      cases moved with
      | clear entered null => simp [nullCalls, blockings, uncounted, entered, null]
      | log cleared => simp [nullCalls, blockings, uncounted, cleared]
      | resolve handle entered given => simp [nullCalls, blockings, uncounted, entered, given]
      | unresolved handle error entered given =>
          simp [nullCalls, blockings, uncounted, entered, given]
      | invoke result count resolved => simp [nullCalls, blockings, uncounted, resolved]
      | finish result completed | unfenced result completed | fence result completed
      | unread result completed => simp [nullCalls, blockings, uncounted, completed]
      | enable undecided | disable undecided => simp [nullCalls, blockings, uncounted, undecided]
      | restart restarting => simp [nullCalls, blockings, uncounted, restarting]
  | dispatch alive moved => cases moved <;> rfl
  | register alive moved => cases moved <;> rfl

/-- `blocked_calls` advances with each pass through `guard_log` and only there. -/
theorem moves_blocked_calls (moved : Moves target environment shared task label after next)
    (below : shared.blockedCalls < target.usizeMax + 1) :
    after.blockedCalls = (shared.blockedCalls + blockings label) % (target.usizeMax + 1) := by
  have idle : (shared.blockedCalls + 0) % (target.usizeMax + 1) = shared.blockedCalls :=
    Nat.mod_eq_of_lt below
  cases moved with
  | call alive moved =>
      cases moved with
      | log cleared => rfl
      | _ => exact idle.symm
  | dispatch alive moved => cases moved <;> exact idle.symm
  | register alive moved => cases moved <;> exact idle.symm

theorem run_blocked_calls {history : List (Label Handle Callback)}
    {final : Pool (Shared Callback) (Task Handle Callback)}
    (run : Run (Steps Handle Callback target environment) ⟨loaded, []⟩ history final) :
    final.shared.blockedCalls = (history.map blockings).sum % (target.usizeMax + 1) := by
  refine run_invariant
    (fun history (pool : Pool (Shared Callback) (Task Handle Callback)) =>
      pool.shared.blockedCalls = (history.map blockings).sum % (target.usizeMax + 1)) ?_ ?_ run
  · exact (Nat.zero_mod _).symm
  · intro history pool label after _ counted step
    rw [List.map_append, List.sum_append, List.map_singleton, List.sum_singleton, ← Nat.mod_add_mod,
      ← counted]
    -- the counter is itself a remainder, so an idle step leaves it unchanged
    have below : pool.shared.blockedCalls < target.usizeMax + 1 := by
      rw [counted]
      exact Nat.mod_lt _ (Nat.succ_pos _)
    cases step with
    | spawn begun => cases begun <;> exact (Nat.mod_eq_of_lt below).symm
    | move moved => exact moves_blocked_calls moved below

end Counting

section Duties
variable {shared after : Shared Callback} {label : Label Handle Callback}
  {task : Task Handle Callback} {next : Option (Task Handle Callback)}

/-- The device is seen to be gone: by a transfer, or by its departure. -/
def fatal : Label Handle Callback → Bool
  | .blocked function _ => function.fenced
  | .invoked function _ result => function.fenced && result = errorNoDevice
  | .dispatching _ event device => event = .deviceLeft && sm768 device
  | _ => false

/-- The task goes on to `controlled_restart`, if nothing ends the process before. -/
def doomed : Task Handle Callback → Bool
  | .call call =>
      match call.phase with
      | .completed result => call.function.fenced && result = errorNoDevice
      | .undecided => true
      | .restarting => true
      | _ => false
  | .dispatch dispatch =>
      dispatch.event = .deviceLeft && sm768 dispatch.device && dispatch.phase ≠ .calling
  | .register _ => false

theorem begins_duty (begun : Begins shared task label) (seen : fatal label = true) :
    doomed task = true := by
  cases begun with
  | call => contradiction
  | dispatch callback event device alive known => simpa [doomed, fatal] using seen
  | register => contradiction

/-- The moves a doomed task has at most before the process ends. -/
def movesLeft : Task Handle Callback → Nat
  | .call call =>
      match call.phase with
      | .completed _ => 3
      | .undecided => 2
      | _ => 1
  | .dispatch dispatch =>
      match dispatch.phase with
      | .entered => 4
      | .undecided => 3
      | .describing => 2
      | _ => 1
  | .register _ => 0

theorem call_moves_doomed {call : Call Handle} {later : Option (Call Handle)}
    (agrees : FlagAgrees environment shared) (enabled : enabledBy environment = true)
    (moved : CallMoves target environment shared call label after later)
    (owes : doomed (.call call : Task Handle Callback) = true) :
    after.exited ≠ none ∨ ∃ call' ∈ later, doomed (.call call' : Task Handle Callback) = true ∧
      movesLeft (.call call' : Task Handle Callback) <
        movesLeft (.call call : Task Handle Callback) := by
  cases moved with
  | finish result completed calm =>
      refine absurd ?_ calm
      simpa [doomed, completed] using owes
  -- the two ways around the restart need a disabled flag
  | unfenced result completed lost disabled =>
      exact absurd disabled (enabled_flag agrees enabled)
  | disable undecided disabled => simp [enabled] at disabled
  | fence result completed | unread result completed =>
      exact .inr ⟨_, rfl, rfl, by simp [movesLeft, completed]⟩
  | enable undecided => exact .inr ⟨_, rfl, rfl, by simp [movesLeft, undecided]⟩
  | unresolved | restart => exact .inl (by simp)
  | clear phase | log phase | resolve handle phase | invoke result count phase =>
      simp [doomed, phase] at owes

theorem dispatch_moves_doomed {dispatch : Dispatch Callback} {later : Option (Dispatch Callback)}
    (agrees : FlagAgrees environment shared) (enabled : enabledBy environment = true)
    (moved : DispatchMoves environment shared dispatch label after later)
    (owes : doomed (.dispatch dispatch : Task Handle Callback) = true) :
    after.exited ≠ none ∨
      ∃ dispatch' ∈ later, doomed (.dispatch dispatch' : Task Handle Callback) = true ∧
        movesLeft (.dispatch dispatch' : Task Handle Callback) <
          movesLeft (.dispatch dispatch : Task Handle Callback) := by
  obtain ⟨⟨left, kind⟩, waiting⟩ : (dispatch.event = .deviceLeft ∧
      sm768 dispatch.device = true) ∧ dispatch.phase ≠ .calling := by
    simpa [doomed] using owes
  cases moved with
  | pass entered calm =>
      rcases calm with other | disabled
      · exact absurd left other
      · exact absurd disabled (enabled_flag agrees enabled)
  | fence phase | unread phase | enable phase =>
      exact .inr ⟨_, rfl, by simp [doomed, left, kind], by simp [movesLeft, phase]⟩
  | disable undecided disabled => simp [enabled] at disabled
  | describe descriptor describing readable =>
      subst readable
      exact .inr ⟨_, rfl, by simp [doomed, left, kind], by simp [movesLeft, kind, describing]⟩
  | restart => exact .inl (by simp)
  | deliver calling => exact absurd calling waiting

/-- A doomed task comes closer to the end of the process with each move. -/
theorem moves_doomed (enabled : enabledBy environment = true)
    (agrees : FlagAgrees environment shared)
    (moved : Moves target environment shared task label after next) (owes : doomed task = true) :
    after.exited ≠ none ∨
      ∃ later ∈ next, doomed later = true ∧ movesLeft later < movesLeft task := by
  cases moved with
  | call alive moved =>
      rcases call_moves_doomed agrees enabled moved owes with gone | ⟨call, member, closer⟩
      · exact .inl gone
      · exact .inr ⟨_, Option.mem_map_of_mem _ member, closer⟩
  | dispatch alive moved =>
      rcases dispatch_moves_doomed agrees enabled moved owes with gone | ⟨dispatch, member, closer⟩
      · exact .inl gone
      · exact .inr ⟨_, Option.mem_map_of_mem _ member, closer⟩
  | register => contradiction

/-- The move that sees the device gone leaves its task doomed. -/
theorem moves_fatal (moved : Moves target environment shared task label after next)
    (seen : fatal label = true) : ∃ later ∈ next, doomed later = true := by
  cases moved with
  | call alive moved =>
      cases moved with
      | log cleared => exact ⟨_, rfl, by simpa [fatal, doomed] using seen⟩
      | invoke result count resolved => exact ⟨_, rfl, by simpa [fatal, doomed] using seen⟩
      | _ => contradiction
  | dispatch alive moved => cases moved <;> contradiction
  | register alive moved => cases moved <;> contradiction

theorem doomed_call_moves {call : Call Handle} (shared : Shared Callback)
    (owes : doomed (.call call : Task Handle Callback) = true) :
    ∃ (label : Label Handle Callback) (after : _) (next : _),
      CallMoves target environment shared call label after next := by
  cases phase : call.phase with
  | completed result =>
      have lost : call.function.fenced = true ∧ result = errorNoDevice := by
        simpa [doomed, phase] using owes
      cases flag : shared.restartOnDisconnect with
      | unread => exact ⟨_, _, _, .unread result phase lost flag⟩
      | disabled => exact ⟨_, _, _, .unfenced result phase lost flag⟩
      | enabled => exact ⟨_, _, _, .fence result phase lost flag⟩
  | undecided =>
      cases value : enabledBy environment with
      | false => exact ⟨_, _, _, .disable phase value⟩
      | true => exact ⟨_, _, _, .enable phase value⟩
  | restarting => exact ⟨_, _, _, .restart phase⟩
  | entered | cleared | resolved => simp [doomed, phase] at owes

theorem doomed_dispatch_moves {dispatch : Dispatch Callback} (shared : Shared Callback)
    (owes : doomed (.dispatch dispatch : Task Handle Callback) = true) :
    ∃ (label : Label Handle Callback) (after : _) (next : _),
      DispatchMoves environment shared dispatch label after next := by
  cases phase : dispatch.phase with
  | entered =>
      have left : dispatch.event = .deviceLeft := by
        simp only [doomed, Bool.and_eq_true, decide_eq_true_eq] at owes
        exact owes.1.1
      cases flag : shared.restartOnDisconnect with
      | unread => exact ⟨_, _, _, .unread phase left flag⟩
      | disabled => exact ⟨_, _, _, .pass phase (.inr flag)⟩
      | enabled => exact ⟨_, _, _, .fence phase left flag⟩
  | undecided =>
      cases value : enabledBy environment with
      | false => exact ⟨_, _, _, .disable phase value⟩
      | true => exact ⟨_, _, _, .enable phase value⟩
  | describing => exact ⟨_, _, _, .describe _ phase rfl⟩
  | restarting => exact ⟨_, _, _, .restart phase⟩
  | calling => simp [doomed, phase] at owes

/-- Nothing holds up a doomed task but the end of the process. -/
theorem doomed_moves (alive : shared.exited = none) (owes : doomed task = true) :
    ∃ label after next, Moves target environment shared task label after next := by
  cases task with
  | call call =>
      obtain ⟨label, after, next, moved⟩ := doomed_call_moves shared owes
      exact ⟨label, after, _, .call alive moved⟩
  | dispatch dispatch =>
      obtain ⟨label, after, next, moved⟩ := doomed_dispatch_moves shared owes
      exact ⟨label, after, _, .dispatch alive moved⟩
  | register registration => contradiction

theorem run_duty {history : List (Label Handle Callback)}
    {final : Pool (Shared Callback) (Task Handle Callback)} (enabled : enabledBy environment = true)
    (run : Run (Steps Handle Callback target environment) ⟨loaded, []⟩ history final) :
    (∃ label ∈ history, fatal label = true) →
      final.shared.exited ≠ none ∨ ∃ task ∈ final.tasks, doomed task = true := by
  apply pool_duty (FlagAgrees environment) _ _ (fun shared => shared.exited ≠ none) _ _ _ _ run
  · intro history pool run
    exact (run_sound run).1
  · intro shared task label begun seen
    exact begins_duty begun seen
  · intro shared task label after next moved gone
    -- no task moves in a process that has exited
    cases moved with
    | call alive | dispatch alive | register alive => exact absurd alive gone
  · intro shared task label after next agrees moved due
    rcases due with seen | owes
    · exact .inr (moves_fatal moved seen)
    · rcases moves_doomed enabled agrees moved owes with gone | ⟨later, member, still, _⟩
      · exact .inl gone
      · exact .inr ⟨later, member, still⟩

end Duties

/-- The interposer over whole runs, in every interleaving. -/
theorem restart_fence (target : Target) (environment : Option String)
    (history : List (Label Handle Callback)) (final : Pool (Shared Callback) (Task Handle Callback))
    (run : Run (Steps Handle Callback target environment) ⟨loaded, []⟩ history final) :
    (∀ function result, .invoked function none result ∉ history) ∧
    (∀ call reply, .returned call reply ∈ history → call.handle = none →
      call.function ∈ [libusbBulkTransfer, libusbInterruptTransfer] →
      ∀ count ∈ call.transferred, count = 0) ∧
    (∀ call, .call call ∈ final.tasks → call.phase ≠ .entered → call.handle = none →
      call.function ∈ [libusbBulkTransfer, libusbInterruptTransfer] →
      ∀ count ∈ call.transferred, count = 0) ∧
    final.shared.blockedCalls = (history.map blockings).sum % (target.usizeMax + 1) ∧
    (history.map nullCalls).sum =
      (history.map blockings).sum + (final.tasks.map uncounted).sum ∧
    (enabledBy environment = true →
      (∀ call reply, .returned call reply ∈ history → call.function ∈ transferFunctions →
        reply ≠ some errorNoDevice) ∧
      (∀ callback device, .callback callback .deviceLeft device ∈ history →
        sm768 device = false) ∧
      ((∃ label ∈ history, fatal label = true) → final.shared.exited ≠ none ∨
        ∃ task ∈ final.tasks, doomed task = true ∧
          (∃ label after next, Moves target environment final.shared task label after next) ∧
          ∀ label after next, Moves target environment final.shared task label after next →
            after.exited ≠ none ∨
              ∃ later ∈ next, doomed later = true ∧ movesLeft later < movesLeft task)) := by
  obtain ⟨agrees, sound, safe⟩ := run_sound run
  have clears : ∀ function ∈ [libusbBulkTransfer, libusbInterruptTransfer],
      function.clearsTransferred = true := by decide
  refine ⟨?_, ?_, ?_, run_blocked_calls run, ?_, ?_⟩
  · intro function result member
    exact safe _ member rfl
  · intro call reply member null named
    exact (safe _ member).1 null (clears _ named)
  · intro call member past null named
    exact (sound _ member).shown null past (clears _ named)
  · apply pool_ledger nullCalls blockings uncounted _ _ run
    · intro shared task label begun
      exact begins_ledger begun
    · intro shared task label after next moved
      exact moves_ledger moved
  · intro enabled
    refine ⟨?_, ?_, ?_⟩
    · intro call reply member named
      have fenced : ∀ function ∈ transferFunctions, function.fenced = true := by decide
      exact (safe _ member).2 enabled (fenced _ named)
    · intro callback device member
      exact safe _ member enabled rfl
    · intro seen
      rcases run_duty enabled run seen with gone | ⟨task, member, owes⟩
      · exact .inl gone
      · by_cases alive : final.shared.exited = none
        · refine .inr ⟨task, member, owes, doomed_moves alive owes, ?_⟩
          intro label after next moved
          exact moves_doomed enabled agrees moved owes
        · exact .inl alive

section Runs
variable {start : Pool (Shared Callback) (Task Handle Callback)}
  {history : List (Label Handle Callback)} {shared after : Shared Callback} {call : Call Handle}
  {label : Label Handle Callback}

/-- The only task in flight makes a move. -/
theorem single_task_run {task : Task Handle Callback} {next : Option (Task Handle Callback)}
    (run : Run (Steps Handle Callback target environment) start history ⟨shared, [task]⟩)
    (moved : Moves target environment shared task label after next) :
    Run (Steps Handle Callback target environment) start (history ++ [label])
      ⟨after, next.toList⟩ := by
  have step : Steps Handle Callback target environment ⟨shared, [] ++ task :: []⟩ label
      ⟨after, [] ++ next.toList ++ []⟩ := .move moved
  simpa using run.next step

theorem single_call_run {next : Option (Call Handle)}
    (run : Run (Steps Handle Callback target environment) start history ⟨shared, [.call call]⟩)
    (alive : shared.exited = none)
    (moved : CallMoves target environment shared call label after next) :
    Run (Steps Handle Callback target environment) start (history ++ [label])
      ⟨after, (next.map Task.call).toList⟩ :=
  single_task_run run (.call alive moved)

/-- A call of `function` without a handle that has passed `guard_log`. -/
def blockedCall (function : Guarded) (transferred : Option Int) : Call Handle :=
  ⟨function, none,
    if function.clearsTransferred then transferred.map fun _ => 0 else transferred,
    .completed errorNoDevice⟩

theorem blocked_call_run (function : Guarded) (transferred : Option Int)
    (run : Run (Steps Handle Callback target environment) start history ⟨shared, []⟩)
    (alive : shared.exited = none) (known : function ∈ guardedFunctions) :
    Run (Steps Handle Callback target environment) start
      (history ++ [.began function none] ++ [.quiet] ++ [.blocked function
        (blockedMessage function.name (increment target shared.blockedCalls))])
      ⟨{ shared with blockedCalls := increment target shared.blockedCalls },
        [.call (blockedCall function transferred)]⟩ := by
  have begun : Begins shared (.call ⟨function, (none : Option Handle), transferred, .entered⟩)
      (.began function none) := .call function none transferred alive known
  have entered := run.next (PoolStep.spawn begun)
  have cleared := single_call_run entered alive (.clear rfl rfl)
  exact single_call_run cleared alive (.log rfl)

end Runs

/-- What happens to a transfer without a handle while the fence is enabled. -/
def nullTransferHistory : List (Label Unit Unit) :=
  [.began libusbBulkTransfer none, .quiet,
    .blocked libusbBulkTransfer (blockedMessage "libusb_bulk_transfer" 1), .quiet, .quiet,
    .exited 0 (restartMessage "libusb_bulk_transfer")]

theorem null_transfer_run : Run (Steps Unit Unit .bits64 (some "1")) ⟨loaded, []⟩
    nullTransferHistory ⟨⟨.enabled, 1, some 0, []⟩, []⟩ := by
  have blocked := blocked_call_run libusbBulkTransfer (some 7)
    (.start : Run (Steps Unit Unit .bits64 (some "1")) ⟨loaded, []⟩ [] _) rfl (by decide)
  have read := single_call_run blocked rfl (.unread errorNoDevice rfl ⟨rfl, rfl⟩ rfl)
  have decided := single_call_run read rfl (.enable rfl (by decide))
  exact single_call_run decided rfl (.restart rfl)

theorem restart_fence_null_transfer :
    Run (Steps Unit Unit .bits64 (some "1")) ⟨loaded, []⟩ nullTransferHistory
      ⟨⟨.enabled, 1, some 0, []⟩, []⟩ ∧
    (nullTransferHistory.map nullCalls).sum = (nullTransferHistory.map blockings).sum :=
  ⟨null_transfer_run, (restart_fence .bits64 (some "1") _ _ null_transfer_run).2.2.2.2.1⟩

variable (target) in
/-- Any number of calls of `libusb_close` without a handle, one after another. -/
theorem null_closes_run (calls : Nat) :
    ∃ history : List (Label Unit Unit), (history.map nullCalls).sum = calls ∧
      Run (Steps Unit Unit target none) ⟨loaded, []⟩ history
        ⟨⟨.unread, calls % (target.usizeMax + 1), none, []⟩, []⟩ := by
  induction calls with
  | zero => exact ⟨[], rfl, .start⟩
  | succ calls ih =>
      obtain ⟨history, counted, run⟩ := ih
      have blocked := blocked_call_run libusbClose none run rfl (by decide)
      have returned := single_call_run blocked rfl
        (.finish errorNoDevice rfl (by simp [blockedCall, libusbClose]))
      rw [← Nat.mod_add_mod]
      exact ⟨_, by simp [counted, nullCalls], returned⟩

/-- The counter starts over after as many calls as `unsigned long` has values. -/
theorem blocked_calls_wrap :
    ∃ (history : List (Label Unit Unit)) (final : Pool (Shared Unit) (Task Unit Unit)),
      Run (Steps Unit Unit .bits64 none) ⟨loaded, []⟩ history final ∧ final.tasks = [] ∧
        (history.map nullCalls).sum = 2 ^ 64 ∧ final.shared.blockedCalls = 0 := by
  obtain ⟨history, counted, run⟩ := null_closes_run .bits64 (2 ^ 64)
  exact ⟨history, _, run, rfl, counted, by decide⟩

end Smiusb.FenceSafety
