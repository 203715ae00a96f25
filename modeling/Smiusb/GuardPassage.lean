import Mathlib.Algebra.Order.Group.Multiset
import Smiusb.FenceSafety

/-!
What the interposer of src/guard/smiusb_guard.c leaves alone along every run:
calls with a handle reach the real libusb and their callers get its answers,
and hotplug events reach the vendor callback. Only the fence and a missing
symbol end the process.
-/

namespace Smiusb.GuardPassage
open Bytes Transitions RestartFence FenceSafety

variable {Handle Callback : Type} {target : Target} {environment : Option String}

section Invariants
variable {shared after : Shared Callback} {call : Call Handle} {dispatch : Dispatch Callback}
  {label : Label Handle Callback}

/-- What is known of a call from the place it has reached. -/
def CallHeld (environment : Option String) (call : Call Handle) : Prop :=
  call.function ∈ guardedFunctions ∧
    match call.phase with
    | .entered => True
    | .cleared => call.handle = none
    | .resolved => call.handle ≠ none
    | .completed result => call.handle = none → result = errorNoDevice
    | .undecided => call.function.fenced = true
    | .restarting => call.function.fenced = true ∧ enabledBy environment = true

def TaskHeld (environment : Option String) : Task Handle Callback → Prop
  | .call call => CallHeld environment call
  | .dispatch dispatch =>
      match dispatch.phase with
      | .describing | .restarting => enabledBy environment = true
      | _ => True
  | .register _ => True

theorem flag_enabled (agrees : FlagAgrees environment shared)
    (loaded : shared.restartOnDisconnect = .enabled) : enabledBy environment = true := by
  rcases agrees with unread | kept
  · rw [unread] at loaded
    contradiction
  · rw [kept, stored] at loaded
    by_contra disabled
    rw [if_neg disabled] at loaded
    contradiction

theorem call_moves_held {next : Option (Call Handle)} (agrees : FlagAgrees environment shared)
    (held : CallHeld environment call)
    (moved : CallMoves target environment shared call label after next) :
    ∀ later ∈ next, CallHeld environment later := by
  obtain ⟨known, reached⟩ := held
  intro later member
  cases moved with
  | clear entered null =>
      cases member
      exact ⟨known, null⟩
  | log cleared =>
      cases member
      exact ⟨known, fun _ => rfl⟩
  | resolve handle entered given =>
      cases member
      exact ⟨known, by simp [given]⟩
  | invoke result count resolved =>
      cases member
      rw [resolved] at reached
      exact ⟨known, fun null => absurd null reached⟩
  | fence result completed lost enabled =>
      cases member
      exact ⟨known, lost.1, flag_enabled agrees enabled⟩
  | unread result completed lost =>
      cases member
      exact ⟨known, lost.1⟩
  | enable undecided enabled =>
      cases member
      rw [undecided] at reached
      exact ⟨known, reached, enabled⟩
  | unresolved | finish | unfenced | disable | restart => contradiction

theorem dispatch_moves_held {next : Option (Dispatch Callback)}
    (agrees : FlagAgrees environment shared)
    (held : TaskHeld environment (.dispatch dispatch : Task Handle Callback))
    (moved : DispatchMoves environment shared dispatch label after next) :
    ∀ later ∈ next, TaskHeld environment (.dispatch later : Task Handle Callback) := by
  intro later member
  cases moved with
  | pass | unread | disable =>
      cases member
      trivial
  | fence entered left enabled =>
      cases member
      exact flag_enabled agrees enabled
  | enable undecided enabled =>
      cases member
      exact enabled
  | describe descriptor describing readable =>
      cases member
      simp only [TaskHeld, describing] at held ⊢
      cases descriptor.any sm768 with
      | false => trivial
      | true => exact held
  | restart | deliver => contradiction

/-- The reasons that `controlled_restart` is given. -/
def restartReasons : List String := "SM768 hotplug detach" :: transferFunctions.map Guarded.name

/-- The symbols that `resolve_or_die` looks for. -/
def interposedSymbols : List String :=
  "libusb_hotplug_register_callback" :: guardedFunctions.map Guarded.name

/-- What ends the process, and what it says then. -/
def Ending (environment : Option String) (status : Int) (message : String) : Prop :=
  (status = 0 ∧ enabledBy environment = true ∧ ∃ reason ∈ restartReasons,
    message = "smiusb-guard: controlled daemon restart: " ++ reason ++ "\n") ∨
  (status = 127 ∧ ∃ symbol ∈ interposedSymbols, ∃ error, message = unresolvedMessage symbol error)

/-- The events that may occur. -/
def Proper (environment : Option String) : Label Handle Callback → Prop
  | .returned call reply => call.handle = none → reply = call.reply errorNoDevice
  | .exited status message => Ending environment status message
  | _ => True

/-- Every reason fits the buffer. -/
theorem restart_message_whole {reason : String} (known : reason ∈ restartReasons) :
    restartMessage reason = "smiusb-guard: controlled daemon restart: " ++ reason ++ "\n" := by
  have short : ∀ reason ∈ restartReasons,
      ("smiusb-guard: controlled daemon restart: " ++ reason ++ "\n").length < 256 := by
    decide +kernel
  rw [restartMessage, written, if_pos (short reason known)]

theorem fenced_reason (known : call.function ∈ guardedFunctions)
    (fenced : call.function.fenced = true) : call.function.name ∈ restartReasons := by
  have transfers : ∀ function ∈ guardedFunctions, function.fenced = true →
      function.name ∈ restartReasons := by decide +kernel
  exact transfers _ known fenced

theorem guarded_symbol {function : Guarded} (known : function ∈ guardedFunctions) :
    function.name ∈ interposedSymbols :=
  List.mem_cons_of_mem _ (List.mem_map_of_mem known)

theorem call_moves_proper {next : Option (Call Handle)} (held : CallHeld environment call)
    (moved : CallMoves target environment shared call label after next) :
    Proper environment label := by
  obtain ⟨known, reached⟩ := held
  cases moved with
  | unresolved handle error => exact .inr ⟨rfl, _, guarded_symbol known, error, rfl⟩
  | finish result completed | unfenced result completed =>
      rw [completed] at reached
      intro null
      rw [reached null]
  | disable undecided => exact fun _ => rfl
  | restart restarting =>
      rw [restarting] at reached
      have reason := fenced_reason known reached.1
      exact .inl ⟨rfl, reached.2, _, reason, restart_message_whole reason⟩
  | _ => trivial

theorem dispatch_moves_proper {next : Option (Dispatch Callback)}
    (held : TaskHeld environment (.dispatch dispatch : Task Handle Callback))
    (moved : DispatchMoves environment shared dispatch label after next) :
    Proper environment label := by
  cases moved with
  | restart restarting =>
      simp only [TaskHeld, restarting] at held
      have reason : "SM768 hotplug detach" ∈ restartReasons := List.mem_cons_self
      exact .inl ⟨rfl, held, _, reason, restart_message_whole reason⟩
  | _ => trivial

theorem moves_held {task : Task Handle Callback} {next : Option (Task Handle Callback)}
    (agrees : FlagAgrees environment shared) (held : TaskHeld environment task)
    (moved : Moves target environment shared task label after next) :
    FlagAgrees environment after ∧ (∀ later ∈ next, TaskHeld environment later) ∧
      Proper environment label := by
  cases moved with
  | call alive moved =>
      refine ⟨call_moves_flag agrees moved, ?_, call_moves_proper held moved⟩
      intro later member
      obtain ⟨call, inside, rfl⟩ := Option.map_eq_some_iff.mp member
      exact call_moves_held agrees held moved call inside
  | dispatch alive moved =>
      refine ⟨dispatch_moves_flag agrees moved, ?_, dispatch_moves_proper held moved⟩
      intro later member
      obtain ⟨dispatch, inside, rfl⟩ := Option.map_eq_some_iff.mp member
      exact dispatch_moves_held agrees held moved dispatch inside
  | register alive moved =>
      refine ⟨?_, ?_, ?_⟩
      · cases moved <;> exact agrees
      · intro later member
        obtain ⟨registration, _, rfl⟩ := Option.map_eq_some_iff.mp member
        trivial
      · cases moved with
        | unresolved error => exact .inr ⟨rfl, _, List.mem_cons_self, error, rfl⟩
        | _ => trivial

theorem run_held {history : List (Label Handle Callback)}
    {final : Pool (Shared Callback) (Task Handle Callback)}
    (run : Run (Steps Handle Callback target environment) ⟨loaded, []⟩ history final) :
    FlagAgrees environment final.shared ∧ (∀ task ∈ final.tasks, TaskHeld environment task) ∧
      ∀ label ∈ history, Proper environment label := by
  apply pool_invariant _ _ _ loaded_flag_agrees _ _ run
  · intro shared task label _ begun
    cases begun with
    | call function handle transferred alive known => exact ⟨⟨known, trivial⟩, trivial⟩
    | dispatch | register => exact ⟨trivial, trivial⟩
  · intro shared task label after next agrees held moved
    exact moves_held agrees held moved

end Invariants

section Accounts

def tally {Item : Type} : Option Item → Multiset Item
  | none => 0
  | some item => {item}

/-- The calls with a handle, as they enter and as they reach libusb. -/
def asked : Label Handle Callback → Multiset (Guarded × Handle)
  | .began function handle => tally (handle.map fun handle => (function, handle))
  | _ => 0

def forwarded : Label Handle Callback → Multiset (Guarded × Handle)
  | .invoked function handle _ => tally (handle.map fun handle => (function, handle))
  | _ => 0

def unforwarded : Task Handle Callback → Multiset (Guarded × Handle)
  | .call call =>
      match call.phase with
      | .entered | .resolved => tally (call.handle.map fun handle => (call.function, handle))
      | _ => 0
  | _ => 0

def answer (function : Guarded) (result : Int) : Option Int :=
  if function.returnsResult then some result else none

/-- The answers of libusb, as it gives them and as the callers get them. -/
def answered : Label Handle Callback → Multiset (Guarded × Handle × Option Int)
  | .invoked function handle result =>
      tally (handle.map fun handle => (function, handle, answer function result))
  | _ => 0

def replied : Label Handle Callback → Multiset (Guarded × Handle × Option Int)
  | .returned call reply => tally (call.handle.map fun handle => (call.function, handle, reply))
  | _ => 0

def holding (call : Call Handle) (result : Int) : Multiset (Guarded × Handle × Option Int) :=
  tally (call.handle.map fun handle => (call.function, handle, answer call.function result))

def unreturned : Task Handle Callback → Multiset (Guarded × Handle × Option Int)
  | .call call =>
      match call.phase with
      | .completed result => holding call result
      | .undecided | .restarting => holding call errorNoDevice
      | _ => 0
  | _ => 0

/-- The hotplug events, as libusb reports them for a callback and as that
callback gets them. -/
def reported : Label Handle Callback → Multiset (Callback × HotplugEvent × UsbDevice)
  | .dispatching callback event device => {(callback, event, device)}
  | _ => 0

def told : Label Handle Callback → Multiset (Callback × HotplugEvent × UsbDevice)
  | .callback callback event device => {(callback, event, device)}
  | _ => 0

def untold : Task Handle Callback → Multiset (Callback × HotplugEvent × UsbDevice)
  | .dispatch dispatch => {(dispatch.callback, dispatch.event, dispatch.device)}
  | _ => 0

variable {shared after : Shared Callback} {label : Label Handle Callback}
  {task : Task Handle Callback} {next : Option (Task Handle Callback)}

theorem moves_alive (moved : Moves target environment shared task label after next) :
    shared.exited = none := by
  cases moved with
  | call alive | dispatch alive | register alive => exact alive

theorem moves_forwarded (alive : after.exited = none)
    (moved : Moves target environment shared task label after next) :
    asked label + unforwarded task = forwarded label + (next.toList.map unforwarded).sum := by
  cases moved with
  | call _ moved =>
      cases moved with
      | clear entered null => simp [asked, forwarded, unforwarded, entered, null, tally]
      | resolve handle entered given => simp [asked, forwarded, unforwarded, entered]
      | unresolved => contradiction
      | log phase | invoke result count phase | finish result phase | unfenced result phase
      | fence result phase | unread result phase | enable phase | disable phase
      | restart phase => simp [asked, forwarded, unforwarded, phase]
  | dispatch _ moved => cases moved <;> rfl
  | register _ moved => cases moved <;> rfl

theorem moves_answered (held : TaskHeld environment task) (alive : after.exited = none)
    (moved : Moves target environment shared task label after next) :
    answered label + unreturned task = replied label + (next.toList.map unreturned).sum := by
  cases moved with
  | call _ moved =>
      obtain ⟨-, reached⟩ := held
      cases moved with
      | log cleared =>
          rw [cleared] at reached
          simp [answered, replied, unreturned, cleared, holding, reached, tally]
      | invoke result count resolved =>
          simp [answered, replied, unreturned, resolved, holding]
      | finish result completed | unfenced result completed =>
          simp [answered, replied, unreturned, completed, holding, Call.reply, answer]
      | fence result completed lost | unread result completed lost =>
          simp [answered, replied, unreturned, completed, holding, lost.2]
      | enable undecided => simp [answered, replied, unreturned, undecided, holding]
      | disable undecided =>
          simp [answered, replied, unreturned, undecided, holding, Call.reply, answer]
      | unresolved | restart => contradiction
      | clear entered | resolve handle entered =>
          simp [answered, replied, unreturned, entered]
  | dispatch _ moved => cases moved <;> rfl
  | register _ moved => cases moved <;> rfl

theorem moves_told (alive : after.exited = none)
    (moved : Moves target environment shared task label after next) :
    reported label + untold task = told label + (next.toList.map untold).sum := by
  cases moved with
  | call _ moved => cases moved <;> rfl
  | dispatch _ moved =>
      cases moved with
      | restart => contradiction
      | _ => simp [reported, told, untold]
  | register _ moved => cases moved <;> rfl

/-- A balance that every move keeps holds as long as the process lives. -/
theorem run_account {Item : Type} (gain loss : Label Handle Callback → Multiset Item)
    (weight : Task Handle Callback → Multiset Item)
    (spawns : ∀ (shared : Shared Callback) task label, Begins shared task label →
      gain label = loss label + weight task)
    (keeps : ∀ (shared : Shared Callback) task label after next, TaskHeld environment task →
      after.exited = none → Moves target environment shared task label after next →
      gain label + weight task = loss label + (next.toList.map weight).sum)
    {history : List (Label Handle Callback)}
    {final : Pool (Shared Callback) (Task Handle Callback)}
    (run : Run (Steps Handle Callback target environment) ⟨loaded, []⟩ history final)
    (alive : final.shared.exited = none) :
    (history.map gain).sum = (history.map loss).sum + (final.tasks.map weight).sum := by
  apply pool_account (fun shared => shared.exited = none) (TaskHeld environment) gain loss weight
    _ _ spawns keeps run alive
  · intro history pool run
    exact (run_held run).2.1
  · intro shared task label after next moved _
    exact moves_alive moved

end Accounts

section Causes
variable {shared after : Shared Callback} {label : Label Handle Callback}
  {task : Task Handle Callback} {next : Option (Task Handle Callback)}

/-- The task is on the way to `controlled_restart`, if the fence is enabled. -/
def blamed : Task Handle Callback → Bool
  | .call call =>
      match call.phase with
      | .completed result => call.function.fenced && result = errorNoDevice
      | .undecided | .restarting => true
      | _ => false
  | .dispatch dispatch =>
      match dispatch.phase with
      | .entered => dispatch.event = .deviceLeft && sm768 dispatch.device
      | .undecided | .describing => sm768 dispatch.device
      | .restarting => true
      | .calling => false
  | .register _ => false

/-- Nothing but the loss of the device puts a task on that way. -/
theorem moves_blameless (harmless : fatal label = false) (blameless : blamed task = false)
    (moved : Moves target environment shared task label after next) :
    after.exited ≠ some 0 ∧ ∀ later ∈ next, blamed later = false := by
  have alive := moves_alive moved
  cases moved with
  | call _ moved =>
      cases moved with
      | log cleared => simpa [fatal, blamed, alive] using harmless
      | invoke result count resolved => simpa [fatal, blamed, alive] using harmless
      | fence result completed lost | unread result completed lost =>
          simp [blamed, completed, lost.1, lost.2] at blameless
      | enable phase | restart phase => simp [blamed, phase] at blameless
      | _ => simp [blamed, alive]
  | dispatch _ moved =>
      cases moved with
      | fence entered left | unread entered left =>
          simpa [blamed, entered, left, alive] using blameless
      | enable undecided => simpa [blamed, undecided, alive] using blameless
      | describe descriptor describing readable =>
          subst readable
          simp only [blamed, describing] at blameless
          simp [blamed, blameless, alive]
      | restart restarting => simp [blamed, restarting] at blameless
      | _ => simp [blamed, alive]
  | register _ moved =>
      cases moved <;> simp [blamed, alive]

theorem restart_has_cause {history : List (Label Handle Callback)}
    {final : Pool (Shared Callback) (Task Handle Callback)}
    (run : Run (Steps Handle Callback target environment) ⟨loaded, []⟩ history final)
    (restarted : final.shared.exited = some 0) : ∃ label ∈ history, fatal label = true := by
  by_contra none
  have harmless : ∀ label ∈ history, fatal label = false := by simpa using none
  have innocent := pool_invariant_while (fun label : Label Handle Callback => fatal label = false)
    (fun shared : Shared Callback => shared.exited ≠ some 0)
    (fun task : Task Handle Callback => blamed task = false) (fun _ => True)
    (by simp [loaded]) ?_ ?_ run harmless
  · exact innocent.1 restarted
  · intro shared task label harmless _ begun
    cases begun with
    | call => exact ⟨rfl, trivial⟩
    | dispatch callback event device => exact ⟨harmless, trivial⟩
    | register => exact ⟨rfl, trivial⟩
  · intro shared task label after next harmless _ blameless moved
    obtain ⟨lives, each⟩ := moves_blameless harmless blameless moved
    exact ⟨lives, each, trivial⟩

/-- The task does not go to this callback. -/
def Elsewhere (callback : Callback) : Task Handle Callback → Prop
  | .dispatch dispatch => dispatch.callback ≠ callback
  | _ => True

/-- Only its registration makes a callback known. -/
theorem moves_elsewhere {callback : Callback} (other : label ≠ .registering (some callback))
    (unknown : callback ∉ shared.guards) (elsewhere : Elsewhere callback task)
    (moved : Moves target environment shared task label after next) :
    callback ∉ after.guards ∧ (∀ later ∈ next, Elsewhere callback later) ∧
      ∀ event device, label ≠ .callback callback event device := by
  cases moved with
  | call alive moved =>
      refine ⟨?_, ?_, ?_⟩
      · cases moved <;> exact unknown
      · intro later member
        obtain ⟨call, _, rfl⟩ := Option.map_eq_some_iff.mp member
        trivial
      · cases moved <;> exact nofun
  | dispatch alive moved =>
      refine ⟨?_, ?_, ?_⟩
      · cases moved <;> exact unknown
      · cases moved <;> simp_all [Elsewhere]
      · cases moved with
        | deliver calling =>
            rintro event device ⟨⟩
            exact elsewhere rfl
        | _ => exact nofun
  | register alive moved =>
      refine ⟨?_, ?_, ?_⟩
      · cases moved with
        | guard added resolved given =>
            have different : callback ≠ added := by
              rintro rfl
              exact other rfl
            simpa [different] using unknown
        | release added before behind result calling given failed owned =>
            rw [owned] at unknown
            simp only [List.mem_append, List.mem_cons, not_or] at unknown ⊢
            exact ⟨unknown.1, unknown.2.2⟩
        | _ => exact unknown
      · intro later member
        obtain ⟨registration, _, rfl⟩ := Option.map_eq_some_iff.mp member
        trivial
      · cases moved <;> exact nofun

/-- A callback that gets an event was registered. -/
theorem callback_registered {history : List (Label Handle Callback)}
    {final : Pool (Shared Callback) (Task Handle Callback)} {callback : Callback}
    {event : HotplugEvent} {device : UsbDevice}
    (run : Run (Steps Handle Callback target environment) ⟨loaded, []⟩ history final)
    (called : .callback callback event device ∈ history) :
    .registering (some callback) ∈ history := by
  by_contra unregistered
  have others : ∀ label ∈ history, label ≠ .registering (some callback) := by
    rintro label member rfl
    exact unregistered member
  have never := pool_invariant_while
    (fun label : Label Handle Callback => label ≠ .registering (some callback))
    (fun shared : Shared Callback => callback ∉ shared.guards) (Elsewhere callback)
    (fun label => ∀ event device, label ≠ .callback callback event device)
    (by simp [loaded]) ?_ ?_ run others
  · exact never.2.2 _ called event device rfl
  · intro shared task label _ unknown begun
    cases begun with
    | call | register => exact ⟨trivial, nofun⟩
    | dispatch other event device alive known =>
        refine ⟨?_, nofun⟩
        rintro rfl
        exact unknown known
  · intro shared task label after next other unknown elsewhere moved
    exact moves_elsewhere other unknown elsewhere moved

/-- The end of the process is the last event, and it is recorded. -/
theorem run_ends {history : List (Label Handle Callback)}
    {final : Pool (Shared Callback) (Task Handle Callback)}
    (run : Run (Steps Handle Callback target environment) ⟨loaded, []⟩ history final) :
    (final.shared.exited = none ∧ ∀ status message, .exited status message ∉ history) ∨
      ∃ front status message, history = front ++ [.exited status message] ∧
        final.shared.exited = some status := by
  refine run_invariant
    (fun history (pool : Pool (Shared Callback) (Task Handle Callback)) =>
      (pool.shared.exited = none ∧ ∀ status message, .exited status message ∉ history) ∨
        ∃ front status message, history = front ++ [.exited status message] ∧
          pool.shared.exited = some status) ?_ ?_ run
  · exact .inl ⟨rfl, by simp⟩
  intro history pool label after _ ended step
  cases step with
  | @spawn shared tasks task _ begun =>
      have alive : shared.exited = none := by cases begun <;> assumption
      rcases ended with ⟨_, never⟩ | ⟨_, _, _, _, gone⟩
      · refine .inl ⟨alive, ?_⟩
        cases begun <;> simpa using never
      · simp [alive] at gone
  | @move shared after front back task next _ moved =>
      have alive := moves_alive moved
      rcases ended with ⟨_, never⟩ | ⟨_, _, _, _, gone⟩
      · cases moved with
        | call _ moved =>
            cases moved with
            | unresolved | restart => exact .inr ⟨history, _, _, rfl, rfl⟩
            | _ => exact .inl ⟨alive, by simpa using never⟩
        | dispatch _ moved =>
            cases moved with
            | restart => exact .inr ⟨history, _, _, rfl, rfl⟩
            | _ => exact .inl ⟨alive, by simpa using never⟩
        | register _ moved =>
            cases moved with
            | unresolved => exact .inr ⟨history, _, _, rfl, rfl⟩
            | _ => exact .inl ⟨alive, by simpa using never⟩
      · simp [alive] at gone

end Causes

section Passing
variable {history : List (Label Handle Callback)} {shared : Shared Callback}
  {start : Pool (Shared Callback) (Task Handle Callback)}

/-- A registration that libusb accepts, with nothing else in flight. -/
theorem registered_run (callback : Callback)
    (run : Run (Steps Handle Callback target environment) start history ⟨shared, []⟩)
    (alive : shared.exited = none) :
    Run (Steps Handle Callback target environment) start
      (history ++ [.quiet, .quiet, .registering (some callback), .registered success])
      ⟨{ shared with guards := shared.guards ++ [callback] }, []⟩ := by
  have begun : Begins shared (.register ⟨some callback, .entered⟩ : Task Handle Callback) .quiet :=
    .register (some callback) alive
  have entered := run.next (PoolStep.spawn begun)
  have resolved := single_task_run entered (.register alive (.resolve rfl))
  have guarded := single_task_run resolved (.register alive (.guard callback rfl rfl))
  have accepted := single_task_run guarded (.register alive (.accepted rfl))
  simpa only [List.append_assoc, List.cons_append, List.nil_append, Option.map_none,
    Option.toList_none] using accepted

end Passing

/-- Two callbacks are registered, and an adapter arrives that libusb reports
for the second of them. A transfer follows. -/
def passedHistory : List (Label Unit Nat) :=
  [.quiet, .quiet, .registering (some 1), .registered success,
    .quiet, .quiet, .registering (some 2), .registered success,
    .dispatching 2 .deviceArrived ⟨0x090c, 0x0768⟩, .quiet,
    .callback 2 .deviceArrived ⟨0x090c, 0x0768⟩,
    .began libusbBulkTransfer (some ()), .quiet, .invoked libusbBulkTransfer (some ()) success,
    .returned ⟨libusbBulkTransfer, some (), some 512, .completed success⟩ (some success)]

theorem passed_run :
    Run (Steps Unit Nat .bits64 none) ⟨loaded, []⟩ passedHistory
      ⟨{ (loaded : Shared Nat) with guards := [1, 2] }, []⟩ := by
  have nothing : Run (Steps Unit Nat .bits64 none) ⟨loaded, []⟩ [] ⟨loaded, []⟩ := .start
  have registered := registered_run 2 (registered_run 1 nothing rfl) rfl
  have reported := registered.next (PoolStep.spawn
    (.dispatch 2 .deviceArrived ⟨0x090c, 0x0768⟩ rfl (by simp [loaded])))
  have passing := single_task_run reported (.dispatch rfl (.pass rfl (.inl (by decide))))
  have told := single_task_run passing (.dispatch rfl (.deliver rfl))
  have entered := told.next (PoolStep.spawn
    (.call libusbBulkTransfer (some ()) (some 0) rfl (by decide)))
  have resolved := single_call_run entered rfl (.resolve () rfl rfl)
  have invoked := single_call_run resolved rfl (.invoke success 512 rfl)
  exact single_call_run invoked rfl (.finish success rfl (by decide))

/-- The process goes on unless a symbol is missing or the enabled fence has
seen the device go; its last message then says which, and nothing follows. -/
theorem guard_restarts_for_cause (target : Target) (environment : Option String)
    (history : List (Label Handle Callback)) (final : Pool (Shared Callback) (Task Handle Callback))
    (run : Run (Steps Handle Callback target environment) ⟨loaded, []⟩ history final) :
    (final.shared.exited = none ∧ ∀ status message, .exited status message ∉ history) ∨
      ∃ front status message, history = front ++ [.exited status message] ∧
        final.shared.exited = some status ∧ Ending environment status message ∧
        (status = 0 → ∃ label ∈ front, fatal label = true) := by
  rcases run_ends run with alive | ⟨front, status, message, rfl, exited⟩
  · exact .inl alive
  · refine .inr ⟨front, status, message, rfl, exited, ?_, ?_⟩
    · exact (run_held run).2.2 (.exited status message) (by simp)
    · rintro rfl
      obtain ⟨label, member, seen⟩ := restart_has_cause run exited
      rcases List.mem_append.mp member with before | last
      · exact ⟨label, before, seen⟩
      · rw [List.mem_singleton.mp last] at seen
        contradiction

theorem guard_restarts_for_cause_null_transfer :
    ∃ front status message, nullTransferHistory = front ++ [.exited status message] ∧
      some 0 = some status ∧ Ending (some "1") status message ∧
      (status = 0 → ∃ label ∈ front, fatal label = true) := by
  rcases guard_restarts_for_cause .bits64 (some "1") _ _ null_transfer_run with alive | ended
  · cases alive.1
  · exact ended

end Smiusb.GuardPassage
