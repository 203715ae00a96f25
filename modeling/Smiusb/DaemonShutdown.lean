import Smiusb.DaemonProcess

/-!
How a run of src/daemon/smiusbd.cpp ends: in which order the libusb context,
the references and the handles are given back, what becomes of the events that
libusb reported, and what the exit code says.
-/

namespace Smiusb.DaemonShutdown
open Transitions Bytes SessionManager SessionLifetime SessionHistory DaemonOptions DaemonProcess

section Readings
variable {Device Handle : Type}

def opens : Label Device Handle → Bool
  | .init => true
  | _ => false

def closes : Label Device Handle → Bool
  | .exit => true
  | _ => false

/-- The events of the hotplug callback. -/
def reportedBy : Label Device Handle → List (UsbEvent Device)
  | .manager (.refDevice event) => [event]
  | _ => []

def reported (history : List (Label Device Handle)) : List (UsbEvent Device) :=
  history.flatMap reportedBy

theorem reported_snoc (history : List (Label Device Handle)) (label : Label Device Handle) :
    reported (history ++ [label]) = reported history ++ reportedBy label := by
  simp [reported]

theorem accepted_label (history : List (Label Device Handle)) (label : Label Device Handle) :
    accepted (managerHistory (history ++ [label])) =
      accepted (managerHistory history) ++ (managed label).toList.flatMap acceptedBy := by
  cases own : managed label <;> simp [managerHistory, accepted, own]

end Readings

section Runs
variable {Device Handle : Type} [DecidableEq Device] [DecidableEq Handle] {target : Target}
  {arguments : List String} {history : List (Label Device Handle)}
  {process after final : Process Device Handle} {label : Label Device Handle}

/-- The context is opened at most once and closed as often. -/
structure Ledger (history : List (Label Device Handle)) (main : Main) : Prop where
  even : history.countP opens = history.countP closes + main.holding
  once : history.countP opens + main.ahead ≤ 1

omit [DecidableEq Device] [DecidableEq Handle] in
/-- A label that is neither changes nothing, wherever the main thread goes. -/
theorem Ledger.keep {main next : Main} (ledger : Ledger history main)
    (neither : opens label = false ∧ closes label = false)
    (holding : next.holding = main.holding) (ahead : next.ahead ≤ main.ahead) :
    Ledger (history ++ [label]) next := by
  obtain ⟨even, once⟩ := ledger
  constructor
  · simpa [List.countP_append, neither, holding] using even
  · simp only [List.countP_append, List.countP_singleton, neither.1]
    simpa using Nat.le_trans (Nat.add_le_add_left ahead _) once

theorem ledger_step (ledger : Ledger history process.main)
    (step : Step target arguments process label after) :
    Ledger (history ++ [label]) after.main := by
  cases step with
  | move _ _ moved =>
      cases moved with
      | init here =>
          obtain ⟨even, once⟩ := ledger
          simp only [here, Main.holding, Main.ahead] at even once
          constructor
          · simpa [List.countP_append, opens, closes, Main.holding] using even
          · simpa [List.countP_append, opens, Main.ahead] using once
      | events status here =>
          refine ledger.keep ⟨rfl, rfl⟩ ?_ ?_
          · cases status <;> simp [here, Main.holding]
          · cases status <;> simp [here, Main.ahead]
      | usage here | parsed _ here | initFailed here | constructed here | registerFailed here
      | registered here | proceed here | leave here | deregister here =>
          exact ledger.keep ⟨rfl, rfl⟩ (by simp [here, Main.holding]) (by simp [here, Main.ahead])
  | stop _ here | join _ here | finish here =>
      exact ledger.keep ⟨rfl, rfl⟩ (by simp [here, Main.holding]) (by simp [here, Main.ahead])
  | exit here =>
      obtain ⟨even, once⟩ := ledger
      simp only [here, Main.holding, Main.ahead] at even once
      constructor
      · simpa [List.countP_append, opens, closes, Main.holding] using even
      · simpa [List.countP_append, opens, Main.ahead] using once
  | callback | enqueue | worker | signal =>
      exact ledger.keep ⟨rfl, rfl⟩ rfl (Nat.le_refl _)

theorem run_ledger (run : Run (Step target arguments) begin history final) :
    Ledger history final.main := by
  refine run_invariant
    (fun history (process : Process Device Handle) => Ledger history process.main) ?_ ?_ run
  · exact ⟨rfl, Nat.le_refl 1⟩
  · intro history process label after _ ledger step
    exact ledger_step ledger step

theorem closed_serving {main : Main} (closing : main.closed = true) : main.serving = false := by
  cases main <;> first | rfl | cases closing

theorem finished_still {state next : State Device Handle} {activity : Activity Device Handle}
    (own : isWorker activity = true) (finished : state.worker = .finished) :
    ¬ Advance state activity next := by
  intro advance
  cases advance with
  | refDevice | accepted | refused | stop | join => cases own
  | pop event rest waiting | leave waiting => simp [finished] at waiting
  | handle event answers popped => simp [finished] at popped
  | unref event handled => simp [finished] at handled
  | drain draining => simp [finished] at draining
  | clear clearing => simp [finished] at clearing

/-- Behind `libusb_exit` the daemon only returns. -/
theorem closed_step (phased : Phased process.manager) (aligned : Aligned process)
    (closing : process.main.closed = true) (step : Step target arguments process label after) :
    after.main.closed = true ∧ after.manager = process.manager ∧
      (label = .signal ∨ ∃ code, label = .finish code) := by
  have silent := closed_serving closing
  cases step with
  | finish => exact ⟨rfl, rfl, .inr ⟨_, rfl⟩⟩
  | signal => exact ⟨closing, rfl, .inl rfl⟩
  | move _ _ moved => simp [(move_stays moved).serving] at silent
  | callback _ _ inside | enqueue _ _ _ inside => simp [(inLibusb_serving inside).1] at silent
  | worker activity after own started advance =>
      -- the worker is joined, unless there is no process any more
      have here : process.main = .destroying := by
        cases main : process.main <;> simp [main, Main.closed, Main.started] at closing started
        rfl
      exact absurd advance (finished_still own (phased.joined (aligned.joined (.inr here)).2))
  | stop _ here | join _ here | exit here => simp [here, Main.closed] at closing

/-- `libusb_exit` is called once the worker is joined, and nothing that touches
libusb comes behind it. -/
theorem exit_last (front back : List (Label Device Handle))
    (run : Run (Step target arguments) begin (front ++ .exit :: back) final) :
    ∃ before, Run (Step target arguments) begin front before ∧ before.main = .exiting ∧
      final.manager = before.manager ∧
      ∀ label ∈ back, label = .signal ∨ ∃ code, label = .finish code := by
  obtain ⟨before, after, upTo, exited, behind⟩ := run_at front back .exit run
  have phased := run_phased (manager_run upTo)
  have aligned := run_aligned upTo
  have sane : Phased after.manager ∧ Aligned after :=
    ⟨phased_step phased exited, aligned_step phased aligned exited⟩
  cases exited with
  | move _ _ moved => cases moved
  | exit here =>
      have rest := run_invariant
        (fun past (process : Process Device Handle) => (Phased process.manager ∧ Aligned process) ∧
          process.main.closed = true ∧ process.manager = before.manager ∧
          ∀ label ∈ past, label = .signal ∨ ∃ code, label = .finish code)
        ⟨sane, rfl, rfl, by simp⟩ (by
          rintro past process label next _ ⟨⟨phased, aligned⟩, closing, same, quiet⟩ step
          obtain ⟨still, kept, harmless⟩ := closed_step phased aligned closing step
          refine ⟨⟨phased_step phased step, aligned_step phased aligned step⟩, still,
            kept.trans same, ?_⟩
          simpa [or_imp, forall_and, harmless] using quiet) behind
      exact ⟨before, upTo, here, rest.2.2⟩

/-- Once the worker is joined there is no place left that a pointer can be in. -/
theorem joined_balanced {past : List (Activity Device Handle)} {state : State Device Handle}
    (run : Run Advance SessionManager.start past state) (returned : state.stopper = .returned)
    (free : state.entering = []) :
    (∀ device, taken state device = released state device) ∧
      ∀ handle, opened state handle = closed state handle := by
  obtain ⟨owned, -⟩ := run_owned run
  have phased := run_phased run
  have finished := phased.joined returned
  have empty := (phased.drained (by rw [finished]; rfl)).2
  have cleared := phased.cleared finished
  constructor
  · intro device
    simpa [pointers, free, empty, finished, cleared, hand] using owned.references device
  · intro handle
    simpa [openHandles, cleared] using owned.handles handle

/-- A device arrives during the registration, and a signal ends the loop. -/
def observed : List (Label Nat Nat) :=
  let arrival : UsbEvent Nat := ⟨3, .deviceArrived⟩
  [.parsed, .init, .constructed, .manager (.refDevice arrival), .manager (.enqueue arrival true),
    .registered, .manager (.pop arrival), .manager (.handle arrival ⟨true, some 9⟩ (.opened 9 1)),
    .manager (.unref arrival), .signal, .leave, .deregister, .manager .stop, .manager .leave,
    .manager .drain, .manager .clear, .manager .join, .exit, .finish 0]

theorem observed_run : ∃ final, Run (Step .bits64 ["smiusbd", "--observe"]) begin observed final ∧
    final.main = .returned 0 := by
  have begun : Run (Step .bits64 ["smiusbd", "--observe"]) (begin : Process Nat Nat) [] begin :=
    .start
  have reported := Run.next (.next (.next (.next (.next begun
    (.move _ _ (.parsed ⟨0⟩ rfl (by decide)))) (.move _ _ (.init rfl)))
    (.move _ _ (.constructed rfl))) (.callback ⟨3, .deviceArrived⟩ _ rfl rfl (.refDevice _)))
    (.enqueue ⟨3, .deviceArrived⟩ true _ rfl (.accepted _ [] [] rfl rfl))
  have fresh : FreshHandle ([.refDevice 3] : List (LibusbCall Nat Nat)) ⟨true, some 9⟩ := by
    intro handle success
    cases success
    rfl
  have served := Run.next (.next (.next (.next reported (.move _ _ (.registered rfl rfl)))
    (.worker _ _ rfl rfl (.pop ⟨3, .deviceArrived⟩ [] rfl rfl)))
    (.worker _ _ rfl rfl (.handle ⟨3, .deviceArrived⟩ ⟨true, some 9⟩ rfl fresh)))
    (.worker _ _ rfl rfl (.unref ⟨3, .deviceArrived⟩ rfl))
  have stopped := Run.next (.next (.next (.next served (.signal rfl))
    (.move _ _ (.leave rfl (.inl rfl)))) (.move _ _ (.deregister rfl))) (.stop _ rfl (.stop rfl))
  have joined := Run.next (.next (.next (.next stopped (.worker _ _ rfl rfl (.leave rfl rfl rfl)))
    (.worker _ _ rfl rfl (.drain rfl))) (.worker _ _ rfl rfl (.clear rfl)))
    (.join _ rfl (.join rfl rfl))
  exact ⟨_, Run.next (.next joined (.exit rfl)) (.finish rfl rfl), rfl⟩

/-- The context is closed exactly once if it was opened. When it is, every
reference and every handle has been given back, and nothing is called later. -/
theorem daemon_shutdown_order (run : Run (Step target arguments) begin history final) :
    history.countP opens ≤ 1 ∧
    history.countP opens = history.countP closes + final.main.holding ∧
    final.lateCalls = [] ∧
    ∀ front back, history = front ++ .exit :: back →
      (∀ device, taken final.manager device = released final.manager device) ∧
      (∀ handle, opened final.manager handle = closed final.manager handle) ∧
      ∀ label ∈ back, label = .signal ∨ ∃ code, label = .finish code := by
  have ledger := run_ledger run
  refine ⟨Nat.le_trans (Nat.le_add_right _ _) ledger.once, ledger.even,
    (run_aligned run).silent, ?_⟩
  rintro front back rfl
  obtain ⟨before, upTo, here, same, quiet⟩ := exit_last front back run
  have aligned := run_aligned upTo
  have returned := (aligned.joined (.inl here)).2
  have free := aligned.quiet (by simp [here, Main.inLibusb])
  rw [same]
  obtain ⟨references, handles⟩ := joined_balanced (manager_run upTo) returned free
  exact ⟨references, handles, quiet⟩

theorem daemon_shutdown_order_signal : ∃ final,
    Run (Step .bits64 ["smiusbd", "--observe"]) begin observed final ∧ observed.countP opens ≤ 1 ∧
      taken final.manager 3 = released final.manager 3 := by
  obtain ⟨final, run, -⟩ := observed_run
  obtain ⟨once, -, -, behind⟩ := daemon_shutdown_order run
  exact ⟨final, run, once, (behind (observed.take 17) (observed.drop 18) rfl).1 3⟩

/-- libusb reports one event at a time, and all of them are accepted. -/
structure InTurn (history : List (Label Device Handle)) (process : Process Device Handle) :
    Prop where
  order : reported history = accepted (managerHistory history) ++ process.manager.entering
  single : process.manager.entering.length ≤ 1

omit [DecidableEq Device] [DecidableEq Handle] in
/-- Labels and managers of other steps leave the order alone. -/
theorem InTurn.keep (turn : InTurn history process) (quiet : reportedBy label = [])
    (refused : (managed label).toList.flatMap acceptedBy = [])
    (same : after.manager.entering = process.manager.entering) :
    InTurn (history ++ [label]) after := by
  obtain ⟨order, single⟩ := turn
  constructor
  · rw [reported_snoc, accepted_label, refused, quiet, same, List.append_nil, List.append_nil]
    exact order
  · rwa [same]

omit [DecidableEq Device] [DecidableEq Handle] in
theorem unmanaged_unreported (unmanaged : managed label = none) : reportedBy label = [] := by
  cases label with
  | manager activity => cases unmanaged
  | _ => rfl

omit [DecidableEq Device] [DecidableEq Handle] in
theorem worker_silent {activity : Activity Device Handle} (own : isWorker activity = true) :
    reportedBy (Label.manager activity) = [] ∧ acceptedBy activity = [] := by
  cases activity <;> first | exact ⟨rfl, rfl⟩ | cases own

theorem in_turn_step (aligned : Aligned process) (turn : InTurn history process)
    (step : Step target arguments process label after) : InTurn (history ++ [label]) after := by
  cases step with
  | move _ _ moved =>
      have stays := move_stays moved
      exact turn.keep (unmanaged_unreported stays.unmanaged) (by simp [stays.unmanaged])
        (by rw [stays.manager])
  | callback event after inside free advance =>
      cases advance
      obtain ⟨order, -⟩ := turn
      constructor
      · rw [reported_snoc, accepted_label]
        simpa [reportedBy, managed, acceptedBy, free] using order
      · simp [free]
  | enqueue event flag after inside advance =>
      have running := (aligned.serving (inLibusb_serving inside).1).1
      obtain ⟨order, single⟩ := turn
      cases advance with
      | refused _ before behind chosen stopped =>
          rw [running] at stopped
          cases stopped
      | accepted _ before behind chosen =>
          -- the event that enters is the only one
          rw [chosen] at order single
          have alone : before = [] ∧ behind = [] := by
            simpa [← Nat.add_assoc, List.length_eq_zero_iff] using single
          rw [alone.1, alone.2] at order ⊢
          constructor
          · rw [reported_snoc, accepted_label]
            simpa [reportedBy, managed, acceptedBy] using order
          · simp
  | worker activity after own started advance =>
      obtain ⟨unreported, unaccepted⟩ := worker_silent own
      exact turn.keep unreported (by simp [managed, unaccepted]) (worker_keeps own advance).1
  | stop after here advance =>
      cases advance
      exact turn.keep rfl rfl rfl
  | join after here advance =>
      cases advance
      exact turn.keep rfl rfl rfl
  | exit | finish | signal => exact turn.keep rfl rfl rfl

theorem run_in_turn (run : Run (Step target arguments) begin history final) :
    InTurn history final := by
  refine run_invariant
    (fun history (process : Process Device Handle) => InTurn history process) ?_ ?_ run
  · exact ⟨rfl, Nat.zero_le 1⟩
  · intro history process label after reached turn step
    exact in_turn_step (run_aligned reached) turn step

/-- Every event that libusb reports is accepted and handled once, in the order
of the reports, before the context is closed. -/
theorem daemon_serves_events (run : Run (Step target arguments) begin history final) :
    (∀ event, .manager (.enqueue event false) ∉ history) ∧
    reported history = (handled (managerHistory history)).map Handled.event ++
      poppedEvent final.manager.worker ++ final.manager.queue ++ final.manager.entering ∧
    ∀ front back, history = front ++ .exit :: back →
      reported history = (handled (managerHistory front)).map Handled.event := by
  refine ⟨fun event refused => ?_, ?_, ?_⟩
  · obtain ⟨front, back, rfl⟩ := List.append_of_mem refused
    obtain ⟨before, after, upTo, step, -⟩ := run_at front back _ run
    cases step with
    | move _ _ moved => cases moved
    | worker _ _ own => cases own
    | enqueue _ _ after inside advance =>
        have running := ((run_aligned upTo).serving (inLibusb_serving inside).1).1
        cases (enqueue_accepted running advance).1
  · rw [(run_in_turn run).order, run_in_order (manager_run run)]
  · rintro front back rfl
    obtain ⟨before, upTo, here, -, quiet⟩ := exit_last front back run
    have aligned := run_aligned upTo
    have phased := run_phased (manager_run upTo)
    have free := aligned.quiet (by simp [here, Main.inLibusb])
    have finished := phased.joined (aligned.joined (.inl here)).2
    have empty := (phased.drained (by rw [finished]; rfl)).2
    have idle : poppedEvent before.manager.worker = [] := by
      rw [finished]
      rfl
    have silent : reported back = [] := by
      refine List.flatMap_eq_nil_iff.mpr fun label member => ?_
      rcases quiet label member with rfl | ⟨code, rfl⟩
      · rfl
      · rfl
    calc reported (front ++ .exit :: back)
        = reported front ++ reported back := by simp [reported, reportedBy]
      _ = accepted (managerHistory front) := by
          rw [silent, (run_in_turn upTo).order, free, List.append_nil, List.append_nil]
      _ = (handled (managerHistory front)).map Handled.event := by
          rw [run_in_order (manager_run upTo), idle, empty, List.append_nil, List.append_nil]

theorem daemon_serves_events_signal : ∃ final,
    Run (Step .bits64 ["smiusbd", "--observe"]) begin observed final ∧
      .manager (.enqueue ⟨3, .deviceArrived⟩ false) ∉ observed := by
  obtain ⟨final, run, -⟩ := observed_run
  exact ⟨final, run, (daemon_serves_events run).1 ⟨3, .deviceArrived⟩⟩

/-- The constructor has returned whenever the main thread is past it. -/
theorem run_constructed (run : Run (Step target arguments) begin history final)
    (started : final.main.started = true) (past : final.main.early = false) :
    .constructed ∈ history := by
  refine run_invariant (fun history (process : Process Device Handle) =>
    process.main.started = true → process.main.early = false → .constructed ∈ history)
    ?_ ?_ run started past
  · intro started
    cases started
  · intro history process label after _ built step started past
    cases step with
    | move _ _ moved =>
        cases moved with
        | constructed here => simp
        | usage | parsed | initFailed => cases started
        | init here => cases past
        | registerFailed here | registered here | proceed here | events _ here | leave here
        | deregister here => simp [built, here, Main.started, Main.early]
    | stop _ here | join _ here | exit here => simp [built, here, Main.started, Main.early]
    | finish => cases started
    | callback | enqueue | worker | signal => simp [built started past]

/-- `generation_` is set before the worker, which is started ahead of it, first
looks at it. -/
theorem generation_set_before_use (run : Run (Step target arguments) begin history final) :
    ∀ front back event answers verdict,
      history = front ++ .manager (.handle event answers verdict) :: back →
      .constructed ∈ front := by
  rintro front back event answers verdict rfl
  obtain ⟨before, after, upTo, step, -⟩ := run_at front back _ run
  cases step with
  | move _ _ moved => cases moved
  | worker _ after own started advance =>
      refine run_constructed upTo started ?_
      cases early : before.main.early with
      | false => rfl
      | true =>
          have still := (run_aligned upTo).idle early
          have running := ((run_aligned upTo).serving (early_serving early)).1
          exact absurd advance (worker_waits own still.1 still.2 running)

theorem generation_set_before_use_signal : ∃ final,
    Run (Step .bits64 ["smiusbd", "--observe"]) begin observed final ∧
      .constructed ∈ observed.take 7 := by
  obtain ⟨final, run, -⟩ := observed_run
  exact ⟨final, run, generation_set_before_use run _ _ ⟨3, .deviceArrived⟩ ⟨true, some 9⟩
    (.opened 9 1) rfl⟩

/-- The results that `main` reports on the standard error output. -/
def failing : Label Device Handle → Bool
  | .initFailed | .registerFailed | .events .failed => true
  | _ => false

def Clean (history : List (Label Device Handle)) : Prop :=
  ∀ label ∈ history, failing label = false

/-- What an exit code of 0 or 1 stands for. -/
def Meaning (history : List (Label Device Handle)) (options : Options) (code : Nat) : Prop :=
  (code = 0 ∧ Clean history ∧ (.signal ∈ history ∨ options.durationSeconds ≠ 0)) ∨
    (code = 1 ∧ ¬ Clean history)

/-- How the exit code comes about. -/
def Recorded (target : Target) (arguments : List String) (history : List (Label Device Handle))
    (process : Process Device Handle) : Prop :=
  match process.main with
  | .parsing => Clean history ∧ process.registered = false
  | .initializing | .constructing | .registering =>
      parseOptions target arguments = some process.options ∧ Clean history ∧
        process.registered = false
  | .looping | .handling =>
      parseOptions target arguments = some process.options ∧ Clean history ∧
        process.registered = true ∧ process.result ≠ .failed
  | .deregistering | .stopping | .joining | .exiting | .destroying =>
      parseOptions target arguments = some process.options ∧
        Meaning history process.options (exitCode process)
  | .returned code =>
      (code = 2 ∧ parseOptions target arguments = none) ∨
        (parseOptions target arguments = some process.options ∧
          Meaning history process.options code)

omit [DecidableEq Device] [DecidableEq Handle] in
theorem clean_snoc : Clean (history ++ [label]) ↔ Clean history ∧ failing label = false := by
  simp [Clean, or_imp, forall_and]

omit [DecidableEq Device] [DecidableEq Handle] in
theorem Meaning.snoc {options : Options} {code : Nat} (meant : Meaning history options code)
    (harmless : failing label = false) : Meaning (history ++ [label]) options code := by
  rcases meant with ⟨zero, clean, reason⟩ | ⟨one, unclean⟩
  · refine .inl ⟨zero, clean_snoc.mpr ⟨clean, harmless⟩, reason.imp_left fun member => ?_⟩
    exact List.mem_append_left _ member
  · exact .inr ⟨one, fun clean => unclean (clean_snoc.mp clean).1⟩

omit [DecidableEq Device] [DecidableEq Handle] in
/-- A step beside the main thread. -/
theorem Recorded.snoc (recorded : Recorded target arguments history process)
    (harmless : failing label = false) (main : after.main = process.main)
    (options : after.options = process.options) (registered : after.registered = process.registered)
    (result : after.result = process.result) :
    Recorded target arguments (history ++ [label]) after := by
  have code : exitCode after = exitCode process := by rw [exitCode, exitCode, registered, result]
  unfold Recorded at recorded ⊢
  rw [main, options, registered, result, code]
  cases here : process.main <;> simp only [here, clean_snoc, harmless, and_true] at recorded ⊢
  case returned code =>
      exact recorded.imp_right fun meant => ⟨meant.1, meant.2.snoc harmless⟩
  all_goals first
    | exact recorded
    | exact ⟨recorded.1, recorded.2.snoc harmless⟩

omit [DecidableEq Device] [DecidableEq Handle] in
theorem recorded_move (signalled : process.stopRequested = true → .signal ∈ history)
    (recorded : Recorded target arguments history process)
    (moved : Move target arguments process label after) :
    Recorded target arguments (history ++ [label]) after := by
  cases moved with
  | usage here refused => exact .inl ⟨rfl, refused⟩
  | parsed options here accepted =>
      simp only [Recorded, here] at recorded
      exact ⟨accepted, clean_snoc.mpr ⟨recorded.1, rfl⟩, recorded.2⟩
  | initFailed here =>
      simp only [Recorded, here] at recorded
      refine .inr ⟨recorded.1, .inr ⟨rfl, fun clean => ?_⟩⟩
      cases (clean_snoc.mp clean).2
  | init here | constructed here =>
      simp only [Recorded, here] at recorded
      exact ⟨recorded.1, clean_snoc.mpr ⟨recorded.2.1, rfl⟩, recorded.2.2⟩
  | registerFailed here free =>
      simp only [Recorded, here] at recorded
      refine ⟨recorded.1, .inr ⟨by simp [exitCode, recorded.2.2], fun clean => ?_⟩⟩
      cases (clean_snoc.mp clean).2
  | registered here free =>
      simp only [Recorded, here] at recorded
      exact ⟨recorded.1, clean_snoc.mpr ⟨recorded.2.1, rfl⟩, rfl, by simp⟩
  | proceed here going =>
      simp only [Recorded, here] at recorded
      exact ⟨recorded.1, clean_snoc.mpr ⟨recorded.2.1, rfl⟩, recorded.2.2⟩
  | events status here free =>
      simp only [Recorded, here] at recorded
      obtain ⟨accepted, clean, registered, -⟩ := recorded
      cases status with
      | failed =>
          refine ⟨accepted, .inr ⟨by simp [exitCode], fun clean => ?_⟩⟩
          cases (clean_snoc.mp clean).2
      | success => exact ⟨accepted, clean_snoc.mpr ⟨clean, rfl⟩, registered, by simp⟩
      | interrupted => exact ⟨accepted, clean_snoc.mpr ⟨clean, rfl⟩, registered, by simp⟩
  | leave here done =>
      simp only [Recorded, here] at recorded
      obtain ⟨accepted, clean, registered, successful⟩ := recorded
      refine ⟨accepted, .inl ⟨by simp [exitCode, registered, successful],
        clean_snoc.mpr ⟨clean, rfl⟩, done.imp_left fun stop => ?_⟩⟩
      exact List.mem_append_left _ (signalled stop)
  | deregister here =>
      simp only [Recorded, here] at recorded
      exact ⟨recorded.1, recorded.2.snoc rfl⟩

theorem recorded_step (signalled : process.stopRequested = true → .signal ∈ history)
    (recorded : Recorded target arguments history process)
    (step : Step target arguments process label after) :
    Recorded target arguments (history ++ [label]) after := by
  cases step with
  | move _ _ moved => exact recorded_move signalled recorded moved
  | callback | enqueue | worker | signal => exact recorded.snoc rfl rfl rfl rfl rfl
  | stop _ here | join _ here | exit here =>
      simp only [Recorded, here] at recorded
      exact ⟨recorded.1, recorded.2.snoc rfl⟩
  | finish here =>
      simp only [Recorded, here] at recorded
      exact .inr ⟨recorded.1, recorded.2.snoc rfl⟩

theorem signalled_step (signalled : process.stopRequested = true → .signal ∈ history)
    (step : Step target arguments process label after) :
    after.stopRequested = true → .signal ∈ history ++ [label] := by
  cases step with
  | signal => simp
  | move _ _ moved => cases moved <;> exact fun stop => List.mem_append_left _ (signalled stop)
  | _ => exact fun stop => List.mem_append_left _ (signalled stop)

theorem run_recorded (run : Run (Step target arguments) begin history final) :
    Recorded target arguments history final := by
  refine (run_invariant (fun history (process : Process Device Handle) =>
    (process.stopRequested = true → .signal ∈ history) ∧
      Recorded target arguments history process) ?_ ?_ run).2
  · refine ⟨fun stop => ?_, fun label member => ?_, rfl⟩
    · cases stop
    · cases member
  · rintro history process label after _ ⟨signalled, recorded⟩ step
    exact ⟨signalled_step signalled step, recorded_step signalled recorded step⟩

/-- The exit code is 2 exactly for a refused command line and 0 exactly if no
call failed that `main` reports; without a duration that takes a signal. -/
theorem daemon_exit_code (run : Run (Step target arguments) begin history final) (code : Nat)
    (returned : final.main = .returned code) :
    code ≤ 2 ∧ (code = 2 ↔ parseOptions target arguments = none) ∧
    (code = 0 ↔ parseOptions target arguments ≠ none ∧ Clean history) ∧
    (parseOptions target arguments = some ⟨0⟩ → code = 0 → .signal ∈ history) := by
  have recorded := run_recorded run
  simp only [Recorded, returned] at recorded
  rcases recorded with ⟨rfl, refused⟩ | ⟨accepted, ⟨rfl, clean, reason⟩ | ⟨rfl, unclean⟩⟩
  · simp [refused]
  · refine ⟨by simp, by simp [accepted], by simp [accepted, clean], fun endless _ => ?_⟩
    have unlimited : final.options = ⟨0⟩ := Option.some.inj (accepted.symm.trans endless)
    exact reason.resolve_right fun limited => limited (by rw [unlimited])
  · simp [accepted, unclean]

theorem daemon_exit_code_signal : ∃ final,
    Run (Step .bits64 ["smiusbd", "--observe"]) begin observed final ∧
      final.main = .returned 0 ∧ .signal ∈ observed := by
  obtain ⟨final, run, returned⟩ := observed_run
  exact ⟨final, run, returned, (daemon_exit_code run 0 returned).2.2.2 (by decide) rfl⟩

end Runs

end Smiusb.DaemonShutdown
