import Smiusb.DaemonProcess

/-!
That src/daemon/smiusbd.cpp ends once it has been asked to. The worker still
handles what is queued, so the number of steps depends on the events that
libusb reports until the event handling returns.
-/

namespace Smiusb.DaemonTermination
open Transitions Bytes SessionManager SessionLifetime DaemonProcess

section Ranks
variable {Device Handle : Type}

/-- The steps of the worker until it finishes, the queue apart. -/
def workerSteps : Worker Device → Nat
  | .waiting => 3
  | .popped _ => 5
  | .handled _ => 4
  | .draining => 2
  | .clearing => 1
  | .finished => 0

/-- The steps of the main thread until it returns, if it does not go around
the event loop. -/
def mainSteps : Main → Nat
  | .parsing => 12
  | .initializing => 11
  | .constructing => 10
  | .registering => 9
  | .handling => 8
  | .looping => 7
  | .deregistering => 6
  | .stopping => 5
  | .joining => 4
  | .exiting => 3
  | .destroying => 2
  | .returned _ => 0

/-- The steps that are left. A queued event takes three, and one more is
needed to enqueue it. -/
def remaining (process : Process Device Handle) : Nat :=
  mainSteps process.main + 4 * process.manager.entering.length +
    3 * process.manager.queue.length + workerSteps process.manager.worker

def isSignal : Label Device Handle → Bool
  | .signal => true
  | _ => false

def isReport : Label Device Handle → Bool
  | .manager (.refDevice _) => true
  | _ => false

/-- The daemon has been told to stop, or the event loop is over. -/
def WindingDown (process : Process Device Handle) : Prop :=
  process.stopRequested = true ∨ process.main.shuttingDown = true ∨
    process.main.closed = true

end Ranks

section Runs
variable {Device Handle : Type} [DecidableEq Device] [DecidableEq Handle] {target : Target}
  {arguments : List String} {history : List (Label Device Handle)}
  {process after final : Process Device Handle} {label : Label Device Handle}

/-- A step of the worker uses up one of its own. -/
theorem worker_pays {state next : State Device Handle} {activity : Activity Device Handle}
    (phased : Phased state) (own : isWorker activity = true)
    (advance : Advance state activity next) :
    3 * next.queue.length + workerSteps next.worker + 1 =
      3 * state.queue.length + workerSteps state.worker := by
  cases advance with
  | refDevice | accepted | refused | stop | join => cases own
  | pop event rest waiting front =>
      simp only [front, waiting, workerSteps, List.length_cons]
      omega
  | handle event answers popped => simp [popped, workerSteps]
  | unref event handled => simp [handled, workerSteps]
  | leave waiting => simp [waiting, workerSteps]
  | drain draining =>
      have empty := (phased.drained (by rw [draining]; rfl)).2
      simp [draining, empty, workerSteps]
  | clear clearing => simp [clearing, workerSteps]

omit [DecidableEq Device] [DecidableEq Handle] in
theorem WindingDown.stopped (winding : WindingDown process)
    (before : process.main.shuttingDown = false) (running : process.main.closed = false) :
    process.stopRequested = true := by
  rcases winding with stopped | shutting | closing
  · exact stopped
  · simp [before] at shutting
  · simp [running] at closing

omit [DecidableEq Device] [DecidableEq Handle] in
theorem move_winds (winding : WindingDown process)
    (moved : Move target arguments process label after) : WindingDown after := by
  cases moved with
  | usage | initFailed => exact .inr (.inr rfl)
  | leave | deregister | registerFailed => exact .inr (.inl rfl)
  | parsed _ here | init here | constructed here | registered here | proceed here
  | events _ here =>
      exact .inl (winding.stopped (by simp [here, Main.shuttingDown]) (by simp [here, Main.closed]))

omit [DecidableEq Device] [DecidableEq Handle] in
/-- The main thread comes closer to its end unless it goes around the loop. -/
theorem move_pays (winding : WindingDown process)
    (moved : Move target arguments process label after) :
    mainSteps after.main + 1 ≤ mainSteps process.main := by
  cases moved with
  | proceed here going =>
      have stopped := winding.stopped (by simp [here, Main.shuttingDown])
        (by simp [here, Main.closed])
      rw [going] at stopped
      cases stopped
  | events status here => cases status <;> simp [here, mainSteps]
  | usage here | parsed _ here | initFailed here | init here | constructed here
  | registerFailed here | registered here | leave here | deregister here =>
      simp [here, mainSteps]

omit [DecidableEq Device] [DecidableEq Handle] in
theorem pays_of_less (less : remaining after < remaining process) :
    remaining after + (if !isSignal label then 1 else 0) ≤
      remaining process + if isReport label then 5 else 0 := by
  split <;> split <;> omega

/-- An event that enters the queue is cheaper there. -/
theorem enqueue_pays {state next : State Device Handle} {event : UsbEvent Device} {accepted : Bool}
    (advance : Advance state (.enqueue event accepted) next) :
    next.worker = state.worker ∧ 4 * next.entering.length + 3 * next.queue.length <
      4 * state.entering.length + 3 * state.queue.length := by
  cases advance with
  | accepted _ before behind chosen =>
      refine ⟨rfl, ?_⟩
      simp only [chosen, List.length_append, List.length_cons, List.length_nil]
      omega
  | refused _ before behind chosen =>
      refine ⟨rfl, ?_⟩
      simp only [chosen, List.length_append, List.length_cons]
      omega

theorem step_pays (phased : Phased process.manager) (winding : WindingDown process)
    (step : Step target arguments process label after) :
    WindingDown after ∧ remaining after + (if !isSignal label then 1 else 0) ≤
      remaining process + if isReport label then 5 else 0 := by
  cases step with
  | move _ _ moved =>
      refine ⟨move_winds winding moved, pays_of_less ?_⟩
      have paid := move_pays winding moved
      rw [remaining, remaining, (move_stays moved).manager]
      omega
  | callback event after inside free advance =>
      cases advance
      refine ⟨winding, ?_⟩
      simp only [remaining, List.length_append, List.length_singleton, isSignal, isReport,
        Bool.not_false, ↓reduceIte]
      omega
  | enqueue event accepted after inside advance =>
      refine ⟨winding, pays_of_less ?_⟩
      obtain ⟨same, paid⟩ := enqueue_pays advance
      simp only [remaining, same]
      omega
  | worker activity after own started advance =>
      refine ⟨winding, pays_of_less ?_⟩
      have paid := worker_pays phased own advance
      simp only [remaining, (worker_keeps own advance).1]
      omega
  | stop after here advance =>
      cases advance
      refine ⟨.inr (.inl rfl), pays_of_less ?_⟩
      simp only [remaining, here, mainSteps]
      omega
  | join after here advance =>
      cases advance
      refine ⟨.inr (.inl rfl), pays_of_less ?_⟩
      simp only [remaining, here, mainSteps]
      omega
  | exit here =>
      refine ⟨.inr (.inl rfl), pays_of_less ?_⟩
      simp only [remaining, here, mainSteps]
      omega
  | finish here =>
      refine ⟨.inr (.inr rfl), pays_of_less ?_⟩
      simp only [remaining, here, mainSteps]
      omega
  | signal => exact ⟨.inl rfl, Nat.le_refl _⟩

theorem worker_possible {state : State Device Handle} (stopping : state.stopping = true)
    (busy : state.worker ≠ .finished) :
    ∃ activity next, isWorker activity = true ∧ Advance state activity next := by
  cases worker : state.worker with
  | waiting =>
      cases queue : state.queue with
      | nil => exact ⟨_, _, rfl, .leave worker queue stopping⟩
      | cons event rest => exact ⟨_, _, rfl, .pop event rest worker queue⟩
  | popped event =>
      -- whatever libusb answers, for example that the device is another one
      exact ⟨_, _, rfl, .handle event ⟨false, none⟩ worker (by intro _ opened; cases opened)⟩
  | handled event => exact ⟨_, _, rfl, .unref event worker⟩
  | draining => exact ⟨_, _, rfl, .drain worker⟩
  | clearing => exact ⟨_, _, rfl, .clear worker⟩
  | finished => exact absurd worker busy

/-- The callback that libusb is inside of can go on. -/
theorem entering_possible {event : UsbEvent Device} {rest : List (UsbEvent Device)}
    (aligned : Aligned process) (inside : process.main.inLibusb = true)
    (entering : process.manager.entering = event :: rest) :
    ∃ label after, isSignal label = false ∧ isReport label = false ∧
      Step target arguments process label after := by
  have running := (aligned.serving (inLibusb_serving inside).1).1
  exact ⟨_, _, rfl, rfl, .enqueue event true _ inside (.accepted event [] rest entering running)⟩

/-- Until `main` returns, a step other than a signal or a report is possible. -/
theorem step_possible (aligned : Aligned process) (winding : WindingDown process)
    (alive : ∀ code, process.main ≠ .returned code) :
    ∃ label after, isSignal label = false ∧ isReport label = false ∧
      Step target arguments process label after := by
  cases here : process.main with
  | parsing =>
      cases parse : DaemonOptions.parseOptions target arguments with
      | none => exact ⟨_, _, rfl, rfl, .move _ _ (.usage here parse)⟩
      | some options => exact ⟨_, _, rfl, rfl, .move _ _ (.parsed options here parse)⟩
  | initializing => exact ⟨_, _, rfl, rfl, .move _ _ (.init here)⟩
  | constructing => exact ⟨_, _, rfl, rfl, .move _ _ (.constructed here)⟩
  | registering =>
      cases entering : process.manager.entering with
      | nil => exact ⟨_, _, rfl, rfl, .move _ _ (.registered here entering)⟩
      | cons event rest => exact entering_possible aligned (by rw [here]; rfl) entering
  | handling =>
      cases entering : process.manager.entering with
      | nil => exact ⟨_, _, rfl, rfl, .move _ _ (.events .success here entering)⟩
      | cons event rest => exact entering_possible aligned (by rw [here]; rfl) entering
  | looping =>
      have stopped := winding.stopped (by simp [here, Main.shuttingDown])
        (by simp [here, Main.closed])
      exact ⟨_, _, rfl, rfl, .move _ _ (.leave here (.inl stopped))⟩
  | deregistering => exact ⟨_, _, rfl, rfl, .move _ _ (.deregister here)⟩
  | stopping =>
      exact ⟨_, _, rfl, rfl, .stop _ here (.stop (aligned.serving (by rw [here]; rfl)).2)⟩
  | joining =>
      obtain ⟨stopping, joining⟩ := aligned.joining here
      by_cases finished : process.manager.worker = .finished
      · exact ⟨_, _, rfl, rfl, .join _ here (.join joining finished)⟩
      · obtain ⟨activity, next, own, advance⟩ := worker_possible stopping finished
        refine ⟨_, _, rfl, ?_, .worker activity next own (by rw [here]; rfl) advance⟩
        cases activity <;> first | rfl | cases own
  | exiting => exact ⟨_, _, rfl, rfl, .exit here⟩
  | destroying => exact ⟨_, _, rfl, rfl, .finish here (aligned.joined (.inr here)).1⟩
  | returned code => exact absurd here (alive code)

/-- A device arrived during the registration, and a signal followed. -/
def signalled : Process Nat Nat where
  main := .registering
  options := ⟨0⟩
  stopRequested := true
  registered := false
  result := .success
  manager := { SessionManager.start with
    queue := [⟨3, .deviceArrived⟩]
    calls := [.refDevice 3] }
  lateCalls := []

/-- From there until `main` returns. -/
def shutdown : List (Label Nat Nat) :=
  let arrival : UsbEvent Nat := ⟨3, .deviceArrived⟩
  [.registered, .manager (.pop arrival), .manager (.handle arrival ⟨true, some 9⟩ (.opened 9 1)),
    .manager (.unref arrival), .leave, .deregister, .manager .stop, .manager .leave,
    .manager .drain, .manager .clear, .manager .join, .exit, .finish 0]

theorem signalled_run : ∃ history,
    Run (Step .bits64 ["smiusbd", "--observe"]) begin (history ++ [.signal]) signalled := by
  have begun : Run (Step .bits64 ["smiusbd", "--observe"]) (begin : Process Nat Nat) [] begin :=
    .start
  have running := Run.next (.next (.next (.next begun
    (.move _ _ (.parsed ⟨0⟩ rfl (by decide)))) (.move _ _ (.init rfl)))
    (.move _ _ (.constructed rfl))) (.callback ⟨3, .deviceArrived⟩ _ rfl rfl (.refDevice _))
  have queued := Run.next running
    (.enqueue ⟨3, .deviceArrived⟩ true _ rfl (.accepted _ [] [] rfl rfl))
  exact ⟨_, .next queued (.signal rfl)⟩

theorem shutdown_run : ∃ final,
    Run (Step .bits64 ["smiusbd", "--observe"]) signalled shutdown final ∧
      final.main = .returned 0 := by
  have asked : Run (Step .bits64 ["smiusbd", "--observe"]) signalled [] signalled := .start
  have fresh : FreshHandle ([.refDevice 3] : List (LibusbCall Nat Nat)) ⟨true, some 9⟩ := by
    intro handle success
    cases success
    rfl
  have served := Run.next (.next (.next (.next asked (.move _ _ (.registered rfl rfl)))
    (.worker _ _ rfl rfl (.pop ⟨3, .deviceArrived⟩ [] rfl rfl)))
    (.worker _ _ rfl rfl (.handle ⟨3, .deviceArrived⟩ ⟨true, some 9⟩ rfl fresh)))
    (.worker _ _ rfl rfl (.unref ⟨3, .deviceArrived⟩ rfl))
  have stopped := Run.next (.next (.next served (.move _ _ (.leave rfl (.inl rfl))))
    (.move _ _ (.deregister rfl))) (.stop _ rfl (.stop rfl))
  have joined := Run.next (.next (.next (.next stopped (.worker _ _ rfl rfl (.leave rfl rfl rfl)))
    (.worker _ _ rfl rfl (.drain rfl))) (.worker _ _ rfl rfl (.clear rfl)))
    (.join _ rfl (.join rfl rfl))
  exact ⟨_, .next (.next joined (.exit rfl)) (.finish rfl rfl), rfl⟩

end Runs

end Smiusb.DaemonTermination
