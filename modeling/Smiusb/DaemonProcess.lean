import Smiusb.DaemonOptions
import Smiusb.SessionHistory

/-!
`main` and `hotplug_callback` of src/daemon/smiusbd.cpp around the session
manager. The main thread, the worker and the signal handler take their steps
in any order; libusb calls the hotplug callback on the main thread, while it
is inside the registration or inside the event handling. The destructor of the
session manager runs behind `libusb_exit`, when `main` returns.
-/

namespace Smiusb.DaemonProcess
open Transitions Bytes SessionManager SessionLifetime DaemonOptions

/-- The results of libusb that `main` tells apart. -/
inductive Status where
  | success
  | interrupted
  | failed
  deriving DecidableEq, Repr

/-- What the main thread is about to do, or is inside of. -/
inductive Main where
  | parsing
  | initializing
  | constructing
  | registering
  | looping
  | handling
  | deregistering
  | stopping
  | joining
  | exiting
  | destroying
  | returned (code : Nat)
  deriving DecidableEq, Repr

/-- The constructor has started the worker, and the process is still there. -/
def Main.started : Main → Bool
  | .parsing | .initializing | .returned _ => false
  | _ => true

/-- Where libusb may call back. -/
def Main.inLibusb : Main → Bool
  | .registering | .handling => true
  | _ => false

/-- `stop` has not been called. -/
def Main.serving : Main → Bool
  | .joining | .exiting | .destroying | .returned _ => false
  | _ => true

/-- Nothing can have been enqueued. -/
def Main.early : Main → Bool
  | .parsing | .initializing | .constructing => true
  | _ => false

/-- The event loop is over. -/
def Main.shuttingDown : Main → Bool
  | .deregistering | .stopping | .joining | .exiting | .destroying => true
  | _ => false

/-- The libusb contexts that the main thread has to exit. -/
def Main.holding : Main → Nat
  | .parsing | .initializing | .destroying | .returned _ => 0
  | _ => 1

/-- The calls of `libusb_init` that may follow. -/
def Main.ahead : Main → Nat
  | .parsing | .initializing => 1
  | _ => 0

/-- `libusb_exit` has been called, or there was no context. -/
def Main.closed : Main → Bool
  | .destroying | .returned _ => true
  | _ => false

inductive Label (Device Handle : Type) where
  | manager (activity : Activity Device Handle)
  | signal
  | usage
  | parsed
  | initFailed
  | init
  | constructed
  | registerFailed
  | registered
  | proceed
  | events (status : Status)
  | leave
  | deregister
  | exit
  | finish (code : Nat)

/-- `lateCalls` are the calls of the destructor of the session manager. -/
structure Process (Device Handle : Type) where
  main : Main
  options : Options
  stopRequested : Bool
  registered : Bool
  result : Status
  manager : State Device Handle
  lateCalls : List (LibusbCall Device Handle)

/-- What the worker does on its own. -/
def isWorker {Device Handle : Type} : Activity Device Handle → Bool
  | .pop _ | .handle _ _ _ | .unref _ | .leave | .drain | .clear => true
  | _ => false

section Steps
variable {Device Handle : Type} [DecidableEq Device] [DecidableEq Handle]

def begin : Process Device Handle where
  main := .parsing
  options := ⟨0⟩
  stopRequested := false
  registered := false
  result := .success
  manager := SessionManager.start
  lateCalls := []

/-- The last line of `main`, and the one behind a failed registration. -/
def exitCode (process : Process Device Handle) : Nat :=
  if process.registered ∧ process.result ≠ .failed then 0 else 1

/-- What the main thread does outside of the session manager, up to `stop`. -/
inductive Move (target : Target) (arguments : List String) (process : Process Device Handle) :
    Label Device Handle → Process Device Handle → Prop where
  | usage (here : process.main = .parsing) (refused : parseOptions target arguments = none) :
      Move target arguments process .usage { process with main := .returned 2 }
  | parsed (options : Options) (here : process.main = .parsing)
      (accepted : parseOptions target arguments = some options) :
      Move target arguments process .parsed { process with main := .initializing, options }
  | initFailed (here : process.main = .initializing) :
      Move target arguments process .initFailed { process with main := .returned 1 }
  | init (here : process.main = .initializing) :
      Move target arguments process .init { process with main := .constructing }
  -- generation_ is declared behind worker_, so it is set while the worker runs
  | constructed (here : process.main = .constructing) :
      Move target arguments process .constructed { process with main := .registering }
  | registerFailed (here : process.main = .registering) (free : process.manager.entering = []) :
      Move target arguments process .registerFailed { process with main := .stopping }
  | registered (here : process.main = .registering) (free : process.manager.entering = []) :
      Move target arguments process .registered
        { process with main := .looping, registered := true, result := .success }
  -- the loop: the clock may be past the deadline whenever there is one
  | proceed (here : process.main = .looping) (going : process.stopRequested = false) :
      Move target arguments process .proceed { process with main := .handling }
  | events (status : Status) (here : process.main = .handling)
      (free : process.manager.entering = []) :
      Move target arguments process (.events status)
        { process with
          main := if status = .failed then .deregistering else .looping
          result := status }
  | leave (here : process.main = .looping)
      (done : process.stopRequested = true ∨ process.options.durationSeconds ≠ 0) :
      Move target arguments process .leave { process with main := .deregistering }
  | deregister (here : process.main = .deregistering) :
      Move target arguments process .deregister { process with main := .stopping }

inductive Step (target : Target) (arguments : List String) (process : Process Device Handle) :
    Label Device Handle → Process Device Handle → Prop where
  | move (label : Label Device Handle) (after : Process Device Handle)
      (moved : Move target arguments process label after) :
      Step target arguments process label after
  -- hotplug_callback: one at a time, since they run on the main thread
  | callback (event : UsbEvent Device) (after : State Device Handle)
      (inside : process.main.inLibusb = true) (free : process.manager.entering = [])
      (advance : Advance process.manager (.refDevice event) after) :
      Step target arguments process (.manager (.refDevice event)) { process with manager := after }
  | enqueue (event : UsbEvent Device) (accepted : Bool) (after : State Device Handle)
      (inside : process.main.inLibusb = true)
      (advance : Advance process.manager (.enqueue event accepted) after) :
      Step target arguments process (.manager (.enqueue event accepted))
        { process with manager := after }
  | worker (activity : Activity Device Handle) (after : State Device Handle)
      (own : isWorker activity = true) (started : process.main.started = true)
      (advance : Advance process.manager activity after) :
      Step target arguments process (.manager activity) { process with manager := after }
  | stop (after : State Device Handle) (here : process.main = .stopping)
      (advance : Advance process.manager .stop after) :
      Step target arguments process (.manager .stop)
        { process with main := .joining, manager := after }
  | join (after : State Device Handle) (here : process.main = .joining)
      (advance : Advance process.manager .join after) :
      Step target arguments process (.manager .join)
        { process with main := .exiting, manager := after }
  | exit (here : process.main = .exiting) :
      Step target arguments process .exit { process with main := .destroying }
  -- the manager's stop() finds stopping_ set; its members are destroyed
  | finish (here : process.main = .destroying) (stopped : process.manager.stopping = true) :
      Step target arguments process (.finish (exitCode process))
        { process with
          main := .returned (exitCode process)
          lateCalls := process.manager.table.sessions.entries.flatMap destroy }
  | signal (installed : process.main.started = true) :
      Step target arguments process .signal { process with stopRequested := true }

/-- The part of the process that the session manager takes part in. -/
def managed : Label Device Handle → Option (Activity Device Handle)
  | .manager activity => some activity
  | _ => none

def managerHistory (history : List (Label Device Handle)) : List (Activity Device Handle) :=
  history.filterMap managed

end Steps

section Runs
variable {Device Handle : Type} [DecidableEq Device] [DecidableEq Handle] {target : Target}
  {arguments : List String} {history : List (Label Device Handle)}
  {process after final : Process Device Handle} {label : Label Device Handle}

/-- What the moves of the main thread have in common. -/
structure Stays (process after : Process Device Handle) (label : Label Device Handle) : Prop where
  unmanaged : managed label = none
  manager : after.manager = process.manager
  late : after.lateCalls = process.lateCalls
  serving : process.main.serving = true
  free : process.main.inLibusb = true → process.manager.entering = []
  early : after.main.early = true → process.main.early = true
  before : after.main ≠ .joining ∧ after.main ≠ .exiting ∧ after.main ≠ .destroying

omit [DecidableEq Device] [DecidableEq Handle] in
theorem move_stays (moved : Move target arguments process label after) :
    Stays process after label := by
  cases moved with
  | registerFailed here free => exact ⟨rfl, rfl, rfl, by simp [here, Main.serving], fun _ => free,
      by simp [Main.early], by simp⟩
  | registered here free => exact ⟨rfl, rfl, rfl, by simp [here, Main.serving], fun _ => free,
      by simp [Main.early], by simp⟩
  | events status here free =>
      refine ⟨rfl, rfl, rfl, by simp [here, Main.serving], fun _ => free, ?_, ?_⟩
      · cases status <;> simp [Main.early]
      · cases status <;> simp
  | usage here | parsed _ here | initFailed here | init here | constructed here | proceed here
  | leave here | deregister here =>
      exact ⟨rfl, rfl, rfl, by simp [here, Main.serving], by simp [here, Main.inLibusb],
        by simp [here, Main.early], by simp⟩

theorem step_projects (step : Step target arguments process label after) :
    Projected Advance process.manager after.manager (managed label) := by
  cases step with
  | move _ _ moved =>
      have stays := move_stays moved
      rw [stays.unmanaged]
      exact stays.manager
  | callback event after inside free advance => exact advance
  | enqueue event accepted after inside advance => exact advance
  | worker activity after own started advance => exact advance
  | stop after here advance => exact advance
  | join after here advance => exact advance
  | exit | finish | signal => rfl

theorem manager_run (run : Run (Step target arguments) begin history final) :
    Run Advance SessionManager.start (managerHistory history) final.manager :=
  run_project Process.manager managed (fun _ _ _ => step_projects) run

/-- Where the manager is while the main thread is where it is. -/
structure Aligned (process : Process Device Handle) : Prop where
  quiet : process.main.inLibusb = false → process.manager.entering = []
  idle : process.main.early = true → process.manager.queue = [] ∧ process.manager.worker = .waiting
  serving : process.main.serving = true →
    process.manager.stopping = false ∧ process.manager.stopper = .idle
  joining : process.main = .joining →
    process.manager.stopping = true ∧ process.manager.stopper = .joining
  joined : process.main = .exiting ∨ process.main = .destroying →
    process.manager.stopping = true ∧ process.manager.stopper = .returned
  silent : process.lateCalls = []

/-- The worker leaves the other threads' part of the manager alone. -/
theorem worker_keeps {state next : State Device Handle} {activity : Activity Device Handle}
    (own : isWorker activity = true) (advance : Advance state activity next) :
    next.entering = state.entering ∧ next.stopping = state.stopping ∧
      next.stopper = state.stopper := by
  cases advance with
  | refDevice | accepted | refused | stop | join => cases own
  | _ => exact ⟨rfl, rfl, rfl⟩

/-- A waiting worker stays where it is while nothing is queued and `stop` has
not been called. -/
theorem worker_waits {state next : State Device Handle} {activity : Activity Device Handle}
    (own : isWorker activity = true) (empty : state.queue = []) (waiting : state.worker = .waiting)
    (running : state.stopping = false) : ¬ Advance state activity next := by
  intro advance
  cases advance with
  | refDevice | accepted | refused | stop | join => cases own
  | pop event rest _ front => simp [empty] at front
  | leave _ _ stopped => simp [running] at stopped
  | handle event answers popped fresh => simp [waiting] at popped
  | unref event handled => simp [waiting] at handled
  | drain draining => simp [waiting] at draining
  | clear clearing => simp [waiting] at clearing

/-- While `stop` has not been called an event is accepted. -/
theorem enqueue_accepted {state next : State Device Handle} {event : UsbEvent Device}
    {accepted : Bool} (running : state.stopping = false)
    (advance : Advance state (.enqueue event accepted) next) :
    accepted = true ∧ next.stopping = state.stopping ∧ next.stopper = state.stopper := by
  cases advance with
  | accepted => exact ⟨rfl, rfl, rfl⟩
  | refused _ before behind chosen stopped =>
      rw [running] at stopped
      cases stopped

omit [DecidableEq Device] [DecidableEq Handle] in
theorem aligned_begin : Aligned (begin : Process Device Handle) where
  quiet _ := rfl
  idle _ := ⟨rfl, rfl⟩
  serving _ := ⟨rfl, rfl⟩
  joining here := by cases here
  joined here := by simp [begin] at here
  silent := rfl

omit [DecidableEq Device] [DecidableEq Handle] in
theorem Aligned.stays (aligned : Aligned process) (stays : Stays process after label) :
    Aligned after where
  quiet _ := by
    rw [stays.manager]
    cases inside : process.main.inLibusb with
    | true => exact stays.free inside
    | false => exact aligned.quiet inside
  idle here := stays.manager ▸ aligned.idle (stays.early here)
  serving _ := stays.manager ▸ aligned.serving stays.serving
  joining here := absurd here stays.before.1
  joined here := here.elim (absurd · stays.before.2.1) (absurd · stays.before.2.2)
  silent := stays.late.trans aligned.silent

theorem early_serving {main : Main} (early : main.early = true) : main.serving = true := by
  cases main <;> first | rfl | cases early

theorem inLibusb_serving {main : Main} (inside : main.inLibusb = true) :
    main.serving = true ∧ main.early = false ∧ main ≠ .joining ∧ main ≠ .exiting ∧
      main ≠ .destroying := by
  cases main <;> simp [Main.inLibusb, Main.serving, Main.early] at *

omit [DecidableEq Device] [DecidableEq Handle] in
/-- Inside libusb the main thread may be entering an event. -/
theorem Aligned.inside (aligned : Aligned process) (inside : process.main.inLibusb = true)
    {manager : State Device Handle} (stopping : manager.stopping = process.manager.stopping)
    (stopper : manager.stopper = process.manager.stopper) :
    Aligned { process with manager := manager } := by
  obtain ⟨serving, early, joining, exiting, destroying⟩ := inLibusb_serving inside
  exact {
    quiet := fun outside => by simp [inside] at outside
    idle := fun here => by simp [early] at here
    serving := fun _ => by
      rw [stopping, stopper]
      exact aligned.serving serving
    joining := fun here => absurd here joining
    joined := fun here => here.elim (absurd · exiting) (absurd · destroying)
    silent := aligned.silent }

theorem aligned_step (phased : Phased process.manager) (aligned : Aligned process)
    (step : Step target arguments process label after) : Aligned after := by
  cases step with
  | move _ _ moved => exact aligned.stays (move_stays moved)
  | callback event after inside free advance =>
      cases advance
      exact aligned.inside inside rfl rfl
  | enqueue event accepted after inside advance =>
      have running := (aligned.serving (inLibusb_serving inside).1).1
      obtain ⟨-, stopping, stopper⟩ := enqueue_accepted running advance
      exact aligned.inside inside stopping stopper
  | worker activity after own started advance =>
      obtain ⟨entering, stopping, stopper⟩ := worker_keeps own advance
      refine ⟨fun here => ?_, fun here => ?_, fun here => ?_, fun here => ?_, fun here => ?_,
        aligned.silent⟩
      · exact entering.trans (aligned.quiet here)
      · -- before the registration the worker has nothing to do
        have still := aligned.idle here
        have running := (aligned.serving (early_serving here)).1
        exact absurd advance (worker_waits own still.1 still.2 running)
      · exact ⟨stopping.trans (aligned.serving here).1, stopper.trans (aligned.serving here).2⟩
      · exact ⟨stopping.trans (aligned.joining here).1, stopper.trans (aligned.joining here).2⟩
      · exact ⟨stopping.trans (aligned.joined here).1, stopper.trans (aligned.joined here).2⟩
  | stop after here advance =>
      have free := aligned.quiet (by simp [here, Main.inLibusb])
      cases advance
      exact ⟨fun _ => free, by simp [Main.early], by simp [Main.serving], fun _ => ⟨rfl, rfl⟩,
        by simp, aligned.silent⟩
  | join after here advance =>
      have free := aligned.quiet (by simp [here, Main.inLibusb])
      have stopped := (aligned.joining here).1
      cases advance
      exact ⟨fun _ => free, by simp [Main.early], by simp [Main.serving], by simp,
        fun _ => ⟨stopped, rfl⟩, aligned.silent⟩
  | exit here =>
      have free := aligned.quiet (by simp [here, Main.inLibusb])
      have joined := aligned.joined (.inl here)
      exact ⟨fun _ => free, by simp [Main.early], by simp [Main.serving], by simp,
        fun _ => joined, aligned.silent⟩
  | finish here stopped =>
      have free := aligned.quiet (by simp [here, Main.inLibusb])
      have joined := aligned.joined (.inr here)
      -- the worker cleared the table before it could be joined
      have cleared := phased.cleared (phased.joined joined.2)
      exact ⟨fun _ => free, by simp [Main.early], by simp [Main.serving], by simp, by simp,
        by simp [cleared]⟩
  | signal installed => exact { aligned with }

theorem phased_step (phased : Phased process.manager)
    (step : Step target arguments process label after) : Phased after.manager := by
  have moves := step_projects step
  cases own : managed label with
  | none =>
      have same : after.manager = process.manager := by simpa [own, Projected] using moves
      rw [same]
      exact phased
  | some activity =>
      rw [own] at moves
      exact advance_phased phased moves

theorem run_aligned (run : Run (Step target arguments) begin history final) : Aligned final := by
  refine run_invariant (fun _ (process : Process Device Handle) => Aligned process)
    aligned_begin ?_ run
  intro history process label after reached aligned step
  exact aligned_step (run_phased (manager_run reached)) aligned step

end Runs

end Smiusb.DaemonProcess
