import Smiusb.Bytes
import Smiusb.Transitions

/-!
The libusb interposer of src/guard/smiusb_guard.c. Every guarded call, every
hotplug registration and every hotplug dispatch is a task; its accesses to
shared state are separate moves, so the runs of the pool are all interleavings
of any number of threads. What the real libusb does is up to the run. The
environment variable is a constant, and the descriptor of a departing device
can be read.
-/

namespace Smiusb.RestartFence
open Bytes Transitions

def errorNoDevice : Int := -4

def errorNoMem : Int := -11

def success : Int := 0

/-- `restart_on_disconnect`: 0, 1 and 2. -/
inductive Cached where
  | unread
  | disabled
  | enabled
  deriving DecidableEq, Repr

/-- What distinguishes the guarded functions from each other. -/
structure Guarded where
  name : String
  -- the NULL branch zeroes *transferred
  clearsTransferred : Bool
  -- the result goes through restart_after_usb_disconnect
  fenced : Bool
  returnsResult : Bool
  deriving DecidableEq, Repr

def libusbBulkTransfer : Guarded := ⟨"libusb_bulk_transfer", true, true, true⟩

def libusbInterruptTransfer : Guarded := ⟨"libusb_interrupt_transfer", true, true, true⟩

def libusbControlTransfer : Guarded := ⟨"libusb_control_transfer", false, true, true⟩

/-- The macro `NULL_GUARD_INTERFACE`. -/
def nullGuardInterface (name : String) : Guarded := ⟨name, false, false, true⟩

def libusbClaimInterface : Guarded := nullGuardInterface "libusb_claim_interface"

def libusbReleaseInterface : Guarded := nullGuardInterface "libusb_release_interface"

def libusbDetachKernelDriver : Guarded := nullGuardInterface "libusb_detach_kernel_driver"

def libusbSetInterfaceAltSetting : Guarded :=
  ⟨"libusb_set_interface_alt_setting", false, false, true⟩

def libusbResetDevice : Guarded := ⟨"libusb_reset_device", false, false, true⟩

def libusbClose : Guarded := ⟨"libusb_close", false, false, false⟩

def guardedFunctions : List Guarded :=
  [libusbBulkTransfer, libusbInterruptTransfer, libusbControlTransfer, libusbClaimInterface,
    libusbReleaseInterface, libusbDetachKernelDriver, libusbSetInterfaceAltSetting,
    libusbResetDevice, libusbClose]

def transferFunctions : List Guarded :=
  [libusbBulkTransfer, libusbInterruptTransfer, libusbControlTransfer]

inductive HotplugEvent where
  | deviceArrived
  | deviceLeft
  deriving DecidableEq, Repr

structure UsbDevice where
  idVendor : UInt16
  idProduct : UInt16
  deriving DecidableEq, Repr

def sm768 (device : UsbDevice) : Bool :=
  device.idVendor = 0x090c && device.idProduct = 0x0768

inductive CallPhase where
  | entered
  -- the NULL branch, before guard_log
  | cleared
  -- behind pthread_once
  | resolved
  | completed (result : Int)
  -- restart_fence_enabled has loaded 0 and not yet stored
  | undecided
  | restarting
  deriving DecidableEq, Repr

/-- `none` stands for a NULL pointer; `transferred` is what the pointer shows. -/
structure Call (Handle : Type) where
  function : Guarded
  handle : Option Handle
  transferred : Option Int
  phase : CallPhase

/-- What the caller sees: `libusb_close` returns nothing. -/
def Call.reply {Handle : Type} (call : Call Handle) (result : Int) : Option Int :=
  if call.function.returnsResult then some result else none

inductive DispatchPhase where
  | entered
  | undecided
  | describing
  | restarting
  | calling
  deriving DecidableEq, Repr

structure Dispatch (Callback : Type) where
  callback : Callback
  event : HotplugEvent
  device : UsbDevice
  phase : DispatchPhase

inductive RegisterPhase where
  | entered
  | resolved
  | calling
  deriving DecidableEq, Repr

structure Registration (Callback : Type) where
  callback : Option Callback
  phase : RegisterPhase

inductive Task (Handle Callback : Type) where
  | call (call : Call Handle)
  | dispatch (dispatch : Dispatch Callback)
  | register (registration : Registration Callback)

/-- `guards` are the allocated `guarded_hotplug_callback`s that libusb knows. -/
structure Shared (Callback : Type) where
  restartOnDisconnect : Cached
  blockedCalls : Nat
  exited : Option Int
  guards : List Callback

inductive Label (Handle Callback : Type) where
  | quiet
  | began (function : Guarded) (handle : Option Handle)
  | blocked (function : Guarded) (message : String)
  | invoked (function : Guarded) (handle : Option Handle) (result : Int)
  | returned (call : Call Handle) (reply : Option Int)
  | dispatching (callback : Callback) (event : HotplugEvent) (device : UsbDevice)
  | callback (callback : Callback) (event : HotplugEvent) (device : UsbDevice)
  | registering (callback : Option Callback)
  | registered (result : Int)
  | exited (status : Int) (message : String)

/-- What `restart_fence_enabled` makes of the environment variable. -/
def enabledBy (value : Option String) : Bool :=
  match value with
  | none => false
  | some value => value ≠ "" && value ≠ "0"

def stored (environment : Option String) : Cached :=
  if enabledBy environment then .enabled else .disabled

/-- A text that does not fit the 256 bytes of the buffer is cut, and its
terminating zero is written with it. -/
def written (message : String) : String :=
  if message.length < 256 then message
  else String.ofList (message.toList.take 255 ++ ['\x00'])

def blockedMessage (functionName : String) (count : Nat) : String :=
  written ("smiusb-guard: blocked " ++ functionName ++ " with NULL handle " ++
    "(returning LIBUSB_ERROR_NO_DEVICE, count=" ++ toString count ++ ")\n")

def restartMessage (reason : String) : String :=
  written ("smiusb-guard: controlled daemon restart: " ++ reason ++ "\n")

def unresolvedMessage (symbol error : String) : String :=
  written ("smiusb-guard: cannot resolve " ++ symbol ++ ": " ++ error ++ "\n")

section Model
variable {Handle Callback : Type} (target : Target) (environment : Option String)

/-- `unsigned long` has the width of `usize` on both targets. -/
def increment (count : Nat) : Nat := (count + 1) % (target.usizeMax + 1)

inductive Begins (shared : Shared Callback) :
    Task Handle Callback → Label Handle Callback → Prop where
  | call (function : Guarded) (handle : Option Handle) (transferred : Option Int)
      (alive : shared.exited = none) (known : function ∈ guardedFunctions) :
      Begins shared (.call ⟨function, handle, transferred, .entered⟩) (.began function handle)
  | dispatch (callback : Callback) (event : HotplugEvent) (device : UsbDevice)
      (alive : shared.exited = none) (known : callback ∈ shared.guards) :
      Begins shared (.dispatch ⟨callback, event, device, .entered⟩)
        (.dispatching callback event device)
  | register (callback : Option Callback) (alive : shared.exited = none) :
      Begins shared (.register ⟨callback, .entered⟩) .quiet

/-- The moves of a guarded call. -/
inductive CallMoves (shared : Shared Callback) (call : Call Handle) :
    Label Handle Callback → Shared Callback → Option (Call Handle) → Prop where
  | clear (entered : call.phase = .entered) (null : call.handle = none) :
      CallMoves shared call .quiet shared (some { call with
        transferred :=
          if call.function.clearsTransferred then call.transferred.map fun _ => 0
          else call.transferred
        phase := .cleared })
  | log (cleared : call.phase = .cleared) :
      CallMoves shared call
        (.blocked call.function
          (blockedMessage call.function.name (increment target shared.blockedCalls)))
        { shared with blockedCalls := increment target shared.blockedCalls }
        (some { call with phase := .completed errorNoDevice })
  | resolve (handle : Handle) (entered : call.phase = .entered)
      (given : call.handle = some handle) :
      CallMoves shared call .quiet shared (some { call with phase := .resolved })
  | unresolved (handle : Handle) (error : String) (entered : call.phase = .entered)
      (given : call.handle = some handle) :
      CallMoves shared call (.exited 127 (unresolvedMessage call.function.name error))
        { shared with exited := some 127 } none
  | invoke (result count : Int) (resolved : call.phase = .resolved) :
      CallMoves shared call (.invoked call.function call.handle result) shared
        (some { call with
          transferred := call.transferred.map fun _ => count
          phase := .completed result })
  | finish (result : Int) (completed : call.phase = .completed result)
      (calm : ¬ (call.function.fenced = true ∧ result = errorNoDevice)) :
      CallMoves shared call (.returned call (call.reply result)) shared none
  -- restart_after_usb_disconnect, by what the load of the flag finds
  | unfenced (result : Int) (completed : call.phase = .completed result)
      (lost : call.function.fenced = true ∧ result = errorNoDevice)
      (loaded : shared.restartOnDisconnect = .disabled) :
      CallMoves shared call (.returned call (call.reply result)) shared none
  | fence (result : Int) (completed : call.phase = .completed result)
      (lost : call.function.fenced = true ∧ result = errorNoDevice)
      (loaded : shared.restartOnDisconnect = .enabled) :
      CallMoves shared call .quiet shared (some { call with phase := .restarting })
  | unread (result : Int) (completed : call.phase = .completed result)
      (lost : call.function.fenced = true ∧ result = errorNoDevice)
      (loaded : shared.restartOnDisconnect = .unread) :
      CallMoves shared call .quiet shared (some { call with phase := .undecided })
  -- another thread may have stored in between; both store the same value
  | enable (undecided : call.phase = .undecided) (enabled : enabledBy environment = true) :
      CallMoves shared call .quiet { shared with restartOnDisconnect := stored environment }
        (some { call with phase := .restarting })
  | disable (undecided : call.phase = .undecided) (disabled : enabledBy environment = false) :
      CallMoves shared call (.returned call (call.reply errorNoDevice))
        { shared with restartOnDisconnect := stored environment } none
  | restart (restarting : call.phase = .restarting) :
      CallMoves shared call (.exited 0 (restartMessage call.function.name))
        { shared with exited := some 0 } none

/-- The moves of `guarded_hotplug_dispatch`. -/
inductive DispatchMoves (shared : Shared Callback) (dispatch : Dispatch Callback) :
    Label Handle Callback → Shared Callback → Option (Dispatch Callback) → Prop where
  | pass (entered : dispatch.phase = .entered)
      (calm : dispatch.event ≠ .deviceLeft ∨ shared.restartOnDisconnect = .disabled) :
      DispatchMoves shared dispatch .quiet shared (some { dispatch with phase := .calling })
  | fence (entered : dispatch.phase = .entered) (left : dispatch.event = .deviceLeft)
      (loaded : shared.restartOnDisconnect = .enabled) :
      DispatchMoves shared dispatch .quiet shared (some { dispatch with phase := .describing })
  | unread (entered : dispatch.phase = .entered) (left : dispatch.event = .deviceLeft)
      (loaded : shared.restartOnDisconnect = .unread) :
      DispatchMoves shared dispatch .quiet shared (some { dispatch with phase := .undecided })
  | enable (undecided : dispatch.phase = .undecided) (enabled : enabledBy environment = true) :
      DispatchMoves shared dispatch .quiet
        { shared with restartOnDisconnect := stored environment }
        (some { dispatch with phase := .describing })
  | disable (undecided : dispatch.phase = .undecided) (disabled : enabledBy environment = false) :
      DispatchMoves shared dispatch .quiet
        { shared with restartOnDisconnect := stored environment }
        (some { dispatch with phase := .calling })
  -- libusb_get_device_descriptor is assumed to succeed on a departing device
  | describe (descriptor : Option UsbDevice) (describing : dispatch.phase = .describing)
      (readable : descriptor = some dispatch.device) :
      DispatchMoves shared dispatch .quiet shared (some { dispatch with
        phase := if descriptor.any sm768 then .restarting else .calling })
  | restart (restarting : dispatch.phase = .restarting) :
      DispatchMoves shared dispatch (.exited 0 (restartMessage "SM768 hotplug detach"))
        { shared with exited := some 0 } none
  | deliver (calling : dispatch.phase = .calling) :
      DispatchMoves shared dispatch
        (.callback dispatch.callback dispatch.event dispatch.device) shared none

/-- The moves of `libusb_hotplug_register_callback`. -/
inductive RegisterMoves (shared : Shared Callback) (registration : Registration Callback) :
    Label Handle Callback → Shared Callback → Option (Registration Callback) → Prop where
  | resolve (entered : registration.phase = .entered) :
      RegisterMoves shared registration .quiet shared
        (some { registration with phase := .resolved })
  | unresolved (error : String) (entered : registration.phase = .entered) :
      RegisterMoves shared registration
        (.exited 127 (unresolvedMessage "libusb_hotplug_register_callback" error))
        { shared with exited := some 127 } none
  | passThrough (resolved : registration.phase = .resolved) (null : registration.callback = none) :
      RegisterMoves shared registration (.registering none) shared
        (some { registration with phase := .calling })
  -- malloc may fail before the real function is called
  | noMemory (callback : Callback) (resolved : registration.phase = .resolved)
      (given : registration.callback = some callback) :
      RegisterMoves shared registration (.registered errorNoMem) shared none
  | guard (callback : Callback) (resolved : registration.phase = .resolved)
      (given : registration.callback = some callback) :
      RegisterMoves shared registration (.registering (some callback))
        { shared with guards := shared.guards ++ [callback] }
        (some { registration with phase := .calling })
  | accepted (calling : registration.phase = .calling) :
      RegisterMoves shared registration (.registered success) shared none
  | refused (result : Int) (calling : registration.phase = .calling)
      (null : registration.callback = none) (failed : result ≠ success) :
      RegisterMoves shared registration (.registered result) shared none
  -- a refused registration frees its guard
  | release (callback : Callback) (before behind : List Callback) (result : Int)
      (calling : registration.phase = .calling) (given : registration.callback = some callback)
      (failed : result ≠ success) (owned : shared.guards = before ++ callback :: behind) :
      RegisterMoves shared registration (.registered result)
        { shared with guards := before ++ behind } none

/-- No task moves after the process has exited. -/
inductive Moves (shared : Shared Callback) :
    Task Handle Callback → Label Handle Callback → Shared Callback →
      Option (Task Handle Callback) → Prop where
  | call {call : Call Handle} {label : Label Handle Callback} {after : Shared Callback}
      {next : Option (Call Handle)} (alive : shared.exited = none)
      (moved : CallMoves target environment shared call label after next) :
      Moves shared (.call call) label after (next.map .call)
  | dispatch {dispatch : Dispatch Callback} {label : Label Handle Callback}
      {after : Shared Callback} {next : Option (Dispatch Callback)} (alive : shared.exited = none)
      (moved : DispatchMoves environment shared dispatch label after next) :
      Moves shared (.dispatch dispatch) label after (next.map .dispatch)
  | register {registration : Registration Callback} {label : Label Handle Callback}
      {after : Shared Callback} {next : Option (Registration Callback)}
      (alive : shared.exited = none)
      (moved : RegisterMoves shared registration label after next) :
      Moves shared (.register registration) label after (next.map .register)

def loaded : Shared Callback := ⟨.unread, 0, none, []⟩

end Model

end Smiusb.RestartFence
