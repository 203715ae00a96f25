import Smiusb.CNumbers
import Smiusb.Resources
import Smiusb.WireProtocol

/-!
src/probe/smiusb_probe.c: the devices that are present, and those that come
and go while it watches. What libusb answers is given from outside; the uses
of its objects are recorded, and an access behind the end of an array panics.
-/

namespace Smiusb.Probe
open Execution Methods Resources CNumbers WireProtocol

structure Endpoint where
  bEndpointAddress : UInt8
  bmAttributes : UInt8
  wMaxPacketSize : UInt16
  bInterval : UInt8
  deriving DecidableEq, Repr

/-- `libusb_interface_descriptor`, with an array of `bNumEndpoints` endpoints. -/
structure Alternate where
  bInterfaceNumber : UInt8
  bAlternateSetting : UInt8
  bInterfaceClass : UInt8
  bInterfaceSubClass : UInt8
  bInterfaceProtocol : UInt8
  endpoints : List Endpoint
  fits : endpoints.length < 2 ^ 8

def Alternate.bNumEndpoints (alternate : Alternate) : UInt8 := .ofNat alternate.endpoints.length

/-- `libusb_config_descriptor`, with an array of `bNumInterfaces` interfaces;
an interface is the array of its settings. -/
structure Config where
  bConfigurationValue : UInt8
  bmAttributes : UInt8
  maxPower : UInt8
  interfaces : List (List Alternate)
  fits : interfaces.length < 2 ^ 8

def Config.bNumInterfaces (config : Config) : UInt8 := .ofNat config.interfaces.length

structure Descriptor where
  idVendor : UInt16
  idProduct : UInt16
  bcdUSB : UInt16
  bcdDevice : UInt16
  bNumConfigurations : UInt8
  deriving DecidableEq, Repr

/-- What libusb tells about a device; an error is given by its name. -/
structure Device where
  descriptor : Except String Descriptor
  busNumber : UInt8
  address : UInt8
  config : UInt8 → Except String Config

def smiVendorId : UInt16 := 0x090c

def smiSm768ProductId : UInt16 := 0x0768

inductive Handle where
  | context
  | deviceList
  | config
  | callback
  deriving DecidableEq, Repr

inductive Stream where
  | stdout
  | stderr
  deriving DecidableEq, Repr

/-- The lines in the order in which they are printed. -/
abbrev Output := List (Stream × String)

abbrev Step (Value : Type) := Method (Traced Output Handle) Empty Value

def print (stream : Stream) (line : String) : Step Unit :=
  onState (.modify fun output => output ++ [(stream, line)])

def endpointDirection (endpoint : Endpoint) : String :=
  if endpoint.bEndpointAddress &&& 0x80 ≠ 0 then "IN" else "OUT"

def endpointType (endpoint : Endpoint) : String :=
  match (endpoint.bmAttributes &&& 0x03).toNat with
  | 0 => "control"
  | 1 => "isochronous"
  | 2 => "bulk"
  | 3 => "interrupt"
  | _ => "unknown"

def endpointLine (endpoint : Endpoint) : String :=
  "      endpoint=0x" ++ lowerHex 2 endpoint.bEndpointAddress.toNat ++ " direction=" ++
    endpointDirection endpoint ++ " type=" ++ endpointType endpoint ++
    s!" max_packet={endpoint.wMaxPacketSize.toNat} interval={endpoint.bInterval.toNat}"

def alternateLine (alternate : Alternate) : String :=
  s!"    interface={alternate.bInterfaceNumber.toNat} alt={alternate.bAlternateSetting.toNat} " ++
    "class=" ++ lowerHex 2 alternate.bInterfaceClass.toNat ++ "/" ++
    lowerHex 2 alternate.bInterfaceSubClass.toNat ++ "/" ++
    lowerHex 2 alternate.bInterfaceProtocol.toNat ++
    s!" endpoints={alternate.bNumEndpoints.toNat}"

def configLine (index : UInt8) (config : Config) : String :=
  s!"  config={index.toNat} value={config.bConfigurationValue.toNat} " ++
    s!"interfaces={config.bNumInterfaces.toNat} attributes=0x" ++
    lowerHex 2 config.bmAttributes.toNat ++ s!" power={config.maxPower.toNat * 2}mA"

def deviceLine (event : String) (device : Device) (descriptor : Descriptor) : String :=
  event ++ s!" bus={device.busNumber.toNat} address={device.address.toNat} vid:pid=" ++
    lowerHex 4 descriptor.idVendor.toNat ++ ":" ++ lowerHex 4 descriptor.idProduct.toNat ++
    " usb=" ++ lowerHex 0 (descriptor.bcdUSB.toNat / 2 ^ 8) ++ "." ++
    lowerHex 2 (descriptor.bcdUSB.toNat % 2 ^ 8) ++
    " device=" ++ lowerHex 0 (descriptor.bcdDevice.toNat / 2 ^ 8) ++ "." ++
    lowerHex 2 (descriptor.bcdDevice.toNat % 2 ^ 8) ++
    s!" configurations={descriptor.bNumConfigurations.toNat}"

def printEndpoint (endpoint : Endpoint) : Step Unit := do
  record (.touch .config)
  print .stdout (endpointLine endpoint)

def printAlternate (alternate : Alternate) : Step Unit := do
  record (.touch .config)
  print .stdout (alternateLine alternate)
  .arrayLoop printEndpoint alternate.endpoints

/-- The body of the loop over the configurations. -/
def printConfig (owner : Handle) (device : Device) (index : UInt8) : Step Unit := do
  record (.touch owner)
  match device.config index with
  | .error name => print .stderr s!"configuration {index.toNat} read failed: {name}"
  | .ok config =>
      record (.acquire .config)
      record (.touch .config)
      print .stdout (configLine index config)
      .arrayLoop (.forEach printAlternate) config.interfaces
      record (.release .config)

/-- `owner` is what keeps the device alive. -/
def printDevice (owner : Handle) (event : String) (device : Device) : Step Unit := do
  record (.touch owner)
  match device.descriptor with
  | .error name => print .stderr s!"descriptor read failed: {name}"
  | .ok descriptor =>
      if descriptor.idVendor ≠ smiVendorId ∨ descriptor.idProduct ≠ smiSm768ProductId then pure ()
      else
        record (.touch owner)
        print .stdout (deviceLine event device descriptor)
        .countLoop (printConfig owner device) descriptor.bNumConfigurations (2 ^ 8) 0

inductive HotplugEvent where
  | arrived
  | left
  deriving DecidableEq, Repr

def HotplugEvent.text : HotplugEvent → String
  | .arrived => "arrived"
  | .left => "left"

/-- libusb keeps a device until its callbacks are done. -/
def hotplugCallback (call : HotplugEvent × Device) : Step Unit :=
  printDevice .context call.1.text call.2

def enumerate (listing : Except String (List Device)) : Step Nat := do
  record (.touch .context)
  match listing with
  | .error name =>
      print .stderr s!"USB enumeration failed: {name}"
      pure 1
  | .ok devices =>
      record (.acquire .deviceList)
      .forEach (printDevice .deviceList "present") devices
      record (.release .deviceList)
      pure 0

inductive Status where
  | success
  | interrupted
  | failed (name : String)
  deriving DecidableEq, Repr

/-- One call of `libusb_handle_events_timeout_completed`. -/
structure Round where
  calls : List (HotplugEvent × Device)
  status : Status

/-- The loop of `main`, for as many rounds as its condition holds. -/
def watchLoop : Status → List Round → Step Status
  | last, [] => pure last
  | _, round :: rest => do
      record (.touch .context)
      .forEach hotplugCallback round.calls
      match round.status with
      | .failed name =>
          print .stderr s!"event loop failed: {name}"
          pure (.failed name)
      | status => watchLoop status rest

/-- What the probe meets outside. -/
structure Surroundings where
  initialized : Except String Unit
  listing : Except String (List Device)
  registered : Except String Unit
  rounds : List Round

/-- The seconds to watch, or the line that explains why there are none. -/
def parseArguments (longMax : Nat) : List String → Except String Int
  | [_] => .ok 0
  | [name, option, seconds] =>
      if option = "--watch" then
        if atoi longMax seconds.toList < 1 then
          .error "--watch requires a positive number of seconds"
        else .ok (atoi longMax seconds.toList)
      else .error s!"usage: {name} [--watch SECONDS]"
  | arguments =>
      let name := arguments.headD "(null)"
      .error s!"usage: {name} [--watch SECONDS]"

def watch (surroundings : Surroundings) : Step Nat := do
  record (.touch .context)
  match surroundings.registered with
  | .error name =>
      print .stderr s!"hotplug registration failed: {name}"
      record (.release .context)
      pure 1
  | .ok () =>
      record (.acquire .callback)
      let status ← watchLoop .success surroundings.rounds
      record (.release .callback)
      record (.release .context)
      match status with
      | .failed _ => pure 1
      | _ => pure 0

/-- `main` behind its arguments. -/
def probe (watchSeconds : Int) (surroundings : Surroundings) : Step Nat := do
  match surroundings.initialized with
  | .error name =>
      print .stderr s!"libusb_init failed: {name}"
      pure 1
  | .ok () =>
      record (.acquire .context)
      let result ← enumerate surroundings.listing
      if result ≠ 0 ∨ watchSeconds = 0 then
        record (.release .context)
        pure result
      else watch surroundings

def main (longMax : Nat) (arguments : List String) (surroundings : Surroundings) : Step Nat :=
  match parseArguments longMax arguments with
  | .error line => do
      print .stderr line
      pure 2
  | .ok watchSeconds => probe watchSeconds surroundings

/-! What is held while the parts of the probe run. -/

section Holding
variable {held : List Handle}

theorem print_moves (stream : Stream) (line : String) : Moves held (print stream line) held :=
  moves_modify _

theorem endpoint_moves (present : .config ∈ held) (endpoint : Endpoint) :
    Moves held (printEndpoint endpoint) held :=
  moves_bind (moves_touch present) fun _ => print_moves _ _

theorem alternate_moves (present : .config ∈ held) (alternate : Alternate) :
    Moves held (printAlternate alternate) held := by
  refine moves_bind (moves_touch present) fun _ => moves_bind (print_moves _ _) fun _ => ?_
  rw [Method.arrayLoop_eq _ _ alternate.fits]
  exact moves_forEach _ fun endpoint _ => endpoint_moves present endpoint

theorem config_moves {owner : Handle} (alive : owner ∈ held) (absent : .config ∉ held)
    (device : Device) (index : UInt8) : Moves held (printConfig owner device index) held := by
  refine moves_bind (moves_touch alive) fun _ => ?_
  cases device.config index with
  | error name => exact print_moves _ _
  | ok config =>
      refine moves_bind (moves_acquire absent) fun _ => moves_bind (moves_touch (by simp)) fun _ =>
        moves_bind (print_moves _ _) fun _ => moves_bind ?_ fun _ => moves_release
      rw [Method.arrayLoop_eq _ _ config.fits]
      refine moves_forEach _ fun settings _ => moves_forEach _ fun alternate _ => ?_
      exact alternate_moves (by simp) alternate

theorem device_moves {owner : Handle} (alive : owner ∈ held) (absent : .config ∉ held)
    (event : String) (device : Device) : Moves held (printDevice owner event device) held := by
  refine moves_bind (moves_touch alive) fun _ => ?_
  cases device.descriptor with
  | error name => exact print_moves _ _
  | ok descriptor =>
      dsimp only
      split
      · exact moves_pure ()
      refine moves_bind (moves_touch alive) fun _ => moves_bind (print_moves _ _) fun _ => ?_
      rw [Method.countLoop_eq _ _ 0 descriptor.bNumConfigurations.toNat _ (Nat.zero_add _)
        descriptor.bNumConfigurations.toNat_lt]
      exact moves_forEach _ fun index _ => config_moves alive absent device _

theorem enumerate_moves (listing : Except String (List Device)) :
    Moves [.context] (enumerate listing) [.context] := by
  refine moves_bind (moves_touch (by simp)) fun _ => ?_
  cases listing with
  | error name => exact moves_bind (print_moves _ _) fun _ => moves_pure 1
  | ok devices =>
      refine moves_bind (moves_acquire (by simp)) fun _ => moves_bind ?_ fun _ =>
        moves_bind moves_release fun _ => moves_pure 0
      exact moves_forEach _ fun device _ => device_moves (by simp) (by simp) "present" device

theorem watch_loop_moves (last : Status) (rounds : List Round) :
    Moves [.callback, .context] (watchLoop last rounds) [.callback, .context] := by
  induction rounds generalizing last with
  | nil => exact moves_pure last
  | cons round rest ih =>
      have called : Moves [.callback, .context] (.forEach hotplugCallback round.calls)
          [.callback, .context] :=
        moves_forEach _ fun call _ => device_moves (by simp) (by simp) _ call.2
      refine moves_bind (moves_touch (by simp)) fun _ => moves_bind called fun _ => ?_
      cases round.status with
      | failed name => exact moves_bind (print_moves _ _) fun _ => moves_pure _
      | success => exact ih _
      | interrupted => exact ih _

theorem probe_moves (watchSeconds : Int) (surroundings : Surroundings) :
    Moves [] (probe watchSeconds surroundings) [] := by
  unfold probe
  cases surroundings.initialized with
  | error name => exact moves_bind (print_moves _ _) fun _ => moves_pure 1
  | ok _ =>
      refine moves_bind (moves_acquire (by simp)) fun _ =>
        moves_bind (enumerate_moves _) fun result => ?_
      split
      · exact moves_bind moves_release fun _ => moves_pure result
      refine moves_bind (moves_touch (by simp)) fun _ => ?_
      cases surroundings.registered with
      | error name =>
          exact moves_bind (print_moves _ _) fun _ => moves_bind moves_release fun _ => moves_pure 1
      | ok _ =>
          refine moves_bind (moves_acquire (by simp)) fun _ =>
            moves_bind (watch_loop_moves _ _) fun status => moves_bind moves_release fun _ =>
            moves_bind moves_release fun _ => ?_
          cases status <;> exact moves_pure _

end Holding

/-! What is printed, without counters and resources. -/

def alternateReport (alternate : Alternate) : Output :=
  (.stdout, alternateLine alternate) ::
    alternate.endpoints.flatMap fun endpoint => [(.stdout, endpointLine endpoint)]

def configReport (device : Device) (index : UInt8) : Output :=
  match device.config index with
  | .error name => [(.stderr, s!"configuration {index.toNat} read failed: {name}")]
  | .ok config =>
      (.stdout, configLine index config) ::
        config.interfaces.flatMap fun settings => settings.flatMap alternateReport

def deviceReport (event : String) (device : Device) : Output :=
  match device.descriptor with
  | .error name => [(.stderr, s!"descriptor read failed: {name}")]
  | .ok descriptor =>
      if descriptor.idVendor ≠ smiVendorId ∨ descriptor.idProduct ≠ smiSm768ProductId then []
      else
        (.stdout, deviceLine event device descriptor) ::
          (List.range descriptor.bNumConfigurations.toNat).flatMap fun index =>
            configReport device (.ofNat index)

def callsReport (round : Round) : Output :=
  round.calls.flatMap fun call => deviceReport call.1.text call.2

/-- The rounds up to the first that failed, and how the last one ended. -/
def loopReport : Status → List Round → Output × Status
  | last, [] => ([], last)
  | _, round :: rest =>
      match round.status with
      | .failed name =>
          (callsReport round ++ [(.stderr, s!"event loop failed: {name}")], .failed name)
      | status => (callsReport round ++ (loopReport status rest).1, (loopReport status rest).2)

def watchReport (surroundings : Surroundings) : Output × Nat :=
  match surroundings.registered with
  | .error name => ([(.stderr, s!"hotplug registration failed: {name}")], 1)
  | .ok () =>
      let (lines, status) := loopReport .success surroundings.rounds
      (lines, match status with | .failed _ => 1 | _ => 0)

def probeReport (watchSeconds : Int) (surroundings : Surroundings) : Output × Nat :=
  match surroundings.initialized, surroundings.listing with
  | .error name, _ => ([(.stderr, s!"libusb_init failed: {name}")], 1)
  | .ok (), .error name => ([(.stderr, s!"USB enumeration failed: {name}")], 1)
  | .ok (), .ok devices =>
      if watchSeconds = 0 then (devices.flatMap (deviceReport "present"), 0)
      else
        (devices.flatMap (deviceReport "present") ++ (watchReport surroundings).1,
          (watchReport surroundings).2)

def mainReport (longMax : Nat) (arguments : List String) (surroundings : Surroundings) :
    Output × Nat :=
  match parseArguments longMax arguments with
  | .error line => ([(.stderr, line)], 2)
  | .ok watchSeconds => probeReport watchSeconds surroundings

/-- Print some lines, return a value, and do nothing else. -/
def say {Value : Type} (lines : Output) (value : Value) : Method Output Empty Value where
  run output := (.ok value, output ++ lines)

section Printing
variable {Value Next Item : Type}

theorem print_prints (stream : Stream) (line : String) :
    Refines (print stream line) (say [(stream, line)] ()) := refines_onState _

theorem pure_prints (value : Value) : Refines (pure value : Step Value) (say [] value) :=
  fun _ => ⟨rfl, (List.append_nil _).symm⟩

theorem record_prints (step : Use Handle) : Refines (record step : Step Unit) (say [] ()) :=
  fun _ => ⟨rfl, (List.append_nil _).symm⟩

theorem prints_bind {first : Step Value} {next : Value → Step Next} {front back : Output}
    {value : Value} {result : Next} (start : Refines first (say front value))
    (rest : Refines (next value) (say back result)) :
    Refines (first >>= next) (say (front ++ back) result) := by
  intro object
  obtain ⟨ended, printed⟩ := start object
  obtain ⟨last, more⟩ := rest (first.run object).2
  have run : (first >>= next).run object = (next value).run (first.run object).2 := by
    rw [Method.run_bind, ← Prod.eta (first.run object), ended]
    rfl
  rw [run]
  refine ⟨last, more.trans ?_⟩
  rw [printed]
  exact List.append_assoc _ _ _

/-- What is only recorded is not printed. -/
theorem prints_after {first : Step Unit} {next : Unit → Step Next} {lines : Output} {result : Next}
    (start : Refines first (say [] ())) (rest : Refines (next ()) (say lines result)) :
    Refines (first >>= next) (say lines result) := prints_bind start rest

theorem prints_before {first : Step Value} {next : Value → Step Next} {lines : Output}
    {value : Value} {result : Next} (start : Refines first (say lines value))
    (rest : Refines (next value) (say [] result)) :
    Refines (first >>= next) (say lines result) := by
  have both := prints_bind start rest
  rwa [List.append_nil] at both

theorem prints_forEach {body : Item → Step Unit} {lines : Item → Output} (items : List Item)
    (round : ∀ item, Refines (body item) (say (lines item) ())) :
    Refines (.forEach body items) (say (items.flatMap lines) ()) := by
  induction items with
  | nil => exact pure_prints ()
  | cons item rest ih => exact prints_bind (round item) ih

theorem alternate_prints (alternate : Alternate) :
    Refines (printAlternate alternate) (say (alternateReport alternate) ()) := by
  refine prints_after (record_prints _) (prints_bind (print_prints _ _) ?_)
  rw [Method.arrayLoop_eq _ _ alternate.fits]
  exact prints_forEach _ fun endpoint => prints_after (record_prints _) (print_prints _ _)

theorem config_prints (owner : Handle) (device : Device) (index : UInt8) :
    Refines (printConfig owner device index) (say (configReport device index) ()) := by
  refine prints_after (record_prints _) ?_
  unfold configReport
  cases device.config index with
  | error name => exact print_prints _ _
  | ok config =>
      have inside : Refines (.arrayLoop (.forEach printAlternate) config.interfaces)
          (say (config.interfaces.flatMap fun settings => settings.flatMap alternateReport)
            ()) := by
        rw [Method.arrayLoop_eq _ _ config.fits]
        exact prints_forEach _ fun settings => prints_forEach _ alternate_prints
      exact prints_after (record_prints _) (prints_after (record_prints _)
        (prints_bind (print_prints _ _) (prints_before inside (record_prints _))))

theorem device_prints (owner : Handle) (event : String) (device : Device) :
    Refines (printDevice owner event device) (say (deviceReport event device) ()) := by
  refine prints_after (record_prints _) ?_
  unfold deviceReport
  cases device.descriptor with
  | error name => exact print_prints _ _
  | ok descriptor =>
      dsimp only
      split
      · exact pure_prints ()
      refine prints_after (record_prints _) (prints_bind (print_prints _ _) ?_)
      rw [Method.countLoop_eq _ _ 0 descriptor.bNumConfigurations.toNat _ (Nat.zero_add _)
        descriptor.bNumConfigurations.toNat_lt, List.range_eq_range']
      exact prints_forEach _ fun index => config_prints owner device _

theorem watch_loop_prints (last : Status) (rounds : List Round) :
    Refines (watchLoop last rounds)
      (say (loopReport last rounds).1 (loopReport last rounds).2) := by
  induction rounds generalizing last with
  | nil => exact pure_prints last
  | cons round rest ih =>
      have called : Refines (.forEach hotplugCallback round.calls) (say (callsReport round) ()) :=
        prints_forEach _ fun call => device_prints _ _ call.2
      unfold loopReport
      refine prints_after (record_prints _) ?_
      cases round.status with
      | failed name => exact prints_bind called (prints_before (print_prints _ _) (pure_prints _))
      | success => exact prints_bind called (ih _)
      | interrupted => exact prints_bind called (ih _)

theorem watch_prints (surroundings : Surroundings) :
    Refines (watch surroundings)
      (say (watchReport surroundings).1 (watchReport surroundings).2) := by
  refine prints_after (record_prints _) ?_
  unfold watchReport
  cases surroundings.registered with
  | error name =>
      exact prints_before (print_prints _ _) (prints_after (record_prints _) (pure_prints 1))
  | ok _ =>
      refine prints_after (record_prints _) (prints_before (watch_loop_prints _ _)
        (prints_after (record_prints _) (prints_after (record_prints _) ?_)))
      dsimp only
      split <;> exact pure_prints _

theorem listing_prints (devices : List Device) :
    Refines (enumerate (.ok devices)) (say (devices.flatMap (deviceReport "present")) 0) := by
  refine prints_after (record_prints _) (prints_after (record_prints _) ?_)
  have printed := prints_forEach devices fun device => device_prints .deviceList "present" device
  exact prints_before printed (prints_after (record_prints _) (pure_prints 0))

theorem probe_prints (watchSeconds : Int) (surroundings : Surroundings) :
    Refines (probe watchSeconds surroundings)
      (say (probeReport watchSeconds surroundings).1
        (probeReport watchSeconds surroundings).2) := by
  unfold probe probeReport
  cases surroundings.initialized with
  | error name => exact prints_before (print_prints _ _) (pure_prints 1)
  | ok _ =>
      refine prints_after (record_prints _) ?_
      cases surroundings.listing with
      | error name =>
          have failed : Refines (enumerate (.error name))
              (say [(.stderr, s!"USB enumeration failed: {name}")] 1) :=
            prints_after (record_prints _) (prints_before (print_prints _ _) (pure_prints 1))
          exact prints_before failed (prints_after (record_prints _) (pure_prints 1))
      | ok devices =>
          dsimp only
          split
          · rename_i once
            refine prints_before (listing_prints devices) ?_
            rw [if_pos (.inr once)]
            exact prints_after (record_prints _) (pure_prints 0)
          · rename_i watching
            refine prints_bind (listing_prints devices) ?_
            rw [if_neg (by simpa using watching)]
            exact watch_prints surroundings

theorem main_prints (longMax : Nat) (arguments : List String) (surroundings : Surroundings) :
    Refines (main longMax arguments surroundings) (say (mainReport longMax arguments surroundings).1
      (mainReport longMax arguments surroundings).2) := by
  unfold main mainReport
  cases parseArguments longMax arguments with
  | error line => exact prints_before (print_prints _ _) (pure_prints 2)
  | ok watchSeconds => exact probe_prints watchSeconds surroundings

end Printing

/-- The loop ends well exactly if no round failed. -/
theorem loop_status (last : Status) (rounds : List Round) (well : ∀ name, last ≠ .failed name) :
    (∀ name, (loopReport last rounds).2 ≠ .failed name) ↔
      ∀ round ∈ rounds, ∀ name, round.status ≠ .failed name := by
  induction rounds generalizing last with
  | nil => simpa [loopReport] using well
  | cons round rest ih =>
      rw [List.forall_mem_cons, loopReport]
      cases ended : round.status with
      | failed name => simp
      | success => simpa using ih .success (by simp)
      | interrupted => simpa using ih .interrupted (by simp)

/-- The probe always returns. It never reads behind the end of an array, gives
back once what it took from libusb, and reports exactly what it was told. -/
theorem probe_exact (longMax : Nat) (arguments : List String) (surroundings : Surroundings) :
    let ended := (main longMax arguments surroundings).run ⟨[], []⟩
    ended.1 = .ok (mainReport longMax arguments surroundings).2 ∧
      ended.2.state = (mainReport longMax arguments surroundings).1 ∧ Tidy ended.2.uses := by
  obtain ⟨code, lines⟩ := main_prints longMax arguments surroundings ⟨[], []⟩
  have moves : Moves [] (main longMax arguments surroundings) [] := by
    unfold main
    cases parseArguments longMax arguments with
    | error line => exact moves_bind (print_moves _ _) fun _ => moves_pure 2
    | ok watchSeconds => exact probe_moves watchSeconds surroundings
  obtain ⟨value, trace, returned, uses, settled⟩ := moves ⟨[], []⟩
  refine ⟨code, lines, ?_⟩
  rw [uses]
  exact settled_tidy settled

theorem watch_code (surroundings : Surroundings) :
    (watchReport surroundings).2 < 2 ∧ ((watchReport surroundings).2 = 0 ↔
      surroundings.registered = .ok () ∧
        ∀ round ∈ surroundings.rounds, ∀ name, round.status ≠ .failed name) := by
  unfold watchReport
  rw [← loop_status .success surroundings.rounds (by simp)]
  cases surroundings.registered with
  | error name => simp
  | ok _ =>
      cases ended : (loopReport .success surroundings.rounds).2 <;> simp [ended]

theorem probe_code (watchSeconds : Int) (surroundings : Surroundings) :
    (probeReport watchSeconds surroundings).2 < 2 ∧
    ((probeReport watchSeconds surroundings).2 = 0 ↔ surroundings.initialized = .ok () ∧
      (∃ devices, surroundings.listing = .ok devices) ∧
      (watchSeconds = 0 ∨ surroundings.registered = .ok () ∧
        ∀ round ∈ surroundings.rounds, ∀ name, round.status ≠ .failed name)) := by
  obtain ⟨small, zero⟩ := watch_code surroundings
  rw [← zero]
  unfold probeReport
  cases surroundings.initialized with
  | error name => simp
  | ok _ =>
      cases surroundings.listing with
      | error name => simp
      | ok devices =>
          by_cases once : watchSeconds = 0
          · simp [once]
          · simpa [once] using small

/-- The exit code tells a refused command line, a call that failed and success
apart. -/
theorem probe_exit_code (longMax : Nat) (arguments : List String) (surroundings : Surroundings) :
    let ended := (main longMax arguments surroundings).run ⟨[], []⟩
    (ended.1 = .ok 2 ↔ ∃ line, parseArguments longMax arguments = .error line) ∧
    (ended.1 = .ok 0 ↔ ∃ watchSeconds, parseArguments longMax arguments = .ok watchSeconds ∧
      surroundings.initialized = .ok () ∧ (∃ devices, surroundings.listing = .ok devices) ∧
      (watchSeconds = 0 ∨ surroundings.registered = .ok () ∧
        ∀ round ∈ surroundings.rounds, ∀ name, round.status ≠ .failed name)) ∧
    (ended.1 = .ok 0 ∨ ended.1 = .ok 1 ∨ ended.1 = .ok 2) := by
  have code := (main_prints longMax arguments surroundings ⟨[], []⟩).1
  dsimp only
  rw [code]
  unfold mainReport say
  cases parseArguments longMax arguments with
  | error line => simp
  | ok watchSeconds =>
      obtain ⟨small, zero⟩ := probe_code watchSeconds surroundings
      simp only [Outcome.ok.injEq, Except.ok.injEq, exists_eq_left', ← zero, reduceCtorEq,
        exists_false, iff_false]
      exact ⟨by omega, trivial, by omega⟩

/-- The probe watches exactly for a text that starts with a number whose value,
cut to 32 bits, is positive; what follows the number does not matter. -/
theorem watch_arguments_exact (longMax : Nat) (arguments : List String) (seconds : Int) :
    parseArguments longMax arguments = .ok seconds ↔
      (∃ name, arguments = [name]) ∧ seconds = 0 ∨
      ∃ name text scanned, arguments = [name, "--watch", text] ∧ Spells text.toList scanned ∧
        (saturated longMax scanned).bmod (2 ^ 32) = seconds ∧ 1 ≤ seconds := by
  constructor
  · intro parsed
    unfold parseArguments at parsed
    split at parsed
    · cases parsed
      exact .inl ⟨⟨_, rfl⟩, rfl⟩
    · rename_i name option text
      split at parsed
      · rename_i watching
        subst watching
        split at parsed
        · cases parsed
        · rename_i positive
          have positive : 1 ≤ atoi longMax text.toList := Int.not_lt.mp positive
          obtain ⟨scanned, spelled, value⟩ := (atoi_positive_iff positive).mp rfl
          cases parsed
          exact .inr ⟨name, text, scanned, rfl, spelled, value, positive⟩
      · cases parsed
    · cases parsed
  · rintro (⟨⟨name, rfl⟩, rfl⟩ | ⟨name, text, scanned, rfl, spelled, value, positive⟩)
    · rfl
    · have converted := (atoi_positive_iff positive).mpr ⟨scanned, spelled, value⟩
      simp [parseArguments, converted, Int.not_lt.mpr positive]

example :
    parseArguments (2 ^ 63 - 1) ["smiusb-probe", "--watch", "4294967297 minutes"] = .ok 1 := by
  decide +kernel

end Smiusb.Probe
