import Mathlib.Data.List.Dedup
import Mathlib.Data.List.Sort
import Smiusb.Traps

/-!
`scripts/capture-kvm-cycle.sh`: a bounded capture of the adapter's USB bus, cut
down to the adapter's own packets. The script runs under `set -e` and relaxes
the AppArmor profile of `tshark` for the capture; its handler for signals and
for the end of the script removes the temporary files and restores the
profile. What the external commands answer at each time, and how many signals
arrive meanwhile, is given from outside.
-/

namespace Smiusb.CaptureCycle
open Execution Methods Traps

inductive Profile where
  | enforce
  | complain
  | absent
  deriving DecidableEq, Repr

structure Packet where
  address : Nat
  number : Nat
  deriving DecidableEq, Repr

inductive Content where
  | capture (packets : List Packet)
  /-- An empty file or a text. -/
  | other
  deriving DecidableEq, Repr

structure Host where
  profile : Profile
  files : String → Option Content

/-- An empty text is `none`. -/
structure Variables where
  captureTmp : Option String
  filteredTmp : Option String
  restoreApparmor : Bool

/-- The commands whose answers the script goes on with. -/
inductive Question where
  | lsusb
  /-- `tshark -i usbmon$bus -a duration:$duration -w`. -/
  | capture (bus duration path : String)
  /-- `tshark -r` with the filter for the adapter on `bus`. -/
  | observe (bus path : String)
  deriving DecidableEq, Repr

/-- `asked` tells when each question was asked. -/
structure Shell where
  host : Host
  vars : Variables
  printed : List String
  asked : List (Nat × Question)

def Shell.write (shell : Shell) (path : String) (content : Option Content) : Shell :=
  { shell with
    host := { shell.host with
      files := fun other => if other = path then content else shell.host.files other } }

def Shell.confine (shell : Shell) (profile : Profile) : Shell :=
  { shell with host := { shell.host with profile } }

def Shell.print (shell : Shell) (text : String) : Shell :=
  { shell with printed := shell.printed ++ [text] }

def Shell.ask (shell : Shell) (time : Nat) (question : Question) : Shell :=
  { shell with asked := shell.asked ++ [(time, question)] }

def Shell.fresh (host : Host) : Shell := ⟨host, ⟨none, none, false⟩, [], []⟩

/-- A line of `lsusb -d 090c:0768`; the colon behind the device is gone. -/
structure Listed where
  bus : Nat
  device : String

structure Complaint where
  succeeds : Bool
  takesEffect : Bool

/-- What happens to the command of each time, if it is a command that asks
for it. -/
structure Surroundings where
  signals : Nat → Nat
  /-- `rm` and `aa-enforce` of the handler do their work. -/
  removes : Nat → Bool
  enforces : Nat → Bool
  complains : Nat → Complaint
  /-- `aa-status` and `jq` are there and work. -/
  inspects : Nat → Bool
  succeeds : Nat → Bool
  path : Nat → String
  listed : Nat → List Listed
  addresses : Nat → List String
  /-- What `tshark -w` writes, or what a command that fails leaves. -/
  written : Nat → Option Content

structure Site where
  projectDir : String
  timestamp : String

namespace Site

def captureDir (site : Site) : String := site.projectDir ++ "/captures"

def captureFile (site : Site) : String :=
  site.captureDir ++ "/smiusb-cycle-" ++ site.timestamp ++ ".pcapng"

def summaryFile (site : Site) : String :=
  site.captureDir ++ "/smiusb-cycle-" ++ site.timestamp ++ ".txt"

def outputs (site : Site) : List String := [site.captureFile, site.summaryFile]

end Site

inductive Stop where
  | exit (status : Nat)
  /-- A command that failed under `set -e`. -/
  | command
  deriving DecidableEq, Repr

abbrev Run := Script Shell Stop

section Commands
variable (surroundings : Surroundings) (trap : Run Unit)

def external {Value : Type} (deed : Nat → Shell → Option Value × Shell) : Run Value :=
  Script.command surroundings.signals trap .command deed

def assign (change : Variables → Variables) : Run Unit :=
  Script.step surroundings.signals trap fun _ shell =>
    ((), { shell with vars := change shell.vars })

/-- A command that leaves alone what is modelled. -/
def plain : Run Unit :=
  external surroundings trap fun time shell =>
    (if surroundings.succeeds time then some () else none, shell)

def printf (text : String) : Run Unit :=
  external surroundings trap fun time shell =>
    if surroundings.succeeds time then (some (), shell.print text) else (none, shell)

def refuse {Value : Type} (text : String) : Run Value := do
  printf surroundings trap text
  Script.fail (.exit 2)

/-- `sudo rm -f`. -/
def remove (works : Nat → Bool) (path : String) : Run Unit :=
  external surroundings trap fun time shell =>
    if works time then (some (), shell.write path none) else (none, shell)

def removeHeld : Option String → Run Unit
  | some path => remove surroundings trap surroundings.removes path
  | none => pure ()

def aaEnforce : Run Unit :=
  external surroundings trap fun time shell =>
    if surroundings.enforces time then (some (), shell.confine .enforce) else (none, shell)

def aaComplain : Run Unit :=
  external surroundings trap fun time shell =>
    if (surroundings.complains time).succeeds then (some (), shell.confine .complain)
    else
      (none,
        if (surroundings.complains time).takesEffect then shell.confine .complain else shell)

/-- The name is one that no file has, and none of the two outputs: theirs has
a dash where this one has a dot. -/
def mktemp (site : Site) : Run String :=
  external surroundings trap fun time shell =>
    if surroundings.succeeds time ∧ shell.host.files (surroundings.path time) = none ∧
        surroundings.path time ∉ site.outputs then
      (some (surroundings.path time), shell.write (surroundings.path time) (some .other))
    else (none, shell)

/-- `lsusb` at the head of a pipeline, which fails only with its last command. -/
def lsusb : Run (List Listed) :=
  external surroundings trap fun time shell =>
    (if surroundings.succeeds time then some (surroundings.listed time) else none,
      shell.ask time .lsusb)

/-- `tshark -i usbmon -w`, which may also leave a file when it fails. -/
def capturePackets (bus duration path : String) : Run Unit :=
  external surroundings trap fun time shell =>
    (if surroundings.succeeds time then some () else none,
      (shell.ask time (.capture bus duration path)).write path (surroundings.written time))

/-- `tshark -T fields -e usb.device_address || true`. -/
def observedAddresses (bus path : String) : Run (List String) :=
  Script.step surroundings.signals trap fun time shell =>
    (surroundings.addresses time, shell.ask time (.observe bus path))

/-- `tshark -r source -Y filter -w target`. -/
def filterPackets (selects : Packet → Bool) (source target : String) : Run Unit :=
  external surroundings trap fun time shell =>
    match shell.host.files source with
    | some (.capture packets) =>
        if surroundings.succeeds time then
          (some (), shell.write target (some (.capture (packets.filter selects))))
        else (none, shell.write target (surroundings.written time))
    | _ => (none, shell.write target (surroundings.written time))

def chown (path : String) : Run Unit :=
  external surroundings trap fun time shell =>
    (if surroundings.succeeds time ∧ (shell.host.files path).isSome then some () else none, shell)

def mv (source target : String) : Run Unit :=
  external surroundings trap fun time shell =>
    match shell.host.files source with
    | some content =>
        if surroundings.succeeds time then
          (some (), (shell.write target (some content)).write source none)
        else (none, shell.write target (surroundings.written time))
    | none => (none, shell)

/-- `tshark -r capture_file > summary_file`. -/
def summarize (site : Site) : Run Unit :=
  external surroundings trap fun time shell =>
    (match shell.host.files site.captureFile with
      | some (.capture _) => if surroundings.succeeds time then some () else none
      | _ => none,
      shell.write site.summaryFile (surroundings.written time))

end Commands

/-- `depth` is how deep signals interrupt the handling of signals. -/
def cleanup (surroundings : Surroundings) : Nat → Run Unit
  | 0 => pure ()
  | depth + 1 => do
      let shell ← Script.current
      removeHeld surroundings (cleanup surroundings depth) shell.vars.captureTmp
      let shell ← Script.current
      removeHeld surroundings (cleanup surroundings depth) shell.vars.filteredTmp
      let shell ← Script.current
      if shell.vars.restoreApparmor then
        aaEnforce surroundings (cleanup surroundings depth)
      else pure ()

section Texts

/-- Not `*[!0-9]*|''`. -/
def isNumber (text : String) : Bool := !text.isEmpty && text.toList.all Char.isDigit

def number (text : String) : Nat := Nat.ofDigitChars 10 text.toList 0

/-- The number that `printf '%03d'` reads: a leading zero makes it octal, and
it stops at a digit that is none. -/
def printfNumber (text : String) : Nat :=
  let value :=
    match text.toList with
    | '0' :: rest => Nat.ofDigitChars 8 (rest.takeWhile fun digit => '0' ≤ digit && digit ≤ '7') 0
    | digits => Nat.ofDigitChars 10 digits 0
  min value 9223372036854775807

/-- `/^[0-9]+$/ { print $1 + 0 }`. The addresses of a bus end at 127; `awk`
computes with floats, and far larger numbers would come out rounded. -/
def lineAddress (line : String) : Option Nat :=
  if isNumber line then some (number line) else none

/-- `sort -nu`. -/
def sortNumbers (numbers : List Nat) : List Nat := numbers.dedup.insertionSort (· ≤ ·)

def initialAddresses (bus : String) (listed : List Listed) : List String :=
  (listed.filter fun line => line.bus = printfNumber bus).map Listed.device

def targetAddresses (lines : List String) : List Nat := sortNumbers (lines.filterMap lineAddress)

def addressClause (address : Nat) : String := "usb.device_address == " ++ toString address

/-- A round of the loop that builds `target_filter`. -/
def extendFilter (filter : String) (address : Nat) : String :=
  (if filter ≠ "" then filter ++ " || " else filter) ++ addressClause address

def targetFilter (addresses : List Nat) : String := addresses.foldl extendFilter ""

def tokens (filter : List Char) : List (List Char) :=
  (filter.splitOnP (· == ' ')).filter fun token => !token.isEmpty

def clauseTokens (address : Nat) : List (List Char) :=
  ["usb.device_address".toList, "==".toList, (toString address).toList]

/-- What a display filter of address clauses joined by `||` selects. -/
def selects (filter : String) (packet : Packet) : Bool :=
  ((tokens filter.toList).splitOnP (· == ['|', '|'])).any (· == clauseTokens packet.address)

def keptMessage (targets : List Nat) : String :=
  "Kept only SMIUSB device address(es): " ++ " ".intercalate (targets.map toString)

def fullBusWarning : String :=
  "Warning: target address not found; capture contains the full USB bus."

end Texts

structure Arguments where
  duration : String
  bus : String
  trigger : String

/-- `${name:-default}`. -/
def defaulted (argument : Option String) (default : String) : String :=
  match argument with
  | some text => if text.isEmpty then default else text
  | none => default

def readArguments (arguments : List String) : Arguments :=
  let duration := defaulted arguments[0]? "90"
  let second := defaulted arguments[1]? ""
  if second = "session" ∨ second = "usb" then
    ⟨duration, defaulted arguments[2]? "", second⟩
  else ⟨duration, second, defaulted arguments[2]? "session"⟩

section Body
variable (surroundings : Surroundings) (trap : Run Unit) (site : Site)

/-- The two checks of a number, with the message of either. -/
def checkPositive (text message : String) : Run Unit := do
  if isNumber text then
    if number text = 0 then refuse surroundings trap message else pure ()
  else refuse surroundings trap message

def triggerInstruction (trigger : String) : Run String :=
  if trigger = "session" then
    pure "Lock and unlock the session now; leave the USB adapter connected."
  else if trigger = "usb" then pure "Physically disconnect and reconnect the USB adapter now."
  else refuse surroundings trap "trigger must be session or usb"

def detectBus (bus : String) : Run String :=
  if bus = "" then do
    let listed ← lsusb surroundings trap
    match sortNumbers (listed.map Listed.bus) with
    | [detected] => pure (toString detected)
    | _ =>
        refuse surroundings trap
          "could not auto-detect exactly one SMIUSB bus; pass the bus number as argument 2"
  else pure bus

/-- `aa-status --json | jq` and what follows it. -/
def relaxApparmor : Run Unit := do
  let enforced ← Script.step surroundings.signals trap fun time shell =>
    (surroundings.inspects time && shell.host.profile = .enforce, shell)
  if enforced then
    aaComplain surroundings trap
    assign surroundings trap fun vars => { vars with restoreApparmor := true }
  else pure ()

/-- `target_addresses=$(printf | awk | sort -nu)`, which fails with `sort`. -/
def sortAddresses (lines : List String) : Run (List Nat) :=
  external surroundings trap fun time shell =>
    (if surroundings.succeeds time then some (targetAddresses lines) else none, shell)

def keepTargets (capture : String) (targets : List Nat) : Run Unit := do
  let filtered ← mktemp surroundings trap site
  assign surroundings trap fun vars => { vars with filteredTmp := some filtered }
  filterPackets surroundings trap (selects (targetFilter targets)) capture filtered
  chown surroundings trap filtered
  mv surroundings trap filtered site.captureFile
  assign surroundings trap fun vars => { vars with filteredTmp := none }
  remove surroundings trap surroundings.succeeds capture
  assign surroundings trap fun vars => { vars with captureTmp := none }
  printf surroundings trap (keptMessage targets)

def keepAll (capture : String) : Run Unit := do
  chown surroundings trap capture
  mv surroundings trap capture site.captureFile
  assign surroundings trap fun vars => { vars with captureTmp := none }
  printf surroundings trap fullBusWarning

def keepCapture (capture : String) (targets : List Nat) : Run Unit :=
  if targets ≠ [] then keepTargets surroundings trap site capture targets
  else keepAll surroundings trap site capture

def startCapture (bus duration instruction capture : String) : Run (List String) := do
  let listed ← lsusb surroundings trap
  relaxApparmor surroundings trap
  printf surroundings trap
    ("Capturing usbmon" ++ bus ++ " for " ++ duration ++ " seconds. " ++ instruction)
  capturePackets surroundings trap bus duration capture
  let observed ← observedAddresses surroundings trap bus capture
  pure (initialAddresses bus listed ++ observed)

def body (arguments : List String) : Run Unit := do
  let ⟨duration, given, trigger⟩ := readArguments arguments
  checkPositive surroundings trap duration "duration must be a positive number of seconds"
  let instruction ← triggerInstruction surroundings trap trigger
  let bus ← detectBus surroundings trap given
  checkPositive surroundings trap bus "bus must be a positive USB bus number"
  plain surroundings trap
  plain surroundings trap
  let capture ← mktemp surroundings trap site
  assign surroundings trap fun vars => { vars with captureTmp := some capture }
  let lines ← startCapture surroundings trap bus duration instruction capture
  let targets ← sortAddresses surroundings trap lines
  keepCapture surroundings trap site capture targets
  summarize surroundings trap site
  printf surroundings trap
    ("Capture: " ++ site.captureFile ++ "\nSummary: " ++ site.summaryFile)

end Body

/-- `trap cleanup EXIT HUP INT TERM` and the script behind it. -/
def captureCycle (surroundings : Surroundings) (depth : Nat) (site : Site)
    (arguments : List String) : Run Unit :=
  Script.onExit (cleanup surroundings (depth + 1))
    (body surroundings (cleanup surroundings (depth + 1)) site arguments)

section Handler

/-- The commands of `cleanup` do their work. -/
def CleansUp (surroundings : Surroundings) : Prop :=
  ∀ time, surroundings.removes time = true ∧ surroundings.enforces time = true

def held (vars : Variables) : List (Option String) := [vars.captureTmp, vars.filteredTmp]

/-- What the commands of the handler keep; `failed` is left by one that fails. -/
structure Stable (surroundings : Surroundings) (kept failed : Shell → Prop) : Prop where
  removal : ∀ shell path, kept shell → some path ∈ held shell.vars → kept (shell.write path none)
  enforcing : ∀ shell, kept shell → shell.vars.restoreApparmor = true →
    kept (shell.confine .enforce)
  stuck : ¬ CleansUp surroundings → ∀ shell, kept shell → failed shell

theorem Stable.frame {surroundings : Surroundings} {kept failed : Shell → Prop}
    (stable : Stable surroundings kept failed) (fact : Prop) :
    Stable surroundings (fun shell => kept shell ∧ fact) failed where
  removal shell path held own := ⟨stable.removal shell path held.1 own, held.2⟩
  enforcing shell held restores := ⟨stable.enforcing shell held.1 restores, held.2⟩
  stuck broken shell held := stable.stuck broken shell held.1

theorem stable_exists {Choice : Type} {surroundings : Surroundings}
    {kept : Choice → Shell → Prop} {failed : Shell → Prop}
    (each : ∀ choice, Stable surroundings (kept choice) failed) :
    Stable surroundings (fun shell => ∃ choice, kept choice shell) failed where
  removal shell path held own :=
    held.imp fun choice here => (each choice).removal shell path here own
  enforcing shell held restores :=
    held.imp fun choice here => (each choice).enforcing shell here restores
  stuck broken shell held := held.elim fun choice => (each choice).stuck broken shell

variable {surroundings : Surroundings} {trap : Run Unit} {kept failed : Shell → Prop}

section Rules
variable {before stopped after : Shell → Prop}
  (stops : ∀ shell, before shell → stopped shell)
  (handlesStopped : Ensures trap stopped (fun _ => stopped) failed)
  (handlesAfter : Ensures trap after (fun _ => after) failed)
  (stuck : ¬ CleansUp surroundings → ∀ shell, stopped shell → failed shell)
include stops handlesStopped handlesAfter stuck

theorem remove_ensures (path : String)
    (removal : ∀ shell, before shell → after (shell.write path none)) :
    Ensures (remove surroundings trap surroundings.removes path) before (fun _ => after)
      failed := by
  apply ensures_command fun shell => stopped shell ∧ ¬ CleansUp surroundings
  · intro time shell holds
    by_cases removed : surroundings.removes time = true
    · simp only [removed, if_true]
      exact removal shell holds
    · simp only [removed]
      exact ⟨stops shell holds, fun works => removed (works time).1⟩
  · exact fun _ => handlesAfter
  · exact handlesStopped.frame _
  · exact fun shell failure => stuck failure.2 shell failure.1

theorem removeHeld_ensures (target : Option String)
    (removal : ∀ path, target = some path → ∀ shell, before shell → after (shell.write path none))
    (idle : target = none → ∀ shell, before shell → after shell) :
    Ensures (removeHeld surroundings trap target) before (fun _ => after) failed := by
  cases target with
  | none => exact ensures_pure (idle rfl)
  | some path =>
      exact remove_ensures stops handlesStopped handlesAfter stuck path (removal path rfl)

theorem aaEnforce_ensures (enforcing : ∀ shell, before shell → after (shell.confine .enforce)) :
    Ensures (aaEnforce surroundings trap) before (fun _ => after) failed := by
  apply ensures_command fun shell => stopped shell ∧ ¬ CleansUp surroundings
  · intro time shell holds
    by_cases enforced : surroundings.enforces time = true
    · simp only [enforced, if_true]
      exact enforcing shell holds
    · simp only [enforced]
      exact ⟨stops shell holds, fun works => enforced (works time).2⟩
  · exact fun _ => handlesAfter
  · exact handlesStopped.frame _
  · exact fun shell failure => stuck failure.2 shell failure.1

end Rules

/-- However deep signals interrupt it, `cleanup` runs only its own commands. -/
theorem cleanup_keeps (stable : Stable surroundings kept failed) (depth : Nat) :
    Ensures (cleanup surroundings depth) kept (fun _ => kept) failed := by
  induction depth with
  | zero => exact ensures_pure fun _ holds => holds
  | succ depth ih =>
      have removing : ∀ shell target, kept shell → target ∈ held shell.vars →
          Ensures (removeHeld surroundings (cleanup surroundings depth) target) (· = shell)
            (fun _ => kept) failed := by
        intro shell target holds own
        have here : ∀ other, other = shell → kept other := fun _ same => same ▸ holds
        apply removeHeld_ensures here ih ih stable.stuck
        · rintro path rfl _ rfl
          exact stable.removal _ path holds own
        · exact fun _ => here
      apply ensures_current_bind
      intro shell holds
      apply ensures_bind _ (removing shell _ holds List.mem_cons_self)
      intro _
      apply ensures_current_bind
      intro shell holds
      apply ensures_bind _ (removing shell _ holds (List.mem_cons_of_mem _ List.mem_cons_self))
      intro _
      apply ensures_current_bind
      intro shell holds
      have here : ∀ other, other = shell → kept other := fun _ same => same ▸ holds
      split
      · rename_i restores
        apply aaEnforce_ensures here ih ih stable.stuck
        rintro _ rfl
        exact stable.enforcing _ holds restores
      · exact ensures_pure here

/-- What also the messages keep, and what may be left where the script stops. -/
structure Quiet (surroundings : Surroundings) (kept failed : Shell → Prop) : Prop
    extends Stable surroundings kept failed where
  printing : ∀ shell text, kept shell → kept (shell.print text)
  stopping : ∀ shell, kept shell → failed shell

section Quiet
variable (quiet : Quiet surroundings kept failed) (depth : Nat)
include quiet

theorem external_keeps {Value : Type} {deed : Nat → Shell → Option Value × Shell}
    (keeps : ∀ time shell, kept shell → kept (deed time shell).2) :
    Ensures (external surroundings (cleanup surroundings depth) deed) kept (fun _ => kept)
      failed := by
  have handles := cleanup_keeps quiet.toStable depth
  apply ensures_command kept _ (fun _ => handles) handles quiet.stopping
  intro time shell holds
  have done := keeps time shell holds
  cases (deed time shell).1 with
  | none => exact done
  | some value => exact done

theorem printf_keeps (text : String) :
    Ensures (printf surroundings (cleanup surroundings depth) text) kept (fun _ => kept)
      failed := by
  apply external_keeps quiet depth
  intro time shell holds
  split
  · exact quiet.printing shell text holds
  · exact holds

theorem refuse_keeps {Value : Type} {after : Value → Shell → Prop} (text : String) :
    Ensures (refuse surroundings (cleanup surroundings depth) text) kept after failed := by
  apply ensures_bind _ (printf_keeps quiet depth text)
  exact fun _ => ensures_fail quiet.stopping

theorem checkPositive_keeps (text message : String) :
    Ensures (checkPositive surroundings (cleanup surroundings depth) text message) kept
      (fun _ => kept) failed := by
  unfold checkPositive
  split
  · split
    · exact refuse_keeps quiet depth message
    · exact ensures_pure fun _ holds => holds
  · exact refuse_keeps quiet depth message

theorem triggerInstruction_keeps (trigger : String) :
    Ensures (triggerInstruction surroundings (cleanup surroundings depth) trigger) kept
      (fun _ => kept) failed := by
  unfold triggerInstruction
  split
  · exact ensures_pure fun _ holds => holds
  · split
    · exact ensures_pure fun _ holds => holds
    · exact refuse_keeps quiet depth _

end Quiet

end Handler

end Smiusb.CaptureCycle
