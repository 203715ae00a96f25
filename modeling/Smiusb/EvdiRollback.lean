import Mathlib.Data.List.Basic
import Mathlib.Data.List.Dedup
import Mathlib.Data.List.Infix
import Smiusb.Journals

/-!
`scripts/rollback-patched-evdi.sh`: the original EVDI module is put back on
every kernel that DKMS lists for a patched version. The script runs under
`set -e` without `pipefail`, so a command whose status is not tested ends the
run when it fails, and a pipeline fails only with its last command. What the
external commands answer is given from outside; what `dkms` does to the
machine is modelled, and the run keeps a journal of the events that matter.
-/

namespace Smiusb.EvdiRollback
open Execution Methods Journals

inductive Version where
  | patched
  | legacy
  | original
  deriving DecidableEq, Repr

def Version.text : Version → String
  | .patched => "1.14.16.smiusb2"
  | .legacy => "1.14.16.smiusb1"
  | .original => "1.14.16"

def originalSource : String := "/usr/src/evdi-" ++ Version.original.text

/-- What DKMS holds for the module `evdi`. A kernel has at most one version
installed, and an installed version is also a built one. `kernels` are those
that `dkms status` can list; a kernel joins them when something is built for it. -/
structure Machine where
  kernels : List String
  arch : String
  registered : Version → Bool
  built : String → Version → Bool
  installed : String → Option Version
  consistent : ∀ kernel version, installed kernel = some version → built kernel version = true

namespace Machine

def stateText (machine : Machine) (version : Version) (kernel : String) : String :=
  if machine.installed kernel = some version then "installed" else "built"

def statusLine (machine : Machine) (version : Version) (kernel : String) : String :=
  "evdi/" ++ version.text ++ ", " ++ kernel ++ ", " ++ machine.arch ++ ": " ++
    machine.stateText version kernel

/-- `dkms status -m evdi -v version`: a version that is built for no kernel
is listed without one. -/
def status (machine : Machine) (version : Version) : List String :=
  match machine.kernels.filter fun kernel => machine.built kernel version with
  | [] => if machine.registered version then ["evdi/" ++ version.text ++ ": added"] else []
  | kernels => kernels.map (machine.statusLine version)

/-- `dkms status -m evdi -v version -k kernel`. -/
def kernelStatus (machine : Machine) (version : Version) (kernel : String) : List String :=
  if machine.built kernel version then [machine.statusLine version kernel] else []

/-- `dkms add`. -/
def add (machine : Machine) (version : Version) : Machine :=
  { machine with registered := fun other => other = version || machine.registered other }

/-- `dkms build`. -/
def build (machine : Machine) (kernel : String) (version : Version) : Machine :=
  { machine with
    kernels := machine.kernels.insert kernel
    built := fun place other => (place = kernel && other = version) || machine.built place other
    consistent := by
      intro place other present
      simp [machine.consistent place other present] }

/-- `dkms install --force` takes the place of whatever was installed. -/
def install (machine : Machine) (kernel : String) (version : Version) : Machine :=
  { machine with
    kernels := machine.kernels.insert kernel
    built := fun place other => (place = kernel && other = version) || machine.built place other
    installed := fun place => if place = kernel then some version else machine.installed place
    consistent := by
      intro place other present
      by_cases here : place = kernel
      · rw [if_pos here, Option.some.injEq] at present
        simp [here, present]
      · rw [if_neg here] at present
        simp [machine.consistent place other present] }

/-- `dkms remove` for the kernels that it reached. -/
def removeFrom (machine : Machine) (version : Version) (reached : String → Bool) : Machine :=
  { machine with
    built := fun kernel other => machine.built kernel other && !(reached kernel && other = version)
    installed := fun kernel =>
      if reached kernel && machine.installed kernel = some version then none
      else machine.installed kernel
    consistent := by
      intro kernel other present
      split at present
      · exact absurd present (by simp)
      · rename_i kept
        rw [machine.consistent kernel other present, Bool.true_and, Bool.not_eq_true']
        simpa [present] using kept }

/-- `dkms remove --all` that came to its end. -/
def remove (machine : Machine) (version : Version) : Machine :=
  { machine.removeFrom version fun _ => true with
    registered := fun other => other != version && machine.registered other }

/-- A patched version is built or installed. -/
def Patched (machine : Machine) (kernel : String) : Prop :=
  machine.built kernel .patched = true ∨ machine.built kernel .legacy = true

def RunsPatched (machine : Machine) (kernel : String) : Prop :=
  machine.installed kernel = some .patched ∨ machine.installed kernel = some .legacy

/-- Installing the original takes it from no kernel. -/
theorem install_keeps_original {machine : Machine} {kernel other : String}
    (holds : machine.installed kernel = some .original) :
    (machine.install other .original).installed kernel = some .original := by
  by_cases here : kernel = other
  · exact if_pos here
  · exact (if_neg here).trans holds

theorem remove_keeps_original {machine : Machine} {version : Version} {kernel : String}
    (reached : String → Bool) (other : version ≠ .original)
    (holds : machine.installed kernel = some .original) :
    (machine.removeFrom version reached).installed kernel = some .original := by
  simp [removeFrom, holds, other.symm]

theorem runsPatched_iff {machine : Machine} {kernel : String} :
    machine.RunsPatched kernel ↔
      ∃ version ∈ [Version.patched, .legacy], machine.installed kernel = some version := by
  simp [RunsPatched]

theorem patched_of_runs {machine : Machine} {kernel : String}
    (runs : machine.RunsPatched kernel) : machine.Patched kernel := by
  obtain patched | legacy := runs
  · exact .inl (machine.consistent kernel .patched patched)
  · exact .inr (machine.consistent kernel .legacy legacy)

end Machine

inductive Abort where
  /-- A message and `exit`, or `return` out of a function. -/
  | exit (status : Nat) (messages : List String)
  /-- A command that failed under `set -e`. -/
  | command
  deriving DecidableEq, Repr

abbrev Check := Except Abort

def require (condition : Bool) (messages : List String) : Check Unit :=
  if condition then .ok () else .error (.exit 1 messages)

def command (succeeds : Bool) : Check Unit :=
  if succeeds then .ok () else .error .command

/-- `name=$(command)`. -/
def output {Value : Type} : Option Value → Check Value
  | some text => .ok text
  | none => .error .command

section Checks

theorem require_ok_iff {condition : Bool} {messages : List String} :
    require condition messages = .ok () ↔ condition = true := by
  cases condition <;> simp [require]

theorem command_ok_iff {succeeds : Bool} : command succeeds = .ok () ↔ succeeds = true := by
  cases succeeds <;> simp [command]

theorem output_ok_iff {Value : Type} {answer : Option Value} {value : Value} :
    output answer = .ok value ↔ answer = some value := by
  cases answer <;> simp [output]

theorem check_bind_ok_iff {First Second : Type} {first : Check First} {next : First → Check Second}
    {result : Second} :
    (first >>= next) = .ok result ↔ ∃ value, first = .ok value ∧ next value = .ok result := by
  cases first <;> simp [bind, Except.bind]

/-- A check of every item of a list. -/
theorem forM_ok {Item : Type} {check : Item → Check Unit} {items : List Item}
    (passed : items.forM check = .ok ()) : ∀ item ∈ items, check item = .ok () := by
  induction items with
  | nil => simp
  | cons first rest ih =>
      obtain ⟨_, here, behind⟩ := check_bind_ok_iff.mp passed
      exact List.forall_mem_cons.mpr ⟨here, ih behind⟩

end Checks

section Texts

def isBlank (character : Char) : Bool :=
  character = ' ' || character = '\t' || character = '\n'

/-- The words that an unquoted expansion of these lines has. -/
def words (lines : List String) : List String :=
  lines.flatMap fun line =>
    ((line.toList.splitOnP isBlank).filter fun word => !word.isEmpty).map String.ofList

/-- `grep -q pattern` on one line, for a pattern without special characters. -/
def mentions (pattern line : String) : Bool :=
  line.toList.tails.any fun rest => pattern.toList.isPrefixOf rest

def endsWith (suffix text : String) : Bool :=
  suffix.toList.isSuffixOf text.toList

def startsWith (front text : String) : Bool :=
  front.toList.isPrefixOf text.toList

/-- `awk -F ', '`. -/
def fields : List Char → List (List Char)
  | [] => [[]]
  | ',' :: ' ' :: rest => [] :: fields rest
  | character :: rest =>
      match fields rest with
      | [] => [[character]]
      | field :: others => (character :: field) :: others

def isSpace (character : Char) : Bool :=
  isBlank character || character = '\r' || character = '\x0b' || character = '\x0c'

/-- `/: (built|installed)([[:space:]]|$)/`. -/
def announcesBuild (field : List Char) : Bool :=
  field.tails.any fun rest => [": built", ": installed"].any fun state =>
    state.toList.isPrefixOf rest && (rest.drop state.length).head?.all isSpace

def awkKernel (line : String) : Option String :=
  match fields line.toList with
  | _ :: kernel :: state :: _ => if announcesBuild state then some (.ofList kernel) else none
  | _ => none

/-- `sort -u`; nothing depends on the order that the locale gives. -/
def sortUnique (lines : List String) : List String :=
  (lines.mergeSort fun one other => decide (one ≤ other)).dedup

/-- `*[!A-Za-z0-9._+-]*`. -/
def isUnsafeRelease (release : String) : Bool :=
  release.toList.any fun character =>
    !(character.isAlphanum || ['.', '_', '+', '-'].contains character)

end Texts

/-- How the commands ended that list the patched kernels. `awk` may die after
some lines; nobody looks at its status. -/
structure Listing where
  patchedQuery : Bool
  legacyQuery : Bool
  awkLines : Option Nat
  sorts : Bool

/-- A query that fails prints nothing, and `|| true` or the pipeline behind it
hides the failure. -/
def queried (machine : Machine) (succeeds : Bool) (version : Version) : List String :=
  if succeeds then machine.status version else []

def listedKernels (machine : Machine) (listing : Listing) : List String :=
  let lines := queried machine listing.patchedQuery .patched ++
    queried machine listing.legacyQuery .legacy
  match listing.awkLines with
  | none => lines.filterMap awkKernel
  | some count => (lines.filterMap awkKernel).take count

def patchedKernels (machine : Machine) (listing : Listing) : Check (List String) :=
  if listing.sorts then .ok (sortUnique (listedKernels machine listing)) else .error .command

/-- A release name that neither `awk` nor the shell takes apart. -/
def IsWord (name : String) : Prop :=
  name ≠ "" ∧ ∀ character ∈ name.toList, isBlank character = false

section Listed
variable {machine : Machine} {kernel : String} {version : Version}

theorem fields_cons {character : Char} {rest : List Char}
    (separates : ¬ (character = ',' ∧ rest.head? = some ' ')) :
    fields (character :: rest) =
      match fields rest with
      | [] => [[character]]
      | field :: others => (character :: field) :: others := by
  rw [fields.eq_def]
  split
  · rename_i same
    cases same
  · rename_i same
    cases same
    simp at separates
  · rename_i _ same
    cases same
    rfl

/-- A separator needs a space, so a text without one is a whole field. -/
theorem fields_append {field : List Char} (rest : List Char) (whole : ' ' ∉ field) :
    fields (field ++ ',' :: ' ' :: rest) = field :: fields rest := by
  induction field with
  | nil => rfl
  | cons character field ih =>
      rw [List.mem_cons, not_or] at whole
      rw [List.cons_append, fields_cons, ih whole.2]
      rintro ⟨-, next⟩
      cases field with
      | nil => simp at next
      | cons second field => simp at next; simp [next] at whole

theorem fields_last {field : List Char} (whole : ',' ∉ field) : fields field = [field] := by
  induction field with
  | nil => rfl
  | cons character field ih =>
      rw [List.mem_cons, not_or] at whole
      rw [fields_cons, ih whole.2]
      rintro ⟨comma, -⟩
      exact whole.1 comma.symm

theorem announces_state (arch : List Char) (installed : Bool) :
    announcesBuild (arch ++ (": " ++ if installed then "installed" else "built").toList) =
      true := by
  unfold announcesBuild
  rw [List.any_eq_true]
  refine ⟨_, (List.mem_tails _ _).mpr (List.suffix_append _ _), ?_⟩
  cases installed <;> decide

theorem awk_status_line (word : IsWord kernel) (arch : ',' ∉ machine.arch.toList) :
    awkKernel (machine.statusLine version kernel) = some kernel := by
  have named : ' ' ∉ kernel.toList := fun inside => by
    have blank := word.2 ' ' inside
    simp [isBlank] at blank
  have module : ' ' ∉ ("evdi/" ++ version.text).toList := by cases version <;> decide
  let state := machine.arch.toList ++ (": " ++ machine.stateText version kernel).toList
  have last : ',' ∉ state := by
    rw [List.mem_append, not_or]
    refine ⟨arch, ?_⟩
    unfold Machine.stateText
    split <;> decide
  have announces : announcesBuild state = true := by
    have found := announces_state machine.arch.toList
      (decide (machine.installed kernel = some version))
    simp only [decide_eq_true_eq] at found
    exact found
  have line : (machine.statusLine version kernel).toList =
      ("evdi/" ++ version.text).toList ++ ',' :: ' ' ::
        (kernel.toList ++ ',' :: ' ' :: state) := by
    change ("evdi/" ++ version.text ++ ", " ++ kernel ++ ", " ++ machine.arch ++ ": " ++
      machine.stateText version kernel).toList = _
    simp only [state, String.toList_append, List.append_assoc]
    rfl
  rw [awkKernel, line, fields_append _ module, fields_append _ named, fields_last last]
  exact (if_pos announces).trans (congrArg some String.ofList_toList)

theorem words_of_words {lines : List String} (each : ∀ line ∈ lines, IsWord line) :
    words lines = lines := by
  induction lines with
  | nil => rfl
  | cons line rest ih =>
      obtain ⟨⟨nonempty, plain⟩, others⟩ := List.forall_mem_cons.mp each
      have single : line.toList ≠ [] := by simpa using nonempty
      have behind := ih others
      rw [words] at behind
      rw [words, List.flatMap_cons, List.splitOnP_eq_singleton plain, behind]
      simp [single]

theorem mem_sortUnique {lines : List String} {line : String} :
    line ∈ sortUnique lines ↔ line ∈ lines := by
  simp [sortUnique]

theorem awk_added : awkKernel ("evdi/" ++ version.text ++ ": added") = none := by
  cases version <;> decide

theorem awk_status (names : ∀ kernel ∈ machine.kernels, IsWord kernel)
    (arch : ',' ∉ machine.arch.toList) :
    (machine.status version).filterMap awkKernel =
      machine.kernels.filter fun kernel => machine.built kernel version := by
  unfold Machine.status
  split
  · rename_i none
    rw [none]
    split
    · rw [List.filterMap_cons_none awk_added, List.filterMap_nil]
    · rfl
  · rw [List.filterMap_map]
    have each : ∀ kernel ∈ machine.kernels.filter fun kernel => machine.built kernel version,
        (awkKernel ∘ machine.statusLine version) kernel = some kernel := by
      intro kernel inside
      rw [Function.comp_apply, awk_status_line (names kernel (List.mem_of_mem_filter inside)) arch]
    rw [List.filterMap_congr each, List.filterMap_some]

/-- When every command of the listing succeeds, it gives the kernels on which
a patched version is built or installed. -/
theorem patched_kernels_exact (names : ∀ kernel ∈ machine.kernels, IsWord kernel)
    (arch : ',' ∉ machine.arch.toList) :
    ∃ lines, patchedKernels machine ⟨true, true, none, true⟩ = .ok lines ∧
      ∀ kernel, kernel ∈ words lines ↔ kernel ∈ machine.kernels ∧ machine.Patched kernel := by
  let lines := sortUnique (listedKernels machine ⟨true, true, none, true⟩)
  have members : ∀ kernel, kernel ∈ lines ↔ kernel ∈ machine.kernels ∧ machine.Patched kernel := by
    intro kernel
    have printed : listedKernels machine ⟨true, true, none, true⟩ =
        (machine.status .patched).filterMap awkKernel ++
          (machine.status .legacy).filterMap awkKernel := by
      simp [listedKernels, queried]
    rw [mem_sortUnique, printed, awk_status names arch, awk_status names arch]
    simp [Machine.Patched, and_or_left]
  refine ⟨lines, if_pos rfl, fun kernel => ?_⟩
  rw [words_of_words fun line inside => names line ((members line).mp inside).1]
  exact members kernel

end Listed

/-- What decompressing a module file and reading its identity gives; a failed
`modinfo` reads as an empty text. -/
structure Inspection where
  decompresses : Bool
  version : String
  srcversion : String
  vermagic : String
  sha256 : Option String

structure Identity where
  version : String
  srcversion : String
  vermagic : String
  sha256 : String
  deriving DecidableEq, Repr

/-- The build artifact: the files that `find` prints, counted by `awk`. -/
structure Artifact where
  modules : Option (List String)
  inspection : Inspection

/-- The module that `modinfo -n` names for a kernel. -/
structure OnDisk where
  path : Option String
  inspection : Inspection

structure Initramfs where
  isFile : Bool
  lists : Bool
  listing : List String
  awkSucceeds : Bool
  extracts : String → Bool
  inspection : String → Inspection

structure SourceTree where
  expectedCount : Option Nat
  actualCount : Option Nat
  otherEntries : Bool
  sumsMatch : Bool

/-- Everything that is asked about one kernel, in the order of the loops. -/
structure KernelAnswers where
  hasHeaders : Bool
  builds : Bool
  preflight : Artifact
  artifact : Artifact
  installs : Bool
  onDisk : OnDisk
  statusQuery : Bool
  updatesInitramfs : Bool
  initramfs : Initramfs
  finalStatusQuery : Bool
  finalOnDisk : OnDisk
  finalArtifact : Artifact
  finalInitramfs : Initramfs

/-- A `dkms remove --all` that fails may have reached some kernels. -/
inductive Removal where
  | finished
  | failedAfter (kernels : List String)
  deriving DecidableEq, Repr

structure RemovalAnswers where
  query : Bool
  removal : Removal

structure Answers where
  scriptName : String
  argumentCount : Nat
  sourceIsDirectory : Bool
  unsafeOriginal : Option String
  manifestIsFile : Bool
  tree : SourceTree
  tempRoot : Option String
  originalQuery : Bool
  addsOriginal : Bool
  actualSource : String
  expectedSource : String
  /-- By release and by the number of the round, since a round could repeat
  a release. -/
  kernel : String × Nat → KernelAnswers
  removal : Version → RemovalAnswers

def validateSourceTree (tree : SourceTree) : Bool :=
  match tree.actualCount, tree.expectedCount with
  | some actual, some expected => actual = expected && !tree.otherEntries && tree.sumsMatch
  | _, _ => false

def moduleSuffixes : List String :=
  [".ko.zstd", ".ko.zst", ".ko.xz", ".ko.gz", ".ko.bz2", ".ko.lzma", ".ko.lz4", ".ko"]

/-- The first pattern of the `case` that a module name matches. -/
def moduleSuffix (path : String) : Option String :=
  moduleSuffixes.find? fun suffix => endsWith suffix path

/-- Only the last pattern copies, and `cp` refuses to copy a file onto itself;
every `raw` has that suffix. -/
def decompressModule (compressed raw : String) (succeeds : Bool) : Check Unit := do
  require (moduleSuffix compressed).isSome
    ["unsupported kernel module compression: " ++ compressed]
  command (compressed != raw && succeeds)

def verifyDkmsSource (version : Version) (actual expected : String) : Check Unit :=
  require (!actual.isEmpty && actual = expected)
    ["DKMS source mismatch for evdi/" ++ version.text ++ ": " ++ actual]

def findDkmsModule (release : String) (modules : Option (List String)) : Check String := do
  match ← output modules with
  | [path] => .ok path
  | others =>
      .error (.exit 1
        [s!"expected one DKMS evdi artifact for {release}, found {others.length}"])

def identify (path raw : String) (inspection : Inspection) : Check Identity := do
  decompressModule path raw inspection.decompresses
  let sha256 ← output inspection.sha256
  .ok ⟨inspection.version, inspection.srcversion, inspection.vermagic, sha256⟩

def artifactIdentity (release raw : String) (artifact : Artifact) : Check Identity := do
  let path ← findDkmsModule release artifact.modules
  identify path raw artifact.inspection

def onDiskIdentity (raw : String) (onDisk : OnDisk) : Check Identity := do
  let path ← output onDisk.path
  identify path raw onDisk.inspection

/-- The lines of the listing that name an embedded copy for this kernel. -/
def isEmbedded (release line : String) : Bool :=
  let path := if startsWith "./" line then String.ofList (line.toList.drop 2) else line
  (startsWith ("usr/lib/modules/" ++ release ++ "/") path ||
    startsWith ("lib/modules/" ++ release ++ "/") path) &&
  "evdi.ko".toList.isPrefixOf (path.toList.reverse.takeWhile fun c => c != '/').reverse

def initrdPath (release : String) : String := "/boot/initrd.img-" ++ release

/-- Where a copy from the initramfs is audited: `audit_module` and `audit_raw`
differ in their suffixes only. -/
def auditPath (tempRoot : String) (index : Nat) (suffix : String) : String :=
  tempRoot ++ "/initrd-evdi-" ++ toString index ++ suffix

/-- The identity of an embedded copy, extracted and decompressed. -/
def embeddedIdentity (tempRoot : String) (initramfs : Initramfs) (copy : String × Nat) :
    Check Identity :=
  match moduleSuffix copy.1 with
  | none => .error (.exit 1 ["unsupported initramfs module name: " ++ copy.1])
  | some suffix => do
      command (initramfs.extracts copy.1)
      identify (auditPath tempRoot copy.2 suffix) (auditPath tempRoot copy.2 ".ko")
        (initramfs.inspection copy.1)

def verifyEmbedded (tempRoot release : String) (expected : Identity) (initramfs : Initramfs)
    (copy : String × Nat) : Check Unit := do
  let actual ← embeddedIdentity tempRoot initramfs copy
  require (actual = expected)
    ["unexpected EVDI remains in " ++ initrdPath release ++ ": " ++ copy.1]

/-- The copies of the module that the initramfs holds for this kernel, with
the loop's `index`. -/
def embeddedCopies (release : String) (initramfs : Initramfs) : List (String × Nat) :=
  (words (initramfs.listing.filter (isEmbedded release))).zipIdx

def verifyInitramfsEvdi (tempRoot release : String) (expected : Identity)
    (initramfs : Initramfs) : Check Unit := do
  require initramfs.isFile ["missing initramfs: " ++ initrdPath release]
  require initramfs.lists ["failed to inspect initramfs: " ++ initrdPath release]
  command initramfs.awkSucceeds
  (embeddedCopies release initramfs).forM (verifyEmbedded tempRoot release expected initramfs)

section Inspections
variable {release path tempRoot : String} {initramfs : Initramfs} {copy : String × Nat}
  {expected identity : Identity}

theorem find_module_ok {modules : Option (List String)}
    (found : findDkmsModule release modules = .ok path) : modules = some [path] := by
  obtain ⟨files, asked, rest⟩ := check_bind_ok_iff.mp found
  rw [output_ok_iff.mp asked]
  split at rest
  · cases rest
    rfl
  · cases rest

theorem decompress_module_ok {raw : String} {succeeds : Bool}
    (passed : decompressModule path raw succeeds = .ok ()) :
    (moduleSuffix path).isSome = true ∧ path ≠ raw := by
  obtain ⟨_, supported, copied⟩ := check_bind_ok_iff.mp passed
  have both := command_ok_iff.mp copied
  rw [Bool.and_eq_true, bne_iff_ne] at both
  exact ⟨require_ok_iff.mp supported, both.1⟩

/-- An uncompressed copy is extracted to the path that it is copied to, so it
is never identified. -/
theorem embedded_compressed (identified : embeddedIdentity tempRoot initramfs copy = .ok identity) :
    moduleSuffix copy.1 ≠ some ".ko" := by
  intro plain
  rw [embeddedIdentity, plain] at identified
  obtain ⟨_, -, rest⟩ := check_bind_ok_iff.mp identified
  obtain ⟨_, unpacked, -⟩ := check_bind_ok_iff.mp rest
  exact (decompress_module_ok unpacked).2 rfl

theorem verify_initramfs_ok
    (passed : verifyInitramfsEvdi tempRoot release expected initramfs = .ok ()) :
    ∀ copy ∈ embeddedCopies release initramfs,
      embeddedIdentity tempRoot initramfs copy = .ok expected := by
  obtain ⟨_, -, rest⟩ := check_bind_ok_iff.mp passed
  obtain ⟨_, -, rest⟩ := check_bind_ok_iff.mp rest
  obtain ⟨_, -, each⟩ := check_bind_ok_iff.mp rest
  intro copy inside
  obtain ⟨actual, identified, same⟩ := check_bind_ok_iff.mp (forM_ok each copy inside)
  have equal : actual = expected := by simpa using require_ok_iff.mp same
  exact equal ▸ identified

end Inspections

def validateOriginal (answers : Answers) : Check Unit := do
  if answers.argumentCount ≠ 0 then
    .error (.exit 2 ["usage: " ++ answers.scriptName,
      "rollback is failure-safe and ordered across every patched kernel"])
  require answers.sourceIsDirectory ["original EVDI source is missing: " ++ originalSource]
  let unsafeOriginal ← output answers.unsafeOriginal
  require (unsafeOriginal.isEmpty && answers.manifestIsFile && validateSourceTree answers.tree)
    ["original EVDI source failed ownership or integrity validation"]

def buildChecks (release : String) (answers : KernelAnswers) : Check Unit := do
  require (!isUnsafeRelease release) ["unsafe kernel release from DKMS: " ++ release]
  require answers.hasHeaders ["kernel headers are missing for " ++ release]
  command answers.builds

/-- A file below `TEMP_ROOT` that belongs to one kernel. -/
def rawPath (tempRoot name release : String) : String :=
  tempRoot ++ "/" ++ name ++ "-" ++ release ++ ".ko"

def preflightChecks (tempRoot release : String) (artifact : Artifact) : Check Unit := do
  let path ← findDkmsModule release artifact.modules
  decompressModule path (rawPath tempRoot "preflight" release) artifact.inspection.decompresses
  require (startsWith (release ++ " ") artifact.inspection.vermagic)
    ["original DKMS artifact vermagic does not target " ++ release]
  require (!artifact.inspection.srcversion.isEmpty)
    ["original DKMS artifact has no srcversion for " ++ release]

/-- The identity that the installed module is going to be compared with. -/
def installChecks (tempRoot release : String) (artifact : Artifact) : Check Identity := do
  let built ← artifactIdentity release (rawPath tempRoot "built" release) artifact
  require (!built.srcversion.isEmpty && !built.vermagic.isEmpty)
    ["original DKMS artifact failed identity verification for " ++ release]
  .ok built

/-- `dkms status -k release | grep -q installed`. -/
def reportsInstalled (machine : Machine) (query : Bool) (release : String) : Bool :=
  query && (machine.kernelStatus .original release).any (mentions "installed")

def postInstallChecks (tempRoot : String) (machine : Machine) (release : String)
    (built : Identity) (answers : KernelAnswers) : Check Unit := do
  let original ← onDiskIdentity (rawPath tempRoot "on-disk" release) answers.onDisk
  require (reportsInstalled machine answers.statusQuery release && original = built)
    ["original EVDI failed post-install verification for " ++ release,
      "patched DKMS registration was retained for recovery"]

def initramfsChecks (tempRoot release : String) (built : Identity) (answers : KernelAnswers) :
    Check Unit := do
  command answers.updatesInitramfs
  verifyInitramfsEvdi tempRoot release built answers.initramfs

def finalChecks (tempRoot : String) (machine : Machine) (release : String)
    (answers : KernelAnswers) : Check Unit := do
  require (reportsInstalled machine answers.finalStatusQuery release)
    ["rollback verification failed after DKMS cleanup for " ++ release]
  let original ← onDiskIdentity (rawPath tempRoot "final" release) answers.finalOnDisk
  let built ← artifactIdentity release (rawPath tempRoot "final-built" release)
    answers.finalArtifact
  require (original = built) ["original EVDI identity is missing for " ++ release]
  verifyInitramfsEvdi tempRoot release built answers.finalInitramfs

inductive Event where
  | built (kernel : String)
  | checked (kernel : String)
  /-- `dkms install` is executed, however it ends. -/
  | installing (kernel : String)
  | installed (kernel : String)
  | verified (kernel : String)
  | initramfsVerified (kernel : String)
  /-- `dkms remove` is executed, however it ends. -/
  | removing (version : Version)
  deriving DecidableEq, Repr

/-- The machine, and each event with the machine it left behind. -/
abbrev World := Journal Event Machine

abbrev Script := Method World Abort

def addOriginal (answers : Answers) : Script Unit := do
  let world ← .read
  if queried world.state answers.originalQuery .original = [] then
    .ofExcept (command answers.addsOriginal)
    .modify fun world => { world with state := world.state.add .original }
  else pure ()

def buildOriginal (answers : Answers) (round : String × Nat) : Script Unit := do
  .ofExcept (buildChecks round.1 (answers.kernel round))
  note (.built round.1) fun machine => machine.build round.1 .original

def preflight (tempRoot : String) (answers : Answers) (round : String × Nat) : Script Unit := do
  .ofExcept (preflightChecks tempRoot round.1 (answers.kernel round).preflight)
  note (.checked round.1) id

def installOriginal (tempRoot : String) (answers : Answers) (round : String × Nat) :
    Script Unit := do
  let built ← .ofExcept (installChecks tempRoot round.1 (answers.kernel round).artifact)
  note (.installing round.1) id
  .ofExcept (command (answers.kernel round).installs)
  note (.installed round.1) fun machine => machine.install round.1 .original
  let world ← .read
  .ofExcept (postInstallChecks tempRoot world.state round.1 built (answers.kernel round))
  note (.verified round.1) id
  .ofExcept (initramfsChecks tempRoot round.1 built (answers.kernel round))
  note (.initramfsVerified round.1) id

def removeVersion (answers : Answers) (version : Version) : Script Unit := do
  let world ← .read
  if queried world.state (answers.removal version).query version = [] then pure ()
  else
    match (answers.removal version).removal with
    | .finished => note (.removing version) fun machine => machine.remove version
    | .failedAfter kernels => do
        note (.removing version) fun machine =>
          machine.removeFrom version fun kernel => kernels.contains kernel
        .ofExcept (command false)

def removePatched (answers : Answers) : Script Unit :=
  .forEach (removeVersion answers) [.patched, .legacy]

def checkFinal (tempRoot : String) (answers : Answers) (round : String × Nat) : Script Unit := do
  let world ← .read
  .ofExcept (finalChecks tempRoot world.state round.1 (answers.kernel round))

/-- Everything behind the early exit. -/
def restoreOriginal (answers : Answers) (rounds : List (String × Nat)) : Script Unit := do
  let tempRoot ← .ofExcept (output answers.tempRoot)
  addOriginal answers
  .ofExcept (verifyDkmsSource .original answers.actualSource answers.expectedSource)
  .forEach (buildOriginal answers) rounds
  .forEach (preflight tempRoot answers) rounds
  .forEach (installOriginal tempRoot answers) rounds
  removePatched answers
  .forEach (checkFinal tempRoot answers) rounds

def rollback (listing : Listing) (answers : Answers) : Script Unit := do
  .ofExcept (validateOriginal answers)
  let world ← .read
  let lines ← .ofExcept (patchedKernels world.state listing)
  -- `[ -z "$PATCHED_KERNELS" ]`
  if lines.all String.isEmpty then removePatched answers
  else restoreOriginal answers (words lines).zipIdx

/-- What is left when the script ends, normally or not. -/
def runRollback (start : Machine) (listing : Listing) (answers : Answers) : World :=
  ((rollback listing answers).run (.fresh start)).2

end Smiusb.EvdiRollback
