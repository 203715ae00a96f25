import Smiusb.EvdiRollback

/-!
`scripts/install-patched-evdi.sh`: the patched EVDI module is built from a
validated source tree, installed for one kernel and put into its initramfs.
As for the rollback, the external commands answer from outside and `set -e`
ends the run at the first failing command. A command that fails may leave
half of its work behind: a directory that was begun, a part of a copied file,
and behind `dkms install` a kernel with either module or with none.
-/

namespace Smiusb.EvdiInstall
open Execution Methods Journals
open EvdiRollback (Version Machine Abort Check SourceTree Artifact OnDisk Initramfs Identity
  require command output startsWith isUnsafeRelease validateSourceTree verifyDkmsSource
  findDkmsModule identify queried initrdPath embeddedIdentity embeddedCopies)

def patchedModuleVersion : String := "1.14.16-smiusb2"

def patchedSource : String := "/usr/src/evdi-" ++ Version.patched.text

/-- What the script finds and leaves: DKMS, the directory of the patched
source, and the files below the backup directory by their paths. -/
structure Host where
  machine : Machine
  sourceExists : Bool
  backups : String → Option (List UInt8)

inductive Event where
  /-- `sudo cp` of the staged tree is executed, however it ends. -/
  | placing
  /-- `sudo install` of the current module is executed, however it ends. -/
  | copying
  /-- `dkms add` is executed, however it ends. -/
  | adding
  | registered
  /-- `dkms build` is executed, however it ends. -/
  | building
  | built
  /-- `dkms install` is executed, however it ends. -/
  | installing
  | verified
  | initramfsVerified
  deriving DecidableEq, Repr

abbrev World := Journal Event Host

abbrev Script := Method World Abort

/-- `sudo cp` of a tree that fails may have created the directory. -/
inductive Placement where
  | finished
  | failed (created : Bool)
  deriving DecidableEq, Repr

/-- `sudo install` that fails may leave nothing or some other content. -/
inductive Copy where
  | finished
  | failed (left : Option (List UInt8))
  deriving DecidableEq, Repr

/-- `dkms install` that fails may leave the module that was there, none, or
the new one. -/
inductive Switch where
  | finished
  | failedKeeping
  | failedWithout
  | failedWith
  deriving DecidableEq, Repr

structure Staging where
  copies : Bool
  patches : Bool
  tree : SourceTree
  copiesAgain : Bool
  makes : Bool
  moduleVersion : String
  placement : Placement
  chowns : Bool
  chmods : Bool

/-- The module that `modinfo -n` names before anything is changed; a failed
`modinfo` reads as an empty text. -/
structure CurrentModule where
  path : String
  isFile : Bool
  version : String
  content : List UInt8

structure Answers where
  projectRoot : String
  sourceDir : String
  argument : Option String
  uname : Option String
  hasPatch : Bool
  hasOriginalManifest : Bool
  hasPatchedManifest : Bool
  hasHeaders : Bool
  originalTree : SourceTree
  tempRoot : Option String
  staging : Staging
  unsafePath : Option String
  patchedTree : SourceTree
  current : CurrentModule
  makesBackupDir : Bool
  backup : Copy
  patchedQuery : Bool
  addsPatched : Bool
  actualSource : String
  expectedSource : String
  builds : Bool
  artifact : Artifact
  switch : Switch
  onDisk : OnDisk
  updatesInitramfs : Bool
  initramfs : Initramfs

/-- `${1:-$(uname -r)}`: an empty argument counts as none. -/
def kernelRelease (answers : Answers) : Check String :=
  match answers.argument with
  | some release => if release.isEmpty then output answers.uname else .ok release
  | none => output answers.uname

def requireFile (path : String) (isFile : Bool) : Check Unit :=
  require isFile ["missing required file: " ++ path]

def patchFile (answers : Answers) : String :=
  answers.projectRoot ++ "/kernel/evdi/patches/0001-serialize-persistent-vmap.patch"

def originalManifest (answers : Answers) : String :=
  answers.projectRoot ++ "/kernel/evdi/smi-1.14.16.sha256"

def patchedManifest (answers : Answers) : String :=
  answers.projectRoot ++ "/kernel/evdi/smi-1.14.16.smiusb2.sha256"

/-- Everything up to `mktemp`, which gives the directory. -/
def inputChecks (release : String) (answers : Answers) : Check String := do
  require (!isUnsafeRelease release) ["unsafe kernel release: " ++ release]
  requireFile (patchFile answers) answers.hasPatch
  requireFile (originalManifest answers) answers.hasOriginalManifest
  requireFile (patchedManifest answers) answers.hasPatchedManifest
  requireFile ("/lib/modules/" ++ release ++ "/build/Makefile") answers.hasHeaders
  require (validateSourceTree answers.originalTree)
    ["refusing to patch an unknown or non-canonical EVDI source tree: " ++ answers.sourceDir,
      "this installer targets the locally shipped SMI EVDI 1.14.16 exactly"]
  output answers.tempRoot

/-- The staged copy is patched, validated and built once without privileges. -/
def stagingChecks (staging : Staging) : Check Unit := do
  command staging.copies
  command staging.patches
  require (validateSourceTree staging.tree)
    ["patched staging tree failed complete manifest validation"]
  command staging.copiesAgain
  command staging.makes
  require (staging.moduleVersion = patchedModuleVersion)
    ["staged module did not pass version verification"]

def Placement.succeeds : Placement → Bool
  | .finished => true
  | .failed _ => false

def Placement.creates : Placement → Bool
  | .finished => true
  | .failed created => created

def placeSource (staging : Staging) : Script Unit := do
  .ofExcept (stagingChecks staging)
  note .placing fun host =>
    { host with sourceExists := host.sourceExists || staging.placement.creates }
  .ofExcept (command staging.placement.succeeds)
  .ofExcept (command staging.chowns)
  .ofExcept (command staging.chmods)

def stageSource (answers : Answers) : Script Unit := do
  let world ← .read
  if world.state.sourceExists then pure () else placeSource answers.staging

/-- An existing tree is never repaired: it is trusted as it is or refused. -/
def trustChecks (answers : Answers) : Check Unit := do
  let unsafePath ← output answers.unsafePath
  require unsafePath.isEmpty ["patched DKMS source has unsafe ownership or permissions"]
  require (validateSourceTree answers.patchedTree)
    ["existing patched source failed complete validation: " ++ patchedSource]

/-- `basename` of a path that names a file. -/
def basename (path : String) : String :=
  .ofList (path.toList.reverse.takeWhile fun character => character != '/').reverse

def backupPath (release path : String) : String :=
  "/var/lib/smiusb/evdi-backup/" ++ release ++ "/" ++ basename path

/-- Some module file is there, and it is not the patched one. -/
def needsBackup (current : CurrentModule) : Bool :=
  !current.path.isEmpty && current.isFile && current.version != patchedModuleVersion

def Host.save (host : Host) (path : String) (content : Option (List UInt8)) : Host :=
  { host with backups := fun other => if other = path then content else host.backups other }

def copyModule (path : String) (answers : Answers) : Script Unit := do
  .ofExcept (command answers.makesBackupDir)
  match answers.backup with
  | .finished => note .copying fun host => host.save path (some answers.current.content)
  | .failed left => do
      note .copying fun host => host.save path left
      .ofExcept (command false)

/-- A file that is already there under the name counts as the backup. -/
def backUp (release : String) (answers : Answers) : Script Unit := do
  let world ← .read
  let path := backupPath release answers.current.path
  if needsBackup answers.current && (world.state.backups path).isNone then
    copyModule path answers
  else pure ()

def addPatched (answers : Answers) : Script Unit := do
  let world ← .read
  if queried world.state.machine answers.patchedQuery .patched = [] then
    note .adding id
    .ofExcept (command answers.addsPatched)
    note .registered fun host => { host with machine := host.machine.add .patched }
  else pure ()

def buildPatched (release : String) (answers : Answers) : Script Unit := do
  .ofExcept (verifyDkmsSource .patched answers.actualSource answers.expectedSource)
  note .building id
  .ofExcept (command answers.builds)
  note .built fun host => { host with machine := host.machine.build release .patched }

def artifactChecks (tempRoot release : String) (artifact : Artifact) : Check Identity := do
  let path ← findDkmsModule release artifact.modules
  let built ← identify path (tempRoot ++ "/built-evdi.ko") artifact.inspection
  require (startsWith (release ++ " ") built.vermagic)
    ["DKMS artifact vermagic does not target " ++ release]
  require (built.version = patchedModuleVersion && !built.srcversion.isEmpty)
    ["DKMS build artifact failed identity verification: " ++ path]
  .ok built

def uninstall (machine : Machine) (kernel : String) : Machine :=
  { machine with
    installed := fun place => if place = kernel then none else machine.installed place
    consistent := by
      intro place version present
      split at present
      · cases present
      · exact machine.consistent place version present }

def Switch.succeeds (switch : Switch) : Bool := switch = .finished

def Switch.apply (switch : Switch) (release : String) (machine : Machine) : Machine :=
  match switch with
  | .finished | .failedWith => machine.install release .patched
  | .failedKeeping => machine
  | .failedWithout => uninstall machine release

def installPatched (release : String) (answers : Answers) : Script Unit := do
  note .installing fun host => { host with machine := answers.switch.apply release host.machine }
  .ofExcept (command answers.switch.succeeds)

def onDiskChecks (tempRoot : String) (built : Identity) (onDisk : OnDisk) : Check Unit := do
  let path ← output onDisk.path
  let found ← identify path (tempRoot ++ "/on-disk-evdi.ko") onDisk.inspection
  require (found = built) ["installed module did not pass version verification: " ++ path]

def identitySummary (identity : Identity) : String :=
  identity.version ++ "/" ++ identity.srcversion ++ "/" ++ identity.sha256

def verifyEmbedded (tempRoot release : String) (expected : Identity) (initramfs : Initramfs)
    (copy : String × Nat) : Check Unit := do
  let actual ← embeddedIdentity tempRoot initramfs copy
  require (actual = expected)
    ["stale EVDI remains in " ++ initrdPath release ++ ": " ++ copy.1,
      "expected version/srcversion/sha256: " ++ identitySummary expected,
      "actual version/srcversion/sha256: " ++ identitySummary actual]

def verifyInitramfsEvdi (tempRoot release : String) (expected : Identity)
    (initramfs : Initramfs) : Check Unit := do
  requireFile (initrdPath release) initramfs.isFile
  require initramfs.lists ["failed to inspect initramfs: " ++ initrdPath release]
  command initramfs.awkSucceeds
  (embeddedCopies release initramfs).forM (verifyEmbedded tempRoot release expected initramfs)

/-- Behind `dkms install`. -/
def confirm (tempRoot release : String) (built : Identity) (answers : Answers) :
    Script Unit := do
  .ofExcept (onDiskChecks tempRoot built answers.onDisk)
  note .verified id
  .ofExcept (command answers.updatesInitramfs)
  .ofExcept (verifyInitramfsEvdi tempRoot release built answers.initramfs)
  note .initramfsVerified id

/-- Everything behind the choice of the kernel. -/
def installFor (release : String) (answers : Answers) : Script Unit := do
  let tempRoot ← .ofExcept (inputChecks release answers)
  stageSource answers
  .ofExcept (trustChecks answers)
  backUp release answers
  addPatched answers
  buildPatched release answers
  let built ← .ofExcept (artifactChecks tempRoot release answers.artifact)
  installPatched release answers
  confirm tempRoot release built answers

def install (answers : Answers) : Script Unit := do
  let release ← .ofExcept (kernelRelease answers)
  installFor release answers

/-- What is left when the script ends, normally or not. -/
def runInstall (start : Host) (answers : Answers) : World :=
  ((install answers).run (.fresh start)).2

end Smiusb.EvdiInstall
