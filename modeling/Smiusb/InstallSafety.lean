import Smiusb.EvdiInstall

/-!
What a run of `scripts/install-patched-evdi.sh` may do to the host, whichever
command fails. The source is put in place only behind its manifest, DKMS is
told of it only when it is trusted and the module that it replaces is backed
up, nothing is built unless the DKMS link to it passed, and `dkms install` is
executed only for an artifact that was identified. Nothing but the chosen
kernel and the patched version is touched. A signal ends the script between
two commands, so it leaves a state that the journal holds.
-/

namespace Smiusb.EvdiInstall
open Execution Methods Journals
open EvdiRollback (Version Machine Abort Artifact Inspection OnDisk Initramfs Identity command
  startsWith isUnsafeRelease validateSourceTree verifyDkmsSource identify moduleSuffix
  embeddedIdentity embeddedCopies require_ok_iff output_ok_iff check_bind_ok_iff forM_ok
  find_module_ok embedded_compressed)

/-- The staged tree was made from the vendor's, both file by file as their
manifests have them, and the module that was built from it has the version. -/
structure Staged (release : String) (answers : Answers) : Prop where
  named : isUnsafeRelease release = false
  original : validateSourceTree answers.originalTree = true
  patched : validateSourceTree answers.staging.tree = true
  version : answers.staging.moduleVersion = patchedModuleVersion

/-- The tree that DKMS is told of belongs to root alone and is the patched
tree file by file. -/
structure Owned (release : String) (answers : Answers) : Prop where
  named : isUnsafeRelease release = false
  owned : answers.unsafePath = some ""
  intact : validateSourceTree answers.patchedTree = true

/-- It is also the one that DKMS points to. -/
structure Trusted (release : String) (answers : Answers) : Prop extends Owned release answers where
  linked : answers.actualSource ≠ "" ∧ answers.actualSource = answers.expectedSource

/-- The only artifact of the build is the patched module for this kernel. -/
structure Genuine (release : String) (answers : Answers) (built : Identity) : Prop where
  single : ∃ tempRoot path, answers.tempRoot = some tempRoot ∧
    answers.artifact.modules = some [path] ∧
    identify path (tempRoot ++ "/built-evdi.ko") answers.artifact.inspection = .ok built
  target : startsWith (release ++ " ") built.vermagic = true
  version : built.version = patchedModuleVersion
  source : built.srcversion ≠ ""

/-- A module that is not the patched one has a file under its name. -/
def Backed (release : String) (answers : Answers) (host : Host) : Prop :=
  needsBackup answers.current = true →
    (host.backups (backupPath release answers.current.path)).isSome = true

/-- What a copy of the current module leaves at its destination. -/
def Leaves (answers : Answers) (content : Option (List UInt8)) : Prop :=
  match answers.backup with
  | .finished => content = some answers.current.content
  | .failed left => content = left

/-- Only the patched version and the chosen kernel may differ from the start,
the kernel's module only once `dkms install` has been executed, the source
only if it was missing, and no backup but one that was missing. -/
structure Confined (start now : Host) (release : String) (answers : Answers)
    (events : List Event) : Prop where
  source : now.sourceExists = start.sourceExists ∨
    start.sourceExists = false ∧ .placing ∈ events
  kernels : ∀ kernel ∈ start.machine.kernels, kernel ∈ now.machine.kernels
  newcomers : ∀ kernel ∈ now.machine.kernels, kernel ∈ start.machine.kernels ∨
    kernel = release ∧ isUnsafeRelease release = false
  arch : now.machine.arch = start.machine.arch
  registered : ∀ version, version ≠ .patched →
    now.machine.registered version = start.machine.registered version
  built : ∀ kernel version, ¬ (kernel = release ∧ version = .patched) →
    now.machine.built kernel version = start.machine.built kernel version
  grows : ∀ kernel version, start.machine.built kernel version = true →
    now.machine.built kernel version = true
  others : ∀ kernel, kernel ≠ release →
    now.machine.installed kernel = start.machine.installed kernel
  own : now.machine.installed release = start.machine.installed release ∨
    .installing ∈ events ∧ now.machine.built release .patched = true ∧
      (now.machine.installed release = some .patched ∨ answers.switch = .failedWithout)
  backups : ∀ path, now.backups path = start.backups path ∨
    start.backups path = none ∧ path = backupPath release answers.current.path ∧
      needsBackup answers.current = true ∧ Leaves answers (now.backups path)

/-- What has to be known when a privileged command is executed; the other
events lie behind the command that they are the end of. -/
def Justified (start : Host) (release : String) (answers : Answers) (past : List Event)
    (host : Host) : Event → Prop
  | .placing => start.sourceExists = false ∧ Staged release answers
  | .copying => Owned release answers
  | .adding => Owned release answers ∧ Backed release answers host
  | .registered => .adding ∈ past
  | .building => Trusted release answers ∧ Backed release answers host
  | .built => .building ∈ past
  | .installing => Trusted release answers ∧ Backed release answers host ∧ .built ∈ past ∧
      ∃ built, Genuine release answers built
  | .verified => .installing ∈ past
  | .initramfsVerified => .verified ∈ past

def law (start : Host) (release : String) (answers : Answers) (past : List Event) (event : Event)
    (host : Host) : Prop :=
  Justified start release answers past host event ∧
    Confined start host release answers (past ++ [event])

section Confinement
variable {start now : Host} {release : String} {answers : Answers} {events : List Event}

theorem confined_refl : Confined start start release answers events where
  source := .inl rfl
  kernels _ known := known
  newcomers _ known := .inl known
  arch := rfl
  registered _ _ := rfl
  built _ _ _ := rfl
  grows _ _ present := present
  others _ _ := rfl
  own := .inl rfl
  backups _ := .inl rfl

theorem Confined.later (confined : Confined start now release answers events) (event : Event) :
    Confined start now release answers (events ++ [event]) :=
  { confined with
    source := confined.source.imp_right (And.imp_right (List.mem_append_left [event]))
    own := confined.own.imp_right (And.imp_left (List.mem_append_left [event])) }

theorem Confined.place (confined : Confined start now release answers events)
    (missing : start.sourceExists = false) (created : Bool) :
    Confined start { now with sourceExists := created } release answers (events ++ [.placing]) :=
  { confined.later .placing with source := .inr ⟨missing, by simp⟩ }

/-- Only a path without a file is written. -/
theorem Confined.save (confined : Confined start now release answers events)
    (absent : now.backups (backupPath release answers.current.path) = none)
    (needed : needsBackup answers.current = true) {content : Option (List UInt8)}
    (left : Leaves answers content) :
    Confined start (now.save (backupPath release answers.current.path) content) release answers
      events :=
  { confined with
    backups := by
      intro path
      by_cases here : path = backupPath release answers.current.path
      · have missing : start.backups path = none := by
          obtain same | ⟨missing, -⟩ := confined.backups path
          · rw [← same, here, absent]
          · exact missing
        have written : (now.save (backupPath release answers.current.path) content).backups path =
            content := if_pos here
        rw [written]
        exact .inr ⟨missing, here, needed, left⟩
      · have kept : (now.save (backupPath release answers.current.path) content).backups path =
            now.backups path := if_neg here
        rw [kept]
        exact confined.backups path }

theorem Confined.add (confined : Confined start now release answers events) :
    Confined start { now with machine := now.machine.add .patched } release answers events :=
  { confined with
    registered := by
      intro version other
      rw [← confined.registered version other]
      simp [Machine.add, other] }

/-- The chosen kernel joins those that DKMS lists. -/
theorem Confined.insert (confined : Confined start now release answers events)
    (named : isUnsafeRelease release = false) :
    (∀ kernel ∈ start.machine.kernels, kernel ∈ now.machine.kernels.insert release) ∧
      ∀ kernel ∈ now.machine.kernels.insert release, kernel ∈ start.machine.kernels ∨
        kernel = release ∧ isUnsafeRelease release = false := by
  constructor
  · intro kernel known
    exact List.mem_insert_of_mem (confined.kernels kernel known)
  · intro kernel known
    obtain here | known := List.mem_insert_iff.mp known
    · exact .inr ⟨here, named⟩
    · exact confined.newcomers kernel known

theorem Confined.build (confined : Confined start now release answers events)
    (named : isUnsafeRelease release = false) :
    Confined start { now with machine := now.machine.build release .patched } release answers
      events :=
  { confined with
    kernels := (confined.insert named).1
    newcomers := (confined.insert named).2
    built := by
      intro kernel version elsewhere
      rw [← confined.built kernel version elsewhere]
      simp [Machine.build, elsewhere]
    grows := by
      intro kernel version present
      simp [Machine.build, confined.grows kernel version present]
    own := confined.own.imp_right (And.imp_right (And.imp_left fun present => by
      simp [Machine.build, present])) }

theorem switch_others (switch : Switch) (machine : Machine) {kernel : String}
    (other : kernel ≠ release) :
    (switch.apply release machine).installed kernel = machine.installed kernel := by
  cases switch with
  | failedKeeping => rfl
  | finished => exact if_neg other
  | failedWithout => exact if_neg other
  | failedWith => exact if_neg other

theorem switch_built (switch : Switch) (machine : Machine) {kernel : String} {version : Version}
    (elsewhere : ¬ (kernel = release ∧ version = .patched)) :
    (switch.apply release machine).built kernel version = machine.built kernel version := by
  cases switch with
  | failedKeeping => rfl
  | failedWithout => rfl
  | finished => simp [Switch.apply, Machine.install, elsewhere]
  | failedWith => simp [Switch.apply, Machine.install, elsewhere]

theorem switch_keeps_built (switch : Switch) (machine : Machine) {kernel : String}
    {version : Version} (present : machine.built kernel version = true) :
    (switch.apply release machine).built kernel version = true := by
  cases switch with
  | failedKeeping => exact present
  | failedWithout => exact present
  | finished => simp [Switch.apply, Machine.install, present]
  | failedWith => simp [Switch.apply, Machine.install, present]

theorem switch_registered (switch : Switch) (machine : Machine) :
    (switch.apply release machine).registered = machine.registered := by
  cases switch <;> rfl

theorem switch_arch (switch : Switch) (machine : Machine) :
    (switch.apply release machine).arch = machine.arch := by
  cases switch <;> rfl

theorem switch_kernels (switch : Switch) (machine : Machine) :
    (switch.apply release machine).kernels = machine.kernels ∨
      (switch.apply release machine).kernels = machine.kernels.insert release := by
  cases switch with
  | failedKeeping => exact .inl rfl
  | failedWithout => exact .inl rfl
  | finished => exact .inr rfl
  | failedWith => exact .inr rfl

theorem switch_own (switch : Switch) (machine : Machine) :
    (switch.apply release machine).installed release = machine.installed release ∨
      (switch.apply release machine).installed release = some .patched ∨
        switch = .failedWithout := by
  cases switch with
  | failedKeeping => exact .inl rfl
  | failedWithout => exact .inr (.inr rfl)
  | finished => exact .inr (.inl (if_pos rfl))
  | failedWith => exact .inr (.inl (if_pos rfl))

theorem Confined.switch (confined : Confined start now release answers events)
    (named : isUnsafeRelease release = false)
    (present : now.machine.built release .patched = true) :
    Confined start { now with machine := answers.switch.apply release now.machine } release
      answers (events ++ [.installing]) where
  source := (confined.later .installing).source
  kernels := by
    obtain same | joined := @switch_kernels release answers.switch now.machine
    · exact same ▸ confined.kernels
    · exact joined ▸ (confined.insert named).1
  newcomers := by
    obtain same | joined := @switch_kernels release answers.switch now.machine
    · exact same ▸ confined.newcomers
    · exact joined ▸ (confined.insert named).2
  arch := (switch_arch answers.switch now.machine).trans confined.arch
  registered version other := by
    rw [switch_registered answers.switch now.machine]
    exact confined.registered version other
  built kernel version elsewhere :=
    (switch_built answers.switch now.machine elsewhere).trans
      (confined.built kernel version elsewhere)
  grows kernel version present :=
    switch_keeps_built answers.switch now.machine (confined.grows kernel version present)
  others kernel other :=
    (switch_others answers.switch now.machine other).trans (confined.others kernel other)
  own := by
    have executed : Event.installing ∈ events ++ [.installing] := by simp
    have still := @switch_keeps_built release answers.switch now.machine _ _ present
    obtain same | changed := @switch_own release answers.switch now.machine
    · rw [same]
      exact confined.own.imp_right fun earlier => ⟨executed, still, earlier.2.2⟩
    · exact .inr ⟨executed, still, changed⟩
  backups := confined.backups

end Confinement

section Checks
variable {release tempRoot : String} {answers : Answers} {built : Identity}

theorem input_checks_pass (passed : inputChecks release answers = .ok tempRoot) :
    isUnsafeRelease release = false ∧ validateSourceTree answers.originalTree = true ∧
      answers.tempRoot = some tempRoot := by
  obtain ⟨_, named, rest⟩ := check_bind_ok_iff.mp passed
  obtain ⟨_, -, rest⟩ := check_bind_ok_iff.mp rest
  obtain ⟨_, -, rest⟩ := check_bind_ok_iff.mp rest
  obtain ⟨_, -, rest⟩ := check_bind_ok_iff.mp rest
  obtain ⟨_, -, rest⟩ := check_bind_ok_iff.mp rest
  obtain ⟨_, valid, made⟩ := check_bind_ok_iff.mp rest
  exact ⟨by simpa using require_ok_iff.mp named, require_ok_iff.mp valid, output_ok_iff.mp made⟩

theorem staging_checks_pass {staging : Staging} (passed : stagingChecks staging = .ok ()) :
    validateSourceTree staging.tree = true ∧ staging.moduleVersion = patchedModuleVersion := by
  obtain ⟨_, -, rest⟩ := check_bind_ok_iff.mp passed
  obtain ⟨_, -, rest⟩ := check_bind_ok_iff.mp rest
  obtain ⟨_, valid, rest⟩ := check_bind_ok_iff.mp rest
  obtain ⟨_, -, rest⟩ := check_bind_ok_iff.mp rest
  obtain ⟨_, -, named⟩ := check_bind_ok_iff.mp rest
  exact ⟨require_ok_iff.mp valid, by simpa using require_ok_iff.mp named⟩

theorem trust_checks_pass (passed : trustChecks answers = .ok ()) :
    answers.unsafePath = some "" ∧ validateSourceTree answers.patchedTree = true := by
  obtain ⟨path, asked, rest⟩ := check_bind_ok_iff.mp passed
  obtain ⟨_, empty, intact⟩ := check_bind_ok_iff.mp rest
  have none : path = "" := by simpa using require_ok_iff.mp empty
  exact ⟨none ▸ output_ok_iff.mp asked, require_ok_iff.mp intact⟩

theorem verify_source_pass {version : Version} {actual expected : String}
    (passed : verifyDkmsSource version actual expected = .ok ()) :
    actual ≠ "" ∧ actual = expected := by
  have both := require_ok_iff.mp passed
  simpa using both

theorem artifact_checks_genuine (made : answers.tempRoot = some tempRoot)
    (passed : artifactChecks tempRoot release answers.artifact = .ok built) :
    Genuine release answers built := by
  obtain ⟨path, found, rest⟩ := check_bind_ok_iff.mp passed
  obtain ⟨identity, identified, rest⟩ := check_bind_ok_iff.mp rest
  obtain ⟨_, targets, rest⟩ := check_bind_ok_iff.mp rest
  obtain ⟨_, named, last⟩ := check_bind_ok_iff.mp rest
  cases last
  have both := require_ok_iff.mp named
  rw [Bool.and_eq_true, decide_eq_true_eq] at both
  exact {
    single := ⟨tempRoot, path, made, find_module_ok found, identified⟩
    target := require_ok_iff.mp targets
    version := both.1
    source := by simpa using both.2 }

theorem on_disk_checks_pass {onDisk : OnDisk}
    (passed : onDiskChecks tempRoot built onDisk = .ok ()) :
    ∃ path, onDisk.path = some path ∧
      identify path (tempRoot ++ "/on-disk-evdi.ko") onDisk.inspection = .ok built := by
  obtain ⟨path, asked, rest⟩ := check_bind_ok_iff.mp passed
  obtain ⟨found, identified, same⟩ := check_bind_ok_iff.mp rest
  have equal : found = built := by simpa using require_ok_iff.mp same
  exact ⟨path, output_ok_iff.mp asked, equal ▸ identified⟩

theorem verify_initramfs_pass {initramfs : Initramfs}
    (passed : verifyInitramfsEvdi tempRoot release built initramfs = .ok ()) :
    ∀ copy ∈ embeddedCopies release initramfs,
      embeddedIdentity tempRoot initramfs copy = .ok built := by
  obtain ⟨_, -, rest⟩ := check_bind_ok_iff.mp passed
  obtain ⟨_, -, rest⟩ := check_bind_ok_iff.mp rest
  obtain ⟨_, -, each⟩ := check_bind_ok_iff.mp rest
  intro copy inside
  obtain ⟨actual, identified, same⟩ := check_bind_ok_iff.mp (forM_ok each copy inside)
  have equal : actual = built := by simpa using require_ok_iff.mp same
  exact equal ▸ identified

end Checks

/-- The journal so far obeys the law, and so does the present state. -/
structure Sound (start : Host) (release : String) (answers : Answers) (world : World) : Prop where
  lawful : Lawful (law start release answers) world.entries
  confined : Confined start world.state release answers world.events

/-- However the script stops. -/
def Stops (start : Host) (release : String) (answers : Answers) (_ : Abort) (world : World) :
    Prop :=
  Sound start release answers world

section Phases
variable {start : Host} {release : String} {answers : Answers} {world : World}

theorem Sound.noted (sound : Sound start release answers world) {event : Event} {host : Host}
    (justified : Justified start release answers world.events host event)
    (confined : Confined start host release answers (world.events ++ [event])) :
    Sound start release answers (world.noted event host) where
  lawful := lawful_noted sound.lawful ⟨justified, confined⟩
  confined := by
    rw [events_noted]
    exact confined

/-- The first thing that is done, on the host as it was found. -/
theorem stage_source_sound {tempRoot : String}
    (inputs : inputChecks release answers = .ok tempRoot) :
    Meets (stageSource answers) (.fresh start) (fun _ => Sound start release answers)
      (Stops start release answers) := by
  have fresh : Sound start release answers (.fresh start) := ⟨lawful_fresh, confined_refl⟩
  obtain ⟨named, original, -⟩ := input_checks_pass inputs
  unfold stageSource
  apply meets_read_bind
  by_cases there : start.sourceExists = true
  · exact (if_pos there).symm ▸ meets_pure fresh
  · have missing : start.sourceExists = false := Bool.eq_false_iff.mpr there
    refine (if_neg there).symm ▸ ?_
    unfold placeSource
    refine meets_except_bind (fun _ staged => ?_) (fun _ _ => fresh)
    obtain ⟨patched, version⟩ := staging_checks_pass staged
    apply meets_note_bind
    have placed : Sound start release answers ((Journal.fresh start : World).noted .placing
        { start with sourceExists := start.sourceExists || answers.staging.placement.creates }) :=
      fresh.noted ⟨missing, named, original, patched, version⟩ (confined_refl.place missing _)
    refine meets_except_bind (fun _ _ => ?_) (fun _ _ => placed)
    refine meets_except_bind (fun _ _ => ?_) (fun _ _ => placed)
    exact meets_except (fun _ _ => placed) (fun _ _ => placed)

theorem back_up_sound (sound : Sound start release answers world)
    (owned : Owned release answers) :
    Meets (backUp release answers) world
      (fun _ after => Sound start release answers after ∧ Backed release answers after.state)
      (Stops start release answers) := by
  unfold backUp
  apply meets_read_bind
  by_cases due : (needsBackup answers.current &&
      (world.state.backups (backupPath release answers.current.path)).isNone) = true
  · rw [if_pos due]
    rw [Bool.and_eq_true, Option.isNone_iff_eq_none] at due
    have copied : ∀ content, Leaves answers content → Sound start release answers
        (world.noted .copying
          (world.state.save (backupPath release answers.current.path) content)) :=
      fun content left => sound.noted owned
        ((sound.confined.save due.2 due.1 left).later .copying)
    unfold copyModule
    refine meets_except_bind (fun _ _ => ?_) (fun _ _ => sound)
    split
    · rename_i finished
      apply meets_note
      refine ⟨copied _ (by rw [Leaves, finished]), fun _ => ?_⟩
      exact (congrArg Option.isSome (if_pos rfl)).trans rfl
    · rename_i left failed
      apply meets_note_bind
      exact meets_except (fun _ impossible => by cases impossible)
        (fun _ _ => copied left (by rw [Leaves, failed]))
  · rw [if_neg due]
    refine meets_pure ⟨sound, fun needed => ?_⟩
    rw [needed, Bool.true_and, Bool.not_eq_true, Option.isNone_eq_false_iff] at due
    exact due

theorem add_patched_sound (sound : Sound start release answers world)
    (owned : Owned release answers) (backed : Backed release answers world.state) :
    Meets (addPatched answers) world
      (fun _ after => Sound start release answers after ∧ Backed release answers after.state)
      (Stops start release answers) := by
  unfold addPatched
  apply meets_read_bind
  split
  · have adding : Sound start release answers (world.noted .adding world.state) :=
      sound.noted ⟨owned, backed⟩ (sound.confined.later .adding)
    apply meets_note_bind
    refine meets_except_bind (fun _ _ => ?_) (fun _ _ => adding)
    exact meets_note ⟨adding.noted last_noted (adding.confined.add.later .registered),
      backed⟩
  · exact meets_pure ⟨sound, backed⟩

/-- Once DKMS has built the trusted tree and the backup is there. -/
structure Prepared (start : Host) (release : String) (answers : Answers) (world : World) : Prop
    extends Sound start release answers world where
  trusted : Trusted release answers
  backed : Backed release answers world.state
  built : .built ∈ world.events
  present : world.state.machine.built release .patched = true

theorem build_patched_sound (sound : Sound start release answers world)
    (owned : Owned release answers) (backed : Backed release answers world.state) :
    Meets (buildPatched release answers) world (fun _ => Prepared start release answers)
      (Stops start release answers) := by
  unfold buildPatched
  refine meets_except_bind (fun _ linked => ?_) (fun _ _ => sound)
  have trusted : Trusted release answers := ⟨owned, verify_source_pass linked⟩
  have building : Sound start release answers (world.noted .building world.state) :=
    sound.noted ⟨trusted, backed⟩ (sound.confined.later .building)
  apply meets_note_bind
  refine meets_except_bind (fun _ _ => ?_) (fun _ _ => building)
  apply meets_note
  exact {
    toSound := building.noted last_noted ((building.confined.build owned.named).later .built)
    trusted := trusted
    backed := backed
    built := by simp
    present := by simp [Journal.noted, Machine.build] }

theorem install_patched_sound (prepared : Prepared start release answers world)
    {built : Identity} (genuine : Genuine release answers built) :
    Meets (installPatched release answers) world
      (fun _ after => Sound start release answers after ∧ Backed release answers after.state ∧
        .installing ∈ after.events ∧ after.state.machine.installed release = some .patched)
      (Stops start release answers) := by
  have switched : Sound start release answers (world.noted .installing
      { world.state with machine := answers.switch.apply release world.state.machine }) :=
    prepared.toSound.noted ⟨prepared.trusted, prepared.backed, prepared.built, built, genuine⟩
      (prepared.confined.switch prepared.trusted.named prepared.present)
  unfold installPatched
  apply meets_note_bind
  refine meets_except (fun _ finished => ⟨switched, prepared.backed, last_noted, ?_⟩)
    (fun _ _ => switched)
  -- the command came back without an error, so the kernel was switched
  have ended : answers.switch = .finished := by
    by_contra other
    simp [Switch.succeeds, other, command] at finished
  have present : (answers.switch.apply release world.state.machine).installed release =
      some .patched := by
    rw [ended]
    exact if_pos rfl
  exact present

theorem confirm_sound {tempRoot : String} {built : Identity}
    (sound : Sound start release answers world) (switched : .installing ∈ world.events) :
    Meets (confirm tempRoot release built answers) world
      (fun _ after => Sound start release answers after ∧ after.state = world.state ∧
        (∃ path, answers.onDisk.path = some path ∧
          identify path (tempRoot ++ "/on-disk-evdi.ko") answers.onDisk.inspection = .ok built) ∧
        ∀ copy ∈ embeddedCopies release answers.initramfs,
          embeddedIdentity tempRoot answers.initramfs copy = .ok built)
      (Stops start release answers) := by
  unfold confirm
  refine meets_except_bind (fun _ found => ?_) (fun _ _ => sound)
  have verified : Sound start release answers (world.noted .verified world.state) :=
    sound.noted switched (sound.confined.later .verified)
  apply meets_note_bind
  refine meets_except_bind (fun _ _ => ?_) (fun _ _ => verified)
  refine meets_except_bind (fun _ embedded => ?_) (fun _ _ => verified)
  exact meets_note ⟨verified.noted last_noted (verified.confined.later .initramfsVerified), rfl,
    on_disk_checks_pass found, verify_initramfs_pass embedded⟩

/-- The module is the patched one wherever the kernel could load it from; a
copy in the initramfs that is not compressed would have stopped the run. -/
structure Confirmed (tempRoot release : String) (answers : Answers) (host : Host)
    (built : Identity) : Prop where
  genuine : Genuine release answers built
  installed : host.machine.installed release = some .patched
  onDisk : ∃ path, answers.onDisk.path = some path ∧
    identify path (tempRoot ++ "/on-disk-evdi.ko") answers.onDisk.inspection = .ok built
  initramfs : ∀ copy ∈ embeddedCopies release answers.initramfs,
    embeddedIdentity tempRoot answers.initramfs copy = .ok built
  compressed : ∀ copy ∈ embeddedCopies release answers.initramfs,
    moduleSuffix copy.1 ≠ some ".ko"
  backed : Backed release answers host

theorem install_for_sound (start : Host) (release : String) (answers : Answers) :
    Meets (installFor release answers) (.fresh start)
      (fun _ after => Sound start release answers after ∧ ∃ tempRoot built,
        answers.tempRoot = some tempRoot ∧ Confirmed tempRoot release answers after.state built)
      (Stops start release answers) := by
  unfold installFor
  refine meets_except_bind (fun tempRoot inputs => ?_) (fun _ _ => ⟨lawful_fresh, confined_refl⟩)
  obtain ⟨named, -, made⟩ := input_checks_pass inputs
  refine meets_bind _ (stage_source_sound inputs) fun _ staged sound => ?_
  refine meets_except_bind (fun _ trusted => ?_) (fun _ _ => sound)
  obtain ⟨rooted, intact⟩ := trust_checks_pass trusted
  have owned : Owned release answers := ⟨named, rooted, intact⟩
  refine meets_bind _ (back_up_sound sound owned) fun _ saved ⟨sound, backed⟩ => ?_
  refine meets_bind _ (add_patched_sound sound owned backed) fun _ added ⟨sound, backed⟩ => ?_
  refine meets_bind _ (build_patched_sound sound owned backed) fun _ built prepared => ?_
  refine meets_except_bind (fun identity identified => ?_) (fun _ _ => prepared.toSound)
  have genuine := artifact_checks_genuine made identified
  refine meets_bind _ (install_patched_sound prepared genuine) ?_
  rintro _ switched ⟨sound, backed, executed, present⟩
  apply (confirm_sound sound executed).weaken
  · rintro _ final ⟨sound, same, onDisk, initramfs⟩
    refine ⟨sound, tempRoot, identity, made, ?_⟩
    exact {
      genuine := genuine
      installed := same ▸ present
      onDisk := onDisk
      initramfs := initramfs
      compressed := fun copy inside => embedded_compressed (initramfs copy inside)
      backed := same ▸ backed }
  · exact fun _ _ stopped => stopped

end Phases

section Runs
variable {start : Host} {answers : Answers} {release : String}

theorem run_install_eq (chosen : kernelRelease answers = .ok release) :
    (install answers).run (.fresh start) = (installFor release answers).run (.fresh start) := by
  rw [install, chosen]
  rfl

theorem run_install_sound (start : Host) (chosen : kernelRelease answers = .ok release) :
    Sound start release answers (runInstall start answers) := by
  rw [runInstall, run_install_eq chosen]
  exact ((install_for_sound start release answers).weaken (fun _ _ kept => kept.1)
    fun _ _ stopped => stopped).leaves

/-- In every run, at every moment and at its end: a privileged command is
executed only behind the checks that justify it, and what differs from the
start is confined to the chosen kernel and the patched version. -/
theorem install_guarded (start : Host) (answers : Answers) (release : String)
    (chosen : kernelRelease answers = .ok release) :
    Lawful (law start release answers) (runInstall start answers).entries ∧
      Confined start (runInstall start answers).state release answers
        (runInstall start answers).events :=
  ⟨(run_install_sound start chosen).lawful, (run_install_sound start chosen).confined⟩

end Runs

/-- One kernel with the original module, and no trace of a patched one. -/
def vendorHost : Host where
  machine := {
    kernels := ["6.8.0-45-generic"]
    arch := "x86_64"
    registered := fun version => version = .original
    built := fun kernel version => kernel = "6.8.0-45-generic" && version = .original
    installed := fun kernel => if kernel = "6.8.0-45-generic" then some .original else none
    consistent := by
      intro kernel version present
      split at present
      · rename_i here
        cases present
        simp [here]
      · cases present }
  sourceExists := false
  backups := fun _ => none

def patchedInspection : Inspection where
  decompresses := true
  version := patchedModuleVersion
  srcversion := "0"
  vermagic := "6.8.0-45-generic SMP"
  sha256 := some "0"

/-- Every command succeeds. -/
def smoothAnswers : Answers where
  projectRoot := "/smiusb"
  sourceDir := "/usr/src/evdi-1.14.16"
  argument := none
  uname := some "6.8.0-45-generic"
  hasPatch := true
  hasOriginalManifest := true
  hasPatchedManifest := true
  hasHeaders := true
  originalTree := ⟨some 1, some 1, false, true⟩
  tempRoot := some "/tmp/smiusb-evdi.0"
  staging := ⟨true, true, ⟨some 1, some 1, false, true⟩, true, true, patchedModuleVersion,
    .finished, true, true⟩
  unsafePath := some ""
  patchedTree := ⟨some 1, some 1, false, true⟩
  current := ⟨"/lib/modules/6.8.0-45-generic/updates/dkms/evdi.ko", true, "", [0x7f]⟩
  makesBackupDir := true
  backup := .finished
  patchedQuery := true
  addsPatched := true
  actualSource := patchedSource
  expectedSource := patchedSource
  builds := true
  artifact := ⟨some ["/var/lib/dkms/evdi/module/evdi.ko"], patchedInspection⟩
  switch := .finished
  onDisk := ⟨some "/lib/modules/6.8.0-45-generic/updates/dkms/evdi.ko", patchedInspection⟩
  updatesInitramfs := true
  initramfs := ⟨true, true, ["usr/lib/modules/6.8.0-45-generic/updates/dkms/evdi.ko.zst"], true,
    fun _ => true, fun _ => patchedInspection⟩

theorem install_guarded_smooth :
    (runInstall vendorHost smoothAnswers).events = [.placing, .copying, .adding, .registered,
        .building, .built, .installing, .verified, .initramfsVerified] ∧
      Lawful (law vendorHost "6.8.0-45-generic" smoothAnswers)
        (runInstall vendorHost smoothAnswers).entries :=
  ⟨by decide +kernel, (install_guarded vendorHost smoothAnswers _ rfl).1⟩

end Smiusb.EvdiInstall
