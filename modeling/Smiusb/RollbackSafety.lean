import Smiusb.EvdiRollback

/-!
What a run of `scripts/rollback-patched-evdi.sh` may do to the machine. The
original is installed nowhere before it is built and checked for every patched
kernel, and no patched version is removed before every kernel that ran one has
been restored and verified. The law holds for every way in which the commands
may fail as long as the first listing of the kernels suffices; that listing
hides its own failures, and without it the law does not hold.
-/

namespace Smiusb.EvdiRollback
open Execution Methods Journals

/-- What has to lie behind an event before it may happen. -/
def Allowed (start : Machine) (past : List Event) : Event → Prop
  | .installing _ => ∀ kernel ∈ start.kernels, start.Patched kernel →
      .built kernel ∈ past ∧ .checked kernel ∈ past
  | .removing _ => ∀ kernel ∈ start.kernels, start.RunsPatched kernel →
      .installed kernel ∈ past ∧ .verified kernel ∈ past ∧ .initramfsVerified kernel ∈ past
  | _ => True

/-- A kernel that started with a patched module has one of the modules. -/
def Covered (start now : Machine) : Prop :=
  ∀ kernel ∈ start.kernels, start.RunsPatched kernel →
    ∃ version, now.installed kernel = some version

/-- The ordering law, and a module for every kernel at every moment. -/
def FailureSafe (start : Machine) (entries : List (Event × Machine)) : Prop :=
  Lawful (fun past event machine => Allowed start past event ∧ Covered start machine) entries

/-- The kernels in the list are all those that the ordering law is about.
With an empty list nothing is installed, and a release that the script refuses
keeps it from changing anything. -/
def KernelsSuffice (start : Machine) (releases : List String) : Prop :=
  if releases = [] then ∀ kernel ∈ start.kernels, ¬ start.RunsPatched kernel
  else
    (∀ kernel ∈ start.kernels, start.Patched kernel → kernel ∈ releases) ∨
      ∃ kernel ∈ releases, isUnsafeRelease kernel = true

def ListingSuffices (start : Machine) (listing : Listing) : Prop :=
  match patchedKernels start listing with
  | .error _ => True
  | .ok lines => KernelsSuffice start (words lines)

theorem listing_suffices_iff {start : Machine} {listing : Listing} {lines : List String}
    (listed : patchedKernels start listing = .ok lines) :
    ListingSuffices start listing ↔ KernelsSuffice start (words lines) := by
  rw [ListingSuffices, listed]

/-- The event of a round joins those of the rounds before it. -/
theorem marks_noted {world : World} {machine : Machine} {done : List (String × Nat)}
    {round : String × Nat} {mark : String → Event}
    (sofar : ∀ round ∈ done, mark round.1 ∈ world.events) :
    ∀ earlier ∈ done ++ [round], mark earlier.1 ∈ (world.noted (mark round.1) machine).events := by
  intro earlier inside
  obtain before | here := List.mem_append.mp inside
  · exact mem_noted (sofar earlier before)
  · exact List.mem_singleton.mp here ▸ last_noted

/-- However the script stops, the journal so far obeys the law. -/
def Stops (start : Machine) (_ : Abort) (world : World) : Prop :=
  FailureSafe start world.entries

/-- No kernel has been given another module yet. -/
structure Untouched (start : Machine) (world : World) : Prop where
  safe : FailureSafe start world.entries
  same : world.state.installed = start.installed

structure BuildsDone (start : Machine) (done : List (String × Nat)) (world : World) : Prop
    extends Untouched start world where
  named : ∀ round ∈ done, isUnsafeRelease round.1 = false
  built : ∀ round ∈ done, .built round.1 ∈ world.events

structure ChecksDone (start : Machine) (rounds done : List (String × Nat)) (world : World) : Prop
    extends BuildsDone start rounds world where
  checked : ∀ round ∈ done, .checked round.1 ∈ world.events

/-- The original is installed on the kernel, and both verifications passed. -/
structure Restored (world : World) (kernel : String) : Prop where
  installed : .installed kernel ∈ world.events
  verified : .verified kernel ∈ world.events
  initramfs : .initramfsVerified kernel ∈ world.events
  holds : world.state.installed kernel = some .original

structure InstallsDone (start : Machine) (rounds done : List (String × Nat)) (world : World) :
    Prop where
  safe : FailureSafe start world.entries
  prepared : ∀ round ∈ rounds, .built round.1 ∈ world.events ∧ .checked round.1 ∈ world.events
  mixed : ∀ kernel, world.state.installed kernel = start.installed kernel ∨
    world.state.installed kernel = some .original
  restored : ∀ round ∈ done, Restored world round.1

/-- Kernels keep their module until they are given the original. -/
theorem covered_of_mixed {start machine : Machine}
    (mixed : ∀ kernel, machine.installed kernel = start.installed kernel ∨
      machine.installed kernel = some .original) : Covered start machine := by
  intro kernel inside runs
  obtain same | original := mixed kernel
  · obtain patched | legacy := runs
    · exact ⟨.patched, same.trans patched⟩
    · exact ⟨.legacy, same.trans legacy⟩
  · exact ⟨.original, original⟩

section Preparation
variable {start machine : Machine} {world : World} {event : Event} {answers : Answers}
  {tempRoot : String} {rounds : List (String × Nat)}

theorem Untouched.noted (untouched : Untouched start world)
    (allowed : Allowed start world.events event) (same : machine.installed = start.installed) :
    Untouched start (world.noted event machine) where
  safe := lawful_noted untouched.safe
    ⟨allowed, covered_of_mixed fun kernel => .inl (congrFun same kernel)⟩
  same := same

/-- `dkms add` touches the registration alone. -/
theorem add_original_meets :
    Meets (addOriginal answers) world
      (fun _ after => after.entries = world.entries ∧
        after.state.kernels = world.state.kernels ∧
        after.state.built = world.state.built ∧
        after.state.installed = world.state.installed)
      (fun _ after => after = world ∧ answers.addsOriginal = false) := by
  unfold addOriginal
  apply meets_read_bind
  split
  · apply meets_except_bind
    · intro _ _
      exact meets_modify ⟨rfl, rfl, rfl, rfl⟩
    · intro _ refused
      refine ⟨rfl, ?_⟩
      cases added : answers.addsOriginal with
      | false => rfl
      | true =>
          rw [added] at refused
          cases refused
  · exact meets_pure ⟨rfl, rfl, rfl, rfl⟩

theorem build_checks_ok {release : String} {kernel : KernelAnswers}
    (passed : buildChecks release kernel = .ok ()) :
    isUnsafeRelease release = false ∧ kernel.hasHeaders = true ∧ kernel.builds = true := by
  obtain ⟨_, named, rest⟩ := check_bind_ok_iff.mp passed
  obtain ⟨_, headers, builds⟩ := check_bind_ok_iff.mp rest
  exact ⟨by simpa using require_ok_iff.mp named, require_ok_iff.mp headers,
    command_ok_iff.mp builds⟩

/-- The first loop: every build before any change. -/
theorem build_rounds (untouched : Untouched start world) :
    Meets (Method.forEach (buildOriginal answers) rounds) world
      (fun _ => BuildsDone start rounds) (Stops start) := by
  apply meets_forEach (BuildsDone start)
  · rintro done round rest world - sofar
    unfold buildOriginal
    apply meets_except_bind
    · intro _ passed
      have named := (build_checks_ok passed).1
      apply meets_note
      exact {
        toUntouched := sofar.noted trivial sofar.same
        named := List.forall_mem_append.mpr ⟨sofar.named, by simpa using named⟩
        built := marks_noted sofar.built }
    · intro _ _
      exact sofar.safe
  · exact { toUntouched := untouched, named := by simp, built := by simp }

/-- The second loop: every artifact is checked before any change. -/
theorem preflight_rounds (builds : BuildsDone start rounds world) :
    Meets (Method.forEach (preflight tempRoot answers) rounds) world
      (fun _ => ChecksDone start rounds rounds) (Stops start) := by
  apply meets_forEach (ChecksDone start rounds)
  · rintro done round rest world - sofar
    unfold preflight
    apply meets_except_bind
    · intro _ _
      apply meets_note
      exact {
        toUntouched := sofar.noted trivial sofar.same
        named := sofar.named
        built := fun round inside => mem_noted (sofar.built round inside)
        checked := marks_noted sofar.checked }
    · intro _ _
      exact sofar.safe
  · exact { builds with checked := by simp }

end Preparation

section Installation
variable {start : Machine} {world : World} {answers : Answers} {tempRoot : String}
  {rounds : List (String × Nat)}

theorem mixed_install {machine : Machine} (release : String)
    (mixed : ∀ kernel, machine.installed kernel = start.installed kernel ∨
      machine.installed kernel = some .original) (kernel : String) :
    (machine.install release .original).installed kernel = start.installed kernel ∨
      (machine.install release .original).installed kernel = some .original := by
  by_cases here : kernel = release
  · exact .inr (if_pos here)
  · have kept : (machine.install release .original).installed kernel = machine.installed kernel :=
      if_neg here
    rw [kept]
    exact mixed kernel

/-- One round of the third loop. The ordering law allows it once every kernel
that it speaks of has been prepared. -/
theorem install_round {done : List (String × Nat)} (round : String × Nat)
    (complete : ∀ kernel ∈ start.kernels, start.Patched kernel → ∃ round ∈ rounds, round.1 = kernel)
    (sofar : InstallsDone start rounds done world) :
    Meets (installOriginal tempRoot answers round) world
      (fun _ => InstallsDone start rounds (done ++ [round])) (Stops start) := by
  have mixed := mixed_install round.1 sofar.mixed
  have before := covered_of_mixed sofar.mixed
  have behind := covered_of_mixed mixed
  have allowed : Allowed start world.events (.installing round.1) := by
    intro kernel inside patched
    obtain ⟨listed, member, rfl⟩ := complete kernel inside patched
    exact sofar.prepared listed member
  -- the worlds that the four events leave behind
  let attempted := world.noted (.installing round.1) world.state
  let switched := attempted.noted (.installed round.1) (world.state.install round.1 .original)
  let compared := switched.noted (.verified round.1) switched.state
  let rebooted := compared.noted (.initramfsVerified round.1) switched.state
  have installing : FailureSafe start attempted.entries :=
    lawful_noted sofar.safe ⟨allowed, before⟩
  have installed : FailureSafe start switched.entries :=
    lawful_noted installing ⟨trivial, behind⟩
  have verified : FailureSafe start compared.entries :=
    lawful_noted installed ⟨trivial, behind⟩
  have rebuilt : FailureSafe start rebooted.entries :=
    lawful_noted verified ⟨trivial, behind⟩
  have kept : ∀ {event}, event ∈ world.events → event ∈ rebooted.events := fun inside =>
    mem_noted (mem_noted (mem_noted (mem_noted inside)))
  have result : InstallsDone start rounds (done ++ [round]) rebooted := {
    safe := rebuilt
    prepared := fun round inside =>
      ⟨kept (sofar.prepared round inside).1, kept (sofar.prepared round inside).2⟩
    mixed := mixed
    restored := by
      rw [List.forall_mem_append, List.forall_mem_singleton]
      constructor
      · intro round inside
        have restored := sofar.restored round inside
        exact ⟨kept restored.installed, kept restored.verified, kept restored.initramfs,
          Machine.install_keeps_original restored.holds⟩
      · exact ⟨mem_noted (mem_noted last_noted), mem_noted last_noted, last_noted, if_pos rfl⟩ }
  unfold installOriginal
  refine meets_except_bind (fun built _ => ?_) (fun _ _ => sofar.safe)
  apply meets_note_bind
  refine meets_except_bind (fun _ _ => ?_) (fun _ _ => installing)
  apply meets_note_bind
  apply meets_read_bind
  refine meets_except_bind (fun _ _ => ?_) (fun _ _ => installed)
  apply meets_note_bind
  refine meets_except_bind (fun _ _ => ?_) (fun _ _ => verified)
  exact meets_note result

theorem install_rounds (checks : ChecksDone start rounds rounds world)
    (complete : rounds ≠ [] → ∀ kernel ∈ start.kernels, start.Patched kernel →
      ∃ round ∈ rounds, round.1 = kernel) :
    Meets (Method.forEach (installOriginal tempRoot answers) rounds) world
      (fun _ => InstallsDone start rounds rounds) (Stops start) := by
  apply meets_forEach (InstallsDone start rounds)
  · intro done round rest world whole sofar
    exact install_round round (complete (by simp [whole])) sofar
  · exact {
      safe := checks.safe
      prepared := fun round inside => ⟨checks.built round inside, checks.checked round inside⟩
      mixed := fun kernel => .inl (congrFun checks.same kernel)
      restored := by simp }

end Installation

section Removal
variable {start : Machine} {world : World} {answers : Answers} {tempRoot : String}
  {rounds : List (String × Nat)}

/-- A removal may happen once every kernel that started with a patched module
has been restored, and it does not undo that. -/
theorem removal_keeps {version : Version} (reached : String → Bool) (other : version ≠ .original)
    {machine : Machine}
    (removed : machine.installed = (world.state.removeFrom version reached).installed)
    (safe : FailureSafe start world.entries)
    (restored : ∀ kernel ∈ start.kernels, start.RunsPatched kernel → Restored world kernel) :
    FailureSafe start (world.noted (.removing version) machine).entries ∧
      ∀ kernel ∈ start.kernels, start.RunsPatched kernel →
        Restored (world.noted (.removing version) machine) kernel := by
  have holds : ∀ kernel ∈ start.kernels, start.RunsPatched kernel →
      machine.installed kernel = some .original := by
    intro kernel inside runs
    rw [removed]
    exact Machine.remove_keeps_original reached other (restored kernel inside runs).holds
  constructor
  · apply lawful_noted safe
    refine ⟨?_, fun kernel inside runs => ⟨.original, holds kernel inside runs⟩⟩
    intro kernel inside runs
    have done := restored kernel inside runs
    exact ⟨done.installed, done.verified, done.initramfs⟩
  · intro kernel inside runs
    have done := restored kernel inside runs
    exact ⟨mem_noted done.installed, mem_noted done.verified, mem_noted done.initramfs,
      holds kernel inside runs⟩

theorem remove_patched_safe (safe : FailureSafe start world.entries)
    (restored : ∀ kernel ∈ start.kernels, start.RunsPatched kernel → Restored world kernel) :
    Meets (removePatched answers) world (fun _ after => FailureSafe start after.entries)
      (Stops start) := by
  have looped : Meets (removePatched answers) world (fun _ after =>
      FailureSafe start after.entries ∧
        ∀ kernel ∈ start.kernels, start.RunsPatched kernel → Restored after kernel)
      (Stops start) := by
    apply meets_forEach fun _ after => FailureSafe start after.entries ∧
      ∀ kernel ∈ start.kernels, start.RunsPatched kernel → Restored after kernel
    · rintro done version rest world whole ⟨safe, restored⟩
      have other : version ≠ .original := by
        have inside : version ∈ [Version.patched, .legacy] := by simp [whole]
        rintro rfl
        simp at inside
      unfold removeVersion
      apply meets_read_bind
      split
      · exact meets_pure ⟨safe, restored⟩
      · split
        · exact meets_note (removal_keeps (fun _ => true) other rfl safe restored)
        · -- a removal that fails has been executed all the same
          rename_i kernels _
          have kept := removal_keeps (fun kernel => kernels.contains kernel) other rfl safe restored
          exact meets_note_bind (meets_except (fun _ _ => kept) fun _ _ => kept.1)
    · exact ⟨safe, restored⟩
  exact looped.weaken (fun _ _ kept => kept.1) fun _ _ stopped => stopped

theorem check_final_safe (safe : FailureSafe start world.entries) :
    Meets (Method.forEach (checkFinal tempRoot answers) rounds) world
      (fun _ after => FailureSafe start after.entries) (Stops start) := by
  apply meets_forEach fun _ (after : World) => FailureSafe start after.entries
  · rintro done round rest world - safe
    unfold checkFinal
    exact meets_read_bind (meets_except (fun _ _ => safe) fun _ _ => safe)
  · exact safe

end Removal

section Run
variable {start : Machine} {world : World} {answers : Answers} {listing : Listing}

theorem mem_rounds_iff {releases : List String} {kernel : String} :
    (∃ round ∈ releases.zipIdx, round.1 = kernel) ↔ kernel ∈ releases := by
  constructor
  · rintro ⟨round, inside, rfl⟩
    exact List.fst_mem_of_mem_zipIdx inside
  · intro inside
    obtain ⟨index, here⟩ := List.mem_iff_getElem?.mp inside
    exact ⟨(kernel, index), List.mk_mem_zipIdx_iff_getElem?.mpr here, rfl⟩

/-- A list that suffices and that the first loop did not refuse. -/
theorem kernels_listed {releases : List String} (enough : KernelsSuffice start releases)
    (named : ∀ kernel ∈ releases, isUnsafeRelease kernel = false) :
    (∀ kernel ∈ start.kernels, start.RunsPatched kernel → kernel ∈ releases) ∧
      (releases ≠ [] → ∀ kernel ∈ start.kernels, start.Patched kernel → kernel ∈ releases) := by
  unfold KernelsSuffice at enough
  split at enough
  · rename_i none
    exact ⟨fun kernel inside runs => absurd runs (enough kernel inside),
      fun some => absurd none some⟩
  · obtain all | ⟨kernel, inside, refused⟩ := enough
    · exact ⟨fun kernel inside runs => all kernel inside (Machine.patched_of_runs runs),
        fun _ => all⟩
    · rw [named kernel inside] at refused
      cases refused

/-- Behind the early exit. -/
theorem restore_original_safe {releases : List String} (untouched : Untouched start world)
    (enough : KernelsSuffice start releases) :
    Meets (restoreOriginal answers releases.zipIdx) world
      (fun _ after => FailureSafe start after.entries) (Stops start) := by
  unfold restoreOriginal
  refine meets_except_bind (fun tempRoot _ => ?_) (fun _ _ => untouched.safe)
  have added := @add_original_meets world answers
  refine meets_bind _ (added.weaken (fun _ _ kept => kept) ?_) ?_
  · rintro _ _ ⟨rfl, -⟩
    exact untouched.safe
  rintro _ added ⟨entries, -, -, same⟩
  have untouched : Untouched start added :=
    ⟨entries ▸ untouched.safe, same.trans untouched.same⟩
  refine meets_except_bind (fun _ _ => ?_) (fun _ _ => untouched.safe)
  refine meets_bind _ (build_rounds untouched) fun _ world builds => ?_
  -- the first loop came to its end, so no release was refused
  have named : ∀ kernel ∈ releases, isUnsafeRelease kernel = false := by
    intro kernel inside
    obtain ⟨round, listed, rfl⟩ := mem_rounds_iff.mpr inside
    exact builds.named round listed
  obtain ⟨runs, complete⟩ := kernels_listed enough named
  refine meets_bind _ (preflight_rounds builds) fun _ world checks => ?_
  refine meets_bind _ (install_rounds checks ?_) fun _ world installs => ?_
  · intro some kernel inside patched
    exact mem_rounds_iff.mpr (complete (by simpa using some) kernel inside patched)
  · have restored : ∀ kernel ∈ start.kernels, start.RunsPatched kernel → Restored world kernel := by
      intro kernel inside patched
      obtain ⟨round, listed, rfl⟩ := mem_rounds_iff.mpr (runs kernel inside patched)
      exact installs.restored round listed
    refine meets_bind _ (remove_patched_safe installs.safe restored) fun _ world safe => ?_
    exact check_final_safe safe

theorem words_of_empty {lines : List String} (empty : lines.all String.isEmpty = true) :
    words lines = [] := by
  rw [List.all_eq_true] at empty
  rw [words, List.flatMap_eq_nil_iff]
  intro line inside
  have blank : line = "" := by simpa using empty line inside
  subst blank
  rfl

theorem rollback_safe (enough : ListingSuffices start listing) :
    FailureSafe start (runRollback start listing answers).entries := by
  have fresh : FailureSafe start (Journal.fresh start : World).entries := lawful_fresh
  have run : Meets (rollback listing answers) (.fresh start)
      (fun _ after => FailureSafe start after.entries) (Stops start) := by
    unfold rollback
    refine meets_except_bind (fun _ _ => ?_) (fun _ _ => fresh)
    apply meets_read_bind
    refine meets_except_bind (fun lines listed => ?_) (fun _ _ => fresh)
    have enough : KernelsSuffice start (words lines) := (listing_suffices_iff listed).mp enough
    split
    · -- the early exit: the list is empty, so no kernel runs a patched module
      rename_i empty
      rw [words_of_empty empty] at enough
      apply remove_patched_safe fresh
      intro kernel inside runs
      exact absurd runs (enough kernel inside)
    · exact restore_original_safe ⟨fresh, rfl⟩ enough
  exact run.leaves

end Run

section Favourable

def favourableInspection (release : String) : Inspection where
  decompresses := true
  version := "1.14.16"
  srcversion := "0"
  vermagic := release ++ " "
  sha256 := some "0"

def favourableModule : String := "/var/lib/dkms/evdi/module/evdi.ko"

def favourableRoot : String := "/tmp/smiusb-evdi-rollback.0"

def favourableArtifact (release : String) : Artifact where
  modules := some [favourableModule]
  inspection := favourableInspection release

def favourableInitramfs (release : String) : Initramfs where
  isFile := true
  lists := true
  listing := []
  awkSucceeds := true
  extracts := fun _ => true
  inspection := fun _ => favourableInspection release

/-- Everything succeeds up to the first `dkms install`; behind it `modinfo`
finds no module. -/
def favourableKernel (release : String) : KernelAnswers where
  hasHeaders := true
  builds := true
  preflight := favourableArtifact release
  artifact := favourableArtifact release
  installs := true
  onDisk := ⟨none, favourableInspection release⟩
  statusQuery := true
  updatesInitramfs := true
  initramfs := favourableInitramfs release
  finalStatusQuery := true
  finalOnDisk := ⟨none, favourableInspection release⟩
  finalArtifact := favourableArtifact release
  finalInitramfs := favourableInitramfs release

def favourable : Answers where
  scriptName := "rollback-patched-evdi.sh"
  argumentCount := 0
  sourceIsDirectory := true
  unsafeOriginal := some ""
  manifestIsFile := true
  tree := ⟨some 0, some 0, false, true⟩
  tempRoot := some favourableRoot
  originalQuery := true
  addsOriginal := true
  actualSource := originalSource
  expectedSource := originalSource
  kernel := fun round => favourableKernel round.1
  removal := fun _ => ⟨true, .finished⟩

theorem favourable_original : validateOriginal favourable = .ok () := by decide

theorem favourable_source :
    verifyDkmsSource .original favourable.actualSource favourable.expectedSource = .ok () := by
  decide

/-- The artifact is not below the directory for the raw modules. -/
theorem favourable_module (name release : String) :
    decompressModule favourableModule (rawPath favourableRoot name release) true = .ok () := by
  have elsewhere : favourableModule ≠ rawPath favourableRoot name release := by
    intro same
    have letters := congrArg (fun text => text.toList.getD 1 '/') same
    simp [favourableModule, favourableRoot, rawPath] at letters
  have suffix : (moduleSuffix favourableModule).isSome = true := by decide +kernel
  rw [decompressModule, suffix, bne_iff_ne.mpr elsewhere]
  rfl

theorem favourable_build {release : String} (named : isUnsafeRelease release = false) :
    buildChecks release (favourableKernel release) = .ok () := by
  rw [buildChecks, named]
  rfl

theorem favourable_preflight (release : String) :
    preflightChecks favourableRoot release (favourableArtifact release) = .ok () := by
  have targets : startsWith (release ++ " ") (release ++ " ") = true := by simp [startsWith]
  simp [preflightChecks, favourableArtifact, favourableInspection, findDkmsModule, output,
    favourable_module, targets, require, bind, Except.bind]

theorem favourable_install (release : String) :
    ∃ built, installChecks favourableRoot release (favourableArtifact release) = .ok built := by
  simp [installChecks, artifactIdentity, identify, favourableArtifact, favourableInspection,
    findDkmsModule, output, favourable_module, require, bind, Except.bind]

end Favourable

section Meaning
variable {world : World} {answers : Answers} {tempRoot : String} {rounds : List (String × Nat)}

/-- The artifact of the second loop: one module, made for this kernel. -/
structure Targeted (release : String) (artifact : Artifact) : Prop where
  single : ∃ path, artifact.modules = some [path] ∧ (moduleSuffix path).isSome = true
  target : startsWith (release ++ " ") artifact.inspection.vermagic = true
  source : artifact.inspection.srcversion ≠ ""

/-- The module that `modinfo` names for this kernel is the artifact that was
built, and DKMS answered when it was asked whether it is installed. -/
structure Matched (tempRoot release : String) (answers : KernelAnswers) (built : Identity) :
    Prop where
  artifact : artifactIdentity release (rawPath tempRoot "built" release) answers.artifact =
    .ok built
  onDisk : onDiskIdentity (rawPath tempRoot "on-disk" release) answers.onDisk = .ok built
  asked : answers.statusQuery = true

/-- What the commands answered in the round of an event. -/
def Meaning (answers : Answers) : Event → Prop
  | .built kernel => ∃ round, isUnsafeRelease kernel = false ∧
      (answers.kernel (kernel, round)).hasHeaders = true ∧
      (answers.kernel (kernel, round)).builds = true
  | .checked kernel => ∃ round, Targeted kernel (answers.kernel (kernel, round)).preflight
  | .installing _ => True
  | .installed kernel => ∃ round, (answers.kernel (kernel, round)).installs = true
  | .verified kernel => ∃ round tempRoot built,
      Matched tempRoot kernel (answers.kernel (kernel, round)) built
  | .initramfsVerified kernel => ∃ round tempRoot built,
      Matched tempRoot kernel (answers.kernel (kernel, round)) built ∧
      ∀ copy ∈ embeddedCopies kernel (answers.kernel (kernel, round)).initramfs,
        embeddedIdentity tempRoot (answers.kernel (kernel, round)).initramfs copy = .ok built
  | .removing version => version ≠ .original

def Explained (answers : Answers) (world : World) : Prop :=
  ∀ event ∈ world.events, Meaning answers event

theorem note_explained {event : Event} (meaning : Meaning answers event)
    (change : Machine → Machine) :
    Keeps (Explained answers) (note event change : Script Unit) := by
  intro world explained
  apply meets_note
  rw [Explained, events_noted, List.forall_mem_append, List.forall_mem_singleton]
  exact ⟨explained, meaning⟩

theorem preflight_checks_ok {release : String} {artifact : Artifact}
    (passed : preflightChecks tempRoot release artifact = .ok ()) : Targeted release artifact := by
  obtain ⟨path, found, rest⟩ := check_bind_ok_iff.mp passed
  obtain ⟨_, unpacked, rest⟩ := check_bind_ok_iff.mp rest
  obtain ⟨_, target, source⟩ := check_bind_ok_iff.mp rest
  exact {
    single := ⟨path, find_module_ok found, (decompress_module_ok unpacked).1⟩
    target := require_ok_iff.mp target
    source := by simpa using require_ok_iff.mp source }

theorem install_checks_ok {release : String} {artifact : Artifact} {built : Identity}
    (passed : installChecks tempRoot release artifact = .ok built) :
    artifactIdentity release (rawPath tempRoot "built" release) artifact = .ok built := by
  obtain ⟨identity, identified, rest⟩ := check_bind_ok_iff.mp passed
  obtain ⟨_, -, last⟩ := check_bind_ok_iff.mp rest
  cases last
  exact identified

theorem post_install_checks_ok {machine : Machine} {release : String} {built : Identity}
    {kernel : KernelAnswers}
    (passed : postInstallChecks tempRoot machine release built kernel = .ok ()) :
    onDiskIdentity (rawPath tempRoot "on-disk" release) kernel.onDisk = .ok built ∧
      kernel.statusQuery = true := by
  obtain ⟨original, identified, rest⟩ := check_bind_ok_iff.mp passed
  have both := require_ok_iff.mp rest
  rw [Bool.and_eq_true, reportsInstalled, Bool.and_eq_true, decide_eq_true_eq] at both
  exact ⟨both.2 ▸ identified, both.1.1⟩

theorem add_original_explained : Keeps (Explained answers) (addOriginal answers) := by
  intro world explained
  apply add_original_meets.weaken
  · rintro _ after ⟨same, -⟩
    rw [Explained, Journal.events, same]
    exact explained
  · rintro _ _ ⟨rfl, -⟩
    exact explained

theorem build_round_explained (round : String × Nat) :
    Keeps (Explained answers) (buildOriginal answers round) := by
  apply keeps_except_bind
  intro _ passed
  have built : Meaning answers (.built round.1) := ⟨round.2, build_checks_ok passed⟩
  exact note_explained built _

theorem preflight_round_explained (round : String × Nat) :
    Keeps (Explained answers) (preflight tempRoot answers round) := by
  apply keeps_except_bind
  intro _ passed
  have checked : Meaning answers (.checked round.1) := ⟨round.2, preflight_checks_ok passed⟩
  exact note_explained checked _

theorem install_round_explained (round : String × Nat) :
    Keeps (Explained answers) (installOriginal tempRoot answers round) := by
  apply keeps_except_bind
  intro built artifact
  have attempted : Meaning answers (.installing round.1) := trivial
  apply keeps_bind (note_explained attempted _)
  intro _
  apply keeps_except_bind
  intro _ installs
  have installed : Meaning answers (.installed round.1) := ⟨round.2, command_ok_iff.mp installs⟩
  apply keeps_bind (note_explained installed _)
  intro _
  apply keeps_read_bind
  intro world
  apply keeps_except_bind
  intro _ compared
  obtain ⟨onDisk, asked⟩ := post_install_checks_ok compared
  have matched : Matched tempRoot round.1 (answers.kernel round) built :=
    ⟨install_checks_ok artifact, onDisk, asked⟩
  have verified : Meaning answers (.verified round.1) := ⟨round.2, tempRoot, built, matched⟩
  apply keeps_bind (note_explained verified _)
  intro _
  apply keeps_except_bind
  intro _ embedded
  obtain ⟨_, -, copies⟩ := check_bind_ok_iff.mp embedded
  have rebuilt : Meaning answers (.initramfsVerified round.1) :=
    ⟨round.2, tempRoot, built, matched, verify_initramfs_ok copies⟩
  exact note_explained rebuilt _

theorem check_final_explained (round : String × Nat) :
    Keeps (Explained answers) (checkFinal tempRoot answers round) :=
  keeps_read_bind fun _ => keeps_except _

theorem remove_version_explained {version : Version} (other : version ≠ .original) :
    Keeps (Explained answers) (removeVersion answers version) := by
  have removing : Meaning answers (.removing version) := other
  apply keeps_read_bind
  intro world
  split
  · exact keeps_pure ()
  · split
    · exact note_explained removing _
    · exact keeps_bind (note_explained removing _) fun _ => keeps_except _

theorem remove_patched_explained : Keeps (Explained answers) (removePatched answers) := by
  apply keeps_bind (remove_version_explained (by decide))
  intro _
  apply keeps_bind (remove_version_explained (by decide))
  exact fun _ => keeps_pure ()

theorem restore_original_explained :
    Keeps (Explained answers) (restoreOriginal answers rounds) := by
  apply keeps_except_bind
  intro tempRoot _
  apply keeps_bind add_original_explained
  intro _
  apply keeps_bind (keeps_except _)
  intro _
  apply keeps_bind (keeps_forEach rounds build_round_explained)
  intro _
  apply keeps_bind (keeps_forEach rounds preflight_round_explained)
  intro _
  apply keeps_bind (keeps_forEach rounds install_round_explained)
  intro _
  apply keeps_bind remove_patched_explained
  exact fun _ => keeps_forEach rounds check_final_explained

/-- Every event of a run stands for the checks of its round, so the ordering
law speaks of checks that passed. -/
theorem rollback_explained (start : Machine) (listing : Listing) (answers : Answers) :
    Explained answers (runRollback start listing answers) := by
  have run : Keeps (Explained answers) (rollback listing answers) := by
    apply keeps_bind (keeps_except _)
    intro _
    apply keeps_read_bind
    intro world
    apply keeps_bind (keeps_except _)
    intro lines
    split
    · exact remove_patched_explained
    · exact restore_original_explained
  have fresh : Explained answers (.fresh start) := by simp [Explained]
  exact (run _ fresh).leaves

end Meaning

section Necessity
variable {start : Machine} {world : World} {listing : Listing} {kernel : String}

/-- Something was installed although `kernel` had not been built. -/
def InstallsEarly (kernel : String) (world : World) : Prop :=
  ∃ front release back, world.events = front ++ .installing release :: back ∧
    .built kernel ∉ front

theorem install_first_early (unbuilt : .built kernel ∉ world.events) (round : String × Nat) :
    Meets (installOriginal favourableRoot favourable round) world (fun _ _ => False)
      (fun _ => InstallsEarly kernel) := by
  obtain ⟨built, passed⟩ := favourable_install round.1
  unfold installOriginal
  apply meets_passed_bind passed
  apply meets_note_bind
  apply meets_passed_bind (rfl : command true = .ok ())
  apply meets_note_bind
  apply meets_read_bind
  apply meets_except_bind
  · intro _ impossible
    cases impossible
  · intro _ _
    exact ⟨world.events, round.1, [.installed round.1], by simp, unbuilt⟩

theorem add_favourable_meets {failed : Abort → World → Prop} :
    Meets (addOriginal favourable) world
      (fun _ after => after.events = world.events ∧
        after.state.kernels = world.state.kernels ∧
        after.state.built = world.state.built) failed := by
  apply add_original_meets.weaken
  · rintro _ after ⟨entries, kernels, built, -⟩
    exact ⟨congrArg (List.map Prod.fst) entries, kernels, built⟩
  · rintro _ _ ⟨-, refused⟩
    cases refused

section Missed
variable {rounds : List (String × Nat)} {failed : Abort → World → Prop}

theorem build_rounds_miss (named : ∀ round ∈ rounds, isUnsafeRelease round.1 = false)
    (missed : ∀ round ∈ rounds, kernel ≠ round.1) (unbuilt : .built kernel ∉ world.events) :
    Meets (Method.forEach (buildOriginal favourable) rounds) world
      (fun _ after => .built kernel ∉ after.events) failed := by
  apply meets_forEach fun _ (after : World) => .built kernel ∉ after.events
  · intro done round rest world whole unbuilt
    have inside : round ∈ rounds := by simp [whole]
    apply meets_passed_bind (favourable_build (named round inside))
    apply meets_note
    simp [unbuilt, missed round inside]
  · exact unbuilt

theorem preflight_rounds_miss (unbuilt : .built kernel ∉ world.events) :
    Meets (Method.forEach (preflight favourableRoot favourable) rounds) world
      (fun _ after => .built kernel ∉ after.events) failed := by
  apply meets_forEach fun _ (after : World) => .built kernel ∉ after.events
  · intro done round rest world _ unbuilt
    apply meets_passed_bind (favourable_preflight round.1)
    apply meets_note
    simp [unbuilt]
  · exact unbuilt

end Missed

/-- A kernel that the list misses is still not built when the first install
is executed. -/
theorem restore_original_early {releases : List String} (some : releases ≠ [])
    (named : ∀ release ∈ releases, isUnsafeRelease release = false)
    (missed : kernel ∉ releases) (unbuilt : .built kernel ∉ world.events) :
    Meets (restoreOriginal favourable releases.zipIdx) world (fun _ _ => False)
      (fun _ => InstallsEarly kernel) := by
  have listed : ∀ round ∈ releases.zipIdx, round.1 ∈ releases := fun round inside =>
    mem_rounds_iff.mp ⟨round, inside, rfl⟩
  have others : ∀ round ∈ releases.zipIdx, kernel ≠ round.1 := by
    rintro round inside rfl
    exact missed (listed round inside)
  obtain ⟨first, rest, shape⟩ := List.exists_cons_of_ne_nil
    (by simpa using some : releases.zipIdx ≠ [])
  unfold restoreOriginal
  apply meets_passed_bind (rfl : output favourable.tempRoot = .ok favourableRoot)
  apply meets_bind _ add_favourable_meets
  rintro _ added ⟨events, -, -⟩
  rw [← events] at unbuilt
  apply meets_passed_bind favourable_source
  apply meets_bind _
    (build_rounds_miss (fun round inside => named _ (listed round inside)) others unbuilt)
  intro _ world unbuilt
  apply meets_bind _ (preflight_rounds_miss unbuilt)
  intro _ world unbuilt
  rw [shape]
  apply meets_bind (fun _ _ => False)
  · apply meets_bind _ (install_first_early unbuilt first)
    intro _ _ impossible
    exact impossible.elim
  · intro _ _ impossible
    exact impossible.elim

theorem Machine.status_of_built {machine : Machine} {version : Version}
    (known : kernel ∈ machine.kernels) (built : machine.built kernel version = true) :
    machine.status version ≠ [] := by
  have listed : kernel ∈ machine.kernels.filter fun kernel => machine.built kernel version :=
    List.mem_filter.mpr ⟨known, built⟩
  unfold Machine.status
  split
  · rename_i none
    rw [none] at listed
    exact absurd listed List.not_mem_nil
  · rename_i some
    simpa using some

/-- Nothing but removals happened. -/
def OnlyRemovals (world : World) : Prop :=
  ∀ event ∈ world.events, ∃ version, event = .removing version

/-- The removal of a version waits for it while it is still listed. -/
def RemovalDue (kernel : String) (version : Version) (done : List Version) (world : World) :
    Prop :=
  OnlyRemovals world ∧
    ((∃ removed, .removing removed ∈ world.events) ∨
      version ∉ done ∧ kernel ∈ world.state.kernels ∧
        world.state.built kernel version = true)

theorem remove_patched_early {version : Version} (patched : version ∈ [Version.patched, .legacy])
    (known : kernel ∈ world.state.kernels)
    (built : world.state.built kernel version = true) (only : OnlyRemovals world) :
    Meets (removePatched favourable) world
      (fun _ after => OnlyRemovals after ∧ ∃ removed, .removing removed ∈ after.events)
      (fun _ _ => False) := by
  have looped : Meets (removePatched favourable) world
      (fun _ => RemovalDue kernel version [.patched, .legacy]) (fun _ _ => False) := by
    apply meets_forEach (RemovalDue kernel version)
    · rintro done item rest world - ⟨only, due⟩
      unfold removeVersion
      apply meets_read_bind
      split
      · -- a version that is not listed is not the one whose removal is due
        rename_i unlisted
        refine meets_pure ⟨only, due.imp_right fun ⟨waiting, known, built⟩ => ⟨?_, known, built⟩⟩
        rw [List.mem_append, List.mem_singleton]
        rintro (earlier | rfl)
        · exact waiting earlier
        · exact Machine.status_of_built known built unlisted
      · apply meets_note
        have here : Event.removing item ∈ (world.noted (.removing item)
            (world.state.remove item)).events := by simp
        refine ⟨?_, .inl ⟨item, here⟩⟩
        intro event inside
        rw [events_noted, List.mem_append, List.mem_singleton] at inside
        obtain earlier | rfl := inside
        · exact only event earlier
        · exact ⟨item, rfl⟩
    · exact ⟨only, .inr ⟨List.not_mem_nil, known, built⟩⟩
  apply looped.weaken
  · rintro _ after ⟨only, removed | ⟨waiting, -⟩⟩
    · exact ⟨only, removed⟩
    · exact absurd patched waiting
  · exact fun _ _ impossible => impossible

theorem restore_nothing_early {version : Version} (patched : version ∈ [Version.patched, .legacy])
    (known : kernel ∈ world.state.kernels)
    (built : world.state.built kernel version = true) (only : OnlyRemovals world) :
    Meets (restoreOriginal favourable []) world
      (fun _ after => OnlyRemovals after ∧ ∃ removed, .removing removed ∈ after.events)
      (fun _ _ => False) := by
  unfold restoreOriginal
  apply meets_passed_bind (rfl : output favourable.tempRoot = .ok favourableRoot)
  apply meets_bind _ add_favourable_meets
  rintro _ added ⟨events, kernels, same⟩
  have only : OnlyRemovals added := fun event inside => only event (events ▸ inside)
  rw [← kernels] at known
  rw [← same] at built
  apply meets_passed_bind favourable_source
  apply meets_forEach_nil_bind
  apply meets_forEach_nil_bind
  apply meets_forEach_nil_bind
  apply meets_bind _ (remove_patched_early patched known built only)
  intro _ world removed
  exact meets_pure removed

theorem rollback_early {lines : List String} {version : Version}
    (listed : patchedKernels start listing = .ok lines) (none : words lines = [])
    (patched : version ∈ [Version.patched, .legacy]) (known : kernel ∈ start.kernels)
    (built : start.built kernel version = true) :
    OnlyRemovals (runRollback start listing favourable) ∧
      ∃ removed, .removing removed ∈ (runRollback start listing favourable).events := by
  have run : Meets (rollback listing favourable) (.fresh start)
      (fun _ after => OnlyRemovals after ∧ ∃ removed, .removing removed ∈ after.events)
      (fun _ _ => False) := by
    have only : OnlyRemovals (.fresh start) := by simp [OnlyRemovals]
    unfold rollback
    apply meets_passed_bind favourable_original
    apply meets_read_bind
    apply meets_passed_bind listed
    split
    · exact remove_patched_early patched known built only
    · rw [none]
      exact restore_nothing_early patched known built only
  exact (run.weaken (fun _ _ kept => kept) fun _ _ impossible => impossible.elim).leaves

theorem rollback_install_early {lines : List String}
    (listed : patchedKernels start listing = .ok lines) (some : words lines ≠ [])
    (named : ∀ release ∈ words lines, isUnsafeRelease release = false)
    (missed : kernel ∉ words lines) :
    InstallsEarly kernel (runRollback start listing favourable) := by
  have run : Meets (rollback listing favourable) (.fresh start) (fun _ _ => False)
      (fun _ => InstallsEarly kernel) := by
    have unbuilt : Event.built kernel ∉ (Journal.fresh start : World).events := by simp
    unfold rollback
    apply meets_passed_bind favourable_original
    apply meets_read_bind
    apply meets_passed_bind listed
    split
    · rename_i empty
      exact absurd (words_of_empty empty) some
    · exact restore_original_early some named missed unbuilt
  exact (run.weaken (fun _ _ impossible => impossible.elim) fun _ _ early => early).leaves

/-- An event of the journal was allowed by the events before it. -/
theorem FailureSafe.allowed {front back : List Event} {event : Event}
    (safe : FailureSafe start world.entries) (shape : world.events = front ++ event :: back) :
    Allowed start front event := by
  obtain ⟨before, rest, whole, rfl, behind⟩ := List.map_eq_append_iff.mp shape
  obtain ⟨⟨event, machine⟩, after, rfl, rfl, rfl⟩ := List.map_eq_cons_iff.mp behind
  exact (safe before event machine after whole).1

theorem suffices_of_safe (safe : FailureSafe start (runRollback start listing favourable).entries) :
    ListingSuffices start listing := by
  unfold ListingSuffices
  split
  · trivial
  · rename_i lines listed
    unfold KernelsSuffice
    split
    · -- an empty list leads to a removal before which nothing was installed
      rename_i none
      intro kernel known runs
      obtain ⟨version, patched, holds⟩ := Machine.runsPatched_iff.mp runs
      obtain ⟨only, removed, inside⟩ :=
        rollback_early listed none patched known (start.consistent kernel version holds)
      obtain ⟨front, back, shape⟩ := List.append_of_mem inside
      have installed := (safe.allowed shape kernel known runs).1
      obtain ⟨other, impossible⟩ := only (.installed kernel) (by simp [shape, installed])
      cases impossible
    · rename_i some
      by_contra insufficient
      obtain ⟨incomplete, accepted⟩ := not_or.mp insufficient
      have named : ∀ release ∈ words lines, isUnsafeRelease release = false := by
        simpa using accepted
      apply incomplete
      intro kernel known patched
      by_contra missed
      obtain ⟨front, release, back, shape, unbuilt⟩ :=
        rollback_install_early listed some named missed
      exact unbuilt (safe.allowed shape kernel known patched).1

end Necessity

/-- For the given machine and the given end of the listing commands, the law
holds however the other commands end exactly if the listing suffices. -/
theorem rollback_failure_safe_iff (start : Machine) (listing : Listing) :
    (∀ answers, FailureSafe start (runRollback start listing answers).entries) ↔
      ListingSuffices start listing := by
  constructor
  · intro safe
    exact suffices_of_safe (safe favourable)
  · intro enough answers
    exact rollback_safe enough

/-- So it holds whenever the listing was answered. -/
theorem rollback_safe_when_listed {start : Machine} (answers : Answers)
    (names : ∀ kernel ∈ start.kernels, IsWord kernel) (arch : ',' ∉ start.arch.toList) :
    FailureSafe start (runRollback start ⟨true, true, none, true⟩ answers).entries := by
  apply rollback_safe
  obtain ⟨lines, listed, exact⟩ := patched_kernels_exact names arch
  apply (listing_suffices_iff listed).mpr
  unfold KernelsSuffice
  split
  · rename_i none
    intro kernel known runs
    have inside := (exact kernel).mpr ⟨known, Machine.patched_of_runs runs⟩
    rw [none] at inside
    exact absurd inside List.not_mem_nil
  · exact .inl fun kernel known patched => (exact kernel).mpr ⟨known, patched⟩

/-- One kernel, which runs the patched module. -/
def oneKernel : Machine where
  kernels := ["6.8.0-45-generic"]
  arch := "x86_64"
  registered version := version = .patched
  built kernel version := kernel = "6.8.0-45-generic" && version = .patched
  installed kernel := if kernel = "6.8.0-45-generic" then some .patched else none
  consistent := by
    intro kernel version present
    split at present
    · rename_i here
      cases present
      simp [here]
    · cases present

/-- The query for the patched version fails, and nothing else does: the run
takes the early exit, and its later query finds the version and removes it. -/
theorem failed_query_removes_module :
    (runRollback oneKernel ⟨false, true, none, true⟩ favourable).events = [.removing .patched] ∧
      oneKernel.installed "6.8.0-45-generic" = some .patched ∧
      (runRollback oneKernel ⟨false, true, none, true⟩ favourable).state.installed
        "6.8.0-45-generic" = none ∧
      ¬ FailureSafe oneKernel
        (runRollback oneKernel ⟨false, true, none, true⟩ favourable).entries := by
  have events : (runRollback oneKernel ⟨false, true, none, true⟩ favourable).events =
      [.removing .patched] := by
    decide +kernel
  refine ⟨events, by decide, by decide +kernel, fun safe => ?_⟩
  have allowed : Allowed oneKernel [] (.removing .patched) := safe.allowed events
  exact absurd (allowed "6.8.0-45-generic" (by decide) (.inl rfl)).1 List.not_mem_nil

end Smiusb.EvdiRollback
