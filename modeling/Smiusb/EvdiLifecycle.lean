import Smiusb.InstallSafety
import Smiusb.RollbackSafety
import Smiusb.Transitions

/-!
The two EVDI scripts together. A host goes through any number of runs of
`scripts/install-patched-evdi.sh` and `scripts/rollback-patched-evdi.sh`, each
ending wherever its commands make it end. A rollback that comes to its end
leaves nothing patched; the modules and the backups of a host survive every
sequence of runs in which no single command loses them.
-/

namespace Smiusb.EvdiLifecycle
open Execution Methods Journals Transitions EvdiRollback
open EvdiInstall (Host Switch runInstall kernelRelease backupPath Confined)

/-- Every command of the listing succeeds. -/
def answered : Listing := ⟨true, true, none, true⟩

section Rollback
variable {start now : Machine} {world : World} {answers : Answers} {done : List String}

/-- The kernels in `done` have the original, the others what they had, and
nothing has been done to the patched versions. -/
structure Switched (start : Machine) (done : List String) (now : Machine) : Prop where
  kernels : now.kernels = start.kernels
  arch : now.arch = start.arch
  registered : ∀ version, version ≠ .original → now.registered version = start.registered version
  built : ∀ kernel version, version ≠ .original →
    now.built kernel version = start.built kernel version
  installed : ∀ kernel, now.installed kernel =
    if kernel ∈ done then some .original else start.installed kernel

/-- A kernel that had a module has one, and the listing can still name every
kernel. -/
structure Survives (start now : Machine) : Prop where
  kernels : ∀ kernel ∈ start.kernels, kernel ∈ now.kernels
  names : (∀ kernel ∈ start.kernels, IsWord kernel) → ∀ kernel ∈ now.kernels, IsWord kernel
  arch : now.arch = start.arch
  modules : ∀ kernel ∈ start.kernels, start.installed kernel ≠ none → now.installed kernel ≠ none

/-- Every module is the original. -/
structure Settled (start now : Machine) : Prop where
  kernels : now.kernels = start.kernels
  arch : now.arch = start.arch
  modules : ∀ kernel ∈ start.kernels, start.installed kernel ≠ none →
    now.installed kernel = some .original

/-- However the rollback stops. -/
def Stopped (start : Machine) (_ : Abort) (world : World) : Prop := Survives start world.state

theorem switched_refl : Switched start [] start where
  kernels := rfl
  arch := rfl
  registered _ _ := rfl
  built _ _ _ := rfl
  installed _ := rfl

theorem Switched.survives (switched : Switched start done now) : Survives start now where
  kernels := by simp [switched.kernels]
  names := by simp [switched.kernels]
  arch := switched.arch
  modules := by
    intro kernel _ present
    rw [switched.installed kernel]
    split
    · simp
    · exact present

theorem Settled.survives (settled : Settled start now) : Survives start now where
  kernels := by simp [settled.kernels]
  names := by simp [settled.kernels]
  arch := settled.arch
  modules := by
    intro kernel known present
    rw [settled.modules kernel known present]
    simp

/-- Once no kernel is left with a patched module. -/
theorem Switched.settled (switched : Switched start done now)
    (complete : ∀ kernel ∈ start.kernels, start.RunsPatched kernel → kernel ∈ done) :
    Settled start now where
  kernels := switched.kernels
  arch := switched.arch
  modules := by
    intro kernel known present
    rw [switched.installed kernel]
    split
    · rfl
    · rename_i missed
      cases holds : start.installed kernel with
      | none => exact absurd holds present
      | some version =>
          cases version with
          | original => rfl
          | patched => exact absurd (complete kernel known (.inl holds)) missed
          | legacy => exact absurd (complete kernel known (.inr holds)) missed

theorem Switched.add (switched : Switched start done now) :
    Switched start done (now.add .original) :=
  { switched with
    registered := by
      intro version other
      rw [← switched.registered version other]
      simp [Machine.add, other] }

/-- A kernel of the listing does not join the kernels, it is one of them. -/
theorem Switched.insert (switched : Switched start done now) {kernel : String}
    (known : kernel ∈ start.kernels) : now.kernels.insert kernel = start.kernels := by
  rw [switched.kernels, List.insert_of_mem known]

theorem Switched.build (switched : Switched start done now) {kernel : String}
    (known : kernel ∈ start.kernels) : Switched start done (now.build kernel .original) :=
  { switched with
    kernels := switched.insert known
    built := by
      intro place version other
      rw [← switched.built place version other]
      simp [Machine.build, other] }

theorem Switched.install (switched : Switched start done now) {kernel : String}
    (known : kernel ∈ start.kernels) :
    Switched start (done ++ [kernel]) (now.install kernel .original) where
  kernels := switched.insert known
  arch := switched.arch
  registered := switched.registered
  built := by
    intro place version other
    rw [← switched.built place version other]
    simp [Machine.install, other]
  installed := by
    intro place
    by_cases here : place = kernel
    · simp [Machine.install, here]
    · simp [Machine.install, here, switched.installed place]

theorem add_original_switched (switched : Switched start done world.state) :
    Meets (addOriginal answers) world (fun _ after => Switched start done after.state)
      (Stopped start) := by
  unfold addOriginal
  apply meets_read_bind
  split
  · refine meets_except_bind (fun _ _ => ?_) (fun _ _ => switched.survives)
    exact meets_modify switched.add
  · exact meets_pure switched

variable {tempRoot : String} {rounds : List (String × Nat)}

theorem build_rounds_switched (switched : Switched start [] world.state)
    (known : ∀ round ∈ rounds, round.1 ∈ start.kernels) :
    Meets (Method.forEach (buildOriginal answers) rounds) world
      (fun _ after => Switched start [] after.state) (Stopped start) := by
  apply meets_forEach fun _ (after : World) => Switched start [] after.state
  · intro done round rest world whole switched
    unfold buildOriginal
    refine meets_except_bind (fun _ _ => ?_) (fun _ _ => switched.survives)
    exact meets_note (switched.build (known round (by simp [whole])))
  · exact switched

theorem preflight_rounds_switched (switched : Switched start [] world.state) :
    Meets (Method.forEach (preflight tempRoot answers) rounds) world
      (fun _ after => Switched start [] after.state) (Stopped start) := by
  apply meets_forEach fun _ (after : World) => Switched start [] after.state
  · rintro done round rest world - switched
    unfold preflight
    refine meets_except_bind (fun _ _ => ?_) (fun _ _ => switched.survives)
    exact meets_note switched
  · exact switched

theorem install_rounds_switched (switched : Switched start [] world.state)
    (known : ∀ round ∈ rounds, round.1 ∈ start.kernels) :
    Meets (Method.forEach (installOriginal tempRoot answers) rounds) world
      (fun _ after => Switched start (rounds.map Prod.fst) after.state) (Stopped start) := by
  apply meets_forEach fun done (after : World) => Switched start (done.map Prod.fst) after.state
  · intro done round rest world whole sofar
    have switched := sofar.install (known round (by simp [whole]))
    unfold installOriginal
    refine meets_except_bind (fun built _ => ?_) (fun _ _ => sofar.survives)
    apply meets_note_bind
    refine meets_except_bind (fun _ _ => ?_) (fun _ _ => sofar.survives)
    apply meets_note_bind
    apply meets_read_bind
    refine meets_except_bind (fun _ _ => ?_) (fun _ _ => switched.survives)
    apply meets_note_bind
    refine meets_except_bind (fun _ _ => ?_) (fun _ _ => switched.survives)
    apply meets_note
    rw [List.map_append]
    exact switched
  · exact switched

/-- The version is gone, and nothing else is. -/
structure Removed (version : Version) (before after : Machine) : Prop where
  kernels : after.kernels = before.kernels
  gone : after.registered version = false ∧
    ∀ kernel ∈ before.kernels, after.built kernel version = false
  registered : ∀ other, other ≠ version → after.registered other = before.registered other
  built : ∀ kernel other, other ≠ version → after.built kernel other = before.built kernel other
  installed : ∀ kernel, before.installed kernel ≠ some version →
    after.installed kernel = before.installed kernel

theorem removed_remove (version : Version) (machine : Machine) :
    Removed version machine (machine.remove version) where
  kernels := rfl
  gone := ⟨by simp [Machine.remove], by simp [Machine.remove, Machine.removeFrom]⟩
  registered := by
    intro other apart
    simp [Machine.remove, apart]
  built := by
    intro kernel other apart
    simp [Machine.remove, Machine.removeFrom, apart]
  installed := by
    intro kernel apart
    simp [Machine.remove, Machine.removeFrom, apart]

/-- An answered query that lists nothing: there is nothing to remove. -/
theorem removed_unlisted {version : Version} {machine : Machine}
    (unlisted : machine.status version = []) : Removed version machine machine where
  kernels := rfl
  gone := by
    constructor
    · unfold Machine.status at unlisted
      split at unlisted
      · by_contra known
        rw [Bool.not_eq_false] at known
        simp [known] at unlisted
      · rename_i kernels some
        exact absurd (List.map_eq_nil_iff.mp unlisted) some
    · intro kernel known
      by_contra built
      rw [Bool.not_eq_false] at built
      exact Machine.status_of_built known built unlisted
  registered _ _ := rfl
  built _ _ _ := rfl
  installed _ _ := rfl

theorem Settled.remove (settled : Settled start now) {version : Version}
    (other : version ≠ .original) (reached : String → Bool) :
    Settled start (now.removeFrom version reached) where
  kernels := settled.kernels
  arch := settled.arch
  modules kernel known present :=
    Machine.remove_keeps_original reached other (settled.modules kernel known present)

theorem remove_version_meets {version : Version} (other : version ≠ .original)
    (settled : Settled start world.state) :
    Meets (removeVersion answers version) world
      (fun _ after => Settled start after.state ∧
        ((answers.removal version).query = true → Removed version world.state after.state))
      (Stopped start) := by
  unfold removeVersion
  apply meets_read_bind
  split
  · rename_i unlisted
    refine meets_pure ⟨settled, fun asked => removed_unlisted ?_⟩
    rwa [queried, if_pos asked] at unlisted
  · split
    · have removed := settled.remove other fun _ => true
      exact meets_note ⟨⟨removed.kernels, removed.arch, removed.modules⟩,
        fun _ => removed_remove version _⟩
    · apply meets_note_bind
      refine meets_except (fun _ impossible => by cases impossible) (fun _ _ => ?_)
      exact (settled.remove other _).survives

/-- Neither patched version is left. -/
structure Cleared (start now : Machine) : Prop where
  kernels : now.kernels = start.kernels
  unregistered : ∀ version, version ≠ .original → now.registered version = false
  unbuilt : ∀ kernel ∈ start.kernels, ¬ now.Patched kernel
  installed : ∀ kernel, ¬ start.RunsPatched kernel → now.installed kernel = start.installed kernel

theorem cleared_of_removed {middle : Machine} (first : Removed .patched start middle)
    (second : Removed .legacy middle now) : Cleared start now where
  kernels := second.kernels.trans first.kernels
  unregistered version other := by
    cases version with
    | original => exact absurd rfl other
    | legacy => exact second.gone.1
    | patched => exact (second.registered .patched (by decide)).trans first.gone.1
  unbuilt kernel known := by
    have patched : now.built kernel .patched = false :=
      (second.built kernel .patched (by decide)).trans (first.gone.2 kernel known)
    have legacy : now.built kernel .legacy = false :=
      second.gone.2 kernel (first.kernels.symm ▸ known)
    simp [Machine.Patched, patched, legacy]
  installed kernel other := by
    rw [Machine.RunsPatched, not_or] at other
    have same := first.installed kernel other.1
    rw [← same]
    exact second.installed kernel (same ▸ other.2)

theorem remove_patched_meets (settled : Settled start world.state) :
    Meets (removePatched answers) world
      (fun _ after => Settled start after.state ∧
        ((∀ version, (answers.removal version).query = true) →
          Cleared world.state after.state))
      (Stopped start) := by
  refine meets_bind _ (remove_version_meets (by decide) settled) ?_
  rintro _ middle ⟨settled, first⟩
  refine meets_bind _ (remove_version_meets (by decide) settled) ?_
  rintro _ after ⟨settled, second⟩
  exact meets_pure ⟨settled, fun asked =>
    cleared_of_removed (first (asked .patched)) (second (asked .legacy))⟩

theorem check_final_meets {failed : Abort → World → Prop}
    (stops : ∀ abort, failed abort world) :
    Meets (Method.forEach (checkFinal tempRoot answers) rounds) world (fun _ after => after = world)
      failed := by
  apply meets_forEach fun _ (after : World) => after = world
  · rintro done round rest _ - rfl
    unfold checkFinal
    exact meets_read_bind (meets_except (fun _ _ => rfl) fun abort _ => stops abort)
  · rfl

/-- Nothing patched is left, the kernels that had something patched have the
original, and the others have what they had. -/
structure RolledBack (start final : Machine) : Prop where
  kernels : final.kernels = start.kernels
  unregistered : ∀ version, version ≠ .original → final.registered version = false
  unpatched : ∀ kernel ∈ start.kernels, ¬ final.Patched kernel
  original : ∀ kernel ∈ start.kernels, start.Patched kernel →
    final.installed kernel = some .original
  untouched : ∀ kernel ∈ start.kernels, ¬ start.Patched kernel →
    final.installed kernel = start.installed kernel

/-- The patched versions are removed once the original is on every kernel
that had one of them. -/
theorem rolled_back_of_cleared (switched : Switched start done now)
    (exact : ∀ kernel ∈ start.kernels, kernel ∈ done ↔ start.Patched kernel) {final : Machine}
    (cleared : Cleared now final) : RolledBack start final where
  kernels := cleared.kernels.trans switched.kernels
  unregistered := cleared.unregistered
  unpatched kernel known := cleared.unbuilt kernel (switched.kernels.symm ▸ known)
  original kernel known patched := by
    have holds : now.installed kernel = some .original := by
      rw [switched.installed kernel, if_pos ((exact kernel known).mpr patched)]
    rw [cleared.installed kernel (by simp [Machine.RunsPatched, holds]), holds]
  untouched kernel known clean := by
    have holds : now.installed kernel = start.installed kernel := by
      rw [switched.installed kernel, if_neg (fun inside => clean ((exact kernel known).mp inside))]
    have other : ¬ start.RunsPatched kernel := fun runs => clean (Machine.patched_of_runs runs)
    rw [cleared.installed kernel, holds]
    rwa [Machine.RunsPatched, holds]

theorem restore_original_meets {releases : List String} (fresh : world.state = start)
    (known : ∀ kernel ∈ releases, kernel ∈ start.kernels)
    (listed : ∀ kernel ∈ start.kernels, kernel ∈ releases ↔ start.Patched kernel) :
    Meets (restoreOriginal answers releases.zipIdx) world
      (fun _ after => Survives start after.state ∧
        ((∀ version, (answers.removal version).query = true) →
          RolledBack start after.state))
      (Stopped start) := by
  have untouched : Switched start [] world.state := fresh ▸ switched_refl
  have known : ∀ round ∈ releases.zipIdx, round.1 ∈ start.kernels := fun round inside =>
    known round.1 (List.fst_mem_of_mem_zipIdx inside)
  unfold restoreOriginal
  refine meets_except_bind (fun tempRoot _ => ?_) (fun _ _ => untouched.survives)
  refine meets_bind _ (add_original_switched untouched) fun _ added untouched => ?_
  refine meets_except_bind (fun _ _ => ?_) (fun _ _ => untouched.survives)
  refine meets_bind _ (build_rounds_switched untouched known) fun _ built untouched => ?_
  refine meets_bind _ (preflight_rounds_switched untouched) fun _ checked untouched => ?_
  refine meets_bind _ (install_rounds_switched untouched known)
    fun _ installed switched => ?_
  rw [List.zipIdx_map_fst] at switched
  have settled := switched.settled fun kernel known runs =>
    (listed kernel known).mpr (Machine.patched_of_runs runs)
  refine meets_bind _ (remove_patched_meets settled) ?_
  rintro _ removed ⟨settled, cleared⟩
  have checks := @check_final_meets removed answers tempRoot releases.zipIdx (Stopped start)
    fun _ => settled.survives
  apply checks.weaken
  · rintro _ _ rfl
    exact ⟨settled.survives, fun asked => rolled_back_of_cleared switched listed (cleared asked)⟩
  · exact fun _ _ stopped => stopped

/-- A rollback whose listing was answered, from any machine. -/
theorem rollback_meets (names : ∀ kernel ∈ start.kernels, IsWord kernel)
    (arch : ',' ∉ start.arch.toList) (answers : Answers) :
    Meets (rollback answered answers) (.fresh start)
      (fun _ after => Survives start after.state ∧
        ((∀ version, (answers.removal version).query = true) →
          RolledBack start after.state))
      (Stopped start) := by
  obtain ⟨lines, listed, members⟩ := patched_kernels_exact names arch
  have untouched : Survives start start := switched_refl.survives
  have exact : ∀ kernel ∈ start.kernels, kernel ∈ words lines ↔ start.Patched kernel :=
    fun kernel known => (members kernel).trans (and_iff_right known)
  unfold rollback
  refine meets_except_bind (fun _ _ => ?_) (fun _ _ => untouched)
  apply meets_read_bind
  apply meets_passed_bind listed
  split
  · -- the early exit: nothing is listed, so nothing is patched
    rename_i empty
    rw [words_of_empty empty] at exact
    have settled : Settled start start := switched_refl.settled fun kernel known runs =>
      (exact kernel known).mpr (Machine.patched_of_runs runs)
    apply (remove_patched_meets settled).weaken
    · rintro _ after ⟨settled, cleared⟩
      exact ⟨settled.survives, fun asked =>
        rolled_back_of_cleared switched_refl exact (cleared asked)⟩
    · exact fun _ _ stopped => stopped
  · exact restore_original_meets rfl (fun kernel listed => ((members kernel).mp listed).1) exact

/-- When the queries were answered, a rollback that comes to its end leaves
nothing patched behind. -/
theorem rollback_completes (start : Machine) (answers : Answers)
    (names : ∀ kernel ∈ start.kernels, IsWord kernel) (arch : ',' ∉ start.arch.toList)
    (asked : ∀ version, (answers.removal version).query = true)
    (returned : ((rollback answered answers).run (.fresh start)).1 = .ok ()) :
    RolledBack start (runRollback start answered answers).state :=
  ((rollback_meets names arch answers).elim.2.1 () returned).2 asked

/-- Every command of the rollback succeeds, up to its end. -/
def smoothRollback : Answers :=
  { favourable with
    kernel := fun round => { favourableKernel round.1 with
      onDisk := ⟨some "/lib/modules/evdi.ko", favourableInspection round.1⟩
      finalOnDisk := ⟨some "/lib/modules/evdi.ko", favourableInspection round.1⟩ } }

theorem is_word_release : ∀ kernel ∈ ["6.8.0-45-generic"], IsWord kernel := by
  have plain : "6.8.0-45-generic".toList.all (fun character => !isBlank character) = true := by
    decide +kernel
  intro kernel known
  rw [List.mem_singleton.mp known]
  exact ⟨by decide, by simpa only [List.all_eq_true, Bool.not_eq_true'] using plain⟩

theorem rollback_completes_smooth :
    ((rollback answered smoothRollback).run (.fresh oneKernel)).1 = .ok () ∧
      oneKernel.installed "6.8.0-45-generic" = some .patched ∧
      RolledBack oneKernel (runRollback oneKernel answered smoothRollback).state := by
  have returned : ((rollback answered smoothRollback).run (.fresh oneKernel)).1 = .ok () := by
    decide +kernel
  exact ⟨returned, by decide, rollback_completes oneKernel smoothRollback is_word_release
    (by decide) (fun _ => rfl) returned⟩

theorem rollback_survives (names : ∀ kernel ∈ start.kernels, IsWord kernel)
    (arch : ',' ∉ start.arch.toList) (answers : Answers) :
    Survives start (runRollback start answered answers).state :=
  ((rollback_meets names arch answers).weaken (fun _ _ kept => kept.1)
    fun _ _ stopped => stopped).leaves

end Rollback

/-- A run of one of the scripts, with everything that the commands answered. -/
inductive Deed where
  | install (answers : EvdiInstall.Answers)
  | rollback (listing : Listing) (answers : Answers)

/-- The host that a run leaves, however it ends. -/
def perform (host : Host) : Deed → Host
  | .install answers => (runInstall host answers).state
  | .rollback listing answers =>
      { host with machine := (runRollback host.machine listing answers).state }

def Advance (host : Host) (deed : Deed) (after : Host) : Prop := after = perform host deed

section Histories
variable {start final : Host} {history : List Deed}

/-- A run of the installer chooses no kernel and does nothing, or it is
confined to the kernel that it chose. -/
theorem install_outcome (host : Host) (answers : EvdiInstall.Answers) :
    perform host (.install answers) = host ∨ ∃ release, kernelRelease answers = .ok release ∧
      Confined host (perform host (.install answers)) release answers
        (runInstall host answers).events := by
  cases chosen : kernelRelease answers with
  | error abort =>
      refine .inl ?_
      rw [perform, runInstall, EvdiInstall.install, chosen]
      rfl
  | ok release => exact .inr ⟨release, rfl, (EvdiInstall.run_install_sound host chosen).confined⟩

/-- No run writes over a file of the backup directory, and each file came
there in one run, as the copy of a module that was not the patched one or as
what a failed copy left of it. -/
theorem backup_history (run : Run Advance start history final) :
    (∀ path content, start.backups path = some content → final.backups path = some content) ∧
      ∀ path content, final.backups path = some content → start.backups path = some content ∨
        ∃ answers release, .install answers ∈ history ∧ kernelRelease answers = .ok release ∧
          path = backupPath release answers.current.path ∧
          EvdiInstall.needsBackup answers.current = true ∧
          EvdiInstall.Leaves answers (some content) := by
  refine run_invariant (fun history (now : Host) =>
    (∀ path content, start.backups path = some content → now.backups path = some content) ∧
      ∀ path content, now.backups path = some content → start.backups path = some content ∨
        ∃ answers release, .install answers ∈ history ∧ kernelRelease answers = .ok release ∧
          path = backupPath release answers.current.path ∧
          EvdiInstall.needsBackup answers.current = true ∧
          EvdiInstall.Leaves answers (some content)) ?_ ?_ run
  · exact ⟨fun _ _ present => present, fun _ _ present => .inl present⟩
  · rintro history host deed _ - ⟨kept, origin⟩ rfl
    have earlier : ∀ path content, host.backups path = some content →
        start.backups path = some content ∨ ∃ answers release,
          .install answers ∈ history ++ [deed] ∧ kernelRelease answers = .ok release ∧
          path = backupPath release answers.current.path ∧
          EvdiInstall.needsBackup answers.current = true ∧
          EvdiInstall.Leaves answers (some content) := by
      intro path content present
      refine (origin path content present).imp_right ?_
      rintro ⟨answers, release, inside, rest⟩
      exact ⟨answers, release, List.mem_append_left _ inside, rest⟩
    cases deed with
    | rollback listing answers => exact ⟨kept, earlier⟩
    | install answers =>
        obtain same | ⟨release, chosen, confined⟩ := install_outcome host answers
        · rw [same]
          exact ⟨kept, earlier⟩
        · constructor
          · intro path content present
            have before := kept path content present
            obtain same | ⟨missing, -⟩ := confined.backups path
            · exact same.trans before
            · rw [missing] at before
              cases before
          · intro path content present
            obtain same | ⟨-, here, needed, left⟩ := confined.backups path
            · exact earlier path content (same.symm.trans present)
            · rw [present] at left
              exact .inr ⟨answers, release, by simp, chosen, here, needed, left⟩

/-- The module is renewed before the second run, under the same name. -/
def renewedAnswers : EvdiInstall.Answers :=
  { EvdiInstall.smoothAnswers with
    current := { EvdiInstall.smoothAnswers.current with content := [0x7f, 0x45] } }

def installedOnce : Host := perform EvdiInstall.vendorHost (.install EvdiInstall.smoothAnswers)

theorem run_once :
    Run Advance EvdiInstall.vendorHost ([] ++ [.install EvdiInstall.smoothAnswers])
      installedOnce := .next .start rfl

def installedTwice : Host := perform installedOnce (.install renewedAnswers)

theorem backup_history_smooth :
    installedTwice.backups "/var/lib/smiusb/evdi-backup/6.8.0-45-generic/evdi.ko" = some [0x7f] ∧
      ∃ answers release,
        .install answers ∈ [.install EvdiInstall.smoothAnswers, Deed.install renewedAnswers] ∧
        kernelRelease answers = .ok release ∧
        "/var/lib/smiusb/evdi-backup/6.8.0-45-generic/evdi.ko" =
          backupPath release answers.current.path ∧
        EvdiInstall.Leaves answers (some [0x7f]) := by
  have second : Run Advance installedOnce ([] ++ [.install renewedAnswers]) installedTwice :=
    .next .start rfl
  have both : Run Advance EvdiInstall.vendorHost
      (([] ++ [.install EvdiInstall.smoothAnswers]) ++ [.install renewedAnswers]) installedTwice :=
    .next run_once rfl
  have kept := (backup_history second).1
    "/var/lib/smiusb/evdi-backup/6.8.0-45-generic/evdi.ko" [0x7f] (by decide +kernel)
  refine ⟨kept, ?_⟩
  obtain missing | ⟨answers, release, inside, chosen, here, -, left⟩ :=
    (backup_history both).2 _ _ kept
  · cases missing
  · exact ⟨answers, release, inside, chosen, here, left⟩

/-- `uname -r` prints a name, where it is asked for one. -/
def Deed.Named : Deed → Prop
  | .install answers => kernelRelease answers ≠ .ok ""
  | .rollback _ _ => True

/-- No command of the run takes a module away: the listing was answered, and
`dkms install` did not fail between the two modules. -/
def Deed.Calm : Deed → Prop
  | .install answers => answers.switch ≠ .failedWithout
  | .rollback listing _ => listing = answered

theorem survives_refl (machine : Machine) : Survives machine machine :=
  ⟨fun _ known => known, fun names => names, rfl, fun _ _ present => present⟩

theorem is_word_of_safe {release : String} (named : isUnsafeRelease release = false)
    (some : release ≠ "") : IsWord release := by
  refine ⟨some, fun character inside => ?_⟩
  have accepted := List.any_eq_false.mp named character inside
  by_contra blank
  rw [Bool.not_eq_false, isBlank] at blank
  simp only [Bool.or_eq_true, decide_eq_true_eq] at blank
  obtain (rfl | rfl) | rfl := blank <;> exact accepted (by decide)

/-- The names of the kernels that DKMS lists behind an installer run. -/
theorem confined_names {host now : Host} {release : String} {answers : EvdiInstall.Answers}
    {events : List EvdiInstall.Event} (confined : Confined host now release answers events)
    (some : release ≠ "") (names : ∀ kernel ∈ host.machine.kernels, IsWord kernel) :
    ∀ kernel ∈ now.machine.kernels, IsWord kernel := by
  intro kernel known
  obtain before | ⟨rfl, safe⟩ := confined.newcomers kernel known
  · exact names kernel before
  · exact is_word_of_safe safe some

theorem install_survives (host : Host) {answers : EvdiInstall.Answers}
    (named : kernelRelease answers ≠ .ok "") (calm : answers.switch ≠ .failedWithout) :
    Survives host.machine (perform host (.install answers)).machine := by
  obtain same | ⟨release, chosen, confined⟩ := install_outcome host answers
  · rw [same]
    exact survives_refl host.machine
  · have some : release ≠ "" := fun empty => named (empty ▸ chosen)
    refine ⟨confined.kernels, confined_names confined some, confined.arch, ?_⟩
    intro kernel _ present
    by_cases here : kernel = release
    · subst here
      obtain kept | ⟨-, -, patched | lost⟩ := confined.own
      · rwa [kept]
      · simp [patched]
      · exact absurd lost calm
    · rwa [confined.others kernel here]

theorem Survives.trans {one two three : Machine} (first : Survives one two)
    (second : Survives two three) : Survives one three where
  kernels kernel known := second.kernels kernel (first.kernels kernel known)
  names words := second.names (first.names words)
  arch := second.arch.trans first.arch
  modules kernel known present :=
    second.modules kernel (first.kernels kernel known) (first.modules kernel known present)

/-- Over any sequence of runs, however each of them ends, a kernel that has a
module keeps one. -/
theorem modules_survive (run : Run Advance start history final)
    (names : ∀ kernel ∈ start.machine.kernels, IsWord kernel)
    (arch : ',' ∉ start.machine.arch.toList) (named : ∀ deed ∈ history, deed.Named)
    (calm : ∀ deed ∈ history, deed.Calm) :
    ∀ kernel ∈ start.machine.kernels, start.machine.installed kernel ≠ none →
      final.machine.installed kernel ≠ none := by
  have survived : Survives start.machine final.machine := by
    refine run_invariant (fun history (now : Host) => (∀ deed ∈ history, deed.Named) →
      (∀ deed ∈ history, deed.Calm) → Survives start.machine now.machine) ?_ ?_ run named calm
    · exact fun _ _ => survives_refl start.machine
    · rintro history host deed _ - kept rfl named calm
      rw [List.forall_mem_append, List.forall_mem_singleton] at named calm
      have before := kept named.1 calm.1
      refine before.trans ?_
      cases deed with
      | install answers => exact install_survives host named.2 calm.2
      | rollback listing answers =>
          have listed : listing = answered := calm.2
          rw [listed]
          exact rollback_survives (before.names names) (before.arch ▸ arch) answers
  exact survived.modules

theorem smooth_named : kernelRelease EvdiInstall.smoothAnswers ≠ .ok "" := by
  intro empty
  have same : (.ok "6.8.0-45-generic" : Check String) = .ok "" := empty
  exact absurd (Except.ok.inj same) (by decide)

theorem modules_survive_smooth :
    (perform installedOnce (.rollback answered smoothRollback)).machine.installed
      "6.8.0-45-generic" ≠ none := by
  have run : Run Advance EvdiInstall.vendorHost
      (([] ++ [.install EvdiInstall.smoothAnswers]) ++ [.rollback answered smoothRollback])
      (perform installedOnce (.rollback answered smoothRollback)) := .next run_once rfl
  refine modules_survive run is_word_release (by decide) ?_ ?_ "6.8.0-45-generic" (by decide)
    (by decide)
  · simpa [Deed.Named] using smooth_named
  · simp [Deed.Calm, EvdiInstall.smoothAnswers]

/-- What a sequence of installer runs has done to the kernels. -/
structure Grown (start : Host) (history : List Deed) (now : Host) : Prop where
  kernels : ∀ kernel ∈ start.machine.kernels, kernel ∈ now.machine.kernels
  newcomers : ∀ kernel ∈ now.machine.kernels, kernel ∈ start.machine.kernels ∨
    ∃ answers, .install answers ∈ history ∧ kernelRelease answers = .ok kernel
  names : (∀ kernel ∈ start.machine.kernels, IsWord kernel) →
    ∀ kernel ∈ now.machine.kernels, IsWord kernel
  arch : now.machine.arch = start.machine.arch
  same : ∀ kernel, now.machine.installed kernel = start.machine.installed kernel ∨
    now.machine.built kernel .patched = true
  chosen : ∀ kernel, now.machine.Patched kernel → start.machine.Patched kernel ∨
    ∃ answers, .install answers ∈ history ∧ kernelRelease answers = .ok kernel

theorem Grown.earlier {now : Host} (grown : Grown start history now) (deed : Deed) :
    Grown start (history ++ [deed]) now := by
  have later : ∀ {kernel}, (∃ answers, .install answers ∈ history ∧
      kernelRelease answers = .ok kernel) → ∃ answers, .install answers ∈ history ++ [deed] ∧
        kernelRelease answers = .ok kernel := by
    rintro kernel ⟨answers, inside, here⟩
    exact ⟨answers, List.mem_append_left _ inside, here⟩
  exact {
    grown with
    newcomers := fun kernel known => (grown.newcomers kernel known).imp_right later
    chosen := fun kernel patched => (grown.chosen kernel patched).imp_right later }

theorem Grown.install {host : Host} (grown : Grown start history host)
    {answers : EvdiInstall.Answers} (some : kernelRelease answers ≠ .ok "") :
    Grown start (history ++ [.install answers]) (perform host (.install answers)) := by
  have before := grown.earlier (.install answers)
  obtain same | ⟨release, named, confined⟩ := install_outcome host answers
  · rwa [same]
  · exact {
      kernels := fun kernel known => confined.kernels kernel (before.kernels kernel known)
      newcomers := by
        intro kernel known
        obtain earlier | ⟨rfl, -⟩ := confined.newcomers kernel known
        · exact before.newcomers kernel earlier
        · exact .inr ⟨answers, by simp, named⟩
      names := fun names =>
        confined_names confined (fun empty => some (empty ▸ named)) (before.names names)
      arch := confined.arch.trans before.arch
      same := by
        intro kernel
        by_cases here : kernel = release
        · subst here
          obtain kept | ⟨-, built, -⟩ := confined.own
          · rw [kept]
            exact (before.same kernel).imp_right (confined.grows kernel .patched)
          · exact .inr built
        · rw [confined.others kernel here]
          exact (before.same kernel).imp_right (confined.grows kernel .patched)
      chosen := by
        intro kernel patched
        by_cases here : kernel = release
        · exact .inr ⟨answers, by simp, here ▸ named⟩
        · have elsewhere : ∀ version,
              (perform host (.install answers)).machine.built kernel version =
                host.machine.built kernel version := fun version =>
            confined.built kernel version fun both => here both.1
          rw [Machine.Patched, elsewhere, elsewhere] at patched
          exact before.chosen kernel patched }

theorem grown_refl : Grown start [] start where
  kernels _ known := known
  newcomers _ known := .inl known
  names words := words
  arch := rfl
  same _ := .inl rfl
  chosen _ patched := .inl patched

theorem installs_grow (run : Run Advance start history final)
    (installs : ∀ deed ∈ history, ∃ answers, deed = .install answers)
    (named : ∀ deed ∈ history, deed.Named) : Grown start history final := by
  refine run_invariant (fun history (now : Host) =>
    (∀ deed ∈ history, ∃ answers, deed = .install answers) → (∀ deed ∈ history, deed.Named) →
      Grown start history now) ?_ ?_ run installs named
  · exact fun _ _ => grown_refl
  · rintro history host deed _ - grown rfl installs named
    rw [List.forall_mem_append, List.forall_mem_singleton] at installs named
    obtain ⟨earlier, answers, rfl⟩ := installs
    exact (grown earlier named.1).install named.2

/-- Any number of installer runs, each ending anywhere, and then a rollback
that comes to its end and whose queries were answered: nothing patched is left
on any kernel that DKMS lists, and a kernel has the module that it had before
or, if one of the runs chose it, the original. -/
theorem install_rollback_round_trip (run : Run Advance start history final)
    (installs : ∀ deed ∈ history, ∃ answers, deed = .install answers)
    (named : ∀ deed ∈ history, deed.Named)
    (clean : ∀ kernel ∈ start.machine.kernels, ¬ start.machine.Patched kernel)
    (names : ∀ kernel ∈ start.machine.kernels, IsWord kernel)
    (arch : ',' ∉ start.machine.arch.toList) (answers : Answers)
    (asked : ∀ version, (answers.removal version).query = true)
    (returned : ((rollback answered answers).run (.fresh final.machine)).1 = .ok ()) :
    (∀ version, version ≠ .original →
      (perform final (.rollback answered answers)).machine.registered version = false) ∧
    (∀ kernel ∈ start.machine.kernels,
      kernel ∈ (perform final (.rollback answered answers)).machine.kernels) ∧
    ∀ kernel ∈ (perform final (.rollback answered answers)).machine.kernels,
      ¬ (perform final (.rollback answered answers)).machine.Patched kernel ∧
      ((perform final (.rollback answered answers)).machine.installed kernel =
          start.machine.installed kernel ∨
        (perform final (.rollback answered answers)).machine.installed kernel = some .original ∧
          ∃ answers, .install answers ∈ history ∧ kernelRelease answers = .ok kernel) := by
  have grown := installs_grow run installs named
  have done : RolledBack final.machine (perform final (.rollback answered answers)).machine :=
    ((rollback_meets (grown.names names) (grown.arch ▸ arch) answers).elim.2.1 () returned).2
      asked
  rw [done.kernels]
  refine ⟨done.unregistered, grown.kernels, fun kernel known => ?_⟩
  refine ⟨done.unpatched kernel known, ?_⟩
  by_cases patched : final.machine.Patched kernel
  · -- the kernels of the start were clean, so one of the runs chose this one
    have chosen : ∃ answers, .install answers ∈ history ∧ kernelRelease answers = .ok kernel := by
      obtain dirty | chosen := grown.chosen kernel patched
      · obtain before | chosen := grown.newcomers kernel known
        · exact absurd dirty (clean kernel before)
        · exact chosen
      · exact chosen
    exact .inr ⟨done.original kernel known patched, chosen⟩
  · refine .inl ((done.untouched kernel known patched).trans ?_)
    obtain same | built := grown.same kernel
    · exact same
    · exact absurd (.inl built) patched

theorem round_trip_smooth :
    (perform installedOnce (.rollback answered smoothRollback)).machine.installed
      "6.8.0-45-generic" = some .original := by
  have named : ∀ deed ∈ [] ++ [Deed.install EvdiInstall.smoothAnswers], deed.Named := by
    simpa [Deed.Named] using smooth_named
  have clean : ∀ kernel ∈ EvdiInstall.vendorHost.machine.kernels,
      ¬ EvdiInstall.vendorHost.machine.Patched kernel := by
    unfold Machine.Patched
    decide
  have outcome := install_rollback_round_trip run_once (by simp) named clean is_word_release
    (by decide) smoothRollback (fun _ => rfl) (by decide +kernel)
  have known := outcome.2.1 "6.8.0-45-generic" (by decide)
  obtain same | original := (outcome.2.2 "6.8.0-45-generic" known).2
  · exact same
  · exact original.1

end Histories

end Smiusb.EvdiLifecycle
