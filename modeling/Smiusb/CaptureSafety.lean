import Smiusb.CaptureCycle

/-!
The capture script leaves the machine as it was: whatever fails on the way and
whenever signals arrive, the profile of `tshark` is the one of the start in the
end, and no file but the two outputs has changed. Only the commands of the
handler themselves have to work, since `set -e` ends the handler as well.
-/

namespace Smiusb.CaptureSafety
open Execution Methods Traps CaptureCycle

/-- Where the script is with what it has to undo. -/
structure Stage where
  vars : Variables
  /-- A file of `mktemp` that no variable names yet. -/
  pending : Option String
  /-- The profile is relaxed and no variable says so yet. -/
  relaxed : Bool
  cleared : List String

namespace Stage

def owned (stage : Stage) : List (Option String) := stage.pending :: held stage.vars

def loose (stage : Stage) : Bool := stage.relaxed || stage.vars.restoreApparmor

/-- Between two commands the variables tell everything. -/
def resting (vars : Variables) : Stage := ⟨vars, none, false, []⟩

end Stage

/-- Apart from the outputs, the files that the script has made are all that
differs from the start, and the profile differs only if it was enforced. -/
structure Tidy (start : Host) (site : Site) (stage : Stage) (shell : Shell) : Prop where
  vars : shell.vars = stage.vars
  files : ∀ path, path ∉ site.outputs → some path ∉ stage.owned →
    shell.host.files path = start.files path
  fresh : ∀ path, some path ∈ stage.owned → path ∉ site.outputs ∧ start.files path = none
  cleared : ∀ path ∈ stage.cleared, shell.host.files path = none
  enforced : stage.loose = true → start.profile = .enforce
  confined : stage.loose = false → shell.host.profile = start.profile

def Safe (start : Host) (site : Site) (shell : Shell) : Prop :=
  ∃ vars, Tidy start site (.resting vars) shell

def Restored (start : Host) (site : Site) (shell : Shell) : Prop :=
  shell.host.profile = start.profile ∧
    ∀ path, path ∉ site.outputs → shell.host.files path = start.files path

variable {start : Host} {site : Site} {stage : Stage} {shell : Shell}

theorem Tidy.write (tidy : Tidy start site stage shell) {path : String} {content : Option Content}
    (own : path ∈ site.outputs ∨ some path ∈ stage.owned)
    (keeps : path ∈ stage.cleared → content = none) :
    Tidy start site stage (shell.write path content) where
  vars := tidy.vars
  files other notOutput notOwned := by
    have differs : other ≠ path := by
      rintro rfl
      exact own.elim notOutput notOwned
    exact (if_neg differs).trans (tidy.files other notOutput notOwned)
  fresh := tidy.fresh
  cleared other cleared := by
    by_cases same : other = path
    · exact (if_pos same).trans (keeps (same ▸ cleared))
    · exact (if_neg same).trans (tidy.cleared other cleared)
  enforced := tidy.enforced
  confined := tidy.confined

theorem Tidy.remove (tidy : Tidy start site stage shell) {path : String}
    (own : some path ∈ held shell.vars) : Tidy start site stage (shell.write path none) :=
  tidy.write (.inr (List.mem_cons_of_mem _ (tidy.vars ▸ own))) fun _ => rfl

theorem Tidy.clear (tidy : Tidy start site stage shell) {path : String}
    (own : some path ∈ stage.owned) :
    Tidy start site { stage with cleared := path :: stage.cleared } (shell.write path none) where
  vars := tidy.vars
  files := (tidy.write (.inr own) fun _ => rfl).files
  fresh := tidy.fresh
  cleared other cleared := by
    by_cases same : other = path
    · exact if_pos same
    · exact (if_neg same).trans (tidy.cleared other (List.mem_of_ne_of_mem same cleared))
  enforced := tidy.enforced
  confined := tidy.confined

/-- An assignment may forget a file only if it is gone. -/
theorem Tidy.reassign (tidy : Tidy start site stage shell) {vars : Variables}
    (owns : ∀ path, some path ∈ held vars → some path ∈ stage.owned)
    (forgets : ∀ path, some path ∈ stage.owned → some path ∈ held vars ∨ path ∈ stage.cleared)
    (loose : vars.restoreApparmor = stage.loose) :
    Tidy start site (.resting vars) { shell with vars } where
  vars := rfl
  files path notOutput notOwned := by
    by_cases own : some path ∈ stage.owned
    · have gone : path ∈ stage.cleared :=
        (forgets path own).resolve_left fun still => notOwned (List.mem_cons_of_mem _ still)
      exact (tidy.cleared path gone).trans (tidy.fresh path own).2.symm
    · exact tidy.files path notOutput own
  fresh path own := by
    have named : some path ∈ held vars := by simpa [Stage.owned, Stage.resting] using own
    exact tidy.fresh path (owns path named)
  cleared path gone := nomatch gone
  enforced := fun restores => tidy.enforced (loose ▸ restores)
  confined := fun keeps => tidy.confined (loose ▸ keeps)

/-- `mktemp` gives a name that no file has. -/
theorem Tidy.make {vars : Variables} {path : String} (tidy : Tidy start site (.resting vars) shell)
    (unused : shell.host.files path = none) (notOutput : path ∉ site.outputs) :
    Tidy start site ⟨vars, some path, false, []⟩ (shell.write path (some .other)) where
  vars := tidy.vars
  files other otherOutput notOwned := by
    rw [Stage.owned, List.mem_cons, not_or] at notOwned
    have differs : other ≠ path := fun same => notOwned.1 (congrArg some same)
    have unowned : some other ∉ (Stage.resting vars).owned := by
      simpa [Stage.owned, Stage.resting] using notOwned.2
    exact (if_neg differs).trans (tidy.files other otherOutput unowned)
  fresh other own := by
    by_cases old : some other ∈ held vars
    · exact tidy.fresh other (List.mem_cons_of_mem _ old)
    · have new : other = path := by simpa [Stage.owned, old] using own
      have unowned : some path ∉ (Stage.resting vars).owned := by
        simpa [Stage.owned, Stage.resting, ← new] using old
      exact new ▸ ⟨notOutput, (tidy.files path notOutput unowned).symm.trans unused⟩
  cleared other gone := nomatch gone
  enforced := tidy.enforced
  confined := tidy.confined

variable {surroundings : Surroundings} {failed : Shell → Prop} {vars : Variables}

theorem Tidy.enforce (tidy : Tidy start site stage shell)
    (restores : stage.vars.restoreApparmor = true) :
    Tidy start site stage (shell.confine .enforce) :=
  { tidy with
    confined := by
      intro keeps
      rw [Stage.loose, restores, Bool.or_true] at keeps
      exact absurd keeps (by decide) }

/-- Nothing is left to undo once the files are gone and the profile is back. -/
theorem Tidy.restored {cleared : List String}
    (tidy : Tidy start site ⟨vars, none, false, cleared⟩ shell)
    (all : ∀ path, some path ∈ held vars → path ∈ cleared)
    (enforced : vars.restoreApparmor = true → shell.host.profile = .enforce) :
    Restored start site shell := by
  constructor
  · cases restores : vars.restoreApparmor with
    | true => exact (enforced restores).trans (tidy.enforced restores).symm
    | false => exact tidy.confined restores
  · intro path notOutput
    by_cases own : some path ∈ held vars
    · have gone := tidy.cleared path (all path own)
      exact gone.trans (tidy.fresh path (List.mem_cons_of_mem _ own)).2.symm
    · exact tidy.files path notOutput (by simpa [Stage.owned] using own)

theorem tidy_stable (works : CleansUp surroundings) :
    Stable surroundings (Tidy start site stage) failed where
  removal _ _ tidy own := tidy.remove own
  enforcing _ tidy restores := tidy.enforce (tidy.vars ▸ restores)
  stuck broken := absurd works broken

/-- `aa-complain` does not fail behind its change either. -/
structure Working (surroundings : Surroundings) : Prop where
  cleansUp : CleansUp surroundings
  complains : ∀ time, (surroundings.complains time).succeeds = false →
    (surroundings.complains time).takesEffect = false

def Leads {Value : Type} (start : Host) (site : Site) (script : Run Value) (stage : Stage)
    (after : Value → Stage) : Prop :=
  Ensures script (Tidy start site stage) (fun value => Tidy start site (after value))
    (Safe start site)

section Steps
variable (working : Working surroundings) (depth : Nat)
include working

theorem tidy_handled : Ensures (cleanup surroundings depth) (Tidy start site stage)
    (fun _ => Tidy start site stage) failed :=
  cleanup_keeps (tidy_stable working.cleansUp) depth

theorem command_leads {Value : Type} {deed : Nat → Shell → Option Value × Shell}
    {after : Value → Stage}
    (done : ∀ time shell, Tidy start site (.resting vars) shell →
      (deed time shell).1.elim (Tidy start site (.resting vars))
        (fun value => Tidy start site (after value)) (deed time shell).2) :
    Leads start site (external surroundings (cleanup surroundings depth) deed) (.resting vars)
      after :=
  ensures_command (Tidy start site (.resting vars)) done (fun _ => tidy_handled working depth)
    (tidy_handled working depth) fun _ tidy => ⟨vars, tidy⟩

theorem tidy_quiet : Quiet surroundings (Tidy start site (.resting vars)) (Safe start site) where
  toStable := tidy_stable working.cleansUp
  printing _ _ tidy := { tidy with }
  stopping _ tidy := ⟨vars, tidy⟩

theorem assign_tidy {change : Variables → Variables}
    (owns : ∀ path, some path ∈ held (change stage.vars) → some path ∈ stage.owned)
    (forgets : ∀ path, some path ∈ stage.owned →
      some path ∈ held (change stage.vars) ∨ path ∈ stage.cleared)
    (loose : (change stage.vars).restoreApparmor = stage.loose) :
    Leads start site (assign surroundings (cleanup surroundings depth) change) stage
      fun _ => .resting (change stage.vars) := by
  apply ensures_step _ fun _ => tidy_handled working depth
  intro time shell tidy
  rw [tidy.vars]
  exact tidy.reassign owns forgets loose

theorem mktemp_tidy :
    Leads start site (mktemp surroundings (cleanup surroundings depth) site) (.resting vars)
      fun path => ⟨vars, some path, false, []⟩ := by
  apply command_leads working depth
  intro time shell tidy
  by_cases made : surroundings.succeeds time ∧ shell.host.files (surroundings.path time) = none ∧
      surroundings.path time ∉ site.outputs
  · rw [if_pos made]
    exact tidy.make made.2.1 made.2.2
  · rw [if_neg made]
    exact tidy

/-- A file that could not be removed is left to the handler. -/
theorem remove_tidy {path : String} {works : Nat → Bool} (own : some path ∈ held vars) :
    Leads start site (remove surroundings (cleanup surroundings depth) works path)
      (.resting vars) fun _ => ⟨vars, none, false, [path]⟩ := by
  apply command_leads working depth
  intro time shell tidy
  cases works time with
  | false => exact tidy
  | true => exact tidy.clear (List.mem_cons_of_mem _ own)

theorem lsusb_tidy :
    Leads start site (lsusb surroundings (cleanup surroundings depth)) (.resting vars)
      fun _ => .resting vars :=
  external_keeps (tidy_quiet working) depth fun _ _ tidy => { tidy with }

theorem detectBus_tidy (bus : String) :
    Leads start site (detectBus surroundings (cleanup surroundings depth) bus) (.resting vars)
      fun _ => .resting vars := by
  unfold detectBus
  split
  · apply ensures_bind _ (lsusb_tidy working depth)
    intro listed
    split
    · exact ensures_pure fun _ tidy => tidy
    · exact refuse_keeps (tidy_quiet working) depth _
  · exact ensures_pure fun _ tidy => tidy

theorem capturePackets_tidy (bus duration : String) {path : String}
    (own : some path ∈ held vars) :
    Leads start site (capturePackets surroundings (cleanup surroundings depth) bus duration path)
      (.resting vars) fun _ => .resting vars := by
  apply external_keeps (tidy_quiet working) depth
  intro time shell tidy
  have asked : Tidy start site (.resting vars) (shell.ask time (.capture bus duration path)) :=
    { tidy with }
  exact asked.write (.inr (List.mem_cons_of_mem _ own)) fun gone => nomatch gone

theorem observedAddresses_tidy (bus path : String) :
    Leads start site (observedAddresses surroundings (cleanup surroundings depth) bus path)
      (.resting vars) fun _ => .resting vars :=
  ensures_step (fun _ _ tidy => { tidy with }) fun _ => tidy_handled working depth

theorem filterPackets_tidy (chosen : Packet → Bool) (source : String) {target : String}
    (own : some target ∈ held vars) :
    Leads start site (filterPackets surroundings (cleanup surroundings depth) chosen source target)
      (.resting vars) fun _ => .resting vars := by
  apply external_keeps (tidy_quiet working) depth
  intro time shell tidy
  have written : ∀ content, Tidy start site (.resting vars) (shell.write target content) :=
    fun content => tidy.write (.inr (List.mem_cons_of_mem _ own)) fun gone => nomatch gone
  split
  · split
    · exact written _
    · exact written _
  · exact written _

theorem mv_tidy {source target : String} (own : some source ∈ held vars)
    (output : target ∈ site.outputs) :
    Leads start site (mv surroundings (cleanup surroundings depth) source target) (.resting vars)
      fun _ => ⟨vars, none, false, [source]⟩ := by
  apply command_leads working depth
  intro time shell tidy
  have written : ∀ content, Tidy start site (.resting vars) (shell.write target content) :=
    fun content => tidy.write (.inl output) fun gone => nomatch gone
  cases shell.host.files source with
  | none => exact tidy
  | some content =>
      by_cases moved : surroundings.succeeds time = true
      · simp only [moved, if_true]
        exact (written (some content)).clear (List.mem_cons_of_mem _ own)
      · simp only [moved]
        exact written _

theorem summarize_tidy :
    Leads start site (summarize surroundings (cleanup surroundings depth) site) (.resting vars)
      fun _ => .resting vars := by
  apply external_keeps (tidy_quiet working) depth
  intro time shell tidy
  exact tidy.write (.inl (List.mem_cons_of_mem _ List.mem_cons_self)) fun gone => nomatch gone

theorem aaComplain_tidy (enforced : start.profile = .enforce) :
    Leads start site (aaComplain surroundings (cleanup surroundings depth)) (.resting vars)
      fun _ => ⟨vars, none, true, []⟩ := by
  apply command_leads working depth
  intro time shell tidy
  cases succeeds : (surroundings.complains time).succeeds with
  | false =>
      simp only [working.complains time succeeds]
      exact tidy
  | true =>
      exact
        { tidy with
          enforced := fun _ => enforced
          confined := fun keeps => nomatch keeps }

/-- The profile that `aa-status` finds enforced is the one of the start. -/
theorem relaxApparmor_tidy (capture : Option String) :
    Ensures (relaxApparmor surroundings (cleanup surroundings depth))
      (Tidy start site (.resting ⟨capture, none, false⟩))
      (fun _ shell => ∃ restore, Tidy start site (.resting ⟨capture, none, restore⟩) shell)
      (Safe start site) := by
  apply ensures_bind fun enforced shell => Tidy start site (.resting ⟨capture, none, false⟩) shell ∧
    (enforced = true → start.profile = .enforce)
  · apply ensures_step
    · intro time shell tidy
      refine ⟨tidy, fun found => ?_⟩
      rw [Bool.and_eq_true, decide_eq_true_eq] at found
      exact (tidy.confined rfl).symm.trans found.2
    · exact fun _ => (tidy_handled working depth).frame _
  · intro enforced
    apply ensures_fact
    intro profile
    split
    · rename_i found
      apply ensures_bind _ (aaComplain_tidy working depth (profile found))
      intro _
      apply Ensures.weaken _ (fun _ tidy => tidy) (fun _ _ tidy => ⟨true, tidy⟩) fun _ safe => safe
      exact assign_tidy working depth (by simp [held, Stage.owned]) (by simp [held, Stage.owned])
        rfl
    · exact ensures_pure fun _ tidy => ⟨false, tidy⟩

theorem startCapture_tidy (bus duration instruction capture : String) :
    Ensures
      (startCapture surroundings (cleanup surroundings depth) bus duration instruction capture)
      (Tidy start site (.resting ⟨some capture, none, false⟩))
      (fun _ shell => ∃ restore, Tidy start site (.resting ⟨some capture, none, restore⟩) shell)
      (Safe start site) := by
  apply ensures_bind _ (lsusb_tidy working depth)
  intro listed
  apply ensures_bind _ (relaxApparmor_tidy working depth (some capture))
  intro _
  apply ensures_exists
  intro restore
  apply ensures_bind _ (printf_keeps (tidy_quiet working) depth _)
  intro _
  apply ensures_bind _ (capturePackets_tidy working depth bus duration List.mem_cons_self)
  intro _
  apply ensures_bind _ (observedAddresses_tidy working depth bus capture)
  intro observed
  exact ensures_pure fun _ tidy => ⟨restore, tidy⟩

theorem keepTargets_tidy (capture : String) (targets : List Nat) (restore : Bool) :
    Leads start site
      (keepTargets surroundings (cleanup surroundings depth) site capture targets)
      (.resting ⟨some capture, none, restore⟩) fun _ => .resting ⟨none, none, restore⟩ := by
  apply ensures_bind _ (mktemp_tidy working depth)
  intro filtered
  apply ensures_bind _ (assign_tidy working depth (by simp [held, Stage.owned])
    (by simp [held, Stage.owned]) rfl)
  intro _
  apply ensures_bind _ (filterPackets_tidy working depth _ capture
    (List.mem_cons_of_mem _ List.mem_cons_self))
  intro _
  apply ensures_bind _ (external_keeps (tidy_quiet working) depth fun _ _ tidy => tidy)
  intro _
  apply ensures_bind _ (mv_tidy working depth (List.mem_cons_of_mem _ List.mem_cons_self)
    List.mem_cons_self)
  intro _
  apply ensures_bind _ (assign_tidy working depth (by simp [held, Stage.owned])
    (by simp [held, Stage.owned]) rfl)
  intro _
  apply ensures_bind _ (remove_tidy working depth List.mem_cons_self)
  intro _
  apply ensures_bind _ (assign_tidy working depth (by simp [held, Stage.owned])
    (by simp [held, Stage.owned]) rfl)
  intro _
  exact printf_keeps (tidy_quiet working) depth _

theorem keepAll_tidy (capture : String) (restore : Bool) :
    Leads start site (keepAll surroundings (cleanup surroundings depth) site capture)
      (.resting ⟨some capture, none, restore⟩) fun _ => .resting ⟨none, none, restore⟩ := by
  apply ensures_bind _ (external_keeps (tidy_quiet working) depth fun _ _ tidy => tidy)
  intro _
  apply ensures_bind _ (mv_tidy working depth List.mem_cons_self List.mem_cons_self)
  intro _
  apply ensures_bind _ (assign_tidy working depth (by simp [held, Stage.owned])
    (by simp [held, Stage.owned]) rfl)
  intro _
  exact printf_keeps (tidy_quiet working) depth _

theorem keepCapture_tidy (capture : String) (targets : List Nat) (restore : Bool) :
    Leads start site
      (keepCapture surroundings (cleanup surroundings depth) site capture targets)
      (.resting ⟨some capture, none, restore⟩) fun _ => .resting ⟨none, none, restore⟩ := by
  unfold keepCapture
  split
  · exact keepTargets_tidy working depth capture targets restore
  · exact keepAll_tidy working depth capture restore

theorem body_tidy (arguments : List String) :
    Ensures (body surroundings (cleanup surroundings depth) site arguments)
      (Tidy start site (.resting ⟨none, none, false⟩)) (fun _ => Safe start site)
      (Safe start site) := by
  apply ensures_bind _ (checkPositive_keeps (tidy_quiet working) depth _ _)
  intro _
  apply ensures_bind _ (triggerInstruction_keeps (tidy_quiet working) depth _)
  intro instruction
  apply ensures_bind _ (detectBus_tidy working depth _)
  intro bus
  apply ensures_bind _ (checkPositive_keeps (tidy_quiet working) depth _ _)
  intro _
  apply ensures_bind _ (external_keeps (tidy_quiet working) depth fun _ _ tidy => tidy)
  intro _
  apply ensures_bind _ (external_keeps (tidy_quiet working) depth fun _ _ tidy => tidy)
  intro _
  apply ensures_bind _ (mktemp_tidy working depth)
  intro capture
  apply ensures_bind _ (assign_tidy working depth (by simp [held, Stage.owned])
    (by simp [held, Stage.owned]) rfl)
  intro _
  apply ensures_bind _ (startCapture_tidy working depth bus _ instruction capture)
  intro lines
  apply ensures_exists
  intro restore
  apply ensures_bind _ (external_keeps (tidy_quiet working) depth fun _ _ tidy => tidy)
  intro targets
  apply ensures_bind _ (keepCapture_tidy working depth capture _ restore)
  intro _
  apply ensures_bind _ (summarize_tidy working depth)
  intro _
  exact (printf_keeps (tidy_quiet working) depth _).weaken (fun _ tidy => tidy)
    (fun _ _ tidy => ⟨_, tidy⟩) fun _ safe => safe

theorem removeHeld_tidy {cleared : List String} (target : Option String)
    (own : target ∈ held vars) :
    Ensures (removeHeld surroundings (cleanup surroundings depth) target)
      (Tidy start site ⟨vars, none, false, cleared⟩)
      (fun _ => Tidy start site ⟨vars, none, false, target.toList ++ cleared⟩) failed := by
  have unbroken : ¬ CleansUp surroundings → ∀ shell,
      Tidy start site ⟨vars, none, false, cleared⟩ shell → failed shell :=
    fun broken => absurd working.cleansUp broken
  apply removeHeld_ensures (fun _ tidy => tidy) (tidy_handled working depth)
    (tidy_handled working depth) unbroken
  · rintro path rfl shell tidy
    exact tidy.clear (List.mem_cons_of_mem _ own)
  · rintro rfl shell tidy
    exact tidy

theorem aaEnforce_tidy (restores : stage.vars.restoreApparmor = true) :
    Ensures (aaEnforce surroundings (cleanup surroundings depth)) (Tidy start site stage)
      (fun _ shell => Tidy start site stage shell ∧ shell.host.profile = .enforce) failed := by
  have stable : Stable surroundings
      (fun shell => Tidy start site stage shell ∧ shell.host.profile = .enforce) failed :=
    { removal := fun shell path enforced own =>
        ⟨enforced.1.remove own, enforced.2⟩
      enforcing := fun shell enforced _ => ⟨enforced.1.enforce restores, rfl⟩
      stuck := absurd working.cleansUp }
  have unbroken : ¬ CleansUp surroundings → ∀ shell, Tidy start site stage shell → failed shell :=
    absurd working.cleansUp
  apply aaEnforce_ensures (fun _ tidy => tidy) (tidy_handled working depth)
    (cleanup_keeps stable depth) unbroken
  exact fun shell tidy => ⟨tidy.enforce restores, rfl⟩

/-- The last run of the handler undoes everything. -/
theorem cleanup_restores : Ensures (cleanup surroundings (depth + 1)) (Safe start site)
    (fun _ => Restored start site) failed := by
  apply ensures_exists
  intro vars
  apply ensures_current_bind
  intro shell tidy
  rw [tidy.vars]
  apply ensures_bind fun _ => Tidy start site
    ⟨vars, none, false, vars.captureTmp.toList ++ []⟩
  · exact (removeHeld_tidy working depth _ List.mem_cons_self).weaken (fun _ same => same ▸ tidy)
      (fun _ _ tidy => tidy) fun _ broken => broken
  intro _
  apply ensures_current_bind
  intro shell tidy
  rw [tidy.vars]
  apply ensures_bind fun _ => Tidy start site
    ⟨vars, none, false, vars.filteredTmp.toList ++ (vars.captureTmp.toList ++ [])⟩
  · exact (removeHeld_tidy working depth _ (List.mem_cons_of_mem _ List.mem_cons_self)).weaken
      (fun _ same => same ▸ tidy) (fun _ _ tidy => tidy) fun _ broken => broken
  intro _
  apply ensures_current_bind
  intro shell tidy
  rw [tidy.vars]
  have all : ∀ path, some path ∈ held vars →
      path ∈ vars.filteredTmp.toList ++ (vars.captureTmp.toList ++ []) := by
    intro path own
    simpa [held, or_comm, eq_comm] using own
  split
  · rename_i restores
    exact (aaEnforce_tidy working depth restores).weaken (fun _ same => same ▸ tidy)
      (fun _ _ reached => reached.1.restored all fun _ => reached.2) fun _ broken => broken
  · rename_i keeps
    exact ensures_pure fun _ same => same ▸ tidy.restored all fun restores => absurd restores keeps

end Steps

theorem fresh_tidy (start : Host) (site : Site) :
    Tidy start site (.resting ⟨none, none, false⟩) (.fresh start) where
  vars := rfl
  files _ _ _ := rfl
  fresh path own := by simp [Stage.owned, Stage.resting, held] at own
  cleared _ gone := nomatch gone
  enforced loose := nomatch loose
  confined _ := rfl

/-- A signal arrives with every command, and the capture itself fails. -/
def interrupted : Surroundings where
  signals _ := 1
  removes _ := true
  enforces _ := true
  complains _ := ⟨true, true⟩
  inspects _ := true
  succeeds time := time < 30
  path time := "/tmp/smiusb-cycle." ++ toString time
  listed _ := [⟨3, "005"⟩]
  addresses _ := []
  written _ := none

theorem interrupted_working : Working interrupted where
  cleansUp _ := ⟨rfl, rfl⟩
  complains _ fails := nomatch fails

end Smiusb.CaptureSafety
