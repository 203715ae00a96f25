import Smiusb.CaptureCycle
import Smiusb.Texts

/-!
What a capture that succeeds has kept: the packets that `tshark` captured from
the addresses of the adapter, or everything together with a warning when no
address was found. The display filter is a text that the script puts together
in a loop, so the first part is that this text means what it should.
-/

namespace Smiusb.CaptureContent
open Execution Methods Traps CaptureCycle

section Filter

theorem tokens_append (front back : List Char) :
    tokens (front ++ ' ' :: back) = tokens front ++ tokens back := by
  rw [tokens, tokens, tokens, List.splitOnP_append_cons _ _ rfl, List.filter_append]

theorem tokens_word (word : List Char) (filled : word ≠ []) (whole : ' ' ∉ word) :
    tokens word = [word] := by
  have alone : word.splitOnP (· == ' ') = [word] := by
    apply List.splitOnP_eq_singleton
    intro character member
    simpa using ne_of_mem_of_not_mem member whole
  simp [tokens, alone, filled]

theorem toList_address (address : Nat) : (toString address).toList = Nat.toDigits 10 address := by
  simp

theorem not_in_address (character : Char) (other : character.isDigit = false) (address : Nat) :
    character ∉ (toString address).toList := by
  rw [toList_address]
  exact Texts.not_in_decimal character other address

theorem tokens_address (address : Nat) :
    tokens (toString address).toList = [(toString address).toList] := by
  apply tokens_word
  · rw [toList_address]
    exact List.ne_nil_of_length_pos Nat.length_toDigits_pos
  · exact not_in_address ' ' rfl address

theorem tokens_clause (address : Nat) :
    tokens (addressClause address).toList = clauseTokens address := by
  have front : "usb.device_address == ".toList =
      "usb.device_address".toList ++ ' ' :: ("==".toList ++ [' ']) := by decide
  have spaced : (addressClause address).toList =
      "usb.device_address".toList ++ ' ' :: ("==".toList ++ ' ' :: (toString address).toList) := by
    change ("usb.device_address == " ++ toString address).toList = _
    simp only [String.toList_append, front, List.append_assoc, List.cons_append, List.nil_append]
  rw [spaced, tokens_append, tokens_append, tokens_address,
    tokens_word _ (by simp) (by simp), tokens_word _ (by simp) (by simp)]
  rfl

theorem clause_whole (address : Nat) :
    (clauseTokens address).splitOnP (· == ['|', '|']) = [clauseTokens address] := by
  apply List.splitOnP_eq_singleton
  have differs : (toString address).toList ≠ ['|', '|'] := by
    intro same
    exact not_in_address '|' rfl address (same ▸ List.mem_cons_self)
  simpa [clauseTokens] using differs

theorem clause_eq_iff (one other : Nat) : clauseTokens one = clauseTokens other ↔ one = other := by
  constructor
  · intro same
    simp only [clauseTokens, List.cons.injEq, and_true, true_and] at same
    have read := congrArg (fun digits => Nat.ofDigitChars 10 digits 0) same
    simpa using read
  · exact congrArg clauseTokens

theorem selects_clause (address : Nat) (packet : Packet) :
    selects (addressClause address) packet = decide (packet.address = address) := by
  rw [selects, tokens_clause, clause_whole, List.any_cons, List.any_nil, Bool.or_false,
    beq_eq_decide]
  exact decide_eq_decide.mpr ((clause_eq_iff _ _).trans eq_comm)

theorem selects_extended {filter : String} (filled : filter ≠ "") (address : Nat)
    (packet : Packet) :
    selects (extendFilter filter address) packet =
      (selects filter packet || decide (packet.address = address)) := by
  have spaced : (extendFilter filter address).toList =
      filter.toList ++ ' ' :: (['|', '|'] ++ ' ' :: (addressClause address).toList) := by
    have between : " || ".toList = ' ' :: (['|', '|'] ++ [' ']) := by decide
    rw [extendFilter, if_pos filled, String.toList_append, String.toList_append, between]
    simp only [List.append_assoc, List.cons_append, List.nil_append]
  rw [← selects_clause address packet]
  simp only [selects, spaced, tokens_append]
  rw [tokens_word ['|', '|'] (by simp) (by simp), List.singleton_append,
    List.splitOnP_append_cons _ _ (by simp), List.any_append]

theorem extended_filled (filter : String) (address : Nat) : extendFilter filter address ≠ "" := by
  intro empty
  have texts := congrArg String.toList empty
  change ((if filter ≠ "" then filter ++ " || " else filter) ++
    ("usb.device_address == " ++ toString address)).toList = _ at texts
  simp at texts

theorem selects_loop (addresses : List Nat) {filter : String} (filled : filter ≠ "")
    (packet : Packet) :
    selects (addresses.foldl extendFilter filter) packet =
      (selects filter packet || decide (packet.address ∈ addresses)) := by
  induction addresses generalizing filter with
  | nil => simp
  | cons address rest ih =>
      rw [List.foldl_cons, ih (extended_filled filter address), selects_extended filled]
      simp [Bool.or_assoc]

theorem selects_targets (targets : List Nat) (found : targets ≠ []) (packet : Packet) :
    selects (targetFilter targets) packet = decide (packet.address ∈ targets) := by
  cases targets with
  | nil => exact absurd rfl found
  | cons address rest =>
      have first : extendFilter "" address = addressClause address := by simp [extendFilter]
      rw [targetFilter, List.foldl_cons, selects_loop rest (extended_filled "" address), first,
        selects_clause]
      simp

end Filter

/-- What is in the file at `path` fits if there is one; `names` is what is
known of the two variables for temporary files. -/
structure Reached (path : String) (fits : Content → Prop)
    (names : Option String → Option String → Prop) (texts : List String)
    (asked : List (Nat × Question)) (shell : Shell) : Prop where
  content : ∀ content, shell.host.files path = some content → fits content
  names : names shell.vars.captureTmp shell.vars.filteredTmp
  printed : ∀ text ∈ texts, text ∈ shell.printed
  asked : shell.asked = asked

/-- A capture file holds what `keep` leaves of the packets that `tshark` has
captured at the time `during`. -/
def Holds (surroundings : Surroundings) (during : Nat) (keep : List Packet → List Packet)
    (content : Content) : Prop :=
  ∀ packets, content = .capture packets →
    ∃ captured, surroundings.written during = some (.capture captured) ∧ packets = keep captured

section Steps
variable {surroundings : Surroundings} {path : String} {fits : Content → Prop}
  {names : Option String → Option String → Prop} {texts : List String}
  {asked : List (Nat × Question)} {during : Nat} {shell : Shell}

theorem Reached.write (reached : Reached path fits names texts asked shell) (other : String)
    {content : Option Content}
    (fitting : other = path → ∀ found, content = some found → fits found) :
    Reached path fits names texts asked (shell.write other content) where
  content found present := by
    by_cases same : path = other
    · exact fitting same.symm found ((if_pos same).symm.trans present)
    · exact reached.content found ((if_neg same).symm.trans present)
  names := reached.names
  printed := reached.printed
  asked := reached.asked

theorem reached_quiet (surroundings : Surroundings) :
    Quiet surroundings (Reached path fits names texts asked) fun _ => True where
  removal _ other reached _ := reached.write other fun _ _ absent => nomatch absent
  enforcing _ reached _ := { reached with }
  stuck _ _ _ := trivial
  printing _ _ reached :=
    { reached with
      printed := fun one known => List.mem_append_left _ (reached.printed one known) }
  stopping _ _ := trivial

theorem cleanup_ends (surroundings : Surroundings) (depth : Nat) :
    Ensures (cleanup surroundings depth) (fun _ => True) (fun _ _ => True) fun _ => True := by
  apply cleanup_keeps
  exact ⟨fun _ _ _ _ => trivial, fun _ _ _ => trivial, fun _ _ _ => trivial⟩

theorem external_reached {Value : Type} {deed : Nat → Shell → Option Value × Shell}
    {before : Shell → Prop} {after : Value → Shell → Prop} (depth : Nat)
    (done : ∀ time shell value, before shell → (deed time shell).1 = some value →
      after value (deed time shell).2)
    (stable : ∀ value, Stable surroundings (after value) fun _ => True) :
    Ensures (external surroundings (cleanup surroundings depth) deed) before after
      fun _ => True := by
  apply ensures_command (fun _ => True) _ (fun value => cleanup_keeps (stable value) depth)
    (cleanup_ends surroundings depth) fun _ _ => trivial
  intro time shell holds
  cases answer : (deed time shell).1 with
  | none => trivial
  | some value => exact done time shell value holds answer

theorem assign_reached (after : Option String → Option String → Prop)
    {change : Variables → Variables} (depth : Nat)
    (named : ∀ vars, names vars.captureTmp vars.filteredTmp →
      after (change vars).captureTmp (change vars).filteredTmp) :
    Ensures (assign surroundings (cleanup surroundings depth) change)
      (Reached path fits names texts asked) (fun _ => Reached path fits after texts asked)
      fun _ => True :=
  ensures_step
    (fun _ _ reached => { reached with names := named _ reached.names })
    fun _ => cleanup_keeps (reached_quiet surroundings).toStable depth

theorem mktemp_reached (site : Site) (depth : Nat) (empty : fits .other) :
    Ensures (mktemp surroundings (cleanup surroundings depth) site)
      (Reached path fits names texts asked) (fun _ => Reached path fits names texts asked)
      fun _ => True := by
  apply external_keeps (reached_quiet surroundings) depth
  intro time shell reached
  split
  · apply reached.write
    rintro _ found made
    cases made
    exact empty
  · exact reached

theorem printf_reached (text : String) (depth : Nat) :
    Ensures (printf surroundings (cleanup surroundings depth) text)
      (Reached path fits names texts asked) (fun _ => Reached path fits names (text :: texts) asked)
      fun _ => True := by
  apply external_reached depth _ fun _ => (reached_quiet surroundings).toStable
  intro time shell _ reached succeeded
  cases printed : surroundings.succeeds time with
  | false => simp [printed] at succeeded
  | true =>
      refine { reached with printed := fun one known => ?_ }
      obtain rfl | old := List.mem_cons.mp known
      · exact List.mem_append_right _ List.mem_cons_self
      · exact List.mem_append_left _ (reached.printed one old)

theorem relaxApparmor_reached (depth : Nat) :
    Ensures (relaxApparmor surroundings (cleanup surroundings depth))
      (Reached path fits names texts asked) (fun _ => Reached path fits names texts asked)
      fun _ => True := by
  have quiet : Quiet surroundings (Reached path fits names texts asked) fun _ => True :=
    reached_quiet surroundings
  apply ensures_bind fun _ => Reached path fits names texts asked
  · exact ensures_step (fun _ _ reached => reached) fun _ => cleanup_keeps quiet.toStable depth
  intro enforced
  split
  · apply ensures_bind fun _ => Reached path fits names texts asked
    · apply external_keeps quiet depth
      intro time shell reached
      have confined : Reached path fits names texts asked (shell.confine .complain) :=
        { reached with }
      split
      · exact confined
      · dsimp only
        split
        · exact confined
        · exact reached
    · exact fun _ => assign_reached names depth fun _ named => named
  · exact ensures_pure fun _ reached => reached

theorem Reached.ask (reached : Reached path fits names texts asked shell) (time : Nat)
    (question : Question) :
    Reached path fits names texts (asked ++ [(time, question)]) (shell.ask time question) :=
  { reached with asked := congrArg (· ++ [(time, question)]) reached.asked }

theorem lsusb_reached (depth : Nat) :
    Ensures (lsusb surroundings (cleanup surroundings depth)) (Reached path fits names texts asked)
      (fun listed shell => ∃ time,
        Reached path fits names texts (asked ++ [(time, .lsusb)]) shell ∧
          listed = surroundings.listed time)
      fun _ => True := by
  apply external_reached depth
  · intro time shell listed reached answered
    refine ⟨time, reached.ask time .lsusb, ?_⟩
    cases succeeded : surroundings.succeeds time with
    | false => simp [succeeded] at answered
    | true => simpa [succeeded] using answered.symm
  · exact fun listed => stable_exists fun time => (reached_quiet surroundings).toStable.frame _

/-- How the script came to its bus: it was given, or `lsusb` showed only one. -/
def Detected (surroundings : Surroundings) (given bus : String)
    (asked : List (Nat × Question)) : Prop :=
  (given ≠ "" ∧ bus = given ∧ asked = []) ∨
    (given = "" ∧ ∃ time number, asked = [(time, .lsusb)] ∧ bus = toString number ∧
      sortNumbers ((surroundings.listed time).map Listed.bus) = [number])

theorem detectBus_reached (given : String) (depth : Nat) :
    Ensures (detectBus surroundings (cleanup surroundings depth) given)
      (Reached path fits names texts [])
      (fun bus shell => ∃ asked, Reached path fits names texts asked shell ∧
        Detected surroundings given bus asked)
      fun _ => True := by
  unfold detectBus
  split
  · rename_i missing
    apply ensures_bind _ (lsusb_reached depth)
    intro listed
    apply ensures_exists
    intro time
    apply ensures_fact
    rintro rfl
    split
    · rename_i number single
      exact ensures_pure fun _ reached =>
        ⟨_, reached, .inr ⟨missing, time, number, rfl, rfl, single⟩⟩
    · exact refuse_keeps (reached_quiet surroundings) depth _
  · rename_i present
    exact ensures_pure fun _ reached => ⟨[], reached, .inl ⟨present, rfl, rfl⟩⟩

theorem capturePackets_reached (bus duration capture : String) (depth : Nat) :
    Ensures (capturePackets surroundings (cleanup surroundings depth) bus duration capture)
      (Reached path fits names texts asked)
      (fun _ shell => ∃ during, Reached capture (Holds surroundings during id) names texts
        (asked ++ [(during, .capture bus duration capture)]) shell)
      fun _ => True := by
  apply external_reached depth
  · intro time shell _ reached _
    have asking := reached.ask time (.capture bus duration capture)
    refine ⟨time, fun content present packets same => ?_, asking.names, asking.printed,
      asking.asked⟩
    have written : surroundings.written time = some content := (if_pos rfl).symm.trans present
    exact ⟨packets, same ▸ written, rfl⟩
  · exact fun _ => stable_exists fun during => (reached_quiet surroundings).toStable

theorem observedAddresses_reached (bus capture : String) (depth : Nat) :
    Ensures (observedAddresses surroundings (cleanup surroundings depth) bus capture)
      (Reached path fits names texts asked)
      (fun lines shell => ∃ time,
        Reached path fits names texts (asked ++ [(time, .observe bus capture)]) shell ∧
          lines = surroundings.addresses time)
      fun _ => True :=
  ensures_step (fun time _ reached => ⟨time, reached.ask time _, rfl⟩) fun _ =>
    cleanup_keeps (stable_exists fun _ => (reached_quiet surroundings).toStable.frame _) depth

/-- What was asked on the way, and when. -/
structure Inquiry where
  bus : String
  capture : String
  detection : List (Nat × Question)
  before : Nat
  during : Nat
  after : Nat

/-- The questions of a whole run, in their order. -/
def Inquiry.questions (inquiry : Inquiry) (duration : String) : List (Nat × Question) :=
  inquiry.detection ++ [(inquiry.before, .lsusb),
    (inquiry.during, .capture inquiry.bus duration inquiry.capture),
    (inquiry.after, .observe inquiry.bus inquiry.capture)]

/-- The lines in which the script looks for addresses. -/
def Inquiry.lines (surroundings : Surroundings) (inquiry : Inquiry) : List String :=
  initialAddresses inquiry.bus (surroundings.listed inquiry.before) ++
    surroundings.addresses inquiry.after

theorem startCapture_reached (bus duration instruction capture : String)
    (detection : List (Nat × Question)) (depth : Nat) :
    Ensures
      (startCapture surroundings (cleanup surroundings depth) bus duration instruction capture)
      (Reached path fits names [] detection)
      (fun lines shell => ∃ times : Nat × Nat × Nat,
        let inquiry : Inquiry := ⟨bus, capture, detection, times.1, times.2.1, times.2.2⟩
        Reached capture (Holds surroundings inquiry.during id) names []
          (inquiry.questions duration) shell ∧ lines = inquiry.lines surroundings)
      fun _ => True := by
  apply ensures_bind _ (lsusb_reached depth)
  intro listed
  apply ensures_exists
  intro before
  apply ensures_fact
  rintro rfl
  apply ensures_bind _ (relaxApparmor_reached depth)
  intro _
  apply ensures_bind _ (printf_keeps (reached_quiet surroundings) depth _)
  intro _
  apply ensures_bind _ (capturePackets_reached bus duration capture depth)
  intro _
  apply ensures_exists
  intro during
  apply ensures_bind _ (observedAddresses_reached bus capture depth)
  intro observed
  apply ensures_exists
  intro after
  apply ensures_fact
  rintro rfl
  refine ensures_pure fun _ reached => ⟨(before, during, after), ?_, rfl⟩
  simpa only [Inquiry.questions, List.append_assoc, List.cons_append, List.nil_append] using reached

theorem filterPackets_reached {keep : List Packet → List Packet} (chosen : Packet → Bool)
    (source target : String) (depth : Nat) :
    Ensures (filterPackets surroundings (cleanup surroundings depth) chosen source target)
      (Reached source (Holds surroundings during keep) names texts asked)
      (fun _ => Reached target
        (Holds surroundings during fun captured => (keep captured).filter chosen) names texts asked)
      fun _ => True := by
  apply external_reached depth _ fun _ => (reached_quiet surroundings).toStable
  intro time shell _ reached succeeded
  cases found : shell.host.files source with
  | none => simp [found] at succeeded
  | some content =>
      cases content with
      | other => simp [found] at succeeded
      | capture packets =>
          cases written : surroundings.succeeds time with
          | false => simp [found, written] at succeeded
          | true =>
              simp only [if_true]
              refine ⟨fun content present => ?_, reached.names, reached.printed, reached.asked⟩
              obtain rfl : Content.capture (packets.filter chosen) = content :=
                Option.some_inj.mp ((if_pos rfl).symm.trans present)
              rintro kept ⟨⟩
              obtain ⟨captured, known, rfl⟩ := reached.content _ found packets rfl
              exact ⟨captured, known, rfl⟩

theorem mv_reached (source target : String) (depth : Nat) :
    Ensures (mv surroundings (cleanup surroundings depth) source target)
      (Reached source fits names texts asked) (fun _ => Reached target fits names texts asked)
      fun _ => True := by
  apply external_reached depth _ fun _ => (reached_quiet surroundings).toStable
  intro time shell _ reached succeeded
  cases holds : shell.host.files source with
  | none => simp [holds] at succeeded
  | some content =>
      cases moved : surroundings.succeeds time with
      | false => simp [holds, moved] at succeeded
      | true =>
          have placed : Reached target fits names texts asked
              (shell.write target (some content)) := by
            refine ⟨fun found present => ?_, reached.names, reached.printed, reached.asked⟩
            obtain rfl : content = found := Option.some_inj.mp ((if_pos rfl).symm.trans present)
            exact reached.content content holds
          simp only [if_true]
          exact placed.write source fun _ _ absent => nomatch absent

/-- What is left of a capture, for the addresses that were found. -/
def keptPackets (targets : List Nat) (captured : List Packet) : List Packet :=
  if targets = [] then captured else captured.filter fun packet => packet.address ∈ targets

def keptText (targets : List Nat) : String :=
  if targets = [] then fullBusWarning else keptMessage targets

def Unnamed (capture filtered : Option String) : Prop := capture = none ∧ filtered = none

theorem keepTargets_reached (site : Site) (capture : String) {targets : List Nat}
    (found : targets ≠ []) (depth : Nat) :
    Ensures (keepTargets surroundings (cleanup surroundings depth) site capture targets)
      (Reached capture (Holds surroundings during id) (fun _ filtered => filtered = none) [] asked)
      (fun _ => Reached site.captureFile (Holds surroundings during (keptPackets targets)) Unnamed
        [keptText targets] asked) fun _ => True := by
  have selected : (fun captured : List Packet =>
      (id captured).filter (selects (targetFilter targets))) = keptPackets targets := by
    funext captured
    rw [keptPackets, if_neg found, id]
    exact List.filter_congr fun packet _ => selects_targets targets found packet
  rw [keptText, if_neg found, ← selected]
  apply ensures_bind _ (mktemp_reached site depth fun _ capture => nomatch capture)
  intro filtered
  apply ensures_bind _ (assign_reached (fun _ _ => True) depth fun _ _ => trivial)
  intro _
  apply ensures_bind _ (filterPackets_reached _ capture filtered depth)
  intro _
  apply ensures_bind _
    (external_keeps (reached_quiet surroundings) depth fun _ _ reached => reached)
  intro _
  apply ensures_bind _ (mv_reached filtered site.captureFile depth)
  intro _
  apply ensures_bind _
    (assign_reached (fun _ filtered => filtered = none) depth fun _ _ => rfl)
  intro _
  apply ensures_bind fun _ =>
    Reached site.captureFile _ (fun _ filtered => filtered = none) [] asked
  · apply external_keeps (reached_quiet surroundings) depth
    intro time shell reached
    split
    · exact reached.write capture fun _ _ absent => nomatch absent
    · exact reached
  intro _
  apply ensures_bind _ (assign_reached Unnamed depth fun _ named => ⟨rfl, named⟩)
  intro _
  exact printf_reached _ depth

theorem keepAll_reached (site : Site) (capture : String) (depth : Nat) :
    Ensures (keepAll surroundings (cleanup surroundings depth) site capture)
      (Reached capture (Holds surroundings during id) (fun _ filtered => filtered = none) [] asked)
      (fun _ => Reached site.captureFile (Holds surroundings during id) Unnamed [fullBusWarning]
        asked) fun _ => True := by
  apply ensures_bind _
    (external_keeps (reached_quiet surroundings) depth fun _ _ reached => reached)
  intro _
  apply ensures_bind _ (mv_reached capture site.captureFile depth)
  intro _
  apply ensures_bind _ (assign_reached Unnamed depth fun _ named => ⟨rfl, named⟩)
  intro _
  exact printf_reached _ depth

theorem keepCapture_reached (site : Site) (capture : String) (targets : List Nat) (depth : Nat) :
    Ensures (keepCapture surroundings (cleanup surroundings depth) site capture targets)
      (Reached capture (Holds surroundings during id) (fun _ filtered => filtered = none) [] asked)
      (fun _ => Reached site.captureFile (Holds surroundings during (keptPackets targets)) Unnamed
        [keptText targets] asked) fun _ => True := by
  by_cases found : targets = []
  · have everything : keptPackets targets = id := by
      funext captured
      exact if_pos found
    rw [keepCapture, if_neg (not_not.mpr found), keptText, if_pos found, everything]
    exact keepAll_reached site capture depth
  · rw [keepCapture, if_pos found]
    exact keepTargets_reached site capture found depth

end Steps

/-- The capture is in place, and no variable names a file to remove. -/
structure Finished (surroundings : Surroundings) (site : Site) (arguments : Arguments)
    (inquiry : Inquiry) (shell : Shell) : Prop where
  asked : shell.asked = inquiry.questions arguments.duration
  detected : Detected surroundings arguments.bus inquiry.bus inquiry.detection
  kept : ∃ captured, surroundings.written inquiry.during = some (.capture captured) ∧
    shell.host.files site.captureFile = some (.capture
      (keptPackets (targetAddresses (inquiry.lines surroundings)) captured))
  unnamed : Unnamed shell.vars.captureTmp shell.vars.filteredTmp
  printed : keptText (targetAddresses (inquiry.lines surroundings)) ∈ shell.printed

section Whole
variable {surroundings : Surroundings} {site : Site} {arguments : Arguments} {inquiry : Inquiry}

theorem finished_quiet :
    Quiet surroundings (Finished surroundings site arguments inquiry) fun _ => True where
  removal _ path finished own := by
    simp [held, finished.unnamed.1, finished.unnamed.2] at own
  enforcing _ finished _ := { finished with }
  stuck _ _ _ := trivial
  printing _ _ finished :=
    { finished with printed := List.mem_append_left _ finished.printed }
  stopping _ _ := trivial

theorem output_names_differ (site : Site) : site.captureFile ≠ site.summaryFile := by
  intro same
  have texts := congrArg String.toList same
  simp [Site.captureFile, Site.summaryFile] at texts

theorem summarize_finished
    (detected : Detected surroundings arguments.bus inquiry.bus inquiry.detection) (depth : Nat) :
    Ensures (summarize surroundings (cleanup surroundings depth) site)
      (Reached site.captureFile
        (Holds surroundings inquiry.during
          (keptPackets (targetAddresses (inquiry.lines surroundings))))
        Unnamed [keptText (targetAddresses (inquiry.lines surroundings))]
        (inquiry.questions arguments.duration))
      (fun _ => Finished surroundings site arguments inquiry) fun _ => True := by
  apply external_reached depth _ fun _ => finished_quiet.toStable
  intro time shell _ reached succeeded
  dsimp only at succeeded
  split at succeeded
  · rename_i packets present
    obtain ⟨captured, written, rfl⟩ := reached.content _ present packets rfl
    exact {
      asked := reached.asked
      detected := detected
      kept := ⟨captured, written, (if_neg (output_names_differ site)).trans present⟩
      unnamed := reached.names
      printed := reached.printed _ List.mem_cons_self }
  · exact nomatch succeeded

theorem sortAddresses_reached {path : String} {fits : Content → Prop}
    {names : Option String → Option String → Prop} {texts : List String}
    {asked : List (Nat × Question)} (lines : List String) (depth : Nat) :
    Ensures (sortAddresses surroundings (cleanup surroundings depth) lines)
      (Reached path fits names texts asked)
      (fun targets shell => Reached path fits names texts asked shell ∧
        targets = targetAddresses lines)
      fun _ => True := by
  apply external_reached depth _ fun _ => (reached_quiet surroundings).toStable.frame _
  intro time shell targets reached answered
  refine ⟨reached, ?_⟩
  cases succeeded : surroundings.succeeds time with
  | false => simp [succeeded] at answered
  | true => simpa [succeeded] using answered.symm

theorem body_finished (texts : List String) (depth : Nat) :
    Ensures (body surroundings (cleanup surroundings depth) site texts)
      (Reached "" (fun _ => True) (fun _ filtered => filtered = none) [] [])
      (fun _ shell => ∃ inquiry,
        Finished surroundings site (readArguments texts) inquiry shell)
      fun _ => True := by
  have quiet : ∀ asked, Quiet surroundings
      (Reached "" (fun _ => True) (fun _ filtered => filtered = none) [] asked) fun _ => True :=
    fun _ => reached_quiet surroundings
  apply ensures_bind _ (checkPositive_keeps (quiet []) depth _ _)
  intro _
  apply ensures_bind _ (triggerInstruction_keeps (quiet []) depth _)
  intro instruction
  apply ensures_bind _ (detectBus_reached _ depth)
  intro bus
  apply ensures_exists
  intro detection
  apply ensures_fact
  intro detected
  apply ensures_bind _ (checkPositive_keeps (quiet detection) depth _ _)
  intro _
  apply ensures_bind _ (external_keeps (quiet detection) depth fun _ _ reached => reached)
  intro _
  apply ensures_bind _ (external_keeps (quiet detection) depth fun _ _ reached => reached)
  intro _
  apply ensures_bind _ (mktemp_reached site depth trivial)
  intro capture
  apply ensures_bind _
    (assign_reached (fun _ filtered => filtered = none) depth fun _ named => named)
  intro _
  apply ensures_bind _ (startCapture_reached bus _ instruction capture detection depth)
  intro lines
  apply ensures_exists
  intro times
  apply ensures_fact
  rintro rfl
  apply ensures_bind _ (sortAddresses_reached _ depth)
  intro targets
  apply ensures_fact
  rintro rfl
  apply ensures_bind _ (keepCapture_reached site capture _ depth)
  intro _
  apply ensures_bind _ (summarize_finished detected depth)
  intro _
  exact (printf_keeps finished_quiet depth _).weaken (fun _ finished => finished)
    (fun _ _ finished => ⟨_, finished⟩) fun _ stopped => stopped

/-- Two devices of the bus are the adapter's, before and behind a reconnect. -/
def undisturbed : Surroundings where
  signals _ := 0
  removes _ := true
  enforces _ := true
  complains _ := ⟨true, true⟩
  inspects _ := true
  succeeds _ := true
  path time := "/tmp/smiusb-cycle." ++ toString time
  listed _ := [⟨3, "005"⟩]
  addresses _ := ["6"]
  written _ := some (.capture [⟨5, 1⟩, ⟨9, 2⟩, ⟨6, 3⟩])

def workshop : Site := ⟨"/srv/smiusb", "20260101-120000"⟩

def confinedHost : Host := ⟨.enforce, fun _ => none⟩

end Whole

end Smiusb.CaptureContent
