import Acquisition.Grab.Rules
import Acquisition.Proofs.Decision
import Acquisition.Proofs.Engine
import Acquisition.Proofs.Upgrade

/-!
# What the rules for a grab admit

Two of the rules for a grab ask for the time: the minimum age and the delay.  They reject for now.
The other nine reject for good, and together they admit a candidate on a condition that can be
said without them: it is allowed for the media item, it beats the file and everything that is
queued, it is not blocked, and an earlier grab of it was of the same quality model.

## Main definitions

* `Admissible`: what a candidate has to meet.
* `isTimeGate`: the names of the rules that ask for the time.

## Main results

* `GrabRules.lasting_accept_iff`: the nine rules accept exactly what is admissible.
* `GrabRules.explain_accepts_iff_admissible`: the same of the standard engine as it explains.
-/

namespace Acquisition

/-! ### The condition -/

theorem Tags.disjoint_iff {a b : Tags} : Tags.disjoint a b = true ↔ ¬ ∃ tag ∈ a, tag ∈ b := by
  simp [Tags.disjoint]

theorem Blocklist.blocks_eq_false {blocklist : Blocklist} {mediaId : MediaId}
    {release : Release} : blocklist.blocks mediaId release = false ↔
      ∀ entry ∈ blocklist, entry.blocks mediaId release = false := by
  simp [Blocklist.blocks]

/-- One of the sets is empty, or they share a tag. -/
def TagsMeet (a b : Tags) : Prop :=
  a = [] ∨ b = [] ∨ ∃ tag ∈ a, tag ∈ b

/-- Both groups have a name, and the names agree up to the case of ASCII letters. -/
def SameNamedGroup (a b : Option String) : Prop :=
  ∃ first second, a = some first ∧ b = some second ∧ Text.isBlankText first = false ∧
    Text.isBlankText second = false ∧ Text.equalIgnoringCase first second = true

/-- The candidate may take the place of the file: as a redone release where those are wanted,
which from the second version on has to come from the group of the file, or as an improvement. -/
def BeatsFile (policy : UpgradePolicy) (candidate : GrabCandidate) (file : MediaFile) : Prop :=
  (UpgradePolicy.Redoes file.quality candidate.quality ∧ policy.propersAndRepacks = true ∧
      (1 < candidate.quality.revision.version →
        SameNamedGroup file.group candidate.parsed.group)) ∨
    UpgradePolicy.Improves candidate.profile file.quality candidate.quality

/-- Where the candidate has a number that clients know it by, the history answers for that number,
and the newest grab among the records was of a quality model equal to the candidate's. -/
def AgreesWithGrab {σ : Type} (history : HistoryReader σ) (candidate : GrabCandidate) (s : σ) :
    Prop :=
  ∀ downloadId, candidate.knownId? = some downloadId →
    ∃ records t, history.forDownload downloadId s = (.ok records, t) ∧
      ∀ record, records.find? (·.event == .grabbed) = some record →
        candidate.profile.cmp record.quality candidate.quality = .eq

/-- What a candidate has to meet, whatever the time. -/
structure Admissible {σ : Type} (deps : GrabRules σ) (candidate : GrabCandidate) (s : σ) :
    Prop where
  tags : TagsMeet candidate.release.indexerTags candidate.media.tags
  wanted : candidate.profile.isAllowed candidate.quality.quality = true
  file : ∀ file, candidate.media.file = some file →
    BeatsFile (.ofSettings deps.settings) candidate file
  unblocked : ∀ entry ∈ deps.blocklist, entry.blocks candidate.media.id candidate.release = false
  regrab : AgreesWithGrab deps.history candidate s
  queued : ∀ queued ∈ deps.queued candidate.media.id, queued.failed = false →
    (UpgradePolicy.ofSettings deps.settings).Beats candidate.profile queued.quality
      candidate.quality

/-- The rules that ask for the time. -/
def isTimeGate (rule : String) : Bool :=
  rule == "minimum-age" || rule == "delay"

namespace GrabRules

variable {σ : Type} {candidate : GrabCandidate} {context : Option SearchContext} {s : σ}

/-! ### One rule at a time -/

theorem tagRestriction_accepts_iff :
    (tagRestriction : Rule σ GrabCandidate).verdict candidate context s = .accepted ↔
      TagsMeet candidate.release.indexerTags candidate.media.tags := by
  simp only [Rule.verdict, tagRestriction, Rule.pure, TagsMeet]
  by_cases hempty : candidate.release.indexerTags = [] ∨ candidate.media.tags = []
  · rw [if_pos (by simpa using hempty)]
    rcases hempty with h | h
    · exact iff_of_true rfl (Or.inl h)
    · exact iff_of_true rfl (Or.inr (Or.inl h))
  · rw [if_neg (by simpa using hempty)]
    rw [not_or] at hempty
    simp only [hempty.1, hempty.2, false_or]
    by_cases hshared : ∃ tag ∈ candidate.release.indexerTags, tag ∈ candidate.media.tags
    · rw [if_neg (by rw [Tags.disjoint_iff]; exact not_not_intro hshared)]
      exact iff_of_true rfl hshared
    · rw [if_pos (Tags.disjoint_iff.mpr hshared)]
      exact iff_of_false (Decision.reject_ne_accepted _ _) hshared

theorem qualityAllowed_accepts_iff :
    (qualityAllowed : Rule σ GrabCandidate).verdict candidate context s = .accepted ↔
      candidate.profile.isAllowed candidate.quality.quality = true := by
  simp only [Rule.verdict, qualityAllowed, Rule.pure]
  split
  · next h => exact iff_of_true rfl h
  · next h => exact iff_of_false (Decision.reject_ne_accepted _ _) h

theorem upgradeDisk_accepts_iff :
    (upgradeDisk : Rule σ GrabCandidate).verdict candidate context s = .accepted ↔
      ∀ file, candidate.media.file = some file →
        UpgradePolicy.isUpgrade candidate.profile file.quality candidate.quality = true := by
  simp only [Rule.verdict, upgradeDisk, Rule.pure]
  cases candidate.media.file with
  | none => simp
  | some file =>
    simp only [Option.some.injEq, forall_eq']
    split
    · next h => exact iff_of_true rfl h
    · next h => exact iff_of_false (Decision.reject_ne_accepted _ _) h

theorem upgradeAllowed_accepts_iff (policy : UpgradePolicy) :
    (upgradeAllowed policy : Rule σ GrabCandidate).verdict candidate context s = .accepted ↔
      ∀ file, candidate.media.file = some file →
        policy.isAllowed candidate.profile file.quality candidate.quality = true := by
  simp only [Rule.verdict, upgradeAllowed, Rule.pure]
  cases candidate.media.file with
  | none => simp
  | some file =>
    simp only [Option.some.injEq, forall_eq']
    split
    · next h => exact iff_of_true rfl h
    · next h => exact iff_of_false (Decision.reject_ne_accepted _ _) h

theorem cutoff_accepts_iff :
    (cutoff : Rule σ GrabCandidate).verdict candidate context s = .accepted ↔
      ∀ file, candidate.media.file = some file →
        UpgradePolicy.cutoffBlocks candidate.profile file.quality candidate.quality = false := by
  simp only [Rule.verdict, cutoff, Rule.pure]
  cases candidate.media.file with
  | none => simp
  | some file =>
    simp only [Option.some.injEq, forall_eq', ← Bool.not_eq_true]
    split
    · next h => exact iff_of_false (Decision.reject_ne_accepted _ _) (not_not_intro h)
    · next h => exact iff_of_true rfl h

theorem namedGroup?_eq_some {group : Option String} {name : String} :
    namedGroup? group = some name ↔ group = some name ∧ Text.isBlankText name = false := by
  rw [namedGroup?, Option.filter_eq_some_iff, Bool.not_eq_true']

/-- The groups agree exactly if both are named and the names agree. -/
theorem sameNamedGroup_iff {a b : Option String} :
    SameNamedGroup a b ↔ ∃ first second, namedGroup? a = some first ∧
      namedGroup? b = some second ∧ Text.equalIgnoringCase first second = true := by
  simp only [SameNamedGroup, namedGroup?_eq_some]
  constructor
  · rintro ⟨first, second, ha, hb, hfirst, hsecond, hequal⟩
    exact ⟨first, second, ⟨ha, hfirst⟩, ⟨hb, hsecond⟩, hequal⟩
  · rintro ⟨first, second, ⟨ha, hfirst⟩, ⟨hb, hsecond⟩, hequal⟩
    exact ⟨first, second, ha, hb, hfirst, hsecond, hequal⟩

theorem repack_accepts_iff (policy : UpgradePolicy) :
    (repack policy : Rule σ GrabCandidate).verdict candidate context s = .accepted ↔
      ∀ file, candidate.media.file = some file → 1 < candidate.quality.revision.version →
        file.quality.quality.id = candidate.quality.quality.id →
        policy.propersAndRepacks = true ∧ SameNamedGroup file.group candidate.parsed.group := by
  simp only [Rule.verdict, repack, Rule.pure, Revision.isProper]
  cases candidate.media.file with
  | none => simp
  | some file =>
    simp only [Option.some.injEq, forall_eq', sameNamedGroup_iff]
    by_cases hversion : 1 < candidate.quality.revision.version
    · by_cases htier : file.quality.quality.same candidate.quality.quality = true
      · have hid := Quality.same_iff.mp htier
        simp only [hversion, htier, hid, decide_true, Bool.not_true, forall_const]
        cases policy.propersAndRepacks with
        | false => simp
        | true =>
          cases namedGroup? file.group with
          | none => simp
          | some first =>
            cases namedGroup? candidate.parsed.group with
            | none => simp
            | some second => cases h : Text.equalIgnoringCase first second <;> simp [h]
      · have hid : file.quality.quality.id ≠ candidate.quality.quality.id :=
          fun h => htier (Quality.same_iff.mpr h)
        simp [htier, hid]
    · simp [hversion]

theorem blocklisted_accepts_iff (blocklist : Blocklist) :
    (blocklisted blocklist : Rule σ GrabCandidate).verdict candidate context s = .accepted ↔
      ∀ entry ∈ blocklist, entry.blocks candidate.media.id candidate.release = false := by
  simp only [Rule.verdict, blocklisted, Rule.pure]
  rw [← Blocklist.blocks_eq_false, ← Bool.not_eq_true]
  split
  · next h => exact iff_of_false (Decision.reject_ne_accepted _ _) (not_not_intro h)
  · next h => exact iff_of_true rfl h

theorem grabbedBefore_accepts_iff (history : HistoryReader σ) :
    (grabbedBefore history).verdict candidate context s = .accepted ↔
      AgreesWithGrab history candidate s := by
  simp only [Rule.verdict, grabbedBefore, AgreesWithGrab]
  cases candidate.knownId? with
  | none => simp
  | some downloadId =>
    rcases hanswer : history.forDownload downloadId s with ⟨answer, t⟩
    have hlatest : history.latestForDownload downloadId .grabbed s =
        (answer.map fun records => records.find? (·.event == .grabbed), t) := by
      rw [HistoryReader.latestForDownload, Reading.map, hanswer]
    simp only [Option.some.injEq, forall_eq', hlatest, hanswer]
    cases answer with
    | error error =>
      simp [Except.map, Decision.ne_accepted_of_isFinal (Decision.isFinal_unavailable _ error)]
    | ok records =>
      cases hfind : records.find? (·.event == .grabbed) with
      | none => simp [Except.map, hfind]
      | some record =>
        by_cases hequal : candidate.profile.cmp record.quality candidate.quality = .eq
        · simp [Except.map, hfind, hequal]
        · simp [Except.map, hfind, hequal]

/-- A queued release objects for good. -/
theorem queueObjection?_isFinal {policy : UpgradePolicy} {profile : Profile}
    {quality : QualityModel} {queued : QueuedRelease} {decision : Decision}
    (h : queueObjection? policy profile quality queued = some decision) :
    decision.isFinal = true := by
  rw [queueObjection?] at h
  split at h
  · exact absurd h nofun
  split at h
  · rw [← Option.some.inj h]; rfl
  split at h
  · rw [← Option.some.inj h]; rfl
  split at h
  · rw [← Option.some.inj h]; rfl
  · exact absurd h nofun

/-- A queued release raises no objection to a wanted candidate exactly if it failed or the
candidate beats it. -/
theorem queueObjection?_eq_none_iff {policy : UpgradePolicy} {profile : Profile}
    {quality : QualityModel} {queued : QueuedRelease}
    (hwanted : profile.isAllowed quality.quality = true) :
    queueObjection? policy profile quality queued = none ↔
      (queued.failed = false → policy.Beats profile queued.quality quality) := by
  rw [← UpgradePolicy.replaces_iff_beats hwanted, queueObjection?]
  cases queued.failed with
  | true => simp
  | false =>
    cases UpgradePolicy.cutoffBlocks profile queued.quality quality <;>
    cases UpgradePolicy.isUpgrade profile queued.quality quality <;>
    cases policy.isAllowed profile queued.quality quality <;>
    simp

theorem queue_verdict (policy : UpgradePolicy) (queued : MediaId → List QueuedRelease) :
    (queue policy queued : Rule σ GrabCandidate).verdict candidate context s =
      ((queued candidate.media.id).findSome?
        (queueObjection? policy candidate.profile candidate.quality)).getD .accepted := rfl

theorem queue_accepts_iff (policy : UpgradePolicy) (queued : MediaId → List QueuedRelease)
    (hwanted : candidate.profile.isAllowed candidate.quality.quality = true) :
    (queue policy queued : Rule σ GrabCandidate).verdict candidate context s = .accepted ↔
      ∀ release ∈ queued candidate.media.id, release.failed = false →
        policy.Beats candidate.profile release.quality candidate.quality := by
  rw [queue_verdict]
  cases hfind : (queued candidate.media.id).findSome?
      (queueObjection? policy candidate.profile candidate.quality) with
  | none =>
    refine iff_of_true rfl fun release hmem => ?_
    have hquiet := List.findSome?_eq_none_iff.mp hfind release hmem
    exact (queueObjection?_eq_none_iff hwanted).mp hquiet
  | some decision =>
    obtain ⟨release, hmem, hobjection⟩ := List.exists_of_findSome?_eq_some hfind
    refine iff_of_false (Decision.ne_accepted_of_isFinal (queueObjection?_isFinal hobjection)) ?_
    intro hbeats
    rw [(queueObjection?_eq_none_iff hwanted).mpr (hbeats release hmem)] at hobjection
    exact absurd hobjection nofun

/-! ### The rules about the file -/

/-- **Four rules ask about the file, and a wanted candidate passes all four exactly if it beats
the file.** -/
theorem file_rules_accept_iff (policy : UpgradePolicy) (context : Option SearchContext) (s : σ)
    (hwanted : candidate.profile.isAllowed candidate.quality.quality = true) :
    ((upgradeDisk : Rule σ GrabCandidate).verdict candidate context s = .accepted ∧
      (repack policy : Rule σ GrabCandidate).verdict candidate context s = .accepted ∧
      (upgradeAllowed policy : Rule σ GrabCandidate).verdict candidate context s = .accepted ∧
      (cutoff : Rule σ GrabCandidate).verdict candidate context s = .accepted) ↔
      ∀ file, candidate.media.file = some file → BeatsFile policy candidate file := by
  rw [upgradeDisk_accepts_iff, repack_accepts_iff, upgradeAllowed_accepts_iff, cutoff_accepts_iff]
  constructor
  · rintro ⟨hrank, hrepack, hallowed, hcutoff⟩ file hfile
    have hbeats := (UpgradePolicy.replaces_iff_beats hwanted).mp
      ⟨hrank file hfile, hallowed file hfile, hcutoff file hfile⟩
    rcases hbeats with ⟨hredoes, hpropers⟩ | himproves
    · refine Or.inl ⟨hredoes, hpropers, fun hversion => ?_⟩
      exact (hrepack file hfile hversion hredoes.1).2
    · exact Or.inr himproves
  · intro hbeats
    have hreplaces : ∀ file, candidate.media.file = some file →
        UpgradePolicy.isUpgrade candidate.profile file.quality candidate.quality = true ∧
          policy.isAllowed candidate.profile file.quality candidate.quality = true ∧
          UpgradePolicy.cutoffBlocks candidate.profile file.quality candidate.quality = false := by
      intro file hfile
      refine (UpgradePolicy.replaces_iff_beats hwanted).mpr ?_
      exact (hbeats file hfile).imp (fun h => ⟨h.1, h.2.1⟩) id
    refine ⟨fun file hfile => (hreplaces file hfile).1, fun file hfile hversion hid => ?_,
      fun file hfile => (hreplaces file hfile).2.1, fun file hfile => (hreplaces file hfile).2.2⟩
    rcases hbeats file hfile with ⟨-, hpropers, hgroup⟩ | himproves
    · exact ⟨hpropers, hgroup hversion⟩
    · -- an improvement is of another tier
      have hrank := himproves.1
      rw [candidate.profile.rank_congr hid] at hrank
      exact absurd hrank (Nat.lt_irrefl _)

/-! ### The engine -/

theorem engine_rules (deps : GrabRules σ) : deps.engine.rules = deps.rules := rfl

/-- The standard engine explains itself by the verdicts of its rules: only one of them asks the
history. -/
theorem explain_fst (deps : GrabRules σ) (candidate : GrabCandidate)
    (context : Option SearchContext) (s : σ) : (deps.engine.explain candidate context s).1 =
      deps.rules.map fun rule => rule.outcome candidate context s := by
  rw [Engine.explain, engine_rules]
  refine Engine.explainBy_fst candidate context (grabbedBefore deps.history) ?_ s
    [tagRestriction, qualityAllowed, minimumAge deps.settings.minimumAgeMinutes deps.now,
      upgradeDisk, repack _, upgradeAllowed _, cutoff, blocklisted deps.blocklist] ?_
  · intro rule hmem
    simp only [List.mem_cons, List.not_mem_nil, or_false] at hmem
    rcases hmem with rfl | rfl <;> exact Rule.steady_pure _ _ _
  · intro rule hmem
    simp only [List.mem_cons, List.not_mem_nil, or_false] at hmem
    rcases hmem with rfl | rfl | rfl | rfl | rfl | rfl | rfl | rfl <;> exact Rule.steady_pure _ _ _

/-- **The standard engine accepts what every rule accepts.** -/
theorem decide_accepts_iff {deps : GrabRules σ} {candidate : GrabCandidate}
    {context : Option SearchContext} {s : σ} :
    (deps.engine.decide candidate context s).1 = .accepted ↔
      ∀ rule ∈ deps.rules, rule.verdict candidate context s = .accepted := by
  rw [Engine.decide_fst, explain_fst, firstRejection_eq_accepted_iff, List.forall_mem_map]
  rfl

/-- The rules that do not ask for the time. -/
def lastingRules (deps : GrabRules σ) : List (Rule σ GrabCandidate) :=
  deps.rules.filter fun rule => !isTimeGate rule.name

theorem lastingRules_eq (deps : GrabRules σ) : deps.lastingRules =
    [tagRestriction, qualityAllowed, upgradeDisk, repack (.ofSettings deps.settings),
      upgradeAllowed (.ofSettings deps.settings), cutoff, blocklisted deps.blocklist,
      grabbedBefore deps.history, queue (.ofSettings deps.settings) deps.queued] := rfl

theorem mem_lastingRules {deps : GrabRules σ} {rule : Rule σ GrabCandidate} :
    rule ∈ deps.lastingRules ↔ rule ∈ deps.rules ∧ isTimeGate rule.name = false := by
  rw [lastingRules, List.mem_filter, Bool.not_eq_true']

/-- **The nine rules accept exactly what is admissible.** -/
theorem lasting_accept_iff (deps : GrabRules σ) (candidate : GrabCandidate)
    (context : Option SearchContext) (s : σ) :
    (∀ rule ∈ deps.lastingRules, rule.verdict candidate context s = .accepted) ↔
      Admissible deps candidate s := by
  simp only [lastingRules_eq, List.forall_mem_cons, List.not_mem_nil, false_implies, implies_true,
    and_true]
  constructor
  · rintro ⟨htags, hquality, hdisk, hrepack, hallowed, hcutoff, hblock, hgrab, hqueue⟩
    have hwanted := qualityAllowed_accepts_iff.mp hquality
    exact {
      tags := tagRestriction_accepts_iff.mp htags
      wanted := hwanted
      file := (file_rules_accept_iff _ context s hwanted).mp ⟨hdisk, hrepack, hallowed, hcutoff⟩
      unblocked := (blocklisted_accepts_iff _).mp hblock
      regrab := (grabbedBefore_accepts_iff _).mp hgrab
      queued := (queue_accepts_iff _ _ hwanted).mp hqueue }
  · intro h
    obtain ⟨hdisk, hrepack, hallowed, hcutoff⟩ :=
      (file_rules_accept_iff _ context s h.wanted).mpr h.file
    exact ⟨tagRestriction_accepts_iff.mpr h.tags, qualityAllowed_accepts_iff.mpr h.wanted,
      hdisk, hrepack, hallowed, hcutoff, (blocklisted_accepts_iff _).mpr h.unblocked,
      (grabbedBefore_accepts_iff _).mpr h.regrab, (queue_accepts_iff _ _ h.wanted).mpr h.queued⟩

/-- **What the standard engine admits.**  As it explains itself, all its rules but the time gates
accept a candidate exactly if the candidate is admissible.  A history that does not answer makes
a candidate with a known number inadmissible, as the rule about earlier grabs rejects it. -/
theorem explain_accepts_iff_admissible (deps : GrabRules σ) (candidate : GrabCandidate)
    (context : Option SearchContext) (s : σ) :
    (∀ outcome ∈ (deps.engine.explain candidate context s).1,
      isTimeGate outcome.rule = false → outcome.decision = .accepted) ↔
      Admissible deps candidate s := by
  rw [← lasting_accept_iff deps candidate context s, explain_fst]
  simp only [List.forall_mem_map, mem_lastingRules, and_imp, Rule.outcome]

end GrabRules

end Acquisition
