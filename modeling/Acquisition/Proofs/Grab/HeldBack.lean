import Acquisition.Proofs.Grab.Admission

/-!
# Releases that are held back

A release that is rejected for now is set aside as one that is accepted in principle.  The delay
keeps to that: it runs last, so nothing else speaks against the release.  The minimum age does
not: it runs third, and rejects for now what a later rule would reject for good.

## Main definitions

* `TooYoung`: the minimum age rejects the candidate.

## Main results

* `GrabRules.explain_final_iff`: some rule rejects for good exactly what is not admissible.
* `GrabRules.of_decide_isTemporary`: what is rejected for now is admissible, or too young.
* `GrabRules.held_back_in_principle_iff`: exactly when a rejection for now is the only objection.
-/

namespace Acquisition

/-- A usenet release that has not been out for the minimum age. -/
def TooYoung {σ : Type} (deps : GrabRules σ) (candidate : GrabCandidate) : Prop :=
  candidate.release.protocol = .usenet ∧ deps.settings.minimumAgeMinutes ≠ 0 ∧
    candidate.release.age deps.now < Span.ofMinutes deps.settings.minimumAgeMinutes

instance {σ : Type} (deps : GrabRules σ) (candidate : GrabCandidate) :
    Decidable (TooYoung deps candidate) :=
  inferInstanceAs (Decidable (_ ∧ _ ∧ _))

/-- If what rejects in front rejects for good, a rejection for now comes from behind. -/
theorem accepted_of_firstRejection_isTemporary {rest : List RuleOutcome} :
    ∀ (front : List RuleOutcome),
      (∀ outcome ∈ front, outcome.decision = .accepted ∨ outcome.decision.isFinal = true) →
      (firstRejection (front ++ rest)).isTemporary = true →
      ∀ outcome ∈ front, outcome.decision = .accepted := by
  intro front
  induction front with
  | nil => intro _ _ outcome hmem; exact absurd hmem List.not_mem_nil
  | cons first front ih =>
    intro hfinal htemporary
    have hfirst : first.decision = .accepted := by
      rcases hfinal first List.mem_cons_self with h | h
      · exact h
      · cases hd : first.decision with
        | accepted => rfl
        | rejected rejection =>
          rw [List.cons_append, firstRejection_cons_rejected hd, ← hd,
            Decision.isTemporary_eq_false_of_isFinal h] at htemporary
          exact absurd htemporary Bool.false_ne_true
    rw [List.cons_append, firstRejection_cons_accepted hfirst] at htemporary
    have hrest := ih (fun other hmem => hfinal other (List.mem_cons_of_mem _ hmem)) htemporary
    exact List.forall_mem_cons.mpr ⟨hfirst, hrest⟩

namespace GrabRules

variable {σ : Type} {deps : GrabRules σ} {candidate : GrabCandidate}
  {context : Option SearchContext} {s : σ}

/-! ### Which rules reject for good -/

theorem queue_lasting (policy : UpgradePolicy) (queued : MediaId → List QueuedRelease) :
    (queue policy queued : Rule σ GrabCandidate).verdict candidate context s = .accepted ∨
      ((queue policy queued : Rule σ GrabCandidate).verdict candidate context s).isFinal =
        true := by
  rw [queue_verdict]
  cases hfind : (queued candidate.media.id).findSome?
      (queueObjection? policy candidate.profile candidate.quality) with
  | none => exact Or.inl rfl
  | some decision =>
    obtain ⟨release, -, hobjection⟩ := List.exists_of_findSome?_eq_some hfind
    exact Or.inr (queueObjection?_isFinal hobjection)

/-- A rule that does not ask for the time accepts or rejects for good. -/
theorem lasting_verdict {rule : Rule σ GrabCandidate} (hmem : rule ∈ deps.lastingRules) :
    rule.verdict candidate context s = .accepted ∨
      (rule.verdict candidate context s).isFinal = true := by
  rw [lastingRules_eq] at hmem
  simp only [List.mem_cons, List.not_mem_nil, or_false] at hmem
  rcases hmem with rfl | rfl | rfl | rfl | rfl | rfl | rfl | rfl | rfl
  case inr.inr.inr.inr.inr.inr.inr.inr => exact queue_lasting _ _
  -- the others nest conditions around acceptances and rejections for good
  all_goals
    simp only [Rule.verdict, tagRestriction, qualityAllowed, upgradeDisk, repack, upgradeAllowed,
      cutoff, blocklisted, grabbedBefore, Rule.pure]
    repeat' split
    all_goals simp

theorem minimumAge_accepts (context : Option SearchContext) (s : σ)
    (h : ¬ TooYoung deps candidate) :
    (minimumAge deps.settings.minimumAgeMinutes deps.now).verdict candidate context s =
      .accepted := by
  simp only [Rule.verdict, minimumAge, Rule.pure]
  split
  · rfl
  next hgate =>
    rw [if_neg]
    intro hage
    simp only [Bool.or_eq_true, bne_iff_ne, beq_iff_eq, not_or, Decidable.not_not] at hgate
    exact h ⟨hgate.1, hgate.2, hage⟩

theorem minimumAge_isTemporary (context : Option SearchContext) (s : σ)
    (h : TooYoung deps candidate) :
    ((minimumAge deps.settings.minimumAgeMinutes deps.now).verdict candidate context
      s).isTemporary = true := by
  obtain ⟨hprotocol, hminutes, hage⟩ := h
  simp only [Rule.verdict, minimumAge, Rule.pure]
  rw [if_neg (by simp [hprotocol, hminutes]), if_pos hage, Decision.isTemporary_rejectForNow]

theorem gates_eq (deps : GrabRules σ) : (deps.rules.filter fun rule => isTimeGate rule.name) =
    [minimumAge deps.settings.minimumAgeMinutes deps.now,
      delay (.ofSettings deps.settings) deps.store deps.now] := rfl

/-- A time gate never rejects for good. -/
theorem gate_isFinal {rule : Rule σ GrabCandidate} (hmem : rule ∈ deps.rules)
    (hgate : isTimeGate rule.name = true) :
    (rule.verdict candidate context s).isFinal = false := by
  have hmem : rule ∈ deps.rules.filter fun rule => isTimeGate rule.name :=
    List.mem_filter.mpr ⟨hmem, hgate⟩
  rw [gates_eq] at hmem
  simp only [List.mem_cons, List.not_mem_nil, or_false] at hmem
  rcases hmem with rfl | rfl
  · simp only [Rule.verdict, minimumAge, Rule.pure]
    repeat' split
    all_goals simp
  · simp only [Rule.verdict, delay, Rule.pure]
    repeat' split
    all_goals simp

/-- **Some rule rejects for good exactly what is not admissible.** -/
theorem explain_final_iff (deps : GrabRules σ) (candidate : GrabCandidate)
    (context : Option SearchContext) (s : σ) :
    (∀ outcome ∈ (deps.engine.explain candidate context s).1,
      outcome.decision.isFinal = false) ↔ Admissible deps candidate s := by
  rw [← lasting_accept_iff deps candidate context s, explain_fst]
  simp only [List.forall_mem_map, Rule.outcome]
  constructor
  · intro hfinal rule hmem
    rcases lasting_verdict hmem with h | h
    · exact h
    · rw [hfinal rule (mem_lastingRules.mp hmem).1] at h
      exact absurd h Bool.false_ne_true
  · intro haccept rule hmem
    cases hgate : isTimeGate rule.name with
    | true => exact gate_isFinal hmem hgate
    | false =>
      rw [haccept rule (mem_lastingRules.mpr ⟨hmem, hgate⟩), Decision.isFinal_accepted]

/-! ### Which rejection decides -/

/-- The rules that run before the minimum age. -/
def earlyRules : List (Rule σ GrabCandidate) :=
  [tagRestriction, qualityAllowed]

/-- The rules that run between the minimum age and the delay. -/
def lateRules (deps : GrabRules σ) : List (Rule σ GrabCandidate) :=
  [upgradeDisk, repack (.ofSettings deps.settings), upgradeAllowed (.ofSettings deps.settings),
    cutoff, blocklisted deps.blocklist, grabbedBefore deps.history,
    queue (.ofSettings deps.settings) deps.queued]

theorem lastingRules_eq_append (deps : GrabRules σ) :
    deps.lastingRules = earlyRules ++ deps.lateRules := rfl

theorem early_accept_iff (context : Option SearchContext) (s : σ) :
    (∀ rule ∈ (earlyRules : List (Rule σ GrabCandidate)),
      rule.verdict candidate context s = .accepted) ↔
      TagsMeet candidate.release.indexerTags candidate.media.tags ∧
        candidate.profile.isAllowed candidate.quality.quality = true := by
  rw [earlyRules, List.forall_mem_cons, List.forall_mem_singleton, tagRestriction_accepts_iff,
    qualityAllowed_accepts_iff]

theorem decide_eq (deps : GrabRules σ) (candidate : GrabCandidate)
    (context : Option SearchContext) (s : σ) : (deps.engine.decide candidate context s).1 =
      firstRejection (earlyRules.map (·.outcome candidate context s) ++
        (minimumAge deps.settings.minimumAgeMinutes deps.now).outcome candidate context s ::
          (deps.lateRules.map (·.outcome candidate context s) ++
            [(delay (.ofSettings deps.settings) deps.store deps.now).outcome candidate context
              s])) := by
  rw [Engine.decide_fst, explain_fst]
  rfl

/-- A rejection for now that follows on rules which do not ask for the time means that these
accept. -/
theorem lasting_accept_of_isTemporary (rules : List (Rule σ GrabCandidate))
    {rest : List RuleOutcome} (hrules : ∀ rule ∈ rules, rule ∈ deps.lastingRules)
    (h : (firstRejection (rules.map (·.outcome candidate context s) ++ rest)).isTemporary =
      true) : ∀ rule ∈ rules, rule.verdict candidate context s = .accepted := by
  have haccept := accepted_of_firstRejection_isTemporary (rules.map _)
    (List.forall_mem_map.mpr fun rule hmem => lasting_verdict (hrules rule hmem)) h
  exact List.forall_mem_map.mp haccept

/-- **What is rejected for now is wanted and meets the tags, and it is admissible or too young.** -/
theorem of_decide_isTemporary
    (h : (deps.engine.decide candidate context s).1.isTemporary = true) :
    TagsMeet candidate.release.indexerTags candidate.media.tags ∧
      candidate.profile.isAllowed candidate.quality.quality = true ∧
      (TooYoung deps candidate ∨ Admissible deps candidate s) := by
  rw [decide_eq] at h
  have hearly := lasting_accept_of_isTemporary earlyRules
    (fun rule hmem => lastingRules_eq_append deps ▸ List.mem_append_left deps.lateRules hmem) h
  obtain ⟨htags, hwanted⟩ := (early_accept_iff context s).mp hearly
  refine ⟨htags, hwanted, Decidable.or_iff_not_imp_left.mpr fun hyoung => ?_⟩
  rw [firstRejection_append_of_accepted (List.forall_mem_map.mpr hearly),
    firstRejection_cons_accepted (minimumAge_accepts context s hyoung)] at h
  -- past the minimum age only the delay is left to reject for now
  have hlate := lasting_accept_of_isTemporary deps.lateRules
    (fun rule hmem => lastingRules_eq_append deps ▸ List.mem_append_right earlyRules hmem) h
  rw [← lasting_accept_iff deps candidate context s, lastingRules_eq_append]
  intro rule hmem
  exact (List.mem_append.mp hmem).elim (hearly rule) (hlate rule)

/-- A wanted release that meets the tags is held back while it is too young, whatever the rules
after the minimum age say. -/
theorem decide_isTemporary_of_tooYoung
    (htags : TagsMeet candidate.release.indexerTags candidate.media.tags)
    (hwanted : candidate.profile.isAllowed candidate.quality.quality = true)
    (hyoung : TooYoung deps candidate) :
    (deps.engine.decide candidate context s).1.isTemporary = true := by
  have hearly := (early_accept_iff context s).mpr ⟨htags, hwanted⟩
  have hgate := minimumAge_isTemporary context s hyoung
  rw [decide_eq, firstRejection_append_of_accepted (List.forall_mem_map.mpr hearly)]
  cases hverdict : (minimumAge deps.settings.minimumAgeMinutes deps.now).verdict candidate context
      s with
  | accepted => exact absurd hverdict (Decision.ne_accepted_of_isTemporary hgate)
  | rejected rejection =>
    rw [firstRejection_cons_rejected hverdict, ← hverdict]
    exact hgate

/-- **When a rejection for now is the only objection.**  Nothing rejects for good what the engine
rejects for now, except where the minimum age comes first: a wanted release that meets the tags
and is too young is held back even if a later rule rejects it for good. -/
theorem held_back_in_principle_iff (deps : GrabRules σ) (candidate : GrabCandidate)
    (context : Option SearchContext) (s : σ) :
    ((deps.engine.decide candidate context s).1.isTemporary = true →
      ∀ outcome ∈ (deps.engine.explain candidate context s).1,
        outcome.decision.isFinal = false) ↔
      (TagsMeet candidate.release.indexerTags candidate.media.tags →
        candidate.profile.isAllowed candidate.quality.quality = true →
        TooYoung deps candidate → Admissible deps candidate s) := by
  rw [explain_final_iff]
  constructor
  · intro h htags hwanted hyoung
    exact h (decide_isTemporary_of_tooYoung htags hwanted hyoung)
  · intro h htemporary
    obtain ⟨htags, hwanted, hyoung | hadmissible⟩ := of_decide_isTemporary htemporary
    · exact h htags hwanted hyoung
    · exact hadmissible

/-- A release on usenet that came out with the epoch. -/
def freshRelease : Release where
  guid := "guid"
  title := "Movie.2020.1080p.HDTV.x264-GRP"
  indexer := "indexer"
  indexerTags := []
  published := 0
  protocol := .usenet
  size := 0
  downloadUrl := "http://indexer/guid"
  infoHash := none
  seeders := none
  peers := none
  mediaIds := []

/-- The profile that wants the one quality of the release. -/
def hdtvProfile : Profile where
  id := 1
  name := "Any"
  items := [⟨.hdtv1080p, true⟩]
  cutoff := .hdtv1080p
  upgradeAllowed := true

/-- The release for a media item without a file. -/
def freshCandidate : GrabCandidate where
  release := freshRelease
  parsed :=
    { title := freshRelease.title, mediaTitle := some "Movie", year := some 2020,
      quality := ⟨.hdtv1080p, ⟨1, 0⟩⟩, languages := [], group := some "GRP" }
  media :=
    { id := 1, title := "Movie", year := some 2020, path := default, profileId := 1, tags := [],
      monitored := true, file := none }
  profile := hdtvProfile
  downloadId := none

/-- The rules at the epoch, with a minimum age of an hour, where the release is blocked. -/
def blockingRules : GrabRules Unit where
  store :=
    { profiles := [hdtvProfile], fallback := hdtvProfile, tagged := [],
      untagged := ⟨1, DelayProfile.lastOrder, .usenet, 0, 0, []⟩ }
  history := .ofHistory .empty
  blocklist := [.ofRelease 1 freshRelease ⟨.hdtv1080p, ⟨1, 0⟩⟩ "" 0]
  queued _ := []
  settings := { minimumAgeMinutes := 60 }
  now := 0

/-- The blocked release is held back for its age, although the blocklist rejects it for good. -/
theorem not_held_back_in_principle :
    ¬ ∀ (deps : GrabRules Unit) (candidate : GrabCandidate) (context : Option SearchContext),
      (deps.engine.decide candidate context ()).1.isTemporary = true →
        ∀ outcome ∈ (deps.engine.explain candidate context ()).1,
          outcome.decision.isFinal = false := by
  intro h
  have htemporary : (blockingRules.engine.decide freshCandidate none ()).1.isTemporary = true := rfl
  have hfinal := h blockingRules freshCandidate none htemporary
    ((blocklisted blockingRules.blocklist).outcome freshCandidate none ())
    (by rw [explain_fst]; exact List.mem_map_of_mem (by simp [rules]))
  exact absurd hfinal (by decide)

end GrabRules

end Acquisition
