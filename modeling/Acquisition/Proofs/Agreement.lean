import Acquisition.Grab.Rules
import Acquisition.Import.Rules
import Acquisition.Proofs.Engine
import Acquisition.Proofs.Grab.Ranking

/-!
# Deciding agrees with explaining

An engine that decides asks its collaborators less often than one that explains, so the two go
through different states as soon as a rule rejects.  Up to and including the first rejection they
go through the same ones.

To say which rules ran, the rules are made to note it down (`Rule.noting`): a noting engine
decides and explains as the engine does, and its state holds the rules that ran as well.

## Main definitions

* `Engine.Arranges`: the rules run tier by tier, and as registered within a tier.
* `Engine.noting`: the engine that also notes down which of its rules ran.
* `Engine.Agrees`: what deciding and explaining a candidate have to do with each other.

## Main results

* `Engine.ofRules_arranges`: the order of an engine is the stable one by tiers.
* `Engine.decideBy_noting`: **deciding runs the rules up to the first rejection, and no other.**
* `Engine.decide_agrees_with_explain`: an engine of any rules decides as it explains.
-/

namespace Acquisition

variable {σ α : Type}

/-! ### The order of the rules -/

/-- The place of a tier among the tiers. -/
def Tier.rank : Tier → Nat
  | basic => 0
  | parsing => 1
  | database => 2
  | disk => 3

namespace Engine

/-- The engine runs the registered rules tier by tier, and within a tier as they were
registered. -/
structure Arranges (engine : Engine σ α) (registered : List (Rule σ α)) : Prop where
  /-- No rule is lost or added. -/
  perm : engine.rules.Perm registered
  /-- No rule runs after one of a later tier. -/
  sorted : engine.rules.Pairwise fun a b => a.tier.rank ≤ b.tier.rank
  /-- The rules of one tier keep their order. -/
  stable : ∀ tier : Tier, engine.rules.filter (·.tier == tier) = registered.filter (·.tier == tier)

theorem ofRules_perm (registered : List (Rule σ α)) :
    (ofRules registered).rules.Perm registered := by
  have hall : ∀ rule ∈ registered, rule.tier ∈ Tier.all := by
    intro rule _
    cases rule.tier <;> decide
  have hdistinct : Tier.all.eraseDups = Tier.all := by decide
  have hgroups := groups_perm (·.tier) Tier.all registered hall
  rw [hdistinct] at hgroups
  exact hgroups

/-- The tiers come one after the other. -/
theorem ofRules_sorted (registered : List (Rule σ α)) :
    (ofRules registered).rules.Pairwise fun a b => a.tier.rank ≤ b.tier.rank := by
  have htier : ∀ {tier : Tier} {rule : Rule σ α},
      rule ∈ registered.filter (·.tier == tier) → rule.tier = tier := by
    intro tier rule hmem
    exact eq_of_beq (List.mem_filter.mp hmem).2
  refine List.pairwise_flatMap.mpr ⟨fun tier _ => ?_, ?_⟩
  · -- within one tier all ranks are the same
    refine List.pairwise_of_forall_mem_list fun a ha b hb => ?_
    exact Nat.le_of_eq (congrArg Tier.rank ((htier ha).trans (htier hb).symm))
  · have hranks : Tier.all.Pairwise fun t u => t.rank ≤ u.rank := by decide
    refine hranks.imp fun {t u} hle a ha b hb => ?_
    rw [htier ha, htier hb]
    exact hle

/-- Of the groups of an engine only that of the tier holds rules of the tier. -/
theorem ofRules_stable (registered : List (Rule σ α)) (tier : Tier) :
    (ofRules registered).rules.filter (·.tier == tier) = registered.filter (·.tier == tier) := by
  have hgroup : ∀ other : Tier, (registered.filter (·.tier == other)).filter (·.tier == tier) =
      if other = tier then registered.filter (·.tier == tier) else [] := by
    intro other
    split
    next h => rw [h, List.filter_filter]; simp only [Bool.and_self]
    next h =>
      rw [List.filter_filter, List.filter_eq_nil_iff]
      intro rule _ hboth
      rw [Bool.and_eq_true, beq_iff_eq, beq_iff_eq] at hboth
      exact h (hboth.2.symm.trans hboth.1)
  rw [ofRules, List.filter_flatMap]
  simp only [hgroup]
  cases tier <;> simp [Tier.all]

theorem ofRules_arranges (registered : List (Rule σ α)) :
    (ofRules registered).Arranges registered :=
  ⟨ofRules_perm registered, ofRules_sorted registered, ofRules_stable registered⟩

end Engine

/-! ### The first rejection of an explanation -/

theorem rejections_cons_accepted {outcome : RuleOutcome} (h : outcome.decision = .accepted)
    (outcomes : List RuleOutcome) : rejections (outcome :: outcomes) = rejections outcomes := by
  rw [rejections, List.filter_cons_of_neg (by rw [h]; decide)]
  rfl

theorem rejections_cons_rejected {outcome : RuleOutcome} {rejection : Rejection}
    (h : outcome.decision = .rejected rejection) (outcomes : List RuleOutcome) :
    rejections (outcome :: outcomes) = outcome :: rejections outcomes := by
  rw [rejections, List.filter_cons_of_pos (by rw [h]; rfl)]
  rfl

/-- The decision that outcomes come to is the first of those that reject. -/
theorem firstRejection_eq_head (outcomes : List RuleOutcome) :
    firstRejection outcomes = ((rejections outcomes).head?.map (·.decision)).getD .accepted := by
  induction outcomes with
  | nil => rfl
  | cons outcome outcomes ih =>
    cases h : outcome.decision with
    | accepted => rw [firstRejection_cons_accepted h, rejections_cons_accepted h, ih]
    | rejected rejection =>
      rw [firstRejection_cons_rejected h, rejections_cons_rejected h, List.head?_cons,
        Option.map_some, Option.getD_some, h]

theorem firstRejection_eq_accepted_iff_rejections {outcomes : List RuleOutcome} :
    firstRejection outcomes = .accepted ↔ rejections outcomes = [] := by
  rw [firstRejection_eq_accepted_iff, rejections, List.filter_eq_nil_iff]
  refine forall₂_congr fun outcome _ => ?_
  cases outcome.decision <;> simp [Decision.isAccepted]

/-- Where the first rejection stands among outcomes; behind them all if there is none. -/
def firstRejectedAt (outcomes : List RuleOutcome) : Nat :=
  outcomes.findIdx fun outcome => !outcome.decision.isAccepted

theorem firstRejectedAt_cons_accepted {outcome : RuleOutcome} (h : outcome.decision = .accepted)
    (outcomes : List RuleOutcome) :
    firstRejectedAt (outcome :: outcomes) = firstRejectedAt outcomes + 1 := by
  rw [firstRejectedAt, List.findIdx_cons, h]
  rfl

theorem firstRejectedAt_cons_rejected {outcome : RuleOutcome} {rejection : Rejection}
    (h : outcome.decision = .rejected rejection) (outcomes : List RuleOutcome) :
    firstRejectedAt (outcome :: outcomes) = 0 := by
  rw [firstRejectedAt, List.findIdx_cons, h]
  rfl

/-! ### Noting down which rules ran -/

/-- The rule, which also notes down that it ran. -/
def Rule.noting (rule : Rule σ α) : Rule (σ × List (Rule σ α)) α where
  name := rule.name
  tier := rule.tier
  evaluate candidate context := fun (s, ran) =>
    let (decision, s) := rule.evaluate candidate context s
    (decision, s, ran ++ [rule])

namespace Engine

/-- The engine, which also notes down which of its rules ran. -/
def noting (engine : Engine σ α) : Engine (σ × List (Rule σ α)) α :=
  ⟨engine.rules.map Rule.noting⟩

variable (candidate : α) (context : Option SearchContext)

/-- Explaining runs every rule. -/
theorem explainBy_noting (rules : List (Rule σ α)) (s : σ) (ran : List (Rule σ α)) :
    explainBy candidate context (rules.map Rule.noting) (s, ran) =
      ((explainBy candidate context rules s).1,
        (explainBy candidate context rules s).2, ran ++ rules) := by
  induction rules generalizing s ran with
  | nil => rw [List.append_nil]; rfl
  | cons rule rules ih =>
    have hstate : rule.noting.evaluate candidate context (s, ran) =
        ((rule.evaluate candidate context s).1, (rule.evaluate candidate context s).2,
          ran ++ [rule]) := rfl
    rw [List.map_cons, List.append_cons]
    simp only [explainBy, hstate, ih]
    rfl

theorem decideBy_cons_rejected_snd {rule : Rule σ α} {candidate : α}
    {context : Option SearchContext} {s : σ} {rejection : Rejection}
    (h : rule.verdict candidate context s = .rejected rejection) (rules : List (Rule σ α)) :
    (decideBy candidate context (rule :: rules) s).2 = (rule.evaluate candidate context s).2 := by
  have heval : rule.evaluate candidate context s =
      (.rejected rejection, (rule.evaluate candidate context s).2) := Prod.ext h rfl
  simp only [decideBy]
  rw [heval]

/-- **Deciding runs the rules up to and including the first one that the explanation has
rejecting**, and comes to what it comes to without the notes. -/
theorem decideBy_noting (rules : List (Rule σ α)) (s : σ) (ran : List (Rule σ α)) :
    decideBy candidate context (rules.map Rule.noting) (s, ran) =
      ((decideBy candidate context rules s).1, (decideBy candidate context rules s).2,
        ran ++ rules.take (firstRejectedAt (explainBy candidate context rules s).1 + 1)) := by
  -- the rules after an accepting one start with a longer note
  induction rules generalizing s ran with
  | nil => rw [List.take_nil, List.append_nil]; rfl
  | cons rule rules ih =>
    rw [explainBy_cons_fst, List.map_cons]
    cases hverdict : rule.verdict candidate context s with
    | accepted =>
      have hnoting : rule.noting.verdict candidate context (s, ran) = .accepted := hverdict
      have hstate : (rule.noting.evaluate candidate context (s, ran)).2 =
          ((rule.evaluate candidate context s).2, ran ++ [rule]) := rfl
      rw [decideBy_cons_accepted hnoting, hstate, ih, decideBy_cons_accepted hverdict,
        firstRejectedAt_cons_accepted hverdict, List.take_succ_cons, List.append_assoc]
      rfl
    | rejected rejection =>
      have hnoting : rule.noting.verdict candidate context (s, ran) = .rejected rejection :=
        hverdict
      refine Prod.ext ?_ ?_
      · rw [decideBy_cons_rejected hnoting, decideBy_cons_rejected hverdict]
      · rw [decideBy_cons_rejected_snd hnoting, decideBy_cons_rejected_snd hverdict,
          firstRejectedAt_cons_rejected hverdict]
        rfl

/-- The rules up to the first rejection leave the collaborators as deciding does. -/
theorem decideBy_snd (rules : List (Rule σ α)) (s : σ) :
    (decideBy candidate context rules s).2 =
      (explainBy candidate context
        (rules.take (firstRejectedAt (explainBy candidate context rules s).1 + 1)) s).2 := by
  induction rules generalizing s with
  | nil => rfl
  | cons rule rules ih =>
    rw [explainBy_cons_fst]
    cases hverdict : rule.verdict candidate context s with
    | accepted =>
      rw [decideBy_cons_accepted hverdict, firstRejectedAt_cons_accepted hverdict,
        List.take_succ_cons, ih]
      rfl
    | rejected rejection =>
      rw [decideBy_cons_rejected_snd hverdict, firstRejectedAt_cons_rejected hverdict]
      rfl

/-- Every rule has its outcome, under its name and in its place. -/
theorem explainBy_names (rules : List (Rule σ α)) (s : σ) :
    (explainBy candidate context rules s).1.map (·.rule) = rules.map (·.name) := by
  induction rules generalizing s with
  | nil => rfl
  | cons rule rules ih =>
    rw [explainBy_cons_fst, List.map_cons, List.map_cons, ih]
    rfl

end Engine

/-! ### Agreement -/

namespace Engine

/-- What deciding about a candidate and explaining it, from one state of the collaborators, have
to do with each other. -/
structure Agrees (engine : Engine σ α) (candidate : α) (context : Option SearchContext)
    (s : σ) : Prop where
  /-- The explanation has an outcome for every rule, in order. -/
  names : (engine.explain candidate context s).1.map (·.rule) = engine.ruleNames
  /-- Explaining runs every rule once. -/
  explained : engine.noting.explain candidate context (s, []) =
    ((engine.explain candidate context s).1, (engine.explain candidate context s).2, engine.rules)
  /-- What is accepted is what no outcome rejects. -/
  accepts_iff : (engine.decide candidate context s).1 = .accepted ↔
    rejections (engine.explain candidate context s).1 = []
  /-- What is rejected is rejected as in the first outcome that rejects. -/
  rejects : ∀ outcome, (rejections (engine.explain candidate context s).1).head? = some outcome →
    (engine.decide candidate context s).1 = outcome.decision
  /-- Deciding runs the rules up to and including the first one that rejects. -/
  decided : engine.noting.decide candidate context (s, []) =
    ((engine.decide candidate context s).1, (engine.decide candidate context s).2,
      engine.rules.take (firstRejectedAt (engine.explain candidate context s).1 + 1))
  /-- The collaborators are asked what these rules ask them, and nothing else. -/
  asks : (engine.decide candidate context s).2 =
    (explainBy candidate context
      (engine.rules.take (firstRejectedAt (engine.explain candidate context s).1 + 1)) s).2
  /-- No rule runs that is of a later tier than one that rejects. -/
  spares : ∀ rejecting ∈ engine.rules.zip (engine.explain candidate context s).1,
    rejecting.2.decision.isAccepted = false →
      ∀ rule ∈ (engine.noting.decide candidate context (s, [])).2.2,
        rule.tier.rank ≤ rejecting.1.tier.rank

/-- The rules up to the first rejection are of no later tier than one that rejects: it stands
there or further back. -/
theorem rank_le_of_rejected {rules : List (Rule σ α)}
    (hsorted : rules.Pairwise fun a b => a.tier.rank ≤ b.tier.rank) {outcomes : List RuleOutcome}
    {rejecting : Rule σ α × RuleOutcome} (hmem : rejecting ∈ rules.zip outcomes)
    (hrejects : rejecting.2.decision.isAccepted = false) {rule : Rule σ α}
    (hrule : rule ∈ rules.take (firstRejectedAt outcomes + 1)) :
    rule.tier.rank ≤ rejecting.1.tier.rank := by
  obtain ⟨i, hi, rfl⟩ := List.getElem_of_mem hmem
  obtain ⟨j, hj, rfl⟩ := List.getElem_of_mem hrule
  rw [List.length_zip] at hi
  rw [List.length_take] at hj
  rw [List.getElem_zip] at hrejects ⊢
  rw [List.getElem_take]
  -- no outcome before the first rejection rejects
  have hfirst : firstRejectedAt outcomes ≤ i := by
    by_contra hlt
    have haccepts := List.not_of_lt_findIdx (Nat.lt_of_not_le hlt)
    rw [hrejects] at haccepts
    exact Bool.noConfusion haccepts
  rcases Nat.lt_or_ge j i with hlt | hge
  · exact List.pairwise_iff_getElem.mp hsorted j i _ _ hlt
  · have heq : j = i := by omega
    subst heq
    exact Nat.le_refl _

/-- An engine whose tiers come in order decides as it explains. -/
theorem agrees_of_sorted {engine : Engine σ α}
    (hsorted : engine.rules.Pairwise fun a b => a.tier.rank ≤ b.tier.rank) (candidate : α)
    (context : Option SearchContext) (s : σ) : engine.Agrees candidate context s := by
  have hdecided : engine.noting.decide candidate context (s, []) =
      ((engine.decide candidate context s).1, (engine.decide candidate context s).2,
        engine.rules.take (firstRejectedAt (engine.explain candidate context s).1 + 1)) :=
    decideBy_noting candidate context engine.rules s []
  refine ⟨explainBy_names candidate context engine.rules s,
    explainBy_noting candidate context engine.rules s [], ?_, ?_, hdecided,
    decideBy_snd candidate context engine.rules s, ?_⟩
  · rw [decide_fst]
    exact firstRejection_eq_accepted_iff_rejections
  · intro outcome hhead
    rw [decide_fst, firstRejection_eq_head, hhead]
    rfl
  · intro rejecting hmem hrejects rule hrule
    rw [hdecided] at hrule
    exact rank_le_of_rejected hsorted hmem hrejects hrule

/-- **Deciding agrees with explaining.**  Whatever rules are registered, and whatever the
collaborators answer and become by answering, an engine runs the rules tier by tier as they were
registered, decides as it explains from the same state, and stops at the first rejection.  The
standard engines do so over every history, disk and sample detector, so in particular over a
history that fails from some question on. -/
theorem decide_agrees_with_explain :
    (∀ {σ α : Type} (registered : List (Rule σ α)) (candidate : α)
      (context : Option SearchContext) (s : σ),
      (ofRules registered).Arranges registered ∧
        (ofRules registered).Agrees candidate context s) ∧
    (∀ {σ : Type} (deps : GrabRules σ) (candidate : GrabCandidate)
      (context : Option SearchContext) (s : σ),
      deps.engine.Arranges deps.rules ∧ deps.engine.Agrees candidate context s) ∧
    ∀ {σ : Type} (deps : ImportRules σ) (candidate : LocalCandidate)
      (context : Option SearchContext) (s : σ),
      deps.engine.Arranges deps.rules ∧ deps.engine.Agrees candidate context s := by
  have hany : ∀ {σ α : Type} (registered : List (Rule σ α)) (candidate : α)
      (context : Option SearchContext) (s : σ),
      (ofRules registered).Arranges registered ∧
        (ofRules registered).Agrees candidate context s := by
    intro σ α registered candidate context s
    exact ⟨ofRules_arranges registered,
      agrees_of_sorted (ofRules_sorted registered) candidate context s⟩
  refine ⟨hany, fun deps candidate context s => ?_, fun deps candidate context s => ?_⟩
  · exact hany deps.rules candidate context s
  · exact hany deps.rules candidate context s

end Engine

end Acquisition
