import Acquisition.Engine

/-!
# Deciding and explaining

An engine decides by stopping at the first rejection and explains by running every rule.  Both
start from the same state of the collaborators and go through the same rules, so the decision is
the first rejection of the explanation.

## Main definitions

* `Rule.verdict`: what a rule says while its collaborators are in a state.
* `Rule.Steady`: a rule that leaves its collaborators as they are and does not listen to them.
* `firstRejection`: the decision that a list of outcomes comes to.

## Main results

* `Engine.decideBy_fst`: the decision is the first rejection of the explanation.
* `Engine.explainBy_fst`: with one rule at most that asks a collaborator, the explanation is the
  list of verdicts.
-/

namespace Acquisition

variable {σ α : Type}

/-! ### Verdicts -/

namespace Rule

/-- What a rule says of a candidate while its collaborators are in the state. -/
def verdict (rule : Rule σ α) (candidate : α) (context : Option SearchContext) (s : σ) :
    Decision :=
  (rule.evaluate candidate context s).1

/-- The rule asks no collaborator. -/
def Steady (rule : Rule σ α) : Prop :=
  ∃ name tier judge, rule = Rule.pure name tier judge

theorem steady_pure (name : String) (tier : Tier)
    (judge : α → Option SearchContext → Decision) :
    (Rule.pure name tier judge : Rule σ α).Steady :=
  ⟨name, tier, judge, rfl⟩

/-- A rule that asks no collaborator changes none. -/
theorem Steady.evaluate_snd {rule : Rule σ α} (h : rule.Steady) (candidate : α)
    (context : Option SearchContext) (s : σ) : (rule.evaluate candidate context s).2 = s := by
  obtain ⟨name, tier, judge, rfl⟩ := h
  rfl

/-- A rule that asks no collaborator says the same in every state. -/
theorem Steady.verdict_eq {rule : Rule σ α} (h : rule.Steady) (candidate : α)
    (context : Option SearchContext) (s t : σ) :
    rule.verdict candidate context s = rule.verdict candidate context t := by
  obtain ⟨name, tier, judge, rfl⟩ := h
  rfl

/-- What a rule says under its name. -/
def outcome (rule : Rule σ α) (candidate : α) (context : Option SearchContext) (s : σ) :
    RuleOutcome :=
  ⟨rule.name, rule.verdict candidate context s⟩

end Rule

/-! ### The first rejection -/

/-- The first rejection among outcomes, or acceptance. -/
def firstRejection : List RuleOutcome → Decision
  | [] => .accepted
  | outcome :: outcomes =>
    match outcome.decision with
    | .accepted => firstRejection outcomes
    | .rejected rejection => .rejected rejection

@[simp] theorem firstRejection_nil : firstRejection [] = .accepted := rfl

theorem firstRejection_cons_accepted {outcome : RuleOutcome} (h : outcome.decision = .accepted)
    (outcomes : List RuleOutcome) :
    firstRejection (outcome :: outcomes) = firstRejection outcomes := by
  rw [firstRejection, h]

theorem firstRejection_cons_rejected {outcome : RuleOutcome} {rejection : Rejection}
    (h : outcome.decision = .rejected rejection) (outcomes : List RuleOutcome) :
    firstRejection (outcome :: outcomes) = .rejected rejection := by
  rw [firstRejection, h]

/-- Outcomes that accept do not count. -/
theorem firstRejection_append_of_accepted {front : List RuleOutcome}
    (h : ∀ outcome ∈ front, outcome.decision = .accepted) (rest : List RuleOutcome) :
    firstRejection (front ++ rest) = firstRejection rest := by
  induction front with
  | nil => rfl
  | cons outcome front ih =>
    rw [List.cons_append, firstRejection_cons_accepted (h outcome List.mem_cons_self)]
    exact ih fun other hmem => h other (List.mem_cons_of_mem _ hmem)

/-- Nothing is rejected exactly if every outcome accepts. -/
theorem firstRejection_eq_accepted_iff {outcomes : List RuleOutcome} :
    firstRejection outcomes = .accepted ↔ ∀ outcome ∈ outcomes, outcome.decision = .accepted := by
  induction outcomes with
  | nil => exact iff_of_true rfl fun _ hmem => absurd hmem List.not_mem_nil
  | cons outcome outcomes ih =>
    rw [List.forall_mem_cons]
    cases hdecision : outcome.decision with
    | accepted =>
      rw [firstRejection_cons_accepted hdecision, ih]
      exact (and_iff_right rfl).symm
    | rejected rejection =>
      rw [firstRejection_cons_rejected hdecision]
      exact iff_of_false nofun fun h => absurd h.1 nofun

/-! ### Running an engine -/

namespace Engine

theorem explainBy_cons_fst (rule : Rule σ α) (rules : List (Rule σ α)) (candidate : α)
    (context : Option SearchContext) (s : σ) :
    (explainBy candidate context (rule :: rules) s).1 = rule.outcome candidate context s ::
      (explainBy candidate context rules (rule.evaluate candidate context s).2).1 := rfl

theorem decideBy_cons_accepted {rule : Rule σ α} {candidate : α} {context : Option SearchContext}
    {s : σ} (h : rule.verdict candidate context s = .accepted) (rules : List (Rule σ α)) :
    decideBy candidate context (rule :: rules) s =
      decideBy candidate context rules (rule.evaluate candidate context s).2 := by
  have heval : rule.evaluate candidate context s =
      (.accepted, (rule.evaluate candidate context s).2) := Prod.ext h rfl
  simp only [decideBy]
  rw [heval]

theorem decideBy_cons_rejected {rule : Rule σ α} {candidate : α} {context : Option SearchContext}
    {s : σ} {rejection : Rejection}
    (h : rule.verdict candidate context s = .rejected rejection) (rules : List (Rule σ α)) :
    (decideBy candidate context (rule :: rules) s).1 = .rejected rejection := by
  have heval : rule.evaluate candidate context s =
      (.rejected rejection, (rule.evaluate candidate context s).2) := Prod.ext h rfl
  simp only [decideBy]
  rw [heval]

/-- **The decision is the first rejection of the explanation**, from the same state of the
collaborators. -/
theorem decideBy_fst (candidate : α) (context : Option SearchContext) :
    ∀ (rules : List (Rule σ α)) (s : σ), (decideBy candidate context rules s).1 =
      firstRejection (explainBy candidate context rules s).1 := by
  intro rules
  induction rules with
  | nil => intro s; rfl
  | cons rule rules ih =>
    intro s
    rw [explainBy_cons_fst]
    cases hd : rule.verdict candidate context s with
    | accepted => rw [decideBy_cons_accepted hd, firstRejection_cons_accepted hd, ih]
    | rejected rejection => rw [decideBy_cons_rejected hd, firstRejection_cons_rejected hd]

theorem decide_fst (engine : Engine σ α) (candidate : α) (context : Option SearchContext)
    (s : σ) : (engine.decide candidate context s).1 =
      firstRejection (engine.explain candidate context s).1 :=
  decideBy_fst candidate context engine.rules s

/-- An engine runs the rules that it was made of, and no others. -/
theorem mem_ofRules_iff {rules : List (Rule σ α)} {rule : Rule σ α} :
    rule ∈ (ofRules rules).rules ↔ rule ∈ rules := by
  have htier : rule.tier ∈ Tier.all := by cases rule.tier <;> decide
  rw [ofRules, List.mem_flatMap]
  simp only [List.mem_filter, beq_iff_eq]
  exact ⟨fun ⟨_, _, hmem, _⟩ => hmem, fun hmem => ⟨rule.tier, htier, hmem, rfl⟩⟩

/-- Every outcome of an explanation is what one of the rules says, in the state that the rules
before it left. -/
theorem exists_rule_of_mem_explainBy {candidate : α} {context : Option SearchContext} :
    ∀ {rules : List (Rule σ α)} {s : σ} {outcome : RuleOutcome},
      outcome ∈ (explainBy candidate context rules s).1 →
        ∃ rule ∈ rules, ∃ t, outcome = rule.outcome candidate context t := by
  intro rules
  induction rules with
  | nil => exact fun hmem => absurd hmem List.not_mem_nil
  | cons rule rules ih =>
    intro s outcome hmem
    rw [explainBy_cons_fst] at hmem
    rcases List.mem_cons.mp hmem with rfl | hmem
    · exact ⟨rule, List.mem_cons_self, s, rfl⟩
    · obtain ⟨other, hother, t, houtcome⟩ := ih hmem
      exact ⟨other, List.mem_cons_of_mem _ hother, t, houtcome⟩

/-- Rules that ask no collaborator are explained from any state. -/
theorem explainBy_fst_of_steady (candidate : α) (context : Option SearchContext) :
    ∀ (rules : List (Rule σ α)), (∀ rule ∈ rules, rule.Steady) → ∀ s t : σ,
      (explainBy candidate context rules t).1 =
        rules.map fun rule => rule.outcome candidate context s := by
  intro rules
  induction rules with
  | nil => intro _ s t; rfl
  | cons rule rules ih =>
    intro hsteady s t
    have hverdict := (hsteady rule List.mem_cons_self).verdict_eq candidate context t s
    rw [explainBy_cons_fst, List.map_cons, Rule.outcome, Rule.outcome, hverdict,
      ih (fun other hmem => hsteady other (List.mem_cons_of_mem _ hmem)) s]

/-- **The explanation is the list of verdicts** where at most one rule asks a collaborator: the
rules before it leave the state alone, and those after it do not look at it. -/
theorem explainBy_fst (candidate : α) (context : Option SearchContext) (asking : Rule σ α)
    {after : List (Rule σ α)} (hafter : ∀ rule ∈ after, rule.Steady) (s : σ) :
    ∀ (before : List (Rule σ α)), (∀ rule ∈ before, rule.Steady) →
      (explainBy candidate context (before ++ asking :: after) s).1 =
        (before ++ asking :: after).map fun rule => rule.outcome candidate context s := by
  intro before
  induction before with
  | nil =>
    intro _
    rw [List.nil_append, explainBy_cons_fst, List.map_cons,
      explainBy_fst_of_steady candidate context after hafter s]
  | cons rule before ih =>
    intro hbefore
    have hstate := (hbefore rule List.mem_cons_self).evaluate_snd candidate context s
    rw [List.cons_append, explainBy_cons_fst, List.map_cons, hstate,
      ih fun other hmem => hbefore other (List.mem_cons_of_mem _ hmem)]

end Engine

end Acquisition
