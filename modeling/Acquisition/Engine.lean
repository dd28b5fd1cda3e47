import Acquisition.Collaborator
import Acquisition.Decision
import Acquisition.Release
import Acquisition.Text.Quoted

/-!
# Decision engines

An engine holds rules in the order in which they run: by tier, and within a tier as they were
registered.  Deciding stops at the first rejection, explaining runs every rule.  Rules may ask
collaborators, whose state is carried along.

## Main definitions

* `Rule`, `Engine`, `Engine.ofRules`: rules and their order.
* `Engine.decide`, `Engine.explain`: the two ways of running them.
-/

namespace Acquisition

/-- The tiers of rules, cheapest first. -/
inductive Tier
  | basic
  | parsing
  | database
  | disk
  deriving DecidableEq, Repr, Inhabited

/-- The tiers in the order in which they run. -/
def Tier.all : List Tier := [basic, parsing, database, disk]

/-- A rule about candidates of type `α`, over collaborators with the state `σ`. -/
structure Rule (σ α : Type) where
  name : String
  tier : Tier
  evaluate : α → Option SearchContext → StateM σ Decision

namespace Rule

variable {σ α : Type}

/-- A rule that asks no collaborator. -/
def pure (name : String) (tier : Tier) (verdict : α → Option SearchContext → Decision) :
    Rule σ α where
  name
  tier
  evaluate candidate context := fun s => (verdict candidate context, s)

end Rule

/-- The rejection of a candidate because a collaborator did not answer. -/
def unavailable (rule : String) (error : CollaboratorError) : Decision :=
  .reject .collaboratorUnavailable s!"Unable to evaluate {rule}: {error.message}"

/-- Rules in the order in which they run. -/
structure Engine (σ α : Type) where
  rules : List (Rule σ α)

/-- What one rule said. -/
structure RuleOutcome where
  rule : String
  decision : Decision
  deriving DecidableEq, Repr, Inhabited

namespace Engine

variable {σ α : Type}

/-- The engine of the rules: tier by tier, in the order given within a tier. -/
def ofRules (rules : List (Rule σ α)) : Engine σ α :=
  ⟨Tier.all.flatMap fun tier => rules.filter (·.tier == tier)⟩

/-- The names of the rules as they run. -/
def ruleNames (engine : Engine σ α) : List String :=
  engine.rules.map (·.name)

/-- The description of an engine: its rules by name. -/
def text (engine : Engine σ α) : String :=
  let names := String.intercalate ", " (engine.ruleNames.map Text.quoted)
  "DecisionEngine \x7b rules: [" ++ names ++ "] \x7d"

/-- Runs rules until one rejects. -/
def decideBy (candidate : α) (context : Option SearchContext) :
    List (Rule σ α) → StateM σ Decision
  | [] => fun s => (.accepted, s)
  | rule :: rules => fun s =>
    match rule.evaluate candidate context s with
    | (.accepted, s) => decideBy candidate context rules s
    | (.rejected rejection, s) => (.rejected rejection, s)

/-- The first rejection of a rule, or acceptance. -/
def decide (engine : Engine σ α) (candidate : α) (context : Option SearchContext) :
    StateM σ Decision :=
  decideBy candidate context engine.rules

/-- Runs all rules. -/
def explainBy (candidate : α) (context : Option SearchContext) :
    List (Rule σ α) → StateM σ (List RuleOutcome)
  | [] => fun s => ([], s)
  | rule :: rules => fun s =>
    let (decision, s) := rule.evaluate candidate context s
    let (outcomes, s) := explainBy candidate context rules s
    (⟨rule.name, decision⟩ :: outcomes, s)

/-- What every rule says. -/
def explain (engine : Engine σ α) (candidate : α) (context : Option SearchContext) :
    StateM σ (List RuleOutcome) :=
  explainBy candidate context engine.rules

end Engine

/-- The outcomes that reject. -/
def rejections (outcomes : List RuleOutcome) : List RuleOutcome :=
  outcomes.filter fun outcome => !outcome.decision.isAccepted

end Acquisition
