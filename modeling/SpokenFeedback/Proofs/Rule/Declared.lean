import Mathlib.Tactic.SplitIfs
import SpokenFeedback.Rule.Draft

/-!
# Declared rules

A rule is declared if it is built without parts of the host and without a scope of its own.  Such a
rule decides by criteria or not at all, speaks by a phrase or not at all, and is filed under the
package that its criteria demand.

The scope of a declared rule is thus never narrower than its filter: what is filed under a name is
only for events of the package with this name (`Rule.Declared.filter_eq_criteria`).
-/

namespace SpokenFeedback

/-! ## Criteria bound to a package -/

theorem Condition.equalityValue?_eq_some_iff {condition : Condition} {value : Value} :
    condition.equalityValue? = some value ↔ condition.demand = .equals value := by
  rw [equalityValue?]
  cases condition.demand with
  | equals demanded => simp
  | anything | ordered | oneOf | malformed => simp

/-- A condition of equality on the package is met only by events of this package. -/
theorem Condition.packageName?_of_evaluate {condition : Condition} {event : Event}
    {surroundings : Surroundings} {space : Option String} {value : Value} {package : String}
    (onPackage : condition.property = .packageName) (demanded : condition.demand = .equals value)
    (named : value.text? = some package)
    (met : condition.evaluate event surroundings space = true) :
    event.packageName? = some package := by
  rcases condition with ⟨property, demand⟩
  obtain rfl : property = .packageName := onPackage
  obtain rfl : demand = .equals value := demanded
  have compared : (event.resolve .packageName).any
      (fun candidate => valueMatches .string value candidate) = true := met
  rcases (Option.any_eq_true _ _).1 compared with ⟨candidate, present, agrees⟩
  have sameText := eq_of_beq (Bool.and_eq_true_iff.1 agrees).2
  rw [Event.packageName?, present, Option.bind_some, ← sameText, named]

/-- Criteria that are bound to a package are met only by events of this package. -/
theorem Criteria.packageName?_of_accepts {criteria : Criteria} {event : Event}
    {surroundings : Surroundings} {package : String}
    (bound : criteria.packageName? = some package)
    (met : criteria.accepts event surroundings = true) : event.packageName? = some package := by
  rcases Option.bind_eq_some_iff.1 bound with ⟨value, equality, named⟩
  rcases Option.bind_eq_some_iff.1 equality with ⟨condition, found, demanded⟩
  have onPackage : condition.property = .packageName := by simpa using List.find?_some found
  have member : condition ∈ criteria.conditions := List.mem_of_find?_eq_some found
  have metToo := List.all_eq_true.1 (Bool.and_eq_true_iff.1 met).2 condition member
  have equals := Condition.equalityValue?_eq_some_iff.1 demanded
  exact Condition.packageName?_of_evaluate onPackage equals named metToo

theorem Criteria.packageName?_of_isEmpty {criteria : Criteria} (nothing : criteria.isEmpty = true) :
    criteria.packageName? = none := by
  have noCondition : criteria.conditions = [] := by
    simpa using (Bool.and_eq_true_iff.1 nothing).1
  simp [packageName?, condition?, noCondition]

/-! ## Selectors and metadata -/

namespace Draft

/-- The scope, the criteria and the parts of the host are those that the draft had before. -/
structure Keeps (before after : Draft) : Prop where
  scope : after.scope = before.scope
  criteria : after.criteria = before.criteria
  hostFilter : after.hostFilter = before.hostFilter
  hostFormatter : after.hostFormatter = before.hostFormatter

theorem keeps_readSelector (draft : Draft) (kind value : String) :
    draft.Keeps (draft.readSelector kind value) := by
  rw [readSelector]
  split <;> exact ⟨rfl, rfl, rfl, rfl⟩

theorem keeps_readMetadata (draft : Draft) (key text : String) :
    draft.Keeps (draft.readMetadata key text) := by
  rw [readMetadata, readQueueMode, readProperty]
  split_ifs
  · split <;> exact ⟨rfl, rfl, rfl, rfl⟩
  · exact ⟨rfl, rfl, rfl, rfl⟩
  · exact ⟨rfl, rfl, rfl, rfl⟩
  · split
    · split <;> exact ⟨rfl, rfl, rfl, rfl⟩
    · exact ⟨rfl, rfl, rfl, rfl⟩

end Draft

/-! ## Drafts without parts of the host -/

/-- Whether a part is neither a scope nor a filter or formatter of the host. -/
def DraftStep.isDeclarative : DraftStep → Bool
  | .filter _ | .formatter _ | .scope _ => false
  | _ => true

namespace Draft

/-- A draft that has been given no scope and no part of the host. -/
structure Declarative (draft : Draft) : Prop where
  noScope : draft.scope = none
  noFilter : draft.hostFilter = none
  noFormatter : draft.hostFormatter = none

theorem declarative_empty : empty.Declarative := ⟨rfl, rfl, rfl⟩

namespace Declarative

variable {draft : Draft}

theorem of_keeps (declarative : draft.Declarative) {after : Draft} (keeps : draft.Keeps after) :
    after.Declarative where
  noScope := keeps.scope.trans declarative.noScope
  noFilter := keeps.hostFilter.trans declarative.noFilter
  noFormatter := keeps.hostFormatter.trans declarative.noFormatter

/-- A declarative part keeps a draft declarative. -/
theorem apply (declarative : draft.Declarative) {step : DraftStep}
    (stepDeclarative : step.isDeclarative = true) : (draft.apply step).Declarative := by
  cases step with
  | filter => cases stepDeclarative
  | formatter => cases stepDeclarative
  | scope => cases stepDeclarative
  | readSelector kind value => exact declarative.of_keeps (draft.keeps_readSelector kind value)
  | readMetadata key text => exact declarative.of_keeps (draft.keeps_readMetadata key text)
  | specify | specifyNamed | condition | template | selector | metadata | index =>
    constructor <;> simp only [Draft.apply, setMetadata, declarative.noScope,
      declarative.noFilter, declarative.noFormatter]

theorem applyAll (declarative : draft.Declarative) {steps : List DraftStep}
    (stepsDeclarative : ∀ step ∈ steps, step.isDeclarative = true) :
    (draft.applyAll steps).Declarative := by
  induction steps generalizing draft with
  | nil => exact declarative
  | cons step steps ih =>
    have first := declarative.apply (stepsDeclarative step List.mem_cons_self)
    exact ih first fun later member => stepsDeclarative later (List.mem_cons_of_mem step member)

end Declarative

/-- A rule that is built has the scope, the filter and the formatter of its draft. -/
theorem build_eq_ok {draft : Draft} {rule : Rule} (built : draft.build = .ok rule) :
    rule.scope = draft.ruleScope ∧ rule.filter = draft.ruleFilter ∧
      draft.ruleFormatter = .ok rule.formatter := by
  rw [build] at built
  split at built
  next => cases built
  next =>
    split at built
    next => cases built
    next formatter spoken =>
      rcases Except.ok.inj built with rfl
      exact ⟨rfl, rfl, spoken⟩

/-- Without a formatter of the host a draft speaks by a phrase, or not at all. -/
theorem eq_phrase_of_ruleFormatter {draft : Draft} (noFormatter : draft.hostFormatter = none)
    {formatter : RuleFormatter} (spoken : draft.ruleFormatter = .ok (some formatter)) :
    ∃ phrase, formatter = .phrase phrase := by
  rw [ruleFormatter, noFormatter] at spoken
  split_ifs at spoken
  · cases Except.ok.inj spoken
  · cases read : draft.phrase with
    | error fault =>
      rw [read] at spoken
      cases spoken
    | ok phrase =>
      rw [read] at spoken
      exact ⟨phrase, (Option.some.inj (Except.ok.inj spoken)).symm⟩

end Draft

/-! ## Rules without parts of the host -/

namespace Rule

/-- A rule that is built without a scope of its own and without parts of the host. -/
def Declared (rule : Rule) : Prop :=
  ∃ steps : List DraftStep, (∀ step ∈ steps, step.isDeclarative = true) ∧ ofSteps steps = .ok rule

namespace Declared

variable {rule : Rule}

theorem exists_draft (declared : rule.Declared) :
    ∃ draft : Draft, draft.Declarative ∧ draft.build = .ok rule := by
  rcases declared with ⟨steps, stepsDeclarative, built⟩
  exact ⟨_, Draft.declarative_empty.applyAll stepsDeclarative, built⟩

/-- A declared rule that is filed under a name has criteria that are bound to this package. -/
theorem filter_eq_criteria (declared : rule.Declared) {name : String}
    (filed : rule.scope = .named name) :
    Text.isBlankText name = false ∧
      ∃ criteria : Criteria,
        rule.filter = some (.criteria criteria) ∧ criteria.packageName? = some name := by
  rcases declared.exists_draft with ⟨draft, declarative, built⟩
  rcases Draft.build_eq_ok built with ⟨sameScope, sameFilter, -⟩
  rw [sameScope, Draft.ruleScope, declarative.noScope] at filed
  cases bound : draft.criteria.packageName? with
  | none =>
    rw [bound] at filed
    cases filed
  | some package =>
    simp only [bound] at filed
    split at filed
    next => cases filed
    next named =>
      rcases Scope.named.inj filed with rfl
      refine ⟨by simpa using named, draft.criteria, ?_, bound⟩
      rw [sameFilter, Draft.ruleFilter, declarative.noFilter]
      cases demanding : draft.criteria.isEmpty with
      | false => rfl
      | true =>
        rw [Criteria.packageName?_of_isEmpty demanding] at bound
        cases bound

end Declared

end Rule

end SpokenFeedback
