import Mathlib.Tactic.SplitIfs
import SpokenFeedback.Proofs.Rule.Declared

/-!
# Standing conditions

A draft is given conditions among its other parts: by a specification, by a specification under a
name, or ready made.  A later condition on a property takes the place of an earlier one, and a name
that is no property is kept as a fault.

`DraftStep.Gives` says which condition one part gives, and `DraftStep.Stands` which conditions are
left of all of them.  `Draft.criteria_apply_cases` lists what one part does to the criteria; from it
follows, part by part, that the criteria of a draft hold the standing conditions
(`Draft.mem_conditions_iff_stands`) and forgive no name (`Draft.unknownNames_eq_nil_iff`).
-/

namespace SpokenFeedback

/-! ## Names of properties -/

namespace Property

theorem ofName?_eq_some_iff {name : String} {property : Property} :
    ofName? name = some property ↔ property.name = Text.trim name := by
  constructor
  · intro found
    simpa using List.find?_some found
  · intro named
    rw [ofName?, ← named, ofExactName?_name]

theorem ofName?_eq_none_iff {name : String} :
    ofName? name = none ↔ ∀ property : Property, property.name ≠ Text.trim name := by
  rw [Option.eq_none_iff_forall_ne_some]
  exact forall_congr' fun property => not_congr ofName?_eq_some_iff

end Property

/-! ## Parts of a draft -/

namespace DraftStep

/-- The part gives a condition to the criteria. -/
inductive Gives : DraftStep → Condition → Prop where
  | specify (property : Property) (specification : String) :
    Gives (.specify property specification) (.ofSpecification property specification)
  | specifyNamed {name : String} {property : Property} (named : property.name = Text.trim name)
    (specification : String) :
    Gives (.specifyNamed name specification) (.ofSpecification property specification)
  | condition (condition : Condition) : Gives (.condition condition) condition

/-- The part is a specification under a name that no property has. -/
inductive Misnamed : DraftStep → Prop where
  | specifyNamed {name : String} (unknown : ∀ property : Property, property.name ≠ Text.trim name)
    (specification : String) : Misnamed (.specifyNamed name specification)

/-- The part gives no condition on a property. -/
def SilentOn (step : DraftStep) (property : Property) : Prop :=
  ∀ condition, step.Gives condition → condition.property ≠ property

/-- The condition is the last one that the parts give on its property. -/
inductive Stands : List DraftStep → Condition → Prop where
  | last {step : DraftStep} {later : List DraftStep} {condition : Condition}
    (given : step.Gives condition) (kept : ∀ other ∈ later, other.SilentOn condition.property) :
    Stands (step :: later) condition
  | later (step : DraftStep) {later : List DraftStep} {condition : Condition}
    (stands : Stands later condition) : Stands (step :: later) condition

theorem Gives.unique {step : DraftStep} {left right : Condition} (givesLeft : step.Gives left)
    (givesRight : step.Gives right) : left = right := by
  cases givesLeft with
  | specify property specification =>
    cases givesRight
    rfl
  | specifyNamed named specification =>
    cases givesRight with
    | specifyNamed alsoNamed => rw [Property.name_injective (named.trans alsoNamed.symm)]
  | condition condition =>
    cases givesRight
    rfl

theorem Gives.iff_eq {step : DraftStep} {given condition : Condition} (gives : step.Gives given) :
    step.Gives condition ↔ condition = given := by
  constructor
  · intro alsoGives
    exact alsoGives.unique gives
  · rintro rfl
    exact gives

/-- A part that gives a condition is silent on the other properties only. -/
theorem Gives.silentOn_iff {step : DraftStep} {given : Condition} (gives : step.Gives given)
    {property : Property} : step.SilentOn property ↔ property ≠ given.property := by
  constructor
  · intro silent same
    exact silent given gives same.symm
  · rintro different other alsoGives same
    rcases alsoGives.unique gives with rfl
    exact different same.symm

/-- A condition stands if it is given and not replaced, or if it is given and stands later. -/
theorem stands_cons_iff {step : DraftStep} {later : List DraftStep} {condition : Condition} :
    Stands (step :: later) condition ↔
      step.Gives condition ∧ (∀ other ∈ later, other.SilentOn condition.property) ∨
        Stands later condition := by
  constructor
  · intro stands
    cases stands with
    | last given kept => exact .inl ⟨given, kept⟩
    | later _ stands => exact .inr stands
  · rintro (⟨given, kept⟩ | stands)
    · exact .last given kept
    · exact .later step stands

end DraftStep

/-! ## One part -/

theorem Criteria.mem_conditions_add {criteria : Criteria} {added condition : Condition} :
    condition ∈ (criteria.add added).conditions ↔
      condition = added ∨
        condition ∈ criteria.conditions ∧ condition.property ≠ added.property := by
  simp [add, or_comm]

namespace Draft

variable {draft : Draft}

/-- A part gives a condition, is misnamed, or leaves the criteria as they are. -/
theorem criteria_apply_cases (draft : Draft) (step : DraftStep) :
    (∃ condition, step.Gives condition ∧ ¬ step.Misnamed ∧
        (draft.apply step).criteria = draft.criteria.add condition) ∨
      (∀ condition, ¬ step.Gives condition) ∧
        (draft.apply step).criteria.conditions = draft.criteria.conditions ∧
          (step.Misnamed ∧ (draft.apply step).criteria.unknownNames ≠ [] ∨
            ¬ step.Misnamed ∧
              (draft.apply step).criteria.unknownNames = draft.criteria.unknownNames) := by
  cases step with
  | specify property specification =>
    refine .inl ⟨_, .specify property specification, ?_, rfl⟩
    rintro ⟨⟩
  | condition condition =>
    refine .inl ⟨condition, .condition condition, ?_, rfl⟩
    rintro ⟨⟩
  | specifyNamed name specification =>
    simp only [Draft.apply, Criteria.specifyNamed]
    cases sought : Property.ofName? name with
    | some property =>
      have named := Property.ofName?_eq_some_iff.1 sought
      refine .inl ⟨_, .specifyNamed named specification, ?_, rfl⟩
      rintro ⟨unknown⟩
      exact unknown property named
    | none =>
      have unknown := Property.ofName?_eq_none_iff.1 sought
      refine .inr ⟨?_, rfl, .inl ⟨.specifyNamed unknown specification, by simp⟩⟩
      rintro condition ⟨⟩
      exact unknown _ ‹_›
  | readSelector kind value =>
    have same := (draft.keeps_readSelector kind value).criteria
    refine .inr ⟨?_, congrArg Criteria.conditions same,
      .inr ⟨?_, congrArg Criteria.unknownNames same⟩⟩
    · rintro condition ⟨⟩
    · rintro ⟨⟩
  | readMetadata key text =>
    have same := (draft.keeps_readMetadata key text).criteria
    refine .inr ⟨?_, congrArg Criteria.conditions same,
      .inr ⟨?_, congrArg Criteria.unknownNames same⟩⟩
    · rintro condition ⟨⟩
    · rintro ⟨⟩
  | filter | template | selector | formatter | metadata | scope | index =>
    refine .inr ⟨?_, rfl, .inr ⟨?_, rfl⟩⟩
    · rintro condition ⟨⟩
    · rintro ⟨⟩

theorem mem_conditions_apply {step : DraftStep} {condition : Condition} :
    condition ∈ (draft.apply step).criteria.conditions ↔
      step.Gives condition ∨
        condition ∈ draft.criteria.conditions ∧ step.SilentOn condition.property := by
  rcases draft.criteria_apply_cases step with ⟨added, given, -, changed⟩ | ⟨silent, same, -⟩
  · rw [changed, Criteria.mem_conditions_add, given.iff_eq, given.silentOn_iff]
  · have silentOn : step.SilentOn condition.property :=
      fun other gives => absurd gives (silent other)
    rw [same, or_iff_right (silent condition), and_iff_left silentOn]

theorem unknownNames_apply_eq_nil_iff {step : DraftStep} :
    (draft.apply step).criteria.unknownNames = [] ↔
      draft.criteria.unknownNames = [] ∧ ¬ step.Misnamed := by
  rcases draft.criteria_apply_cases step with
    ⟨added, -, named, changed⟩ | ⟨-, -, ⟨misnamed, kept⟩ | ⟨named, same⟩⟩
  · rw [changed, and_iff_left named, Criteria.add]
  · exact iff_of_false kept fun both => both.2 misnamed
  · rw [same, and_iff_left named]

theorem hostFilter_apply {step : DraftStep} (ownCriteria : ∀ filter, step ≠ .filter filter) :
    (draft.apply step).hostFilter = draft.hostFilter := by
  cases step with
  | filter filter => exact absurd rfl (ownCriteria filter)
  | readSelector kind value => exact (draft.keeps_readSelector kind value).hostFilter
  | readMetadata key text => exact (draft.keeps_readMetadata key text).hostFilter
  | specify | specifyNamed | condition | template | selector | formatter | metadata | scope
  | index => rfl

/-! ## All parts -/

theorem mem_conditions_applyAll {steps : List DraftStep} {condition : Condition} :
    condition ∈ (draft.applyAll steps).criteria.conditions ↔
      DraftStep.Stands steps condition ∨
        condition ∈ draft.criteria.conditions ∧
          ∀ step ∈ steps, step.SilentOn condition.property := by
  induction steps generalizing draft with
  | nil =>
    have noneStands : ¬ DraftStep.Stands [] condition := by
      rintro ⟨⟩
    simp [applyAll, noneStands]
  | cons step steps ih =>
    change condition ∈ ((draft.apply step).applyAll steps).criteria.conditions ↔ _
    rw [ih, mem_conditions_apply, DraftStep.stands_cons_iff, List.forall_mem_cons, or_and_right,
      and_assoc, or_left_comm, or_assoc]

/-- The criteria of a draft hold the standing conditions. -/
theorem mem_conditions_iff_stands {steps : List DraftStep} {condition : Condition} :
    condition ∈ (empty.applyAll steps).criteria.conditions ↔ DraftStep.Stands steps condition := by
  rw [mem_conditions_applyAll]
  apply or_iff_left
  rintro ⟨member, -⟩
  cases member

theorem unknownNames_applyAll_eq_nil_iff {steps : List DraftStep} :
    (draft.applyAll steps).criteria.unknownNames = [] ↔
      draft.criteria.unknownNames = [] ∧ ∀ step ∈ steps, ¬ step.Misnamed := by
  induction steps generalizing draft with
  | nil => simp [applyAll]
  | cons step steps ih =>
    change ((draft.apply step).applyAll steps).criteria.unknownNames = [] ↔ _
    rw [ih, unknownNames_apply_eq_nil_iff, List.forall_mem_cons, and_assoc]

/-- A misnamed part is never forgiven. -/
theorem unknownNames_eq_nil_iff {steps : List DraftStep} :
    (empty.applyAll steps).criteria.unknownNames = [] ↔ ∀ step ∈ steps, ¬ step.Misnamed := by
  rw [unknownNames_applyAll_eq_nil_iff]
  exact and_iff_right rfl

theorem hostFilter_applyAll {steps : List DraftStep}
    (ownCriteria : ∀ filter, .filter filter ∉ steps) :
    (draft.applyAll steps).hostFilter = draft.hostFilter := by
  induction steps generalizing draft with
  | nil => rfl
  | cons step steps ih =>
    have first : (draft.apply step).hostFilter = draft.hostFilter := by
      apply hostFilter_apply
      rintro filter rfl
      exact ownCriteria filter List.mem_cons_self
    have rest := @ih (draft.apply step) fun filter member =>
      ownCriteria filter (List.mem_cons_of_mem step member)
    exact rest.trans first

end Draft

/-- Without a filter of the host a rule is filtered by the criteria of its draft, if any. -/
theorem Rule.filter_of_ofSteps {steps : List DraftStep} {rule : Rule}
    (ownCriteria : ∀ filter, .filter filter ∉ steps) (built : ofSteps steps = .ok rule) :
    rule.filter =
      if (Draft.empty.applyAll steps).criteria.isEmpty then none
      else some (.criteria (Draft.empty.applyAll steps).criteria) := by
  have noHostFilter : (Draft.empty.applyAll steps).hostFilter = none :=
    Draft.hostFilter_applyAll ownCriteria
  rw [(Draft.build_eq_ok built).2.1, Draft.ruleFilter, noHostFilter]

end SpokenFeedback
