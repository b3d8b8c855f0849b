import SpokenFeedback.Proofs.Condition.Reading
import SpokenFeedback.Proofs.Dispatch.FirstMatch
import SpokenFeedback.Proofs.Rule.Standing

/-!
# Flawed rules never speak

A malformed condition and an unknown property name do not refuse a rule.  The rule must then be
for no event: were its filter lost on the way, it would be for every event.

`DraftStep.Flawed` says when the parts of a rule are flawed.  Exactly then the criteria of the rule
are invalid (`Draft.isValid_eq_false_iff`), and invalid criteria accept no event
(`Criteria.accepts_of_invalid`).  `Rule.fails_closed_of_flawed` follows the rule through dispatch.
-/

namespace SpokenFeedback

/-! ## Invalid criteria -/

namespace Criteria

variable {criteria : Criteria}

/-- Criteria are invalid if they have met an unknown name or hold a malformed condition. -/
theorem isValid_eq_false_iff : criteria.isValid = false ↔
    criteria.unknownNames ≠ [] ∨
      ∃ condition ∈ criteria.conditions, ∃ fault, condition.diagnostic? = some fault := by
  simp only [isValid, diagnostics, List.isEmpty_eq_false_iff, ne_eq, List.append_eq_nil_iff,
    List.map_eq_nil_iff, List.filterMap_eq_nil_iff, not_and_or, not_forall,
    Option.ne_none_iff_exists', exists_prop]

theorem accepts_of_invalid (invalid : criteria.isValid = false) (event : Event)
    (surroundings : Surroundings) : criteria.accepts event surroundings = false := by
  rw [accepts, Bool.and_eq_false_iff]
  rcases isValid_eq_false_iff.1 invalid with unknown | ⟨condition, member, fault, faulty⟩
  · exact .inl (List.isEmpty_eq_false_iff.2 unknown)
  · refine .inr (List.all_eq_false.2 ⟨condition, member, ?_⟩)
    simp [condition.evaluate_of_malformed faulty]

theorem isEmpty_of_invalid (invalid : criteria.isValid = false) : criteria.isEmpty = false := by
  rw [isEmpty, Bool.and_eq_false_iff, List.isEmpty_eq_false_iff, List.isEmpty_eq_false_iff]
  rcases isValid_eq_false_iff.1 invalid with unknown | ⟨condition, member, -⟩
  · exact .inr unknown
  · exact .inl (List.ne_nil_of_mem member)

end Criteria

/-! ## Flawed parts -/

/-- A part is misnamed, or a condition that stands is malformed. -/
inductive DraftStep.Flawed (steps : List DraftStep) : Prop where
  | misnamed {step : DraftStep} (member : step ∈ steps) (misnamed : step.Misnamed)
  | malformed {condition : Condition} {fault : ValidationFault} (stands : Stands steps condition)
    (faulty : condition.diagnostic? = some fault)

theorem Draft.isValid_eq_false_iff {steps : List DraftStep} :
    (empty.applyAll steps).criteria.isValid = false ↔ DraftStep.Flawed steps := by
  rw [Criteria.isValid_eq_false_iff, ne_eq, unknownNames_eq_nil_iff]
  constructor
  · rintro (unknown | ⟨condition, member, fault, faulty⟩)
    · obtain ⟨step, member, misnamed⟩ := by simpa using unknown
      exact .misnamed member misnamed
    · exact .malformed (mem_conditions_iff_stands.1 member) faulty
  · rintro (⟨member, misnamed⟩ | ⟨stands, faulty⟩)
    · exact .inl fun named => named _ member misnamed
    · exact .inr ⟨_, mem_conditions_iff_stands.2 stands, _, faulty⟩

/-! ## Rules of flawed parts -/

namespace Rule

variable {rule : Rule}

/-- The rule decides by invalid criteria. -/
def Invalid (rule : Rule) : Prop :=
  ∃ criteria : Criteria, rule.filter = some (.criteria criteria) ∧ criteria.isValid = false

/-- A rule without a filter of the host is invalid exactly if its parts are flawed. -/
theorem invalid_iff_flawed {steps : List DraftStep}
    (ownCriteria : ∀ filter, .filter filter ∉ steps) (built : ofSteps steps = .ok rule) :
    rule.Invalid ↔ DraftStep.Flawed steps := by
  rw [Invalid, filter_of_ofSteps ownCriteria built, ← Draft.isValid_eq_false_iff]
  constructor
  · rintro ⟨criteria, filtered, invalid⟩
    split at filtered
    · cases filtered
    · rcases RuleFilter.criteria.inj (Option.some.inj filtered) with rfl
      exact invalid
  · intro invalid
    refine ⟨_, if_neg ?_, invalid⟩
    simp [Criteria.isEmpty_of_invalid invalid]

theorem Invalid.accept_eq (invalid : rule.Invalid) {filter : RuleFilter}
    (filtered : filter ∈ rule.filter) (event : Event) (context : Context) :
    filter.accept event context = .done false := by
  rcases invalid with ⟨criteria, decided, invalid⟩
  rcases Option.some.inj (decided.symm.trans filtered) with rfl
  exact congrArg Outcome.done (Criteria.accepts_of_invalid invalid event context.surroundings)

theorem Invalid.not_applicable (invalid : rule.Invalid) {event : Event} {context : Context}
    {utterance : Utterance} : ¬ rule.Applicable event context utterance := by
  rintro ⟨accepted, -⟩
  have ⟨criteria, decided, _⟩ := invalid
  have refused := invalid.accept_eq decided event context
  rw [accepted _ decided] at refused
  cases refused

end Rule

/-! ## Dispatch -/

namespace Dispatcher

/-- The rule that dispatch reports is applicable. -/
theorem applicable_of_processInto {dispatcher : Dispatcher} {event : Event} {occasion : Occasion}
    {utterance : Utterance} {entry : RuleEntry}
    (reported : entry ∈ (dispatcher.processInto event occasion utterance).1) :
    entry.rule.Applicable event ⟨dispatcher.surroundings, occasion.values⟩ utterance := by
  rw [processInto_eq] at reported
  simpa using List.find?_some reported

theorem ne_of_invalid {rule : Rule} (invalid : rule.Invalid) {dispatcher : Dispatcher}
    {event : Event} {occasion : Occasion} {utterance : Utterance} {entry : RuleEntry}
    (reported : entry ∈ (dispatcher.processInto event occasion utterance).1) :
    entry.rule ≠ rule := by
  rintro rfl
  exact invalid.not_applicable (applicable_of_processInto reported)

end Dispatcher

/--
Flawed rules fail closed.  A rule without a filter of the host has invalid criteria exactly if its
parts are flawed; then its filter says no to every event, and no dispatcher ever reports it.
-/
theorem Rule.fails_closed_of_flawed {steps : List DraftStep} {rule : Rule}
    (ownCriteria : ∀ filter, .filter filter ∉ steps) (built : ofSteps steps = .ok rule) :
    (DraftStep.Flawed steps ↔
        ∃ criteria : Criteria,
          rule.filter = some (.criteria criteria) ∧ criteria.isValid = false) ∧
      (DraftStep.Flawed steps →
        (∀ filter ∈ rule.filter, ∀ event context, filter.accept event context = .done false) ∧
          ∀ (dispatcher : Dispatcher) (event : Event) (occasion : Occasion),
            (∀ entry ∈ (dispatcher.process event occasion).1.matched, entry.rule ≠ rule) ∧
              ∀ utterance, ∀ entry ∈ (dispatcher.processInto event occasion utterance).1,
                entry.rule ≠ rule) := by
  have invalid_iff := invalid_iff_flawed ownCriteria built
  refine ⟨invalid_iff.symm, fun flawed => ?_⟩
  have invalid : rule.Invalid := invalid_iff.2 flawed
  constructor
  · intro filter filtered event context
    exact invalid.accept_eq filtered event context
  · intro dispatcher event occasion
    constructor
    · intro entry reported
      exact Dispatcher.ne_of_invalid invalid reported
    · intro utterance entry reported
      exact Dispatcher.ne_of_invalid invalid reported

/-- An unknown name is not forgiven, though the malformed condition before it is replaced. -/
theorem Rule.never_reported_of_unknown_name :
    ∃ rule : Rule,
      ofSteps [.specify .itemCount "<= five", .specifyNamed "colour" "red",
          .specify .itemCount "5"] = .ok rule ∧
        (∀ filter ∈ rule.filter, ∀ event context, filter.accept event context = .done false) ∧
          ∀ (dispatcher : Dispatcher) (event : Event) (occasion : Occasion),
            ∀ entry ∈ (dispatcher.process event occasion).1.matched, entry.rule ≠ rule := by
  refine ⟨_, rfl, ?_⟩
  have unknown : ∀ property : Property, property.name ≠ Text.trim "colour" := by
    intro property
    cases property <;> decide
  have flawed : DraftStep.Flawed [.specify .itemCount "<= five", .specifyNamed "colour" "red",
      .specify .itemCount "5"] :=
    .misnamed (by simp) (.specifyNamed unknown "red")
  rcases (fails_closed_of_flawed (by simp) rfl).2 flawed with ⟨refused, unreported⟩
  exact ⟨refused, fun dispatcher event occasion => (unreported dispatcher event occasion).1⟩

end SpokenFeedback
