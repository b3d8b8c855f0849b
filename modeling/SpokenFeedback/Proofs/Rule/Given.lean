import SpokenFeedback.Proofs.Rule.Declared

/-!
# Parts that a rule has been given

A draft has a scope of its own or a formatter of the host only if one stands among its parts
(`Draft.mem_of_scope` and `Draft.mem_of_hostFormatter`).  A rule without a scope of its own is filed
under the package of its criteria, and this scope is never blank: `Rule.mem_of_isBlank_scope` says
that a blank scope was given as it is.  A rule without parts of the host speaks by a phrase, or not
at all (`Rule.HostFree.formatter_eq_phrase`).
-/

namespace SpokenFeedback

namespace Draft

variable {draft : Draft}

/-- A part is a scope and the draft's from then on, or it leaves the draft's scope as it is. -/
theorem scope_apply_cases (draft : Draft) (step : DraftStep) :
    (∃ scope, step = .scope scope ∧ (draft.apply step).scope = some scope) ∨
      (draft.apply step).scope = draft.scope := by
  cases step with
  | scope scope => exact .inl ⟨scope, rfl, rfl⟩
  | readSelector kind value => exact .inr (draft.keeps_readSelector kind value).scope
  | readMetadata key text => exact .inr (draft.keeps_readMetadata key text).scope
  | specify | specifyNamed | condition | filter | template | selector | formatter | metadata
  | index => exact .inr rfl

theorem hostFormatter_apply_cases (draft : Draft) (step : DraftStep) :
    (∃ formatter, step = .formatter formatter ∧
        (draft.apply step).hostFormatter = some formatter) ∨
      (draft.apply step).hostFormatter = draft.hostFormatter := by
  cases step with
  | formatter formatter => exact .inl ⟨formatter, rfl, rfl⟩
  | readSelector kind value => exact .inr (draft.keeps_readSelector kind value).hostFormatter
  | readMetadata key text => exact .inr (draft.keeps_readMetadata key text).hostFormatter
  | specify | specifyNamed | condition | filter | template | selector | metadata | scope
  | index => exact .inr rfl

/-- What only parts of one form change has been given by such a part, or was there before. -/
theorem mem_or_of_applyAll {α : Type} {field : Draft → Option α} {part : α → DraftStep}
    (apply_cases : ∀ (draft : Draft) (step : DraftStep),
      (∃ given, step = part given ∧ field (draft.apply step) = some given) ∨
        field (draft.apply step) = field draft)
    {steps : List DraftStep} {given : α} (found : field (draft.applyAll steps) = some given) :
    part given ∈ steps ∨ field draft = some given := by
  induction steps generalizing draft with
  | nil => exact .inr found
  | cons step steps ih =>
    rcases ih found with later | here
    · exact .inl (List.mem_cons_of_mem step later)
    · rcases apply_cases draft step with ⟨other, rfl, changed⟩ | same
      · rcases Option.some.inj (changed.symm.trans here) with rfl
        exact .inl List.mem_cons_self
      · exact .inr (same.symm.trans here)

theorem mem_of_scope {steps : List DraftStep} {scope : Scope}
    (found : (empty.applyAll steps).scope = some scope) : .scope scope ∈ steps :=
  (mem_or_of_applyAll scope_apply_cases found).resolve_right nofun

theorem mem_of_hostFormatter {steps : List DraftStep} {formatter : HostFormatter}
    (found : (empty.applyAll steps).hostFormatter = some formatter) :
    .formatter formatter ∈ steps :=
  (mem_or_of_applyAll hostFormatter_apply_cases found).resolve_right nofun

/-- The scope that is taken from the criteria is not blank. -/
theorem isBlank_ruleScope (derived : draft.scope = none) : draft.ruleScope.isBlank = false := by
  rw [ruleScope, derived]
  cases draft.criteria.packageName? with
  | none => rfl
  | some package =>
    by_cases blank : Text.isBlankText package = true
    · simp [blank, Scope.isBlank]
    · simp [blank, Scope.isBlank]

end Draft

namespace Rule

variable {rule : Rule}

/-- A rule is built with a blank scope only if this scope is among its parts. -/
theorem mem_of_isBlank_scope {steps : List DraftStep} (built : ofSteps steps = .ok rule)
    (blank : rule.scope.isBlank = true) : .scope rule.scope ∈ steps := by
  rw [(Draft.build_eq_ok built).1] at blank ⊢
  cases given : (Draft.empty.applyAll steps).scope with
  | none => simp [Draft.isBlank_ruleScope given] at blank
  | some scope =>
    rw [Draft.ruleScope, given]
    exact Draft.mem_of_scope given

/-- A rule that is built without parts of the host. -/
def HostFree (rule : Rule) : Prop :=
  ∃ steps : List DraftStep, (∀ filter, .filter filter ∉ steps) ∧
    (∀ formatter, .formatter formatter ∉ steps) ∧ ofSteps steps = .ok rule

theorem Declared.hostFree (declared : rule.Declared) : rule.HostFree := by
  rcases declared with ⟨steps, declarative, built⟩
  refine ⟨steps, ?_, ?_, built⟩
  · intro filter member
    cases declarative _ member
  · intro formatter member
    cases declarative _ member

/-- A rule without parts of the host speaks by a phrase, or not at all. -/
theorem HostFree.formatter_eq_phrase (hostFree : rule.HostFree) {formatter : RuleFormatter}
    (given : formatter ∈ rule.formatter) : ∃ phrase, formatter = .phrase phrase := by
  rcases hostFree with ⟨steps, -, noFormatter, built⟩
  have spoken := (Draft.build_eq_ok built).2.2
  rw [Option.mem_def.1 given] at spoken
  apply Draft.eq_phrase_of_ruleFormatter _ spoken
  apply Option.eq_none_iff_forall_ne_some.2
  intro formatter found
  exact noFormatter formatter (Draft.mem_of_hostFormatter found)

end Rule

end SpokenFeedback
