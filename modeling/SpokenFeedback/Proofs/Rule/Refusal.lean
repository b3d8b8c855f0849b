import SpokenFeedback.Proofs.Condition.LiteralKinds
import SpokenFeedback.Proofs.Phrase.ResourceTemplate
import SpokenFeedback.Proofs.Rule.Standing

/-!
# Refused drafts

A draft is refused for a selector, for metadata or for its template.  Selectors and metadata are
read when they are given, and their faults are kept in this order, whatever is given later.  A
template is read only when the rule is built: a later template takes the place of an earlier one,
and a formatter of the host makes all of them idle.

`DraftStep.Refused` says what is wrong with one part.  `Draft.faults_apply` and
`Draft.applyAll_of_apply` say what one part does to the faults and to the template; from them follow
the earliest fault of all parts (`Draft.head?_faults_iff`) and the last template
(`Draft.template_iff`), and so which fault refuses a rule (`Rule.ofSteps_refused_iff`).
-/

namespace SpokenFeedback

/-! ## Names -/

theorem QueueMode.ofName?_eq_none_iff {name : String} :
    ofName? name = none ↔ ∀ mode : QueueMode, mode.name ≠ Text.trim name := by
  have listed : ∀ mode : QueueMode, mode ∈ all := by
    intro mode
    cases mode <;> decide
  simp [ofName?, ofExactName?, listed]

theorem QueueMode.read_eq_error_iff {text : String} {fault : ValidationFault} :
    read text = .error fault ↔
      (∀ mode : QueueMode, mode.name ≠ Text.trim text) ∧
        fault = .unknownQueueMode (Text.trim text) := by
  rw [← ofName?_eq_none_iff, read]
  cases ofName? text with
  | some mode => simp
  | none => simp [eq_comm]

theorem Property.read_eq_error_iff {text : String} {fault : ValidationFault} :
    read text = .error fault ↔
      (∀ property : Property, property.name ≠ Text.trim text) ∧
        fault = .unknownProperty (Text.trim text) := by
  rw [← ofName?_eq_none_iff, read]
  cases ofName? text with
  | some property => simp
  | none => simp [eq_comm]

/-! ## One part -/

namespace DraftStep

/-- The part is a selector or metadata that cannot be read, for this fault. -/
inductive Refused : DraftStep → ValidationFault → Prop where
  | unknownKind {kind : String} (unknown : ∀ selector : Selector, selector.kind ≠ Text.trim kind)
    (value : String) : Refused (.readSelector kind value) (.unknownSelector (Text.trim kind))
  | unknownProperty {kind value : String} (ofProperty : Text.trim kind = "property")
    (unknown : ∀ property : Property, property.name ≠ Text.trim value) :
    Refused (.readSelector kind value) (.unknownProperty (Text.trim value))
  | unknownQueueMode {text : String} (unknown : ∀ mode : QueueMode, mode.name ≠ Text.trim text) :
    Refused (.readMetadata Utterance.queueingKey text) (.unknownQueueMode (Text.trim text))
  | noLiteral {key text : String} {property : Property} (named : property.name = Text.trim key)
    (malformed : ¬ Literal.IsLiteral property text.toList) :
    Refused (.readMetadata key text) (Literal.refusal property (Text.trim text))

/-- Whether the part gives a condition: by a specification, under a name, or ready made. -/
def isCondition : DraftStep → Bool
  | .specify _ _ | .specifyNamed _ _ | .condition _ => true
  | _ => false

end DraftStep

/-- The fault of a reading that failed. -/
def faultOf? {α : Type} : Except ValidationFault α → Option ValidationFault
  | .ok _ => none
  | .error fault => some fault

theorem faultOf?_eq_some_iff {α : Type} {reading : Except ValidationFault α}
    {fault : ValidationFault} : faultOf? reading = some fault ↔ reading = .error fault := by
  cases reading with
  | ok => simp [faultOf?]
  | error => simp [faultOf?]

theorem Selector.read_eq_error_iff {kind value : String} {fault : ValidationFault} :
    read kind value = .error fault ↔ (DraftStep.readSelector kind value).Refused fault := by
  constructor
  · intro refused
    rw [read] at refused
    split at refused
    next ofProperty =>
      cases reading : Property.read value with
      | ok property =>
        rw [reading] at refused
        cases refused
      | error found =>
        rw [reading] at refused
        rcases Except.error.inj refused with rfl
        rcases Property.read_eq_error_iff.1 reading with ⟨unknown, rfl⟩
        exact .unknownProperty ofProperty unknown
    next => cases refused
    next => cases refused
    next noProperty noSplit noSearch =>
      rcases Except.error.inj refused with rfl
      apply DraftStep.Refused.unknownKind
      rintro (_ | _ | _) named
      · exact noProperty named.symm
      · exact noSplit named.symm
      · exact noSearch named.symm
  · intro refused
    cases refused with
    | unknownKind unknown =>
      rw [read]
      split
      next named => exact absurd named.symm (unknown (.property default))
      next named => exact absurd named.symm (unknown (.split ""))
      next named => exact absurd named.symm (unknown (.search ""))
      next => rfl
    | unknownProperty ofProperty unknown =>
      rw [read, ofProperty, Property.read_eq_error_iff.2 ⟨unknown, rfl⟩]
      rfl

namespace DraftStep

/-- The fault of metadata that are given as text. -/
def metadataFault? (key text : String) : Option ValidationFault :=
  if key = Utterance.queueingKey then faultOf? (QueueMode.read text)
  else (Property.ofName? key).bind fun property => faultOf? (Literal.read property text)

theorem metadataFault?_eq_some_iff {key text : String} {fault : ValidationFault} :
    metadataFault? key text = some fault ↔ (readMetadata key text).Refused fault := by
  have unnamed : ∀ property : Property, property.name ≠ Text.trim Utterance.queueingKey := by
    apply Property.ofName?_eq_none_iff.1
    decide
  constructor
  · intro refused
    rw [metadataFault?] at refused
    split at refused
    next queueing =>
      rcases QueueMode.read_eq_error_iff.1 (faultOf?_eq_some_iff.1 refused) with
        ⟨unknown, rfl⟩
      rw [queueing]
      exact .unknownQueueMode unknown
    next =>
      rcases Option.bind_eq_some_iff.1 refused with ⟨property, found, refused⟩
      rcases Literal.read_eq_error_iff.1 (faultOf?_eq_some_iff.1 refused) with
        ⟨malformed, rfl⟩
      exact .noLiteral (Property.ofName?_eq_some_iff.1 found) malformed
  · intro refused
    rw [metadataFault?]
    cases refused with
    | unknownQueueMode unknown =>
      rw [if_pos rfl, faultOf?_eq_some_iff]
      exact QueueMode.read_eq_error_iff.2 ⟨unknown, rfl⟩
    | noLiteral named malformed =>
      rw [if_neg, Property.ofName?_eq_some_iff.2 named, Option.bind_some,
        faultOf?_eq_some_iff]
      · exact Literal.read_eq_error_iff.2 ⟨malformed, rfl⟩
      · rintro rfl
        exact unnamed _ named

/-- The fault of a part that cannot be read. -/
def fault? : DraftStep → Option ValidationFault
  | .readSelector kind value => faultOf? (Selector.read kind value)
  | .readMetadata key text => metadataFault? key text
  | _ => none

theorem fault?_eq_some_iff {step : DraftStep} {fault : ValidationFault} :
    step.fault? = some fault ↔ step.Refused fault := by
  cases step with
  | readSelector kind value => exact faultOf?_eq_some_iff.trans Selector.read_eq_error_iff
  | readMetadata key text => exact metadataFault?_eq_some_iff
  | specify | specifyNamed | condition | filter | template | selector | formatter | metadata
  | scope | index => exact iff_of_false nofun nofun

theorem fault?_eq_none_iff {step : DraftStep} :
    step.fault? = none ↔ ∀ fault, ¬ step.Refused fault := by
  rw [Option.eq_none_iff_forall_ne_some]
  exact forall_congr' fun fault => not_congr fault?_eq_some_iff

/-- The template that the part gives. -/
def template? : DraftStep → Option String
  | .template text => some text
  | _ => none

/-- The formatter of the host that the part gives. -/
def hostFormatter? : DraftStep → Option HostFormatter
  | .formatter given => some given
  | _ => none

theorem template?_eq_some_iff {step : DraftStep} {text : String} :
    step.template? = some text ↔ step = .template text := by
  cases step <;> simp [template?]

theorem hostFormatter?_eq_some_iff {step : DraftStep} {formatter : HostFormatter} :
    step.hostFormatter? = some formatter ↔ step = .formatter formatter := by
  cases step <;> simp [hostFormatter?]

end DraftStep

namespace Draft

theorem faults_readSelector (draft : Draft) (kind value : String) :
    (draft.readSelector kind value).faults =
      draft.faults ++ (faultOf? (Selector.read kind value)).toList := by
  rw [readSelector]
  cases Selector.read kind value with
  | ok selector => exact (List.append_nil _).symm
  | error fault => rfl

theorem faults_readQueueMode (draft : Draft) (text : String) :
    (draft.readQueueMode text).faults =
      draft.faults ++ (faultOf? (QueueMode.read text)).toList := by
  rw [readQueueMode]
  cases QueueMode.read text with
  | ok mode => exact (List.append_nil _).symm
  | error fault => rfl

theorem faults_readProperty (draft : Draft) (key text : String) :
    (draft.readProperty key text).faults = draft.faults ++
      ((Property.ofName? key).bind fun property =>
        faultOf? (Literal.read property text)).toList := by
  rw [readProperty]
  cases Property.ofName? key with
  | none => exact (List.append_nil _).symm
  | some property =>
    dsimp only [Option.bind_some]
    cases Literal.read property text with
    | ok value => exact (List.append_nil _).symm
    | error fault => rfl

theorem faults_readMetadata (draft : Draft) (key text : String) :
    (draft.readMetadata key text).faults =
      draft.faults ++ (DraftStep.metadataFault? key text).toList := by
  -- The keys of sounds and vibrations are no names of properties.
  have noProperty : ∀ key ∈ auditoryKeys ++ hapticKeys, Property.ofName? key = none := by decide
  rw [readMetadata, DraftStep.metadataFault?]
  split_ifs with queueing sound vibration
  · exact faults_readQueueMode draft text
  · rw [noProperty key (List.mem_append_left _ (List.contains_iff_mem.1 sound))]
    exact (List.append_nil _).symm
  · rw [noProperty key (List.mem_append_right _ (List.contains_iff_mem.1 vibration))]
    exact (List.append_nil _).symm
  · exact faults_readProperty draft key text

/-- A part adds its fault, if it has one, to the faults that are there. -/
theorem faults_apply (draft : Draft) (step : DraftStep) :
    (draft.apply step).faults = draft.faults ++ step.fault?.toList := by
  cases step with
  | readSelector kind value => exact faults_readSelector draft kind value
  | readMetadata key text => exact faults_readMetadata draft key text
  | specify | specifyNamed | condition | filter | template | selector | formatter | metadata
  | scope | index => exact (List.append_nil _).symm

theorem template_readSelector (draft : Draft) (kind value : String) :
    (draft.readSelector kind value).template = draft.template := by
  rw [readSelector]
  split <;> rfl

theorem template_readMetadata (draft : Draft) (key text : String) :
    (draft.readMetadata key text).template = draft.template := by
  rw [readMetadata, readQueueMode, readProperty]
  split_ifs
  · split <;> rfl
  · rfl
  · rfl
  · split
    · split <;> rfl
    · rfl

/-- A template takes the place of the one before; other parts leave the template as it is. -/
theorem template_apply (draft : Draft) (step : DraftStep) :
    (draft.apply step).template = step.template?.or draft.template := by
  cases step with
  | readSelector kind value => exact template_readSelector draft kind value
  | readMetadata key text => exact template_readMetadata draft key text
  | specify | specifyNamed | condition | filter | template | selector | formatter | metadata
  | scope | index => rfl

theorem hostFormatter_apply (draft : Draft) (step : DraftStep) :
    (draft.apply step).hostFormatter = step.hostFormatter?.or draft.hostFormatter := by
  cases step with
  | readSelector kind value => exact (draft.keeps_readSelector kind value).hostFormatter
  | readMetadata key text => exact (draft.keeps_readMetadata key text).hostFormatter
  | specify | specifyNamed | condition | filter | template | selector | formatter | metadata
  | scope | index => rfl

/-! ## All parts -/

theorem faults_applyAll (draft : Draft) (steps : List DraftStep) :
    (draft.applyAll steps).faults = draft.faults ++ steps.filterMap DraftStep.fault? := by
  induction steps generalizing draft with
  | nil => exact (List.append_nil _).symm
  | cons step steps ih =>
    change ((draft.apply step).applyAll steps).faults = _
    rw [ih, faults_apply, List.append_assoc, List.filterMap_cons]
    cases step.fault? with
    | none => rfl
    | some fault => rfl

/-- What each part of one form replaces is in the end what the last of them gives. -/
theorem applyAll_of_apply {α : Type} {field : Draft → Option α} {given? : DraftStep → Option α}
    (field_apply : ∀ draft step, field (draft.apply step) = (given? step).or (field draft))
    (draft : Draft) (steps : List DraftStep) :
    field (draft.applyAll steps) = (steps.filterMap given?).getLast?.or (field draft) := by
  induction steps generalizing draft with
  | nil => rfl
  | cons step steps ih =>
    change field ((draft.apply step).applyAll steps) = _
    rw [ih, field_apply, List.filterMap_cons, ← Option.or_assoc]
    cases given? step with
    | none => simp
    | some given => simp [List.getLast?_cons]

theorem template_applyAll (steps : List DraftStep) :
    (empty.applyAll steps).template = (steps.filterMap DraftStep.template?).getLast? := by
  rw [applyAll_of_apply template_apply]
  exact Option.or_none

theorem hostFormatter_applyAll (steps : List DraftStep) :
    (empty.applyAll steps).hostFormatter =
      (steps.filterMap DraftStep.hostFormatter?).getLast? := by
  rw [applyAll_of_apply hostFormatter_apply]
  exact Option.or_none

end Draft

namespace DraftStep

/-- The fault of the earliest part that cannot be read. -/
def EarliestRefusal (steps : List DraftStep) (fault : ValidationFault) : Prop :=
  ∃ before step after, steps = before ++ step :: after ∧ step.Refused fault ∧
    ∀ earlier ∈ before, ∀ other, ¬ earlier.Refused other

/-- The last template among the parts. -/
def LastTemplate (steps : List DraftStep) (text : String) : Prop :=
  ∃ before after, steps = before ++ .template text :: after ∧ ∀ other, .template other ∉ after

/-- Every part that can fail to be read has been read. -/
def AllRead (steps : List DraftStep) : Prop := ∀ step ∈ steps, ∀ fault, ¬ step.Refused fault

/-- No part is a formatter of the host. -/
def WithoutHostFormatter (steps : List DraftStep) : Prop :=
  ∀ formatter, .formatter formatter ∉ steps

end DraftStep

namespace Draft

open DraftStep

variable {steps : List DraftStep}

theorem head?_faults_iff {fault : ValidationFault} :
    (empty.applyAll steps).faults.head? = some fault ↔ EarliestRefusal steps fault := by
  have kept : (empty.applyAll steps).faults = steps.filterMap fault? := faults_applyAll empty steps
  rw [kept, List.head?_filterMap, List.findSome?_eq_some_iff]
  simp only [fault?_eq_some_iff, fault?_eq_none_iff, EarliestRefusal]

theorem faults_eq_nil_iff : (empty.applyAll steps).faults = [] ↔ AllRead steps := by
  have kept : (empty.applyAll steps).faults = steps.filterMap fault? := faults_applyAll empty steps
  rw [kept, List.filterMap_eq_nil_iff]
  simp only [fault?_eq_none_iff, AllRead]

theorem template_iff {text : String} :
    (empty.applyAll steps).template = some text ↔ LastTemplate steps text := by
  rw [template_applyAll, List.getLast?_filterMap, List.findSome?_eq_some_iff]
  constructor
  · rintro ⟨after, step, before, reversed, given, silent⟩
    rcases template?_eq_some_iff.1 given with rfl
    refine ⟨before.reverse, after.reverse, ?_, ?_⟩
    · rw [List.reverse_eq_append_iff.1 reversed]
      simp
    · intro other member
      cases silent _ (List.mem_reverse.1 member)
  · rintro ⟨before, after, rfl, last⟩
    refine ⟨after.reverse, .template text, before.reverse, by simp, rfl, ?_⟩
    intro step member
    rw [Option.eq_none_iff_forall_ne_some]
    intro other given
    rw [template?_eq_some_iff.1 given] at member
    exact last other (List.mem_reverse.1 member)

theorem hostFormatter_eq_none_iff :
    (empty.applyAll steps).hostFormatter = none ↔ WithoutHostFormatter steps := by
  rw [hostFormatter_applyAll, List.getLast?_filterMap, List.findSome?_eq_none_iff]
  constructor
  · intro silent formatter member
    cases silent _ (List.mem_reverse.2 member)
  · intro without step member
    rw [Option.eq_none_iff_forall_ne_some]
    intro formatter given
    rw [hostFormatter?_eq_some_iff.1 given] at member
    exact without formatter (List.mem_reverse.1 member)

end Draft

/-! ## Templates -/

/-- The text is neither a reference to a resource nor spelled by the lexemes of a template. -/
def TemplateSource.Malformed (text : String) : Prop :=
  ¬ Referring text.toList ∧ ¬ ∃ lexemes, Template.Lexeme.write lexemes = text.toList

theorem Template.exists_read_iff {text : String} :
    (∃ template, read text = .ok template) ↔
      ∃ lexemes, Lexeme.write lexemes = text.toList := by
  constructor
  · rintro ⟨template, reading⟩
    rcases (read_eq_ok_iff.1 reading).2 with ⟨lexemes, spelled, -⟩
    exact ⟨lexemes, spelled⟩
  · rintro ⟨lexemes, spelled⟩
    exact ⟨_, read_of_write spelled⟩

/-- The fault that a text is a malformed template, for the reason that the reader gives. -/
def Template.Flawed (text : String) (fault : ValidationFault) : Prop :=
  ∃ reason, fault = .invalidTemplate text reason ∧ read text = .error fault

theorem TemplateSource.read_eq_error_iff {text : String} {fault : ValidationFault} :
    read text = .error fault ↔ Malformed text ∧ Template.Flawed text fault := by
  rw [Malformed, ← isReference_iff, ← Template.exists_read_iff, read]
  split
  next refers => simp [refers]
  next other =>
    rw [Except.map_eq_error_iff]
    constructor
    · intro refused
      have unread : ¬ ∃ template, Template.read text = .ok template := by simp [refused]
      rcases Template.read_eq_error_of_unread unread with ⟨reason, flawed⟩
      exact ⟨⟨other, unread⟩, reason, Except.error.inj (refused.symm.trans flawed), refused⟩
    · rintro ⟨-, reason, -, refused⟩
      exact refused

theorem TemplateSource.Malformed.exists_flawed {text : String} (malformed : Malformed text) :
    ∃ fault, Template.Flawed text fault := by
  rcases Template.read_eq_error_of_unread (mt Template.exists_read_iff.1 malformed.2) with
    ⟨reason, refused⟩
  exact ⟨_, reason, rfl, refused⟩

/-! ## The fault of a draft -/

namespace Draft

variable {draft : Draft}

theorem ruleFormatter_eq_error_iff {fault : ValidationFault} :
    draft.ruleFormatter = .error fault ↔
      draft.hostFormatter = none ∧
        ∃ text, draft.template = some text ∧ TemplateSource.read text = .error fault := by
  rw [ruleFormatter, phrase]
  cases draft.hostFormatter with
  | some formatter => simp
  | none =>
    cases draft.template with
    | none =>
      dsimp only
      split_ifs <;> simp [Except.map]
    | some text =>
      have unfilled : ((some text).isNone && draft.selectors.isEmpty) = false := rfl
      dsimp only
      rw [unfilled, if_neg Bool.false_ne_true, Except.map_eq_error_iff, Except.map_eq_error_iff]
      simp

/-- A rule is refused for the first fault that was kept, or else for the template in use. -/
theorem build_eq_error_iff {fault : Fault} :
    draft.build = .error fault ↔
      (∃ cause, draft.faults.head? = some cause ∧ fault = .validation cause) ∨
        draft.faults = [] ∧
          ∃ cause, draft.ruleFormatter = .error cause ∧ fault = .validation cause := by
  rw [build]
  cases draft.faults with
  | cons first others => simp [eq_comm]
  | nil =>
    cases draft.ruleFormatter with
    | ok formatter => simp
    | error cause => simp [eq_comm]

end Draft

/-! ## Parts without a say -/

namespace DraftStep

theorem idle_of_isCondition {step : DraftStep} (conditional : step.isCondition = true) :
    step.fault? = none ∧ step.template? = none ∧ step.hostFormatter? = none := by
  cases step with
  | specify | specifyNamed | condition => exact ⟨rfl, rfl, rfl⟩
  | filter | template | readSelector | selector | formatter | readMetadata | metadata | scope
  | index => cases conditional

/-- The parts other than conditions. -/
def unconditional (steps : List DraftStep) : List DraftStep :=
  steps.filter fun step => !step.isCondition

theorem filterMap_unconditional {α : Type} {given? : DraftStep → Option α}
    (idle : ∀ step, step.isCondition = true → given? step = none) (steps : List DraftStep) :
    (unconditional steps).filterMap given? = steps.filterMap given? := by
  rw [unconditional, List.filterMap_filter]
  apply List.filterMap_congr
  intro step member
  cases conditional : step.isCondition with
  | true => rw [idle step conditional, ite_self]
  | false => rfl

end DraftStep

namespace Rule

open DraftStep

theorem ofSteps_eq_error_iff {steps : List DraftStep} {fault : Fault} :
    ofSteps steps = .error fault ↔
      (∃ cause, EarliestRefusal steps cause ∧ fault = .validation cause) ∨
        AllRead steps ∧ WithoutHostFormatter steps ∧
          ∃ text, LastTemplate steps text ∧ TemplateSource.Malformed text ∧
            ∃ cause, Template.Flawed text cause ∧ fault = .validation cause := by
  rw [ofSteps, Draft.build_eq_error_iff]
  simp only [Draft.head?_faults_iff, Draft.faults_eq_nil_iff, Draft.ruleFormatter_eq_error_iff,
    Draft.hostFormatter_eq_none_iff, Draft.template_iff, TemplateSource.read_eq_error_iff]
  constructor
  · rintro (earliest | ⟨read, cause, ⟨without, text, last, malformed, flawed⟩, rfl⟩)
    · exact .inl earliest
    · exact .inr ⟨read, without, text, last, malformed, cause, flawed, rfl⟩
  · rintro (earliest | ⟨read, without, text, last, malformed, cause, flawed, rfl⟩)
    · exact .inl earliest
    · exact .inr ⟨read, cause, ⟨without, text, last, malformed, flawed⟩, rfl⟩

theorem exists_earliestRefusal {steps : List DraftStep} (refused : ¬ AllRead steps) :
    ∃ cause, EarliestRefusal steps cause := by
  rw [← Draft.faults_eq_nil_iff] at refused
  rcases List.exists_cons_of_ne_nil refused with ⟨cause, others, kept⟩
  exact ⟨cause, Draft.head?_faults_iff.1 (by rw [kept]; rfl)⟩

/-- Conditions have no say in whether a rule is refused, nor in the fault. -/
theorem ofSteps_unconditional_eq_error_iff {steps : List DraftStep} {fault : Fault} :
    ofSteps (unconditional steps) = .error fault ↔ ofSteps steps = .error fault := by
  have faults : (Draft.empty.applyAll (unconditional steps)).faults =
      (Draft.empty.applyAll steps).faults := by
    rw [Draft.faults_applyAll, Draft.faults_applyAll,
      filterMap_unconditional fun step conditional => (idle_of_isCondition conditional).1]
  have template : (Draft.empty.applyAll (unconditional steps)).template =
      (Draft.empty.applyAll steps).template := by
    rw [Draft.template_applyAll, Draft.template_applyAll,
      filterMap_unconditional fun step conditional => (idle_of_isCondition conditional).2.1]
  have hostFormatter : (Draft.empty.applyAll (unconditional steps)).hostFormatter =
      (Draft.empty.applyAll steps).hostFormatter := by
    rw [Draft.hostFormatter_applyAll, Draft.hostFormatter_applyAll,
      filterMap_unconditional fun step conditional => (idle_of_isCondition conditional).2.2]
  rw [ofSteps, ofSteps, Draft.build_eq_error_iff, Draft.build_eq_error_iff]
  simp only [Draft.ruleFormatter_eq_error_iff, faults, template, hostFormatter]

/--
A rule is refused exactly if some selector or metadata among its parts cannot be read, or if no
formatter of the host is among them and the last template is malformed.  The fault is that of the
earliest part that cannot be read, whatever comes later, and that of the template only if all parts
have been read.  Leaving out the conditions changes neither.
-/
theorem ofSteps_refused_iff (steps : List DraftStep) :
    ((∃ fault, ofSteps steps = .error fault) ↔
      (∃ step ∈ steps, ∃ cause, step.Refused cause) ∨
        WithoutHostFormatter steps ∧
          ∃ text, LastTemplate steps text ∧ TemplateSource.Malformed text) ∧
    (∀ fault, ofSteps steps = .error fault ↔
      (∃ cause, EarliestRefusal steps cause ∧ fault = .validation cause) ∨
        AllRead steps ∧ WithoutHostFormatter steps ∧
          ∃ text, LastTemplate steps text ∧ TemplateSource.Malformed text ∧
            ∃ cause, Template.Flawed text cause ∧ fault = .validation cause) ∧
    ∀ fault, ofSteps (unconditional steps) = .error fault ↔ ofSteps steps = .error fault := by
  refine ⟨⟨?_, ?_⟩, fun fault => ofSteps_eq_error_iff,
    fun fault => ofSteps_unconditional_eq_error_iff⟩
  · rintro ⟨fault, refused⟩
    rcases ofSteps_eq_error_iff.1 refused with
      ⟨cause, ⟨before, step, after, rfl, refused, -⟩, -⟩ | ⟨-, without, text, last, malformed, -⟩
    · exact .inl ⟨step, List.mem_append_right before List.mem_cons_self, cause, refused⟩
    · exact .inr ⟨without, text, last, malformed⟩
  · intro refused
    by_cases read : AllRead steps
    · rcases refused with ⟨step, member, cause, refused⟩ | ⟨without, text, last, malformed⟩
      · exact absurd refused (read step member cause)
      · rcases malformed.exists_flawed with ⟨cause, flawed⟩
        exact ⟨_, ofSteps_eq_error_iff.2
          (.inr ⟨read, without, text, last, malformed, cause, flawed, rfl⟩)⟩
    · rcases exists_earliestRefusal read with ⟨cause, earliest⟩
      exact ⟨_, ofSteps_eq_error_iff.2 (.inl ⟨cause, earliest, rfl⟩)⟩

-- The later literal under the same key does not make up for the earlier one.
example :
    ofSteps [.template "%q", .readMetadata "itemCount" "four", .readMetadata "itemCount" "4"] =
      .error (.validation (.invalidLiteral "itemCount" .integer "four")) := by
  rfl

end Rule

end SpokenFeedback
