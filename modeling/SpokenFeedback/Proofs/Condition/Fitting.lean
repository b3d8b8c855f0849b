import SpokenFeedback.Proofs.Condition.Descent
import SpokenFeedback.Proofs.Condition.Reading

/-!
# Values that fit

Events carry values of any sort under any property, and a comparison reads an integer as a float and
a type as its name.  A condition still accepts only values that fit the kind of its property:
numbers, but never NaN, where numbers are compared; booleans; texts and type names, which for a type
must not be empty.  `Kind.Fits` says so, and there is one lemma for each way to compare.

`Condition.evaluate_fits` puts them together for conditions that come from a specification.  It
follows that an event without the property meets none of them, except those on capabilities, which
do not look at the event.
-/

namespace SpokenFeedback

/-- The values that a condition on a property of the kind can accept. -/
inductive Kind.Fits : Kind → Value → Prop where
  | integer {kind : Kind} (numeric : kind.isNumeric = true) (number : Int64) :
    Fits kind (.int number)
  | float {kind : Kind} (numeric : kind.isNumeric = true) {number : Float}
    (ordered : number.isNaN = false) : Fits kind (.float number)
  | boolean (truth : Bool) : Fits .boolean (.bool truth)
  | text (content : String) : Fits .string (.text content)
  | typeAsText (named : TypeName) : Fits .string (.type named)
  | textAsType {content : String} (filled : content ≠ "") : Fits .typeName (.text content)
  | type {named : TypeName} (filled : named.name ≠ "") : Fits .typeName (.type named)

/-! ## Comparing values -/

theorem isNaN_eq_false_of_floatOrder {left right : Float} {order : Ordering}
    (compared : floatOrder left right = some order) : left.isNaN = false := by
  rw [floatOrder] at compared
  split at compared
  next => cases compared
  next ordered => exact (Bool.or_eq_false_iff.1 (Bool.not_eq_true _ ▸ ordered)).1

/-- A float is compared as a number with whatever can be read as one. -/
theorem valueOrder_float (kind : Kind) (number : Float) (accepted : Value) :
    valueOrder kind (.float number) accepted = accepted.float?.bind (floatOrder number) := by
  cases kind <;> cases accepted <;> rfl

theorem fits_of_valueOrder {kind : Kind} (numeric : kind.isNumeric = true)
    {candidate accepted : Value} {order : Ordering}
    (compared : valueOrder kind candidate accepted = some order) : kind.Fits candidate := by
  cases candidate with
  | int number => exact .integer numeric number
  | float number =>
    rw [valueOrder_float, Option.bind_eq_some_iff] at compared
    rcases compared with ⟨bound, -, compared⟩
    exact .float numeric (isNaN_eq_false_of_floatOrder compared)
  | bool truth => cases kind <;> cases compared
  | text content => cases kind <;> cases compared
  | type named => cases kind <;> cases compared

/-- Values are compared by identity in this way for all kinds but types and capabilities. -/
theorem fits_of_valueMatches {kind : Kind} (present : kind ≠ .typeName ∧ kind ≠ .capability)
    {accepted candidate : Value} (same : valueMatches kind accepted candidate = true) :
    kind.Fits candidate := by
  cases kind with
  | integer => exact fits_of_valueOrder rfl (of_decide_eq_true same)
  | float => exact fits_of_valueOrder rfl (of_decide_eq_true same)
  | boolean =>
    rw [valueMatches, Bool.and_eq_true, beq_iff_eq] at same
    cases candidate with
    | bool truth => exact .boolean truth
    | int | float | text | type =>
      rw [same.2] at same
      cases same.1
  | string =>
    rw [valueMatches, Bool.and_eq_true, beq_iff_eq] at same
    cases candidate with
    | text content => exact .text content
    | type named => exact .typeAsText named
    | bool | int | float =>
      rw [same.2] at same
      cases same.1
  | typeName => exact absurd rfl present.1
  | capability => exact absurd rfl present.2

namespace Condition

variable {property : Property} {specification : String}

/-- Only numeric properties have conditions that state an order relation. -/
theorem isNumeric_of_ordered {relation : OrderRelation} {bound : Value}
    (ordered : Specification.demand property specification = .ordered relation bound) :
    property.kind.isNumeric = true := by
  rcases Specification.demand_cases property specification with
    ⟨stated, rest, relates, -⟩ | ⟨-, demanded⟩ | ⟨-, demanded⟩
  · rw [Specification.relationFor?] at relates
    split at relates
    next numeric => exact numeric
    next => cases relates
  · rw [demanded] at ordered
    cases read : Specification.readAlternatives property specification
      (Text.cutBars specification.toList) <;> rw [read] at ordered <;> cases ordered
  · rw [demanded] at ordered
    cases read : Literal.read property specification <;> rw [read] at ordered <;> cases ordered

theorem fits_of_acceptsPresent
    (plain : property.kind ≠ .typeName ∧ property.kind ≠ .capability) {value : Value}
    (accepted : (ofSpecification property specification).acceptsPresent value = true) :
    property.kind.Fits value := by
  have demanding := isWildcard_ofSpecification property specification
  rw [ofSpecification] at accepted demanding
  cases demanded : Specification.demand property specification with
  | anything =>
    rw [demanded] at demanding
    cases demanding
  | malformed mode fault =>
    rw [demanded] at accepted
    cases accepted
  | equals wanted =>
    rw [demanded] at accepted
    exact fits_of_valueMatches plain accepted
  | oneOf wanted =>
    rw [demanded] at accepted
    rcases List.any_eq_true.1 accepted with ⟨one, -, same⟩
    exact fits_of_valueMatches plain same
  | ordered relation bound =>
    rw [demanded] at accepted
    rcases (Option.any_eq_true _ _).1 accepted with ⟨order, compared, -⟩
    exact fits_of_valueOrder (isNumeric_of_ordered demanded) compared

/-! ## Accepting what an event gives -/

theorem fits_of_acceptsValue
    (plain : property.kind ≠ .typeName ∧ property.kind ≠ .capability) {given : Option Value}
    (accepted : (ofSpecification property specification).acceptsValue given = true) :
    ∃ value, given = some value ∧ property.kind.Fits value := by
  rw [acceptsValue, isWildcard_ofSpecification, Bool.false_or] at accepted
  rcases (Option.any_eq_true _ _).1 accepted with ⟨value, present, met⟩
  exact ⟨value, present, fits_of_acceptsPresent plain met⟩

theorem fits_of_acceptsType {given : Option Value} {eventSpace filterSpace : Option String}
    {types : TypeResolver}
    (accepted : (ofSpecification property specification).acceptsType given eventSpace filterSpace
      types = true) :
    ∃ value, given = some value ∧ Kind.typeName.Fits value := by
  have demanding := isWildcard_ofSpecification property specification
  cases diagnosed : (ofSpecification property specification).diagnostic? with
  | some fault =>
    rcases eq_malformed_of_diagnostic? diagnosed with ⟨mode, demanded⟩
    rw [acceptsType, acceptsTypeBy, demanded] at accepted
    cases accepted
  | none =>
    rw [acceptsType_eq demanding diagnosed, isNamedOrBelow] at accepted
    rcases (Option.any_eq_true _ _).1 accepted with ⟨name, named, -⟩
    have present : (candidateType? given).any (fun _ => true) = true := by
      rw [named, Option.any_some]
    rcases (any_candidateType?_iff given eventSpace fun _ _ => true).1 present with
      ⟨type, candidate, -⟩
    cases candidate with
    | text filled => exact ⟨_, rfl, .textAsType filled⟩
    | type filled => exact ⟨_, rfl, .type filled⟩

theorem fits_of_evaluate (plain : property.kind ≠ .capability) {event : Event}
    {surroundings : Surroundings} {space : Option String}
    (met : (ofSpecification property specification).evaluate event surroundings space = true) :
    ∃ value, event.resolve property = some value ∧ property.kind.Fits value := by
  rw [evaluate] at met
  split at met
  next ofCapability => exact absurd ofCapability plain
  next ofType =>
    have kind : property.kind = .typeName := ofType
    rw [kind]
    exact fits_of_acceptsType met
  next noCapability noType => exact fits_of_acceptsValue ⟨noType, noCapability⟩ met

/-- A condition on a capability asks the device and nothing else. -/
theorem evaluate_of_capability (capability : property.kind = .capability) (event : Event)
    (surroundings : Surroundings) (space : Option String) :
    (ofSpecification property specification).evaluate event surroundings space =
      (ofSpecification property specification).acceptsCapability surroundings.hasCapability := by
  have kind : (ofSpecification property specification).property.kind = .capability := capability
  rw [evaluate, kind]

/--
What meets a condition that a specification states fits the kind of its property, so that an event
which lacks the property does not meet it, whatever the specification is.  A condition on a
capability is met by all events alike, as the capabilities of the device decide.
-/
theorem evaluate_fits (property : Property) (specification : String) :
    let condition := ofSpecification property specification
    (property.kind ≠ .capability → ∀ event surroundings space,
      (condition.evaluate event surroundings space = true →
        ∃ value, event.resolve property = some value ∧ property.kind.Fits value) ∧
      (event.resolve property = none →
        condition.evaluate event surroundings space = false)) ∧
    (property.kind = .capability → ∀ event other surroundings others space otherSpace,
      surroundings.hasCapability = others.hasCapability →
        condition.evaluate event surroundings space =
          condition.evaluate other others otherSpace) := by
  intro condition
  constructor
  · intro plain event surroundings space
    refine ⟨fits_of_evaluate plain, fun absent => ?_⟩
    rw [← Bool.not_eq_true]
    intro met
    rcases fits_of_evaluate plain met with ⟨value, present, -⟩
    cases absent.symm.trans present
  · intro capability event other surroundings others space otherSpace same
    rw [evaluate_of_capability capability, evaluate_of_capability capability, same]

end Condition

end SpokenFeedback
