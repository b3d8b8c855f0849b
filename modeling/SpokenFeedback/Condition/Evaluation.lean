import SpokenFeedback.Condition.Basic
import SpokenFeedback.Event
import SpokenFeedback.Surroundings

/-!
# Meeting a condition

When a value, a type, a set of capabilities and an event meet a condition.  A condition on a type
property is met by the names it lists and, unless it is strict, by the declared descendants of the
types with these names.  A candidate's own namespace goes before that of the event.
-/

namespace SpokenFeedback

/-- The order of two floats as numbers; NaN has no order to anything. -/
def floatOrder (left right : Float) : Option Ordering :=
  if left.isNaN || right.isNaN then none
  else if left < right then some .lt
  else if left == right then some .eq
  else some .gt

/-- The order of a candidate to an accepted value; two integers are compared exactly. -/
def valueOrder (kind : Kind) (candidate accepted : Value) : Option Ordering :=
  match kind, candidate, accepted with
  | .integer, .int candidate, .int accepted => some (compare candidate.toInt accepted.toInt)
  | _, candidate, accepted =>
    match candidate.float?, accepted.float? with
    | some candidate, some accepted => floatOrder candidate accepted
    | _, _ => none

/-- Whether a candidate equals an accepted value of a property of this kind. -/
def valueMatches (kind : Kind) (accepted candidate : Value) : Bool :=
  match kind with
  | .integer | .float => valueOrder kind candidate accepted = some .eq
  | .boolean => accepted.bool?.isSome && accepted.bool? == candidate.bool?
  | .string | .typeName | .capability =>
    accepted.text?.isSome && accepted.text? == candidate.text?

namespace Condition

/-- Whether a present value meets the condition. -/
def acceptsPresent (condition : Condition) (value : Value) : Bool :=
  let kind := condition.property.kind
  match condition.demand with
  | .anything => true
  | .malformed _ _ => false
  | .equals accepted => valueMatches kind accepted value
  | .oneOf accepted => accepted.any fun accepted => valueMatches kind accepted value
  | .ordered relation bound => (valueOrder kind value bound).any relation.holds

/-- Whether a value, which may be missing, meets the condition. -/
def acceptsValue (condition : Condition) (value : Option Value) : Bool :=
  condition.isWildcard || value.any condition.acceptsPresent

/-- The name of the type that a value gives, unless it is empty. -/
def candidateType? (value : Option Value) : Option String :=
  (value.bind Value.text?).filter (· ≠ "")

/-- The namespace of a candidate: its own if it names one, else that of its event. -/
def candidateSpace? (value : Option Value) (eventSpace : Option String) : Option String :=
  ((value.bind Value.type?).bind TypeName.within).or eventSpace

section Resolution

variable {m : Type → Type} [Monad m] (resolve : String → Option String → m (Option Lineage))

/-- Whether one of the names is that of an ancestor type of the candidate. -/
def descends (names : List String) (candidate : Lineage) (filterSpace : Option String) : m Bool :=
  names.anyM fun name => do
    match ← resolve name filterSpace with
    | some accepted => pure (accepted.isAssignableFrom (.declared candidate))
    | none => pure false

/--
Whether a value meets a condition on types, asking `resolve` only where the names alone do not
decide.
-/
def acceptsTypeBy (condition : Condition) (value : Option Value)
    (eventSpace filterSpace : Option String) : m Bool :=
  match condition.demand, candidateType? value with
  | .anything, _ => pure true
  | .malformed _ _, _ => pure false
  | _, none => pure false
  | _, some name =>
    if condition.names.contains name then pure true
    else if condition.property = .classNameStrict then pure false
    else do
      match ← resolve name (candidateSpace? value eventSpace) with
      | some candidate => descends resolve condition.names candidate filterSpace
      | none => pure false

end Resolution

/-- Whether a value meets a condition on types. -/
def acceptsType (condition : Condition) (value : Option Value)
    (eventSpace filterSpace : Option String) (types : TypeResolver) : Bool :=
  Id.run (acceptsTypeBy (fun name within => pure (types name within)) condition value eventSpace
    filterSpace)

/-- Whether the capabilities meet the condition. -/
def acceptsCapability (condition : Condition) (hasCapability : String → Bool) : Bool :=
  condition.isWildcard || condition.names.any hasCapability

/-- Whether an event meets the condition. -/
def evaluate (condition : Condition) (event : Event) (surroundings : Surroundings)
    (filterSpace : Option String) : Bool :=
  match condition.property.kind with
  | .capability => condition.acceptsCapability surroundings.hasCapability
  | .typeName =>
    condition.acceptsType (event.resolve condition.property) event.packageName? filterSpace
      surroundings.types
  | _ => condition.acceptsValue (event.resolve condition.property)

end Condition

end SpokenFeedback
