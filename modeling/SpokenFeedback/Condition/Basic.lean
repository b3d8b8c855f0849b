import SpokenFeedback.Fault
import SpokenFeedback.Value
import SpokenFeedback.Vocabulary.Property

/-!
# Conditions

A condition demands something of one property: nothing at all, one value, an order relation to a
bound, or one of several values.  A condition whose text was malformed stays a condition, which
nothing meets and which says what is wrong.
-/

namespace SpokenFeedback

/-- The order relations that a numeric condition can state between a candidate and a bound. -/
inductive OrderRelation where
  | atMost
  | atLeast
  | below
  | above
deriving DecidableEq, Repr

namespace OrderRelation

/-- The sign of the relation. -/
def sign : OrderRelation → String
  | .atMost => "<="
  | .atLeast => ">="
  | .below => "<"
  | .above => ">"

/-- Whether a candidate that compares this way to the bound stands in the relation. -/
def holds : OrderRelation → Ordering → Bool
  | .atMost, order => order != .gt
  | .atLeast, order => order != .lt
  | .below, order => order == .lt
  | .above, order => order == .gt

end OrderRelation

/-- The form of a condition. -/
inductive Mode where
  | equals
  | ordered (relation : OrderRelation)
  | oneOf
deriving DecidableEq, Repr

namespace Mode

/-- The sign of the form. -/
def sign : Mode → String
  | .equals => "=="
  | .ordered relation => relation.sign
  | .oneOf => "||"

/-- Whether the form compares by order. -/
def isOrdered : Mode → Bool
  | .ordered _ => true
  | _ => false

end Mode

/-- What a condition demands of its property. -/
inductive Demand where
  | anything
  | equals (value : Value)
  | ordered (relation : OrderRelation) (bound : Value)
  | oneOf (values : List Value)
  | malformed (mode : Mode) (fault : ValidationFault)
deriving DecidableEq, Repr

/-- A demand on one property. -/
structure Condition where
  property : Property
  demand : Demand
deriving DecidableEq, Repr

namespace Condition

/-- The condition that every event meets. -/
def wildcard (property : Property) : Condition := ⟨property, .anything⟩

/-- The form of the condition. -/
def mode (condition : Condition) : Mode :=
  match condition.demand with
  | .anything | .equals _ => .equals
  | .ordered relation _ => .ordered relation
  | .oneOf _ => .oneOf
  | .malformed mode _ => mode

/-- The values that the condition names. -/
def values (condition : Condition) : List Value :=
  match condition.demand with
  | .anything | .malformed _ _ => []
  | .equals value | .ordered _ value => [value]
  | .oneOf values => values

/-- The texts and type names among the values. -/
def names (condition : Condition) : List String := condition.values.filterMap Value.text?

/-- Whether the condition demands nothing. -/
def isWildcard (condition : Condition) : Bool := condition.demand = .anything

/-- What is wrong with the condition's text. -/
def diagnostic? (condition : Condition) : Option ValidationFault :=
  match condition.demand with
  | .malformed _ fault => some fault
  | _ => none

/-- The one value that the condition demands, if it demands equality. -/
def equalityValue? (condition : Condition) : Option Value :=
  match condition.demand with
  | .equals value => some value
  | _ => none

/-- The condition's text: the property, the form and the values. -/
def describe (condition : Condition) : String :=
  condition.property.name ++
    match condition.demand with
    | .anything => "=*"
    | .malformed _ _ => "=!"
    | .equals value => "=" ++ value.display
    | .ordered relation bound => relation.sign ++ bound.display
    | .oneOf values => "=" ++ "||".intercalate (values.map Value.display)

end Condition

end SpokenFeedback
