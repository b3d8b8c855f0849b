import SpokenFeedback.Condition.Evaluation
import SpokenFeedback.Condition.Specification

/-!
# Criteria

The conditions of a rule.  An event meets the criteria if it meets all conditions; there is at most
one condition on each property, the last one given.  A condition on a name that is no property is
kept as a fault, and then no event meets the criteria.
-/

namespace SpokenFeedback

/-- Conditions in the order in which they were last given, and the unknown names met on the way. -/
structure Criteria where
  conditions : List Condition
  unknownNames : List String
deriving DecidableEq, Repr

namespace Criteria

/-- Criteria that every event meets. -/
def empty : Criteria := ⟨[], []⟩

instance : Inhabited Criteria := ⟨empty⟩

/-- Adds a condition, in place of any on the same property. -/
def add (criteria : Criteria) (condition : Condition) : Criteria :=
  { criteria with
    conditions :=
      (criteria.conditions.filter fun other => other.property ≠ condition.property)
        ++ [condition] }

/-- Adds the condition that a specification states on a property. -/
def specify (criteria : Criteria) (property : Property) (specification : String) : Criteria :=
  criteria.add (.ofSpecification property specification)

/-- Adds the condition that a specification states on the property with a given name. -/
def specifyNamed (criteria : Criteria) (name specification : String) : Criteria :=
  match Property.ofName? name with
  | some property => criteria.specify property specification
  | none => { criteria with unknownNames := criteria.unknownNames ++ [Text.trim name] }

/-- The condition on a property. -/
def condition? (criteria : Criteria) (property : Property) : Option Condition :=
  criteria.conditions.find? fun condition => condition.property = property

/-- Whether nothing has been demanded. -/
def isEmpty (criteria : Criteria) : Bool :=
  criteria.conditions.isEmpty && criteria.unknownNames.isEmpty

/-- The faults: first those of unknown names, then those of malformed conditions. -/
def diagnostics (criteria : Criteria) : List ValidationFault :=
  criteria.unknownNames.map .unknownProperty ++ criteria.conditions.filterMap Condition.diagnostic?

/-- Whether the criteria are free of faults. -/
def isValid (criteria : Criteria) : Bool := criteria.diagnostics.isEmpty

/-- The package that the criteria are bound to by a condition of equality. -/
def packageName? (criteria : Criteria) : Option String :=
  ((criteria.condition? .packageName).bind Condition.equalityValue?).bind Value.text?

/-- Whether an event meets all conditions. -/
def accepts (criteria : Criteria) (event : Event) (surroundings : Surroundings) : Bool :=
  criteria.unknownNames.isEmpty
    && criteria.conditions.all fun condition =>
      condition.evaluate event surroundings criteria.packageName?

/-- The text of the criteria: the conditions, then the faults of unknown names. -/
def describe (criteria : Criteria) : String :=
  ",".intercalate (criteria.conditions.map Condition.describe
    ++ criteria.unknownNames.map fun name => "!" ++ (ValidationFault.unknownProperty name).message)

end Criteria

end SpokenFeedback
