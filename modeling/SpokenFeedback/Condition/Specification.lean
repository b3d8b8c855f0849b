import SpokenFeedback.Condition.Basic
import SpokenFeedback.Literal
import SpokenFeedback.Text.Alternatives

/-!
# Specifications

The text form of a condition.  On a numeric property a leading sign states an order relation to
the literal that follows.  Otherwise double bars separate alternatives, none of which may be
blank, and a text without them is a single literal.  `Condition.ofSpecification` never fails: a
malformed text gives a condition that nothing meets.
-/

namespace SpokenFeedback

namespace Specification

/-- The order relation that a text starts with, and what follows its sign. -/
def relation? : List Char → Option (OrderRelation × List Char)
  | '<' :: '=' :: rest => some (.atMost, rest)
  | '>' :: '=' :: rest => some (.atLeast, rest)
  | '<' :: rest => some (.below, rest)
  | '>' :: rest => some (.above, rest)
  | _ => none

/-- The order relation that a specification of the property states. -/
def relationFor? (property : Property) (specification : String) :
    Option (OrderRelation × List Char) :=
  if property.kind.isNumeric then relation? (Text.trimStart specification.toList) else none

/-- Reads one alternative of a specification. -/
def readAlternative (property : Property) (specification : String) (piece : List Char) :
    Except ValidationFault Value :=
  match Text.trimChars piece with
  | [] => .error (.emptyAlternative property.name specification)
  | trimmed => Literal.read property (String.ofList trimmed)

/-- Reads alternatives in order, up to the first that is malformed. -/
def readAlternatives (property : Property) (specification : String) :
    List (List Char) → Except ValidationFault (List Value)
  | [] => .ok []
  | piece :: pieces =>
    match readAlternative property specification piece with
    | .error fault => .error fault
    | .ok value => (readAlternatives property specification pieces).map (value :: ·)

/-- The demand of a reading, which is malformed if the reading failed. -/
def demandOf (mode : Mode) (demand : α → Demand) : Except ValidationFault α → Demand
  | .ok read => demand read
  | .error fault => .malformed mode fault

/-- The demand that a specification states on a property. -/
def demand (property : Property) (specification : String) : Demand :=
  match relationFor? property specification with
  | some (relation, bound) =>
    demandOf (.ordered relation) (.ordered relation)
      (Literal.read property (Text.trim (String.ofList bound)))
  | none =>
    if Text.hasBars specification.toList then
      demandOf .oneOf .oneOf
        (readAlternatives property specification (Text.cutBars specification.toList))
    else demandOf .equals .equals (Literal.read property specification)

end Specification

/-- The condition that a specification states on a property. -/
def Condition.ofSpecification (property : Property) (specification : String) : Condition :=
  ⟨property, Specification.demand property specification⟩

end SpokenFeedback
