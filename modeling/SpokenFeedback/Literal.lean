import SpokenFeedback.Fault
import SpokenFeedback.Numeral.Decimal
import SpokenFeedback.Text.Blank
import SpokenFeedback.Value
import SpokenFeedback.Vocabulary.EventType
import SpokenFeedback.Vocabulary.Property

/-!
# Literals

The value that a text denotes where a rule gives it for a property.  The property's kind decides:
numbers follow a grammar and can be malformed, an event type may be given by name, every text is
a boolean (true or false), and texts, types and capabilities are taken as they stand.
-/

namespace SpokenFeedback

namespace Literal

/-- The fault of a text that is no literal of the property's kind. -/
def malformed (property : Property) (literal : String) : ValidationFault :=
  .invalidLiteral property.name property.kind literal

/-- Reads the literal of an integer property. -/
def readInteger (property : Property) (literal : String) : Except ValidationFault Value :=
  match Numeral.readWord literal.toList with
  | some number => .ok (.int number)
  | none =>
    if property = .eventType then
      match EventType.ofName? literal with
      | some eventType => .ok (.int eventType.code)
      | none => .error (.unknownEventType literal)
    else .error (malformed property literal)

/-- Reads the literal of a float property. -/
def readFloat (property : Property) (literal : String) : Except ValidationFault Value :=
  match Numeral.readPlain literal.toList with
  | some decimal => .ok (.float decimal.toFloat)
  | none => .error (malformed property literal)

/-- Whether a text is the word for truth, in any mixture of ASCII cases. -/
def isTrue (literal : String) : Bool := literal.toList.map Char.toLower = ['t', 'r', 'u', 'e']

/-- Reads a text as a literal of the property's kind. -/
def read (property : Property) (literal : String) : Except ValidationFault Value :=
  match property.kind with
  | .integer => readInteger property (Text.trim literal)
  | .float => readFloat property (Text.trim literal)
  | .boolean => .ok (.bool (isTrue (Text.trim literal)))
  | .string | .capability => .ok (.text literal)
  | .typeName => .ok (.type ⟨literal, none⟩)

end Literal

end SpokenFeedback
