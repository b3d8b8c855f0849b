import SpokenFeedback.Proofs.Condition.FloatLiteral

/-!
# Literals of each kind

Whether a text is a literal of a property depends on the kind of the property alone.  Integers and
floats have their grammars, every text is a boolean, and the textual kinds take a text as it stands.
`Literal.IsLiteral` puts the grammars together.

A text that is no literal is refused with the fault `Literal.refusal`, which shows the text without
the blanks around it (`Literal.read_eq_error_iff`).  Only the textual kinds see these blanks at all
(`Literal.read_eq_of_trim_eq`).
-/

namespace SpokenFeedback

/-- Whether literals of the kind are texts that are taken as they stand. -/
def Kind.isTextual : Kind → Bool
  | .string | .typeName | .capability => true
  | .integer | .float | .boolean => false

namespace Literal

/-- The text, without the blanks around it, is a literal of the property's kind. -/
def IsLiteral (property : Property) (text : List Char) : Prop :=
  match property.kind with
  | .integer => ∃ word, Spells property text word
  | .float => Numeral.PlainLiteral Char.isDigit (Text.trimChars text)
  | .boolean | .string | .typeName | .capability => True

/-- The fault of a text that is no literal of the property. -/
def refusal (property : Property) (literal : String) : ValidationFault :=
  if property = .eventType then .unknownEventType literal else malformed property literal

variable {property : Property} {text : String}

theorem exists_read_iff :
    (∃ value, read property text = .ok value) ↔ IsLiteral property text.toList := by
  rw [IsLiteral]
  cases kind : property.kind with
  | integer => simp [read_integer_iff kind]
  | float => exact exists_read_float_iff kind
  | boolean | string | typeName | capability => simp [read, kind]

theorem eq_refusal_of_readInteger {literal : String} {fault : ValidationFault}
    (refused : readInteger property literal = .error fault) : fault = refusal property literal := by
  rw [readInteger] at refused
  rw [refusal]
  split at refused
  next => cases refused
  next =>
    split at refused
    next ofEventType =>
      split at refused
      next => cases refused
      next => rw [if_pos ofEventType, Except.error.inj refused]
    next other => rw [if_neg other, Except.error.inj refused]

theorem eq_refusal_of_readFloat (float : property.kind = .float) {literal : String}
    {fault : ValidationFault} (refused : readFloat property literal = .error fault) :
    fault = refusal property literal := by
  have other : property ≠ .eventType := by
    rintro rfl
    cases float
  rw [readFloat] at refused
  split at refused
  next => cases refused
  next => rw [refusal, if_neg other, Except.error.inj refused]

theorem eq_refusal_of_read {fault : ValidationFault} (refused : read property text = .error fault) :
    fault = refusal property (Text.trim text) := by
  rw [read] at refused
  split at refused
  next => exact eq_refusal_of_readInteger refused
  next float => exact eq_refusal_of_readFloat float refused
  next => cases refused
  next => cases refused
  next => cases refused
  next => cases refused

/-- A text is refused exactly if it is no literal, and the fault shows it without its blanks. -/
theorem read_eq_error_iff {fault : ValidationFault} :
    read property text = .error fault ↔
      ¬ IsLiteral property text.toList ∧ fault = refusal property (Text.trim text) := by
  rw [← exists_read_iff]
  cases reading : read property text with
  | ok value => simp
  | error found =>
    rw [eq_refusal_of_read reading]
    simp [eq_comm]

/-- Where texts are not taken as they stand, the blanks around a literal do not count. -/
theorem read_eq_of_trim_eq (trims : property.kind.isTextual = false) {other : String}
    (same : Text.trim other = Text.trim text) : read property other = read property text := by
  rw [read, read, same]
  cases kind : property.kind with
  | integer | float | boolean => rfl
  | string | typeName | capability =>
    rw [kind] at trims
    cases trims

end Literal

end SpokenFeedback
