import SpokenFeedback.Numeral.Whole
import SpokenFeedback.Vocabulary.Kind

/-!
# Faults

What can be wrong with a rule, with its evaluation and with its registration.  A fault is a cause;
its wording is in `message` alone.
-/

namespace SpokenFeedback

/-- What can be wrong with the text of a rule or of a configuration. -/
inductive ValidationFault where
  | unknownProperty (name : String)
  | invalidLiteral (property : String) (expected : Kind) (literal : String)
  | emptyAlternative (property specification : String)
  | unknownEventType (name : String)
  | unknownSelector (kind : String)
  | invalidTemplate (template reason : String)
  | unknownQueueMode (name : String)
  | invalidConfiguration (reason : String)
deriving DecidableEq, Repr

/-- What can go wrong while a rule is applied to an event. -/
inductive EvaluationFault where
  | argumentMismatch (expected actual : Nat)
  | invalidPattern (pattern reason : String)
  | filterFailed (message : String)
  | formatterFailed (message : String)
  | panicked (message : String)
deriving DecidableEq, Repr

/-- What can be wrong with a registration. -/
inductive RegistrationFault where
  | invalidScope (reason : String)
  | invalidOrigin (reason : String)
  | poisoned (context : String)
deriving DecidableEq, Repr

/-- Any fault of a rule. -/
inductive Fault where
  | validation (cause : ValidationFault)
  | evaluation (cause : EvaluationFault)
  | registration (cause : RegistrationFault)
deriving DecidableEq, Repr

namespace ValidationFault

/-- The wording of a fault in a text. -/
def message : ValidationFault → String
  | .unknownProperty name => s!"Unknown property '{name}'"
  | .invalidLiteral property expected literal =>
    "Property '" ++ property ++ "' expects a " ++ expected.literalName ++ " literal, got '"
      ++ literal ++ "'"
  | .emptyAlternative property specification =>
    s!"Property '{property}' has an empty alternative in '{specification}'"
  | .unknownEventType name => s!"Unknown event type '{name}'"
  | .unknownSelector kind => s!"Unknown selector kind '{kind}'"
  | .invalidTemplate template reason => s!"Malformed template '{template}': {reason}"
  | .unknownQueueMode name => s!"Unknown queue mode '{name}'"
  | .invalidConfiguration reason => s!"Invalid configuration: {reason}"

end ValidationFault

namespace EvaluationFault

/-- The wording of a fault in an evaluation. -/
def message : EvaluationFault → String
  | .argumentMismatch expected actual =>
    s!"Template expects {expected} argument(s), selectors produced {actual}"
  | .invalidPattern pattern reason => s!"Invalid regex '{pattern}': {reason}"
  | .filterFailed message => s!"Filter failed: {message}"
  | .formatterFailed message => s!"Formatter failed: {message}"
  | .panicked message => s!"Rule panicked: {message}"

end EvaluationFault

namespace RegistrationFault

/-- The fault of a scope whose name is blank. -/
def blankScope : RegistrationFault := .invalidScope "scope name is empty"

/-- The fault of an origin whose tag is blank. -/
def blankOrigin : RegistrationFault := .invalidOrigin "origin tag is empty"

/-- The wording of a fault in a registration. -/
def message : RegistrationFault → String
  | .invalidScope reason => s!"Invalid scope key: {reason}"
  | .invalidOrigin reason => s!"Invalid origin tag: {reason}"
  | .poisoned context => s!"Registry lock poisoned during {context}"

end RegistrationFault

namespace Fault

/-- The wording of a fault, which says where it arose. -/
def message : Fault → String
  | .validation cause => "Validation error: " ++ cause.message
  | .evaluation cause => "Evaluation error: " ++ cause.message
  | .registration cause => "Registry error: " ++ cause.message

/-- Whether the fault is in a text. -/
def isValidation : Fault → Bool
  | .validation _ => true
  | _ => false

/-- Whether the fault is in an evaluation. -/
def isEvaluation : Fault → Bool
  | .evaluation _ => true
  | _ => false

/-- Whether the fault is in a registration. -/
def isRegistration : Fault → Bool
  | .registration _ => true
  | _ => false

/-- The fault with which a filter of the host reports failure. -/
def ofFilter (message : String) : Fault := .evaluation (.filterFailed message)

/-- The fault with which a formatter of the host reports failure. -/
def ofFormatter (message : String) : Fault := .evaluation (.formatterFailed message)

end Fault

end SpokenFeedback
