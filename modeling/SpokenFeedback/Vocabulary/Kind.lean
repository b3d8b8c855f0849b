/-!
# Kinds of properties

The kind of a property decides which literals a condition on it takes and how a candidate is
compared with them.
-/

namespace SpokenFeedback

/-- What values a property is compared with. -/
inductive Kind where
  | integer
  | float
  | boolean
  | string
  | typeName
  | capability
deriving DecidableEq, Repr

namespace Kind

/-- Every kind. -/
def all : List Kind := [.integer, .float, .boolean, .string, .typeName, .capability]

/-- Whether values of the kind are numbers, which can be ordered. -/
def isNumeric : Kind → Bool
  | .integer | .float => true
  | _ => false

/-- The name under which the kind is stored. -/
def name : Kind → String
  | .integer => "integer"
  | .float => "float"
  | .boolean => "boolean"
  | .string => "string"
  | .typeName => "type"
  | .capability => "capability"

/-- What a diagnostic calls the literals of the kind. -/
def literalName : Kind → String
  | .integer => "integer"
  | .float => "float"
  | .boolean => "boolean"
  | .string => "string"
  | .typeName => "type name"
  | .capability => "capability name"

end Kind

end SpokenFeedback
