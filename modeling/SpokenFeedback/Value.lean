import SpokenFeedback.Numeral.Layout

/-!
# Values

The values that events, rules and utterances carry: booleans, integers of 64 bits, floats, texts
and names of types.  A type name may say in which namespace it is to be looked up.

`display` gives a value's text without any markup; this is what templates insert.
-/

namespace SpokenFeedback

/-- A type's name and, if it gives one, the namespace to look it up in. -/
structure TypeName where
  name : String
  within : Option String
deriving DecidableEq, Repr, Inhabited

/-- A typed value. -/
inductive Value where
  | bool (truth : Bool)
  | int (number : Int64)
  | float (number : Float)
  | text (content : String)
  | type (named : TypeName)
deriving DecidableEq, Repr, Inhabited

namespace Value

/-- The text of a value as it is spoken. -/
def display : Value → String
  | .bool true => "true"
  | .bool false => "false"
  | .int number => Numeral.writeWord number
  | .float number => Numeral.FloatLayout.spoken.write number
  | .text content => content
  | .type named => named.name

/-- The name of the sort of value. -/
def sortName : Value → String
  | .bool _ => "bool"
  | .int _ => "int"
  | .float _ => "float"
  | .text _ => "string"
  | .type _ => "type"

/-- The truth of a boolean. -/
def bool? : Value → Option Bool
  | .bool truth => some truth
  | _ => none

/-- The number of an integer. -/
def int? : Value → Option Int64
  | .int number => some number
  | _ => none

/-- The float of a number; an integer gives the float nearest to it. -/
def float? : Value → Option Float
  | .float number => some number
  | .int number => some (Float.ofInt number.toInt)
  | _ => none

/-- The text of a text, and the name of a type. -/
def text? : Value → Option String
  | .text content => some content
  | .type named => some named.name
  | _ => none

/-- The type that the value names. -/
def type? : Value → Option TypeName
  | .type named => some named
  | _ => none

/-- Whether a value is a boolean. -/
def isBool (value : Value) : Bool := value.bool?.isSome

/-- Whether a value is an integer. -/
def isInt (value : Value) : Bool := value.int?.isSome

/-- Whether a value is a float. -/
def isFloat : Value → Bool
  | .float _ => true
  | _ => false

/-- Whether a value is a text. -/
def isText : Value → Bool
  | .text _ => true
  | _ => false

/-- Equality in which floats compare as numbers: zeros agree and NaN agrees with nothing. -/
def agrees : Value → Value → Bool
  | .float left, .float right => left == right
  | left, right => decide (left = right)

/-- A float of 32 bits as a value. -/
def ofFloat32 (number : Float32) : Value := .float number.toFloat

end Value

end SpokenFeedback
