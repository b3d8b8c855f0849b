import SpokenFeedback.Numeral.Whole

/-!
# Decimal numbers

A decimal is a sign, a whole mantissa and a power of ten.  Decimals are what the literals of float
properties denote; `Decimal.toFloat` rounds one to the nearest float, ties to even.

Two grammars are read.  `readPlain` takes the literals of conditions: an optional sign, then
digits with an optional point and digits, or a point and digits.  `FloatText.read` takes the wider
texts that a float may be given by: also exponents, a point at the end, infinities and NaN.
-/

namespace SpokenFeedback.Numeral

/-- The number `± mantissa * 10 ^ exponent`. -/
structure Decimal where
  negative : Bool
  mantissa : Nat
  exponent : Int
deriving DecidableEq, Repr

/-- Positive infinity. -/
def infinity : Float := Float.ofBits 0x7FF0000000000000

/-- A value that is not a number. -/
def notANumber : Float := Float.ofBits 0x7FF8000000000000

namespace Decimal

variable {α : Type} [OfScientific α] [Neg α]

/--
The float nearest to the magnitude.  Decimals of `10 ^ 310` and more are beyond every finite float
and those below `10 ^ -400` are nearer to zero than to any other float, so neither needs its power
of ten.
-/
def roundMagnitude (infinity : α) (mantissa : Nat) (exponent : Int) : α :=
  let places : Int := (Nat.toDigits 10 mantissa).length
  if mantissa = 0 ∨ exponent + places < -400 then OfScientific.ofScientific 0 false 0
  else if exponent + places > 310 then infinity
  else OfScientific.ofScientific mantissa (exponent < 0) exponent.natAbs

/-- The float nearest to a decimal, with the decimal's sign also when it is zero. -/
def round (infinity : α) (decimal : Decimal) : α :=
  let magnitude := roundMagnitude infinity decimal.mantissa decimal.exponent
  if decimal.negative then -magnitude else magnitude

/-- The float of 64 bits nearest to a decimal. -/
def toFloat (decimal : Decimal) : Float := decimal.round infinity

/-- The float of 32 bits nearest to a decimal. -/
def toFloat32 (decimal : Decimal) : Float32 := decimal.round infinity.toFloat32

end Decimal

/-- Splits off an optional sign; `true` stands for a minus sign. -/
def readSign : List Char → Bool × List Char
  | '-' :: rest => (true, rest)
  | '+' :: rest => (false, rest)
  | rest => (false, rest)

/-- Reads digits with an optional point and more digits, or a point and digits. -/
def readUnsigned (literal : List Char) : Option (Nat × Nat) :=
  let whole := literal.takeWhile Char.isDigit
  match literal.dropWhile Char.isDigit with
  | [] => if whole = [] then none else some (Nat.ofDigitChars 10 whole 0, 0)
  | '.' :: places =>
    if places ≠ [] ∧ places.all Char.isDigit then
      some (Nat.ofDigitChars 10 (whole ++ places) 0, places.length)
    else none
  | _ => none

/-- Reads the float literal of a condition. -/
def readPlain (literal : List Char) : Option Decimal :=
  let (negative, digits) := readSign literal
  (readUnsigned digits).map fun (mantissa, places) => ⟨negative, mantissa, -(places : Int)⟩

/-- Reads an exponent part, which may be missing. -/
def readExponent : List Char → Option Int
  | [] => some 0
  | 'e' :: rest => readInt rest
  | 'E' :: rest => readInt rest
  | _ => none

/-- Reads digits with a point anywhere among or beside them, and an optional exponent. -/
def readScientific (negative : Bool) (literal : List Char) : Option Decimal :=
  let whole := literal.takeWhile Char.isDigit
  let (places, tail) :=
    match literal.dropWhile Char.isDigit with
    | '.' :: rest => (rest.takeWhile Char.isDigit, rest.dropWhile Char.isDigit)
    | rest => ([], rest)
  if whole ++ places = [] then none
  else
    (readExponent tail).map fun exponent =>
      ⟨negative, Nat.ofDigitChars 10 (whole ++ places) 0, exponent - places.length⟩

/-- What the text of a float writes, before it is rounded to one. -/
inductive FloatText where
  | decimal (value : Decimal)
  | infinite (negative : Bool)
  | undefined
deriving DecidableEq, Repr

namespace FloatText

/-- Reads any text of a float: a decimal, an infinity or NaN, the last two in any letter case. -/
def read (text : String) : Option FloatText :=
  let (negative, body) := readSign text.toList
  let word := String.ofList (body.map Char.toLower)
  if word = "inf" ∨ word = "infinity" then some (.infinite negative)
  else if word = "nan" then some .undefined
  else (readScientific negative body).map .decimal

/-- The float of 64 bits that a text writes. -/
def toFloat : FloatText → Float
  | .decimal value => value.toFloat
  | .infinite negative => if negative then -infinity else infinity
  | .undefined => notANumber

/-- The float of 32 bits that a text writes. -/
def toFloat32 : FloatText → Float32
  | .decimal value => value.toFloat32
  | .infinite negative => (if negative then -infinity else infinity).toFloat32
  | .undefined => notANumber.toFloat32

end FloatText

end SpokenFeedback.Numeral
