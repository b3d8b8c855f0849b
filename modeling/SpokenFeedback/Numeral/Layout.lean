import SpokenFeedback.Numeral.Shortest

/-!
# Float texts

How the digits of a float are laid out.  Two layouts are in use: spoken texts write every float
positionally and leave a whole one without a point; stored texts always have a point or an
exponent, and use an exponent below `10 ^ -5` and from `10 ^ 16` on.
-/

namespace SpokenFeedback.Numeral

/-- The decisions of a float format. -/
structure FloatLayout where
  /-- Which of two equally short and equally near decimals is written. -/
  tie : Tie
  /-- The least and greatest exponents of the first digit that are written positionally. -/
  positional : Option (Int × Int)
  /-- What follows the digits of a positional whole number. -/
  wholeEnding : List Char

/-- The layout of floats in spoken and displayed texts. -/
def FloatLayout.spoken : FloatLayout := ⟨.up, none, []⟩

/-- The layout of floats in stored texts. -/
def FloatLayout.stored : FloatLayout := ⟨.even, some (-5, 15), ['.', '0']⟩

/-- Digits written positionally, the last of them standing for `10 ^ exponent`. -/
def layPositional (wholeEnding digits : List Char) (exponent : Int) : List Char :=
  if exponent ≥ 0 then digits ++ List.replicate exponent.toNat '0' ++ wholeEnding
  else
    let places := (-exponent).toNat
    if digits.length > places then
      digits.take (digits.length - places) ++ '.' :: digits.drop (digits.length - places)
    else '0' :: '.' :: List.replicate (places - digits.length) '0' ++ digits

/-- Digits with a point after the first one, and the exponent of that digit with its sign. -/
def layScientific (digits : List Char) (leading : Int) : List Char :=
  let mantissa :=
    match digits with
    | [] => []
    | [digit] => [digit]
    | digit :: places => digit :: '.' :: places
  let sign := if leading < 0 then '-' else '+'
  mantissa ++ 'e' :: sign :: Nat.toDigits 10 leading.natAbs

namespace FloatLayout

/-- Writes a decimal whose mantissa does not end in zero. -/
def writeDecimal (layout : FloatLayout) (decimal : Decimal) : List Char :=
  let digits := Nat.toDigits 10 decimal.mantissa
  let leading := decimal.exponent + digits.length - 1
  let body :=
    match layout.positional with
    | none => layPositional layout.wholeEnding digits decimal.exponent
    | some (least, greatest) =>
      if least ≤ leading ∧ leading ≤ greatest then
        layPositional layout.wholeEnding digits decimal.exponent
      else layScientific digits leading
  if decimal.negative then '-' :: body else body

/-- Writes a float. -/
def write (layout : FloatLayout) (x : Float) : String :=
  if x.isNaN then "NaN"
  else if x.isInf then if x < 0 then "-inf" else "inf"
  else String.ofList (layout.writeDecimal (shortest layout.tie x))

end FloatLayout

end SpokenFeedback.Numeral
