import SpokenFeedback.Numeral.Decimal

/-!
# Shortest decimals

The decimal with the fewest digits that reads back as a given float and, among those, the one
nearest to the float.  A float is `m * 2 ^ q`; the reals that round to it form an interval around
it, whose ends belong to it exactly if `m` is even.  For one digit, two digits and so on up to
seventeen, the two neighbours of the float on the decimal grid of that many digits are tested
against the interval in whole-number arithmetic.
-/

namespace SpokenFeedback.Numeral

/-- Which of two equally near decimals is taken. -/
inductive Tie where
  | even
  | up
deriving DecidableEq, Repr

/-- A positive finite float and the ends of the interval that rounds to it, as multiples of
`1 / unit`; `closed` says whether the ends round to the float too. -/
structure Rounding where
  value : Nat
  low : Nat
  high : Nat
  unit : Nat
  closed : Bool
deriving DecidableEq, Repr

/-- The number of fractions of a float, which has 52 bits for them. -/
def fractionCount : Nat := 4503599627370496

/-- The number of exponents of a float, which has 11 bits for them. -/
def exponentCount : Nat := 2048

/-- The magnitude of a float's bits as `m` and `q` with value `m * 2 ^ q`. -/
def binaryParts (bits : Nat) : Nat × Int :=
  let field : Nat := bits / fractionCount % exponentCount
  let fraction : Nat := bits % fractionCount
  if field = 0 then (fraction, -1074) else (fraction + fractionCount, (field : Int) - 1075)

/-- The interval of reals that round to the float with these bits. -/
def Rounding.ofBits (bits : Nat) : Rounding :=
  let (m, q) := binaryParts bits
  let field : Nat := bits / fractionCount % exponentCount
  let below := if bits % fractionCount = 0 ∧ field > 1 then 1 else 2
  let scale := Nat.pow 2 (q - 2).toNat
  { value := 4 * m * scale
    low := (4 * m - below) * scale
    high := (4 * m + 2) * scale
    unit := Nat.pow 2 (2 - q).toNat
    closed := m % 2 = 0 }

/-- The least power `k ≤ limit` of ten for which `numerator * 10 ^ k ≥ denominator`. -/
def powerToReach (numerator denominator : Nat) : Nat → Nat → Nat
  | 0, power => power
  | limit + 1, power =>
    if numerator * Nat.pow 10 power ≥ denominator then power
    else powerToReach numerator denominator limit (power + 1)

/-- The exponent of ten of the first digit of `numerator / denominator`. -/
def leadingExponent (numerator denominator : Nat) : Int :=
  if numerator ≥ denominator then
    ((Nat.toDigits 10 (numerator / denominator)).length : Int) - 1
  else -(powerToReach numerator denominator 400 1 : Int)

namespace Rounding

/-- Whether the grid point `count * up / down` lies in the interval. -/
def admits (interval : Rounding) (count up down : Nat) : Bool :=
  let point := count * up * interval.unit
  if interval.closed then interval.low * down ≤ point && point ≤ interval.high * down
  else interval.low * down < point && point < interval.high * down

/-- The better of the two neighbours of the value on the grid of multiples of `10 ^ exponent`. -/
def neighbour? (interval : Rounding) (tie : Tie) (exponent : Int) : Option Nat :=
  let up := Nat.pow 10 exponent.toNat
  let down := Nat.pow 10 (-exponent).toNat
  let count := interval.value * down / (up * interval.unit)
  match interval.admits count up down, interval.admits (count + 1) up down with
  | false, false => none
  | true, false => some count
  | false, true => some (count + 1)
  | true, true =>
    let twice := 2 * (interval.value * down)
    let middle := (2 * count + 1) * (up * interval.unit)
    if twice < middle then some count
    else if middle < twice then some (count + 1)
    else if tie = .even ∧ count % 2 = 0 then some count
    else some (count + 1)

/-- The first grid, from the coarsest on, that has a point in the interval. -/
def search (interval : Rounding) (tie : Tie) (leading : Int) : Nat → Nat → Nat × Int
  | 0, digits => (interval.value, leading - digits)
  | limit + 1, digits =>
    let exponent := leading - digits
    match interval.neighbour? tie exponent with
    | some count => (count, exponent)
    | none => search interval tie leading limit (digits + 1)

end Rounding

/-- A mantissa and exponent of the same value whose mantissa does not end in zero. -/
def withoutTrailingZeros : Nat → Nat → Int → Nat × Int
  | 0, mantissa, exponent => (mantissa, exponent)
  | limit + 1, mantissa, exponent =>
    if mantissa ≠ 0 ∧ mantissa % 10 = 0 then
      withoutTrailingZeros limit (mantissa / 10) (exponent + 1)
    else (mantissa, exponent)

/-- The shortest decimal of a finite float. -/
def shortest (tie : Tie) (x : Float) : Decimal :=
  let bits := x.toBits.toNat
  let magnitudes := exponentCount * fractionCount
  let negative := decide (bits ≥ magnitudes)
  let magnitude := bits % magnitudes
  if magnitude = 0 then ⟨negative, 0, 0⟩
  else
    let interval := Rounding.ofBits magnitude
    let leading := leadingExponent interval.value interval.unit
    let (count, exponent) := interval.search tie leading 17 0
    let (mantissa, exponent) := withoutTrailingZeros 20 count exponent
    ⟨negative, mantissa, exponent⟩

end SpokenFeedback.Numeral
