import SpokenFeedback.Collections.SortedMap
import SpokenFeedback.Numeral.Layout

/-!
# JSON trees

The trees that JSON texts denote.  A number keeps its digits, because whether it is in range
depends on what it is read as; an object keeps its members in order and with repetitions.
-/

namespace SpokenFeedback

/-- The digits of a JSON number; the exponent has its sign, and no digits mean that it is absent. -/
structure NumberToken where
  negative : Bool
  whole : List Char
  places : List Char
  exponent : List Char
deriving DecidableEq, Repr

/--
A JSON tree.  A text with half a surrogate pair has no content, and neither has an object with such
a key; nothing that is stored is read from them.
-/
inductive Json where
  | null
  | bool (truth : Bool)
  | number (token : NumberToken)
  | text (content : String)
  | unpaired
  | list (items : List Json)
  | object (members : List (String × Json))
deriving Repr, Inhabited

namespace NumberToken

/-- The token of an integer. -/
def ofInt (value : Int) : NumberToken :=
  ⟨decide (value < 0), Nat.toDigits 10 value.natAbs, [], []⟩

/-- The integer that the token writes without point and exponent; a negative zero is none. -/
def int? (token : NumberToken) : Option Int :=
  if token.places = [] ∧ token.exponent = [] then
    let magnitude := Nat.ofDigitChars 10 token.whole 0
    if token.negative then if magnitude = 0 then none else some (-(magnitude : Int))
    else some magnitude
  else none

/-- The word of 64 bits that the token writes. -/
def word? (token : NumberToken) : Option Int64 := token.int?.bind Numeral.toWord?

/-- The count below `2 ^ 64` that the token writes. -/
def count? (token : NumberToken) : Option Nat :=
  token.int?.bind fun value =>
    if 0 ≤ value ∧ value < Numeral.wordCount then some value.toNat else none

/-- Gathers digits while the value stays below `2 ^ 64`; gives also the number of digits left. -/
def gatherWhole : Nat → List Char → Nat × Nat
  | significand, [] => (significand, 0)
  | significand, digit :: digits =>
    let next := Nat.ofDigitChars 10 [digit] significand
    if next ≥ Numeral.wordCount then (significand, digits.length + 1) else gatherWhole next digits

/-- Gathers digits while the value stays below `2 ^ 64`; gives also the number of digits taken. -/
def gatherPlaces : Nat → List Char → Nat × Nat
  | significand, [] => (significand, 0)
  | significand, digit :: digits =>
    let next := Nat.ofDigitChars 10 [digit] significand
    if next ≥ Numeral.wordCount then (significand, 0)
    else
      let (gathered, taken) := gatherPlaces next digits
      (gathered, taken + 1)

/--
Scales a float by a power of ten, in one multiplication or division where a float holds the power
and in steps of `10 ^ 308` where it does not.  There is no result above the greatest float.
-/
def scale : Nat → Float → Int → Option Float
  | 0, _, _ => none
  | steps + 1, x, exponent =>
    if exponent.natAbs ≤ 308 then
      let power := Float.ofScientific 1 false exponent.natAbs
      if exponent ≥ 0 then if (x * power).isInf then none else some (x * power)
      else some (x / power)
    else if x == 0 then some x
    else if exponent ≥ 0 then none
    else scale steps (x / Float.ofScientific 1 false 308) (exponent + 308)

/--
The float that the token stands for: its first digits as a float, scaled by the power of ten of
the last of them.
-/
def float? (token : NumberToken) : Option Float :=
  let (leading, left) := gatherWhole 0 token.whole
  let (significand, taken) := gatherPlaces leading token.places
  let written := (Numeral.readInt token.exponent).getD 0
  (scale 8 (Float.ofNat significand) (left - taken + written)).map fun magnitude =>
    if token.negative then -magnitude else magnitude

/-- The characters of the token. -/
def write (token : NumberToken) : List Char :=
  (if token.negative then ['-'] else []) ++ token.whole
    ++ (if token.places = [] then [] else '.' :: token.places)
    ++ (if token.exponent = [] then [] else 'e' :: token.exponent)

end NumberToken

namespace Json

/-- The tree of an integer. -/
def ofInt (value : Int) : Json := .number (.ofInt value)

/-- The token of a decimal as stored texts lay it out. -/
def tokenOfStored (negative : Bool) (layout : List Char) : NumberToken :=
  let whole := layout.takeWhile Char.isDigit
  let rest := layout.dropWhile Char.isDigit
  let (places, rest) :=
    match rest with
    | '.' :: rest => (rest.takeWhile Char.isDigit, rest.dropWhile Char.isDigit)
    | rest => ([], rest)
  ⟨negative, whole, places, rest.drop 1⟩

/-- The tree of a float; infinities and NaN have none and become null. -/
def ofFloat (x : Float) : Json :=
  if x.isNaN || x.isInf then .null
  else
    let layout := Numeral.FloatLayout.stored
    let decimal := Numeral.shortest layout.tie x
    let digits := layout.writeDecimal { decimal with negative := false }
    .number (tokenOfStored decimal.negative digits)

/-- The content of a text. -/
def text? : Json → Option String
  | .text content => some content
  | _ => none

/-- The content of a text that may be null. -/
def optionalText? : Json → Option (Option String)
  | .null => some none
  | .text content => some (some content)
  | _ => none

/-- The truth of a boolean. -/
def bool? : Json → Option Bool
  | .bool truth => some truth
  | _ => none

/-- The word of 64 bits that a number writes. -/
def word? : Json → Option Int64
  | .number token => token.word?
  | _ => none

/-- The count below `2 ^ 64` that a number writes. -/
def count? : Json → Option Nat
  | .number token => token.count?
  | _ => none

/-- The items of a list. -/
def items? : Json → Option (List Json)
  | .list items => some items
  | _ => none

/-- The members of an object. -/
def members? : Json → Option (List (String × Json))
  | .object members => some members
  | _ => none

/-- The value of the first member of an object that has the key. -/
def member? (tree : Json) (key : String) : Option Json :=
  tree.members?.bind fun members => (members.find? fun member => member.1 = key).map Prod.snd

/-- The name of a choice without content: a text, or an object of the name with null. -/
def choice? : Json → Option String
  | .text name => some name
  | .object [(name, .null)] => some name
  | _ => none

mutual

/-- Whether every number is in the range of floats and every text is whole. -/
def isSound : Json → Bool
  | .number token => token.float?.isSome
  | .unpaired => false
  | .list items => areSound items
  | .object members => membersAreSound members
  | _ => true

/-- Whether all items are sound. -/
def areSound : List Json → Bool
  | [] => true
  | item :: items => item.isSound && areSound items

/-- Whether the values of all members are sound. -/
def membersAreSound : List (String × Json) → Bool
  | [] => true
  | (_, value) :: members => value.isSound && membersAreSound members

end

mutual

/-- How many lists and objects are nested in each other at most. -/
def nesting : Json → Nat
  | .list items => itemsNesting items + 1
  | .object members => membersNesting members + 1
  | _ => 0

/-- The greatest nesting of the items. -/
def itemsNesting : List Json → Nat
  | [] => 0
  | item :: items => max item.nesting (itemsNesting items)

/-- The greatest nesting of the values of the members. -/
def membersNesting : List (String × Json) → Nat
  | [] => 0
  | (_, value) :: members => max value.nesting (membersNesting members)

end

mutual

/-- The tree with the members of every object in ascending order of their keys. -/
def sortKeys : Json → Json
  | .list items => .list (sortItems items)
  | .object members => .object (SortedMap.ofList (sortMembers members)).entries
  | tree => tree

/-- Sorts the keys within all items. -/
def sortItems : List Json → List Json
  | [] => []
  | item :: items => item.sortKeys :: sortItems items

/-- Sorts the keys within the values of all members. -/
def sortMembers : List (String × Json) → List (String × Json)
  | [] => []
  | (key, value) :: members => (key, value.sortKeys) :: sortMembers members

end

end Json

end SpokenFeedback
