/-!
# Ranges of characters

A set of characters given by ranges of code points in ascending order, as the tables of the
character properties are.  `Ranges.covers` stops at the first range above the code point.

The operations on sets keep ranges ascending and apart.  Surrogates are no characters, so the
complement skips them where a range would start or end among them.
-/

namespace SpokenFeedback.Text

/-- Ranges of code points, both ends included, ascending and apart from each other. -/
abbrev Ranges := List (Nat × Nat)

namespace Ranges

/-- Whether one of the ranges holds the code point. -/
def covers : Ranges → Nat → Bool
  | [], _ => false
  | (low, high) :: rest, code =>
    if code < low then false else if code ≤ high then true else covers rest code

/-- Whether one of the ranges holds the character. -/
def holds (ranges : Ranges) (c : Char) : Bool := covers ranges c.toNat

/-- The last code point. -/
def lastCode : Nat := 0x10FFFF

/-- The set of all characters. -/
def full : Ranges := [(0, lastCode)]

/-- The set of one character. -/
def one (c : Char) : Ranges := [(c.toNat, c.toNat)]

/-- The set of every `step`th code point, `count` of them. -/
def every (step low count : Nat) : Ranges :=
  (List.range count).map fun index => (low + step * index, low + step * index)

/-- Puts a range before others that start no earlier, and joins it with those that it touches. -/
def absorb (low high : Nat) : Ranges → Ranges
  | [] => [(low, high)]
  | (nextLow, nextHigh) :: rest =>
    if nextLow ≤ high + 1 then absorb low (max high nextHigh) rest
    else (low, high) :: absorb nextLow nextHigh rest

/-- Joins the ranges that touch among ranges in the order of their starts. -/
def coalesce : Ranges → Ranges
  | [] => []
  | (low, high) :: rest => absorb low high rest

/-- Two lists of ranges as one, in the order of their starts. -/
def interleave : Ranges → Ranges → Ranges
  | [] => id
  | first :: left => within (interleave left) first left
where
  /-- Puts the ranges that start before `first` ahead of it and goes on with `next` after it. -/
  within (next : Ranges → Ranges) (first : Nat × Nat) (left : Ranges) : Ranges → Ranges
    | [] => first :: left
    | second :: right =>
      if first.1 ≤ second.1 then first :: next (second :: right)
      else second :: within next first left right

/-- The union of two sets. -/
def union (left right : Ranges) : Ranges := coalesce (interleave left right)

/-- The union of sets. -/
def unions (sets : List Ranges) : Ranges := sets.foldr union []

/-- The set of code points in any order. -/
def ofCodes (codes : List Nat) : Ranges := unions (codes.map fun code => [(code, code)])

/-- The code point after another, past the surrogates. -/
def following (code : Nat) : Nat := if code = 0xD7FF then 0xE000 else code + 1

/-- The code point before another, past the surrogates. -/
def preceding (code : Nat) : Nat := if code = 0xE000 then 0xD7FF else code - 1

/-- The code points from `start` on that no range holds. -/
def gapsFrom (start : Nat) : Ranges → Ranges
  | [] => if start ≤ lastCode then [(start, lastCode)] else []
  | (low, high) :: rest =>
    if start < low then (start, preceding low) :: gapsFrom (following high) rest
    else gapsFrom (following high) rest

/-- The characters that a set does not hold. -/
def complement (set : Ranges) : Ranges := gapsFrom 0 set

/-- The characters of one set that another does not hold. -/
def difference (left right : Ranges) : Ranges := complement (union (complement left) right)

/-- The characters that two sets have in common. -/
def intersection (left right : Ranges) : Ranges :=
  complement (union (complement left) (complement right))

/-- The characters that just one of two sets holds. -/
def symmetricDifference (left right : Ranges) : Ranges :=
  difference (union left right) (intersection left right)

/-- The character of a set that holds just one. -/
def single? : Ranges → Option Char
  | [(low, high)] => if low = high then some (Char.ofNat low) else none
  | _ => none

end Ranges

end SpokenFeedback.Text
