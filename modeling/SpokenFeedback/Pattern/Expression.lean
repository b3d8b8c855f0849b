import SpokenFeedback.Pattern.CharClass

/-!
# Pattern expressions

The trees that patterns denote.  Alternatives and repetitions are ordered: of two ways to match
from the same place, the one that the tree prefers wins, whatever the lengths of the matches.
Assertions look at the characters next to a position and take none of them.

The trees are put together by `ofSet`, `ofItems`, `ofBranches` and `repeated`, which leave out what
makes no difference.  In their results the items of a sequence are no sequences, the branches of a
choice are no choices, and neighbouring characters form one literal.
-/

namespace SpokenFeedback

namespace Pattern

/-- How a position has to lie to words. -/
inductive WordPlace where
  | boundary
  | interior
  | wordStart
  | wordEnd
  | startHalf
  | endHalf
deriving DecidableEq, Repr

/-- What a pattern can demand of a position. -/
inductive Assertion where
  | textStart
  | textEnd
  | lineStart
  | lineEnd
  | lineStartCrLf
  | lineEndCrLf
  | word (place : WordPlace) (unicode : Bool)
deriving DecidableEq, Repr

/-- Whether the characters on both sides of a position lie to words as demanded. -/
def WordPlace.holds (place : WordPlace) (wordBefore wordAfter : Bool) : Bool :=
  match place with
  | .boundary => wordBefore != wordAfter
  | .interior => wordBefore == wordAfter
  | .wordStart => !wordBefore && wordAfter
  | .wordEnd => wordBefore && !wordAfter
  | .startHalf => !wordBefore
  | .endHalf => !wordAfter

/-- Whether a position between two characters, either of which may be missing, is as demanded. -/
def Assertion.holds (assertion : Assertion) (before after : Option Char) : Bool :=
  match assertion with
  | .textStart => before.isNone
  | .textEnd => after.isNone
  | .lineStart => before.all (· == '\n')
  | .lineEnd => after.all (· == '\n')
  | .lineStartCrLf =>
    before.all fun c => c == '\n' || (c == '\r' && after != some '\n')
  | .lineEndCrLf =>
    after.all fun c => c == '\r' || (c == '\n' && before != some '\r')
  | .word place unicode =>
    let isWord := if unicode then Text.isWord else Text.isAsciiWord
    place.holds (before.any isWord) (after.any isWord)

/--
A pattern's tree.  The place of a group tells it apart from other groups with the same body; what
it is does not matter.
-/
inductive Expression where
  | empty
  | literal (text : List Char)
  | one (set : CharClass)
  | assert (assertion : Assertion)
  | group (place : Nat) (body : Expression)
  | sequence (first rest : Expression)
  | choice (preferred rest : Expression)
  | repetition (least : Nat) (most : Option Nat) (greedy : Bool) (body : Expression)
deriving DecidableEq, Repr

namespace Expression

/-- The least number of characters that a match takes, if there can be a match. -/
def minLength : Expression → Option Nat
  | .empty => some 0
  | .literal text => some text.length
  | .one set => if set.isEmpty then none else some 1
  | .assert _ => some 0
  | .group _ body => body.minLength
  | .sequence first rest =>
    first.minLength.bind fun length => rest.minLength.map (length + ·)
  | .choice preferred rest =>
    preferred.minLength.bind fun length => rest.minLength.map (min length)
  | .repetition least _ _ body => body.minLength.map (least * ·)

/-- The greatest number of characters that a match takes, if it is bounded. -/
def maxLength : Expression → Option Nat
  | .empty => some 0
  | .literal text => some text.length
  | .one set => if set.isEmpty then none else some 1
  | .assert _ => some 0
  | .group _ body => body.maxLength
  | .sequence first rest =>
    first.maxLength.bind fun length => rest.maxLength.map (length + ·)
  | .choice preferred rest =>
    preferred.maxLength.bind fun length => rest.maxLength.map (max length)
  | .repetition _ most _ body => most.bind fun most => body.maxLength.map (most * ·)

/-- Whether a match may take characters. -/
def takesCharacters (expression : Expression) : Bool := expression.maxLength != some 0

/-- The number of constructors. -/
def size : Expression → Nat
  | .empty | .literal _ | .one _ | .assert _ => 1
  | .group _ body | .repetition _ _ _ body => body.size + 1
  | .sequence first rest | .choice first rest => first.size + rest.size + 1

/-- One character of a set; a set of just one character makes a literal. -/
def ofSet (set : CharClass) : Expression :=
  match set.single? with
  | some c => .literal [c]
  | none => .one set

/-- The items of a sequence, which is any expression that is not empty. -/
def items : Expression → List Expression
  | .empty => []
  | .sequence first rest => first :: rest.items
  | other => [other]

/-- Items with neighbouring literals joined. -/
def joinLiterals : List Expression → List Expression
  | [] => []
  | .literal text :: rest =>
    match joinLiterals rest with
    | .literal more :: rest => .literal (text ++ more) :: rest
    | rest => .literal text :: rest
  | item :: rest => item :: joinLiterals rest

/-- The sequence of items as they are. -/
def chain : List Expression → Expression
  | [] => .empty
  | [item] => item
  | item :: rest => .sequence item (chain rest)

/-- The sequence of expressions. -/
def ofItems (expressions : List Expression) : Expression :=
  chain (joinLiterals (expressions.flatMap items))

/-- The branches of a choice, which is any expression. -/
def branches : Expression → List Expression
  | .choice preferred rest => preferred :: rest.branches
  | other => [other]

/-- The choice between branches as they are. -/
def alternatives : List Expression → Expression
  | [] => .empty
  | [branch] => branch
  | branch :: rest => .choice branch (alternatives rest)

/-- The character of a literal that has just one. -/
def character? : Expression → Option Char
  | .literal [c] => some c
  | _ => none

/-- The set of an expression that takes one character of a set. -/
def set? : Expression → Option CharClass
  | .one set => some set
  | _ => none

/-- The items of a sequence of at least two. -/
def sequence? : Expression → Option (List Expression)
  | .sequence first rest => some (first :: rest.items)
  | _ => none

/-- The items with which two lists begin alike. -/
def sharedStart : List Expression → List Expression → List Expression
  | first :: rest, other :: others => if first = other then first :: sharedStart rest others else []
  | _, _ => []

/--
The choice between branches.  Single characters, or sets of characters, become one set, and
items with which all branches start are taken out in front of the choice.  What is left of the
branches can form a choice again; each time it is smaller, so that the fuel suffices.
-/
def choose : Nat → List Expression → Expression
  | 0, expressions => alternatives expressions
  | fuel + 1, expressions =>
    let expressions := expressions.flatMap branches
    if expressions.length ≤ 1 then alternatives expressions
    else
      match expressions.mapM character?, expressions.mapM set?, expressions.mapM sequence? with
      | some characters, _, _ => ofSet (.ofCodes (characters.map Char.toNat))
      | _, some sets, _ => ofSet (.unions sets)
      | _, _, some (first :: others) =>
        match others.foldl sharedStart first with
        | [] => alternatives expressions
        | start =>
          let ends := (first :: others).map fun items => ofItems (items.drop start.length)
          ofItems (start ++ [choose fuel ends])
      | _, _, _ => alternatives expressions

/-- The choice between expressions, the first preferred. -/
def ofBranches (expressions : List Expression) : Expression :=
  choose ((expressions.map size).foldr (· + ·) 1) expressions

/--
An expression repeated.  If it takes no characters, a second round makes no difference, so that
one round is enough.
-/
def repeated (least : Nat) (most : Option Nat) (greedy : Bool) (body : Expression) : Expression :=
  let (least, most) :=
    if body.takesCharacters then (least, most) else (min least 1, some (min (most.getD 1) 1))
  if least = 0 ∧ most = some 0 then .empty
  else if least = 1 ∧ most = some 1 then body
  else .repetition least most greedy body

end Expression

end Pattern

end SpokenFeedback
