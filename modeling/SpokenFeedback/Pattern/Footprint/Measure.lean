import SpokenFeedback.Pattern.Expression
import SpokenFeedback.Pattern.Footprint.SetCost
import SpokenFeedback.Pattern.Footprint.TextsCost

/-!
# Measuring expressions

The footprint of an expression, part by part, for matches that are recognised forwards or
backwards.  A repetition counts as often as its body is built; counting stops as soon as it is too
much, so that large counts do no harm.
-/

namespace SpokenFeedback

namespace Pattern

/-- A branch of a choice: its text, if it is a literal, and its cost. -/
structure Branch where
  text : Option (List Char)
  cost : Cost

namespace Branch

/-- The cost of a choice between branches. -/
def choiceCost (backward : Bool) : List Branch → Cost
  | [] => id
  | [branch] => branch.cost
  | first :: second :: rest =>
    match (first :: second :: rest).mapM Branch.text with
    | some texts =>
      let encoded := texts.map fun text =>
        if backward then (bytesOf text).reverse else bytesOf text
      fun footprint =>
        textsCost ((encoded.map List.length).foldl max 0 + 1) encoded footprint.addState
    | none => fun footprint =>
      let footprint := (second.cost (first.cost footprint)).addState.addState
      (rest.foldl (fun footprint branch => branch.cost footprint) footprint).addBranches
        (rest.length + 2)

end Branch

/-- A cost a number of times, as long as that is not too much. -/
def repeatCost (cost : Cost) : Nat → Cost
  | 0, footprint => footprint
  | count + 1, footprint =>
    if footprint.isTooLarge then footprint else repeatCost cost count (cost footprint)

/-- The cost of an exact number of rounds. -/
def roundsCost (cost : Cost) (count : Nat) : Cost :=
  if count = 0 then Footprint.addState else repeatCost cost count

/-- The cost of a body with a state in front of it that forks. -/
def forkedCost (cost : Cost) : Cost := fun footprint =>
  (cost footprint.addState).addBranches 2

/--
The cost of a repetition.  A body that may take no characters is built as an optional loop of one
round and more, which forks twice.
-/
def repetitionCost (cost : Cost) (takesCharacters : Bool) (least : Nat) :
    Option Nat → Cost
  | some most, footprint =>
    if least = 0 ∧ most = 1 then (forkedCost cost footprint).addState
    else
      let footprint := roundsCost cost least footprint
      if least = most then footprint
      else repeatCost (forkedCost cost) (most - least) footprint.addState
  | none, footprint =>
    if 0 < least then ((cost (repeatCost cost (least - 1) footprint)).addState).addBranches 2
    else if takesCharacters then forkedCost cost footprint
    else ((cost footprint).addStates 3).addBranches 4

namespace Expression

/-- The branches of an expression, for a match forwards or backwards. -/
def branchesWithCost (backward : Bool) : Expression → List Branch
  | .empty => [⟨none, Footprint.addState⟩]
  | .literal text => [⟨some text, Footprint.addStates (bytesOf text).length⟩]
  | .one set => [⟨none, setCost backward set⟩]
  | .assert _ => [⟨none, Footprint.addState⟩]
  | .group _ body =>
    let cost := Branch.choiceCost backward (branchesWithCost backward body)
    [⟨none, if backward then cost else fun footprint => (cost footprint.addState).addState⟩]
  | .sequence first rest =>
    let firstCost := Branch.choiceCost backward (branchesWithCost backward first)
    let restCost := Branch.choiceCost backward (branchesWithCost backward rest)
    [⟨none, if backward then firstCost ∘ restCost else restCost ∘ firstCost⟩]
  | .choice preferred rest =>
    (match branchesWithCost backward preferred with
      | [branch] => branch
      | branches => ⟨none, Branch.choiceCost backward branches⟩)
      :: branchesWithCost backward rest
  | .repetition least most _ body =>
    let cost := Branch.choiceCost backward (branchesWithCost backward body)
    let takesCharacters := body.minLength.any (0 < ·)
    [⟨none, repetitionCost cost takesCharacters least most⟩]

/-- Whether a match can only start at the start of the text. -/
def isHeldAtStart : Expression → Bool
  | .empty | .literal _ | .one _ => false
  | .assert assertion => assertion == .textStart
  | .group _ body => body.isHeldAtStart
  | .sequence first rest =>
    first.isHeldAtStart || (!first.takesCharacters && rest.isHeldAtStart)
  | .choice preferred rest => preferred.isHeldAtStart && rest.isHeldAtStart
  | .repetition least _ _ body => 0 < least && body.isHeldAtStart

/-- Whether a match can only end at the end of the text. -/
def isHeldAtEnd : Expression → Bool
  | .empty | .literal _ | .one _ => false
  | .assert assertion => assertion == .textEnd
  | .group _ body => body.isHeldAtEnd
  | .sequence first rest =>
    rest.isHeldAtEnd || (!rest.takesCharacters && first.isHeldAtEnd)
  | .choice preferred rest => preferred.isHeldAtEnd && rest.isHeldAtEnd
  | .repetition least _ _ body => 0 < least && body.isHeldAtEnd

/--
The footprint of an expression.  Unless a match is held at the end of the text from which it is
recognised, a loop that takes any bytes comes first.  Forwards, the whole match is a group.
-/
def footprint (backward : Bool) (expression : Expression) : Footprint :=
  let held := if backward then expression.isHeldAtEnd else expression.isHeldAtStart
  let start :=
    if held then Footprint.zero.addState
    else ((Footprint.zero.addState.addBranches 2).addState).addRanges 1
  let cost := Branch.choiceCost backward (expression.branchesWithCost backward)
  let body := if backward then cost start else (cost start.addState).addState
  body.addState

/-- The text of a literal. -/
def text? : Expression → Option (List Char)
  | .literal text => some text
  | _ => none

/-- The number of texts from which on a choice between them needs no automaton. -/
def longList : Nat := 3000

/-- Whether the expression is a choice between so many texts that it needs no automaton. -/
def isLongList (expression : Expression) : Bool :=
  longList ≤ expression.branches.length && expression.branches.all fun branch => branch.text?.isSome

/-- Whether a pattern may be as large as the expression. -/
def fits (expression : Expression) : Bool :=
  expression.isLongList
    || (!(expression.footprint false).isTooLarge && !(expression.footprint true).isTooLarge)

end Expression

end Pattern

end SpokenFeedback
