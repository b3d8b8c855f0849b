import SpokenFeedback.Pattern.Escape

/-!
# Bracketed classes of patterns

The class that square brackets denote: a union of characters, ranges, classes and nested brackets,
combined from left to right by intersection, difference and symmetric difference.  The fuel of the
readers is more than twice the length of the text, and every two steps take at least one character.
-/

namespace SpokenFeedback

namespace Pattern

/-- The operators between the sets of a bracketed class. -/
inductive SetOperator where
  | intersection
  | difference
  | symmetricDifference
deriving DecidableEq, Repr

/-- A set that has been read within brackets, and its nesting depth. -/
structure SetPart where
  set : CharClass
  depth : Nat
deriving Repr

namespace SetPart

/-- The union of items that were read last to first. -/
def ofItems (reversed : List SetPart) : SetPart :=
  match reversed with
  | [] => ⟨[], 0⟩
  | [item] => item
  | items =>
    { set := .unions (items.map SetPart.set)
      depth := items.foldl (fun deepest item => max deepest item.depth) 0 + 1 }

/-- The set on the left of an operator, combined with the one on its right. -/
def combine (flags : Flags) (left : Option (SetPart × SetOperator)) (right : SetPart) : SetPart :=
  match left with
  | none => right
  | some (left, operator) =>
    let first := flags.closeCase left.set
    let second := flags.closeCase right.set
    { set :=
        match operator with
        | .intersection => first.intersection second
        | .difference => first.difference second
        | .symmetricDifference => first.symmetricDifference second
      depth := max left.depth right.depth + 1 }

end SetPart

/-- Reads one member of a bracketed class, which is a character or an escape sequence. -/
def readMember (flags : Flags) : List Char → Except Flaw (Escaped × List Char)
  | [] => .error .unclosedClass
  | '\\' :: rest => readEscape flags rest
  | c :: rest => .ok (.char c, rest)

/-- The set of one character in a bracketed class. -/
def charSet (flags : Flags) (c : Char) : Except Flaw CharClass :=
  if !flags.unicode && c.toNat ≥ 0x80 then .error .beyondAscii else .ok (.one c)

/-- The set from one character to another in a bracketed class. -/
def rangeSet (flags : Flags) (low high : Char) : Except Flaw CharClass :=
  if high < low then .error .descendingRange
  else if !flags.unicode && high.toNat ≥ 0x80 then .error .beyondAscii
  else .ok [(low.toNat, high.toNat)]

/--
The character that tells what a hyphen before the rest is for.  Where white space does not count,
neither does the sign that starts a comment, but the text of the comment does.
-/
def afterHyphen (flags : Flags) (rest : List Char) : Option Char :=
  if flags.verbose then
    let found :=
      match rest.dropWhile Text.isBlank with
      | '#' :: comment => (comment.dropWhile Text.isBlank).head?
      | shown => shown.head?
    found.or rest.head?
  else rest.head?

/-- Reads a member of a bracketed class, or two of them with a hyphen between. -/
def readMembers (flags : Flags) (characters : List Char) :
    Except Flaw (CharClass × List Char) := do
  let (first, rest) ← readMember flags characters
  let rest := flags.skip rest
  let single : Except Flaw (CharClass × List Char) :=
    match first with
    | .char c => (charSet flags c).map fun set => (set, rest)
    | .set set => .ok (set, rest)
    | .assertion _ => .error .notInClass
  match rest with
  | [] => .error .unclosedClass
  | '-' :: after =>
    if afterHyphen flags after = some ']' ∨ afterHyphen flags after = some '-' then single
    else
      match flags.skip after with
      | [] => .error .unclosedClass
      | after => do
        let (second, rest) ← readMember flags after
        match first, second with
        | .char low, .char high => (rangeSet flags low high).map fun set => (set, rest)
        | _, _ => .error .notInClass
  | _ => single

/-- Reads an ASCII class between colons after its opening bracket, if there is one. -/
def readAsciiClass? (flags : Flags) : List Char → Option (Except Flaw CharClass × List Char)
  | ':' :: rest =>
    let (negated, body) :=
      match rest with
      | '^' :: body => (true, body)
      | body => (false, body)
    match body.dropWhile (· != ':') with
    | ':' :: ']' :: rest =>
      (CharClass.ofAsciiName? (String.ofList (body.takeWhile (· != ':')))).map fun set =>
        (flags.negate negated (flags.closeCase set), rest)
    | _ => none
  | _ => none

/-- Takes the hyphens at the start of a bracketed class, and a closing bracket if there are none. -/
def readLeading (flags : Flags) : Nat → List SetPart → List Char →
    Except Flaw (List SetPart × List Char)
  | 0, _, _ => .error .unclosedClass
  | fuel + 1, items, characters =>
    match characters with
    | [] => .error .unclosedClass
    | '-' :: rest => readLeading flags fuel (⟨.one '-', 0⟩ :: items) (flags.skip rest)
    | ']' :: rest =>
      if items.isEmpty then
        let rest := flags.skip rest
        if rest.isEmpty then .error .unclosedClass else .ok ([⟨.one ']', 0⟩], rest)
      else .ok (items, ']' :: rest)
    | _ => .ok (items, characters)

mutual

/-- Reads a bracketed class after its opening bracket. -/
def readClass (flags : Flags) : Nat → List Char → Except Flaw (SetPart × List Char)
  | 0, _ => .error .unclosedClass
  | fuel + 1, characters => do
    let characters := flags.skip characters
    let (negated, rest) :=
      match characters with
      | '^' :: rest => (true, flags.skip rest)
      | rest => (false, rest)
    let (items, rest) ← readLeading flags (rest.length + 1) [] rest
    let (body, rest) ← readSets flags fuel none items rest
    let set ← flags.negate negated (flags.closeCase body.set)
    .ok (⟨set, body.depth + 1⟩, rest)

/-- Reads the rest of a bracketed class, given what has been read of it. -/
def readSets (flags : Flags) : Nat → Option (SetPart × SetOperator) → List SetPart → List Char →
    Except Flaw (SetPart × List Char)
  | 0, _, _, _ => .error .unclosedClass
  | fuel + 1, left, items, characters =>
    let operate (operator : SetOperator) (rest : List Char) :=
      readSets flags fuel (some (SetPart.combine flags left (.ofItems items), operator)) [] rest
    match flags.skip characters with
    | [] => .error .unclosedClass
    | '[' :: rest =>
      match readAsciiClass? flags rest with
      | some (set, rest) => do
        let set ← set
        readSets flags fuel left (⟨set, 0⟩ :: items) rest
      | none => do
        let (nested, rest) ← readClass flags fuel rest
        readSets flags fuel left (nested :: items) rest
    | ']' :: rest => .ok (SetPart.combine flags left (.ofItems items), rest)
    | '&' :: '&' :: rest => operate .intersection rest
    | '-' :: '-' :: rest => operate .difference rest
    | '~' :: '~' :: rest => operate .symmetricDifference rest
    | rest => do
      let (set, rest) ← readMembers flags rest
      readSets flags fuel left (⟨set, 0⟩ :: items) rest

end

end Pattern

end SpokenFeedback
