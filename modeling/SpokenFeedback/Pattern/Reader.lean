import SpokenFeedback.Pattern.Bracket
import SpokenFeedback.Pattern.Footprint.Measure
import SpokenFeedback.Pattern.Group

/-!
# Reading patterns

The expression that a pattern's text denotes.  Flags change the meaning of what follows them up to
the end of their group, so the reader carries them along.  Groups matter for their extent, and
those that can be referred to count for the size of the pattern.  Each reader takes the remaining
characters and gives back what is left of them.

The fuel of the readers is more than twice the length of the text, and every two steps take at
least one character.
-/

namespace SpokenFeedback

namespace Pattern

/-- An expression that has been read, its nesting depth and the names of its groups. -/
structure Part where
  expression : Expression
  depth : Nat
  names : List String
deriving Repr

/-- An item of a sequence: a part, or a place where the flags change. -/
inductive Item where
  | part (part : Part)
  | flagChange
deriving Repr

namespace Item

/-- The expression of an item. -/
def expression : Item → Expression
  | .part read => read.expression
  | .flagChange => .empty

/-- The nesting depth of an item. -/
def depth : Item → Nat
  | .part read => read.depth
  | .flagChange => 0

/-- The names of the groups in an item. -/
def names : Item → List String
  | .part read => read.names
  | .flagChange => []

end Item

/-- A part without groups and nesting. -/
def Part.leaf (expression : Expression) : Part := ⟨expression, 0, []⟩

/-- The sequence of items that were read last to first. -/
def Part.ofItems (reversed : List Item) : Part :=
  match reversed with
  | [] => .leaf .empty
  | [.part part] => part
  | items =>
    { expression := .ofItems (items.reverse.map Item.expression)
      depth := (items.foldl (fun deepest item => max deepest item.depth) 0) + 1
      names := items.flatMap Item.names }

/-- The choice between branches, the first preferred. -/
def Part.ofBranches (branches : List Part) : Part :=
  match branches with
  | [branch] => branch
  | branches =>
    { expression := .ofBranches (branches.map Part.expression)
      depth := (branches.foldl (fun deepest branch => max deepest branch.depth) 0) + 1
      names := branches.flatMap Part.names }

/-- Repeats the item that was read last. -/
def repeatLast (items : List Item) (least : Nat) (most : Option Nat) (greedy : Bool) :
    Except Flaw (List Item) :=
  match items with
  | .part part :: items =>
    .ok (.part ⟨.repeated least most greedy part.expression, part.depth + 1, part.names⟩ :: items)
  | _ => .error .nothingToRepeat

/-- The expression of one character. -/
def charExpression (flags : Flags) (c : Char) : Expression := .ofSet (flags.charClass c)

/-- The expression of an escape sequence. -/
def Escaped.expression (flags : Flags) : Escaped → Expression
  | .char c => charExpression flags c
  | .set chars => .ofSet chars
  | .assertion demanded => .assert demanded

/--
A part as the body of a group.  A group that can be referred to stays one; the number of characters
after its opening parenthesis tells it apart from others.
-/
def Part.grouped (part : Part) (place : Nat) : GroupKind → Part
  | .plain => { part with depth := part.depth + 1 }
  | .numbered => { part with expression := .group place part.expression, depth := part.depth + 1 }
  | .named name => ⟨.group place part.expression, part.depth + 1, name :: part.names⟩

mutual

/-- Reads the branches of a choice, up to a closing parenthesis or the end. -/
def readBranches : Nat → Flags → List Char → Except Flaw (List Part × Flags × List Char)
  | 0, _, _ => .error .nestedTooDeeply
  | fuel + 1, flags, characters => do
    let (branch, flags, rest) ← readItems fuel flags [] characters
    match rest with
    | '|' :: rest => do
      let (branches, flags, rest) ← readBranches fuel flags rest
      .ok (branch :: branches, flags, rest)
    | _ => .ok ([branch], flags, rest)

/-- Reads the items of a branch, given those already read, the last one first. -/
def readItems : Nat → Flags → List Item → List Char → Except Flaw (Part × Flags × List Char)
  | 0, _, _, _ => .error .nestedTooDeeply
  | fuel + 1, flags, items, characters =>
    let leaf (expression : Expression) (rest : List Char) :=
      readItems fuel flags (.part (.leaf expression) :: items) rest
    let repeated (least : Nat) (most : Option Nat) (rest : List Char) := do
      let (greedy, rest) := readGreed flags rest
      let items ← repeatLast items least most greedy
      readItems fuel flags items rest
    match flags.skip characters with
    | [] => .ok (.ofItems items, flags, [])
    | '|' :: rest => .ok (.ofItems items, flags, '|' :: rest)
    | ')' :: rest => .ok (.ofItems items, flags, ')' :: rest)
    | '(' :: rest =>
      match readGroupStart flags rest with
      | .error flaw => .error flaw
      | .ok (.change changed, rest) => readItems fuel changed (.flagChange :: items) rest
      | .ok (.group inner kind, body) =>
        match readBranches fuel inner body with
        | .error flaw => .error flaw
        | .ok (branches, _, ')' :: rest) =>
          let group := (Part.ofBranches branches).grouped body.length kind
          readItems fuel flags (.part group :: items) rest
        | .ok _ => .error .unclosedGroup
    | '[' :: rest =>
      match readClass flags (2 * rest.length + 2) rest with
      | .error flaw => .error flaw
      | .ok (part, rest) =>
        readItems fuel flags (.part ⟨.ofSet part.set, part.depth, []⟩ :: items) rest
    | '?' :: rest => repeated 0 (some 1) rest
    | '*' :: rest => repeated 0 none rest
    | '+' :: rest => repeated 1 none rest
    | '\x7b' :: rest =>
      match items, readCounts flags rest with
      | [], _ => .error .nothingToRepeat
      | _, .error flaw => .error flaw
      | _, .ok ((least, most), rest) => repeated least most (flags.skip rest)
    | '.' :: rest =>
      match flags.dot with
      | .error flaw => .error flaw
      | .ok set => leaf (.ofSet set) rest
    | '^' :: rest => leaf (.assert flags.caret) rest
    | '$' :: rest => leaf (.assert flags.dollar) rest
    | '\\' :: rest =>
      match readEscape flags rest with
      | .error flaw => .error flaw
      | .ok (escaped, rest) => leaf (escaped.expression flags) rest
    | c :: rest => leaf (charExpression flags c) rest

end

/-- The greatest nesting depth of a pattern. -/
def maxDepth : Nat := 250

/-- The expression of a pattern's text. -/
def readExpression (source : String) : Except Flaw Expression := do
  let characters := source.toList
  let (branches, _, rest) ← readBranches (2 * characters.length + 4) .initial characters
  let part := Part.ofBranches branches
  if !rest.isEmpty then .error .unopenedGroup
  else if !part.names.Nodup then .error .repeatedGroupName
  else if part.depth > maxDepth then .error .nestedTooDeeply
  else if !part.expression.fits then .error .tooLarge
  else .ok part.expression

end Pattern

end SpokenFeedback
