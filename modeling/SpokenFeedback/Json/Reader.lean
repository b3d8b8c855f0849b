import SpokenFeedback.Json.Tree

/-!
# Reading JSON

The tree of a JSON text.  The grammar is strict: no comments, no trailing commas, no leading zeros,
no control characters in texts and nothing but white space around the tree.  The fuel of the reader
is more than the nesting and the number of items of any tree that the text can hold.
-/

namespace SpokenFeedback

namespace Json

/-- Whether a character may stand between tokens. -/
def isSpace (c : Char) : Bool := c == ' ' || c == '\n' || c == '\t' || c == '\r'

/-- The characters after any white space. -/
def skipSpace (characters : List Char) : List Char := characters.dropWhile isSpace

/-- A piece of a quoted text: a character, or a UTF-16 unit given by its number. -/
inductive TextPiece where
  | char (c : Char)
  | unit (number : Nat)
deriving DecidableEq, Repr

/-- The number that hexadecimal digits write. -/
def hexNumber? (digits : List Char) : Option Nat :=
  digits.foldl (fun number digit => number.bind fun sofar =>
    (Numeral.hexDigit? digit).map (16 * sofar + ·)) (some 0)

/-- The character that a letter stands for after a backslash. -/
def unescape? (c : Char) : Option Char :=
  match c with
  | '"' => some '"'
  | '\\' => some '\\'
  | '/' => some '/'
  | 'b' => some '\x08'
  | 'f' => some '\x0c'
  | 'n' => some '\n'
  | 'r' => some '\r'
  | 't' => some '\t'
  | _ => none

/-- Reads the pieces of a quoted text up to its closing quotation mark. -/
def readPieces : List Char → Option (List TextPiece × List Char)
  | [] => none
  | '"' :: rest => some ([], rest)
  | '\\' :: 'u' :: a :: b :: c :: d :: rest =>
    (hexNumber? [a, b, c, d]).bind fun code =>
      (readPieces rest).map fun (pieces, rest) => (.unit code :: pieces, rest)
  | '\\' :: c :: rest =>
    (unescape? c).bind fun meant =>
      (readPieces rest).map fun (pieces, rest) => (.char meant :: pieces, rest)
  | c :: rest =>
    if c = '\\' ∨ c.toNat < 0x20 then none
    else (readPieces rest).map fun (pieces, rest) => (.char c :: pieces, rest)

/-- The characters of a text, if every half of a surrogate pair is next to its other half. -/
def joinPieces : List TextPiece → Option (List Char)
  | [] => some []
  | .char c :: pieces => (joinPieces pieces).map (c :: ·)
  | .unit high :: .unit low :: pieces =>
    if 0xD800 ≤ high ∧ high ≤ 0xDBFF then
      if 0xDC00 ≤ low ∧ low ≤ 0xDFFF then
        let code := 0x10000 + (high - 0xD800) * 0x400 + (low - 0xDC00)
        (joinPieces pieces).map (Char.ofNat code :: ·)
      else none
    else if 0xDC00 ≤ high ∧ high ≤ 0xDFFF then none
    else (joinPieces (.unit low :: pieces)).map (Char.ofNat high :: ·)
  | .unit code :: pieces =>
    if 0xD800 ≤ code ∧ code ≤ 0xDFFF then none
    else (joinPieces pieces).map (Char.ofNat code :: ·)

/-- Reads a quoted text after its opening mark; its content is missing if it cannot be joined. -/
def readText (characters : List Char) : Option (Option String × List Char) :=
  (readPieces characters).map fun (pieces, rest) =>
    ((joinPieces pieces).map String.ofList, rest)

/-- Splits off one or more digits. -/
def readDigits (characters : List Char) : Option (List Char × List Char) :=
  let digits := characters.takeWhile Char.isDigit
  if digits = [] then none else some (digits, characters.dropWhile Char.isDigit)

/-- Splits off the digits after a point, if there is a point. -/
def readPlaces : List Char → Option (List Char × List Char)
  | '.' :: rest => readDigits rest
  | rest => some ([], rest)

/-- Splits off an exponent and its sign, if there is one. -/
def readPower : List Char → Option (List Char × List Char)
  | mark :: rest =>
    if mark = 'e' ∨ mark = 'E' then
      match rest with
      | '+' :: rest => (readDigits rest).map fun (digits, rest) => ('+' :: digits, rest)
      | '-' :: rest => (readDigits rest).map fun (digits, rest) => ('-' :: digits, rest)
      | rest => readDigits rest
    else some ([], mark :: rest)
  | [] => some ([], [])

/-- Splits off a number without its sign. -/
def readMagnitude (negative : Bool) (characters : List Char) :
    Option (NumberToken × List Char) := do
  let (whole, rest) ← readDigits characters
  if whole.head? = some '0' ∧ whole.length > 1 then none
  else
    let (places, rest) ← readPlaces rest
    let (exponent, rest) ← readPower rest
    some (⟨negative, whole, places, exponent⟩, rest)

/-- Splits off a number. -/
def readNumber : List Char → Option (NumberToken × List Char)
  | '-' :: rest => readMagnitude true rest
  | rest => readMagnitude false rest

/-- The object of some members, if all keys have content. -/
def ofMembers (members : List (Option String × Json)) : Json :=
  match members.mapM fun (key, value) => key.map (·, value) with
  | some members => .object members
  | none => .unpaired

mutual

/-- Splits off a tree. -/
def readTree : Nat → List Char → Option (Json × List Char)
  | 0, _ => none
  | fuel + 1, characters =>
    match skipSpace characters with
    | 'n' :: 'u' :: 'l' :: 'l' :: rest => some (.null, rest)
    | 't' :: 'r' :: 'u' :: 'e' :: rest => some (.bool true, rest)
    | 'f' :: 'a' :: 'l' :: 's' :: 'e' :: rest => some (.bool false, rest)
    | '"' :: rest =>
      (readText rest).map fun (content, rest) => (content.elim .unpaired .text, rest)
    | '[' :: rest =>
      match skipSpace rest with
      | ']' :: rest => some (.list [], rest)
      | _ => (readItems fuel rest).map fun (items, rest) => (.list items, rest)
    | '{' :: rest =>
      match skipSpace rest with
      | '}' :: rest => some (.object [], rest)
      | _ => (readMembers fuel rest).map fun (members, rest) => (ofMembers members, rest)
    | rest => (readNumber rest).map fun (token, rest) => (.number token, rest)

/-- Splits off the items of a list and its closing bracket. -/
def readItems : Nat → List Char → Option (List Json × List Char)
  | 0, _ => none
  | fuel + 1, characters => do
    let (item, rest) ← readTree fuel characters
    match skipSpace rest with
    | ',' :: rest => do
      let (items, rest) ← readItems fuel rest
      some (item :: items, rest)
    | ']' :: rest => some ([item], rest)
    | _ => none

/-- Splits off the members of an object and its closing brace. -/
def readMembers : Nat → List Char → Option (List (Option String × Json) × List Char)
  | 0, _ => none
  | fuel + 1, characters =>
    match skipSpace characters with
    | '"' :: rest => do
      let (key, rest) ← readText rest
      match skipSpace rest with
      | ':' :: rest => do
        let (value, rest) ← readTree fuel rest
        match skipSpace rest with
        | ',' :: rest => do
          let (members, rest) ← readMembers fuel rest
          some ((key, value) :: members, rest)
        | '}' :: rest => some ([(key, value)], rest)
        | _ => none
      | _ => none
    | _ => none

end

/-- The tree of a text. -/
def read? (text : String) : Option Json :=
  let characters := text.toList
  match readTree (2 * characters.length + 2) characters with
  | some (tree, rest) => if skipSpace rest = [] then some tree else none
  | none => none

end Json

end SpokenFeedback
