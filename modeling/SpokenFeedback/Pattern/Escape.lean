import SpokenFeedback.Numeral.Whole
import SpokenFeedback.Pattern.Flags
import SpokenFeedback.Pattern.PropertyClass

/-!
# Escape sequences of patterns

What a backslash and the characters after it denote: a character, a class or an assertion.  Each
reader takes the remaining characters and gives back what is left of them.
-/

namespace SpokenFeedback

namespace Pattern

/-- What an escape sequence denotes. -/
inductive Escaped where
  | char (c : Char)
  | set (set : CharClass)
  | assertion (assertion : Assertion)
deriving Repr

/-- The character with a code. -/
def charOfCode? (code : Nat) : Option Char :=
  if h : code.isValidChar then some (Char.ofNatAux code h) else none

/-- Reads a fixed number of hexadecimal digits. -/
def readCode (flags : Flags) : Nat → Nat → List Char → Except Flaw (Nat × List Char)
  | 0, code, rest => .ok (code, rest)
  | digits + 1, code, characters =>
    match characters with
    | [] => .error .unfinishedEscape
    | c :: rest =>
      match Numeral.hexDigit? c with
      | none => .error .malformedCode
      | some value => readCode flags digits (16 * code + value) (flags.skip rest)

/-- Reads hexadecimal digits up to a closing brace. -/
def readBracedCode (flags : Flags) : Nat → List Char → Nat → List Char →
    Except Flaw (Nat × List Char)
  | 0, _, _, _ => .error .unfinishedEscape
  | fuel + 1, digits, code, characters =>
    match flags.skip characters with
    | [] => .error .unfinishedEscape
    | '\x7d' :: rest => if digits = [] then .error .malformedCode else .ok (code, flags.skip rest)
    | c :: rest =>
      match Numeral.hexDigit? c with
      | none => .error .malformedCode
      | some value => readBracedCode flags fuel (c :: digits) (16 * code + value) rest

/-- Reads a character code after its letter, of `digits` digits unless it is in braces. -/
def readCharCode (flags : Flags) (digits : Nat) (characters : List Char) :
    Except Flaw (Char × List Char) := do
  let characters := flags.skip characters
  let (code, rest) ←
    match characters with
    | [] => .error .unfinishedEscape
    | '\x7b' :: rest => readBracedCode flags (rest.length + 1) [] 0 rest
    | _ => readCode flags digits 0 characters
  match charOfCode? code with
  | some c => .ok (c, rest)
  | none => .error .malformedCode

/-- Whether a code written with two digits goes beyond ASCII where Unicode is off. -/
def byteBeyondAscii (flags : Flags) (characters : List Char) (c : Char) : Bool :=
  !flags.unicode && c.toNat ≥ 0x80 && (flags.skip characters).head? != some '\x7b'

/-- Splits a property's name and value at the first sign between them. -/
def splitProperty : List Char → Option (List Char × List Char × Bool)
  | [] => none
  | '!' :: '=' :: rest => some ([], rest, true)
  | c :: rest => (splitProperty rest).map fun (name, value, negated) => (c :: name, value, negated)

/-- The class that the text between the braces of a property escape names. -/
def namedProperty? (name : List Char) : Option (CharClass × Bool) :=
  match splitProperty name with
  | some (property, value, negated) =>
    (CharClass.ofPropertyValue? property value).map fun set => (set, negated)
  | none =>
    let before (mark : Char) := name.takeWhile (· != mark)
    let after (mark : Char) := (name.dropWhile (· != mark)).drop 1
    if name.contains ':' then
      (CharClass.ofPropertyValue? (before ':') (after ':')).map fun set => (set, false)
    else if name.contains '=' then
      (CharClass.ofPropertyValue? (before '=') (after '=')).map fun set => (set, false)
    else (CharClass.ofPropertyName? name).map fun set => (set, false)

/-- Takes the characters up to a closing brace. -/
def readBraced (flags : Flags) : Nat → List Char → Except Flaw (List Char × List Char)
  | 0, _ => .error .unfinishedEscape
  | fuel + 1, characters =>
    match flags.skip characters with
    | [] => .error .unfinishedEscape
    | '\x7d' :: rest => .ok ([], rest)
    | c :: rest => do
      let (name, rest) ← readBraced flags fuel rest
      .ok (c :: name, rest)

/-- Reads the name of a property after its letter. -/
def readProperty (flags : Flags) (negated : Bool) (characters : List Char) :
    Except Flaw (CharClass × List Char) := do
  let characters := flags.skip characters
  let (name, rest) ←
    match characters with
    | [] => .error .unfinishedEscape
    | '\x7b' :: rest => readBraced flags (rest.length + 1) rest
    | c :: rest => if c = '\\' then .error .unknownClass else .ok ([c], rest)
  if !flags.unicode then .error .beyondAscii
  else
    match namedProperty? name with
    | none => .error .unknownClass
    | some (set, inverted) => do
      let set ← flags.negate (negated != inverted) (flags.closeCase set)
      .ok (set, rest)

/-- The place that the text between the braces of a word boundary names. -/
def wordPlace? (name : List Char) : Option WordPlace :=
  match String.ofList name with
  | "start" => some .wordStart
  | "end" => some .wordEnd
  | "start-half" => some .startHalf
  | "end-half" => some .endHalf
  | _ => none

/-- Whether a character may stand in the name of a word boundary. -/
def inBoundaryName (c : Char) : Bool := c.isAlpha || c == '-'

/-- Takes the letters and hyphens of a word boundary's name. -/
def readBoundaryName (flags : Flags) : Nat → List Char → List Char × List Char
  | 0, characters => ([], characters)
  | fuel + 1, characters =>
    match characters with
    | [] => ([], [])
    | c :: rest =>
      if inBoundaryName c then
        let (name, rest) := readBoundaryName flags fuel (flags.skip rest)
        (c :: name, rest)
      else ([], c :: rest)

/--
Reads what follows the letter of a word boundary.  Braces that do not start with a letter or a
hyphen are left for a repetition count.
-/
def readBoundary (flags : Flags) (characters : List Char) :
    Except Flaw (WordPlace × List Char) :=
  match characters with
  | '\x7b' :: rest =>
    let inner := flags.skip rest
    match inner with
    | [] => .error .malformedWordBoundary
    | c :: _ =>
      if inBoundaryName c then
        match readBoundaryName flags (inner.length + 1) inner with
        | (name, '\x7d' :: rest) =>
          match wordPlace? name with
          | some place => .ok (place, rest)
          | none => .error .malformedWordBoundary
        | _ => .error .malformedWordBoundary
      else .ok (.boundary, characters)
  | _ => .ok (.boundary, characters)

/-- Whether a backslash before the character makes it stand for itself. -/
def standsForItself (c : Char) : Bool :=
  c.toNat < 0x80 && !c.isAlphanum && c != '<' && c != '>'

/-- Reads an escape sequence after its backslash. -/
def readEscape (flags : Flags) : List Char → Except Flaw (Escaped × List Char)
  | [] => .error .unfinishedEscape
  | c :: rest =>
    let word (place : WordPlace) : Escaped := .assertion (.word place flags.unicode)
    let negated (set : CharClass) : Except Flaw (Escaped × List Char) :=
      (flags.negate true set).map fun set => (.set set, rest)
    let code (digits : Nat) (byte : Bool) : Except Flaw (Escaped × List Char) := do
      let (c, after) ← readCharCode flags digits rest
      if byte && byteBeyondAscii flags rest c then .error .beyondAscii else .ok (.char c, after)
    if standsForItself c then .ok (.char c, rest)
    else
      match c with
      | 'x' => code 2 true
      | 'u' => code 4 false
      | 'U' => code 8 false
      | 'p' => (readProperty flags false rest).map fun (set, rest) => (.set set, rest)
      | 'P' => (readProperty flags true rest).map fun (set, rest) => (.set set, rest)
      | 'd' => .ok (.set (.digit flags.unicode), rest)
      | 's' => .ok (.set (.space flags.unicode), rest)
      | 'w' => .ok (.set (.word flags.unicode), rest)
      | 'D' => negated (.digit flags.unicode)
      | 'S' => negated (.space flags.unicode)
      | 'W' => negated (.word flags.unicode)
      | 'a' => .ok (.char '\x07', rest)
      | 'f' => .ok (.char '\x0c', rest)
      | 't' => .ok (.char '\t', rest)
      | 'n' => .ok (.char '\n', rest)
      | 'r' => .ok (.char '\r', rest)
      | 'v' => .ok (.char '\x0b', rest)
      | 'A' => .ok (.assertion .textStart, rest)
      | 'z' => .ok (.assertion .textEnd, rest)
      | 'B' => .ok (word .interior, rest)
      | '<' => .ok (word .wordStart, rest)
      | '>' => .ok (word .wordEnd, rest)
      | 'b' => (readBoundary flags rest).map fun (place, rest) => (word place, rest)
      | c => if c.isDigit then .error .backreference else .error .unknownEscape

end Pattern

end SpokenFeedback
