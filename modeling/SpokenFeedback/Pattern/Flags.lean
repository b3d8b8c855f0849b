import SpokenFeedback.Pattern.Expression
import SpokenFeedback.Pattern.Flaw

/-!
# Flags of patterns

What flags make of the parts of a pattern: of classes and their complements, of points and anchors,
and of white space and comments, which the verbose flag takes out of the pattern.
-/

namespace SpokenFeedback

namespace Pattern

/-- The flags in force at a place of a pattern. -/
structure Flags where
  ignoreCase : Bool
  multiLine : Bool
  dotMatchesAll : Bool
  swapGreed : Bool
  unicode : Bool
  crLf : Bool
  verbose : Bool
deriving DecidableEq, Repr

namespace Flags

/-- The flags at the start of a pattern. -/
def initial : Flags := ⟨false, false, false, false, true, false, false⟩

/-- Sets or clears the flag with a letter, if there is one. -/
def set? (flags : Flags) (letter : Char) (on : Bool) : Option Flags :=
  match letter with
  | 'i' => some { flags with ignoreCase := on }
  | 'm' => some { flags with multiLine := on }
  | 's' => some { flags with dotMatchesAll := on }
  | 'U' => some { flags with swapGreed := on }
  | 'u' => some { flags with unicode := on }
  | 'R' => some { flags with crLf := on }
  | 'x' => some { flags with verbose := on }
  | _ => none

/-- The class with all case variants, if case is ignored. -/
def closeCase (flags : Flags) (set : CharClass) : CharClass :=
  if flags.ignoreCase then
    if flags.unicode then Text.closeCase set else Text.closeAsciiCase set
  else set

/-- The class of a character and, if case is ignored, of its variants. -/
def charClass (flags : Flags) (c : Char) : CharClass :=
  if flags.ignoreCase && flags.unicode then Text.variants c.toNat else flags.closeCase (.one c)

/-- The complement of a class; without Unicode it would hold characters beyond ASCII. -/
def negate (flags : Flags) (negated : Bool) (set : CharClass) : Except Flaw CharClass :=
  if negated then if flags.unicode then .ok set.complement else .error .beyondAscii
  else .ok set

/-- What a point stands for. -/
def dot (flags : Flags) : Except Flaw CharClass :=
  if !flags.unicode then .error .beyondAscii
  else if flags.dotMatchesAll then .ok .full
  else if flags.crLf then .ok (Text.Ranges.complement [(0xA, 0xA), (0xD, 0xD)])
  else .ok (Text.Ranges.one '\n').complement

/-- What a caret demands. -/
def caret (flags : Flags) : Assertion :=
  if flags.multiLine then if flags.crLf then .lineStartCrLf else .lineStart else .textStart

/-- What a dollar sign demands. -/
def dollar (flags : Flags) : Assertion :=
  if flags.multiLine then if flags.crLf then .lineEndCrLf else .lineEnd else .textEnd

end Flags

/-- Drops a comment up to the end of its line. -/
def skipComment : List Char → List Char
  | [] => []
  | c :: rest => if c = '\n' then rest else skipComment rest

/-- Drops white space and comments, one of them for each unit of fuel. -/
def skipLayout : Nat → List Char → List Char
  | 0, characters => characters
  | fuel + 1, characters =>
    match characters with
    | [] => []
    | c :: rest =>
      if Text.isBlank c then skipLayout fuel rest
      else if c = '#' then skipLayout fuel (skipComment rest)
      else c :: rest

/-- Drops white space and comments if the flags say that they do not count. -/
def Flags.skip (flags : Flags) (characters : List Char) : List Char :=
  if flags.verbose then skipLayout (characters.length + 1) characters else characters

end Pattern

end SpokenFeedback
