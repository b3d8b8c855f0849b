import SpokenFeedback.Fault
import SpokenFeedback.Text.Blank
import SpokenFeedback.Value

/-!
# Templates

A template is a text with placeholders.  Its tokens are ordinary characters, doubled percent signs,
placeholders that take the next argument, and placeholders that take the argument of a given
number; a placeholder inserts either an argument's text or its decimal digits.

Rendering goes through the tokens in order and needs exactly as many arguments as the template has
places for.
-/

namespace SpokenFeedback

/-- What a placeholder makes of its argument. -/
inductive Conversion where
  | text
  | decimal
deriving DecidableEq, Repr

namespace Template

/-- A token of a template; argument numbers start at one. -/
inductive Token where
  | character (c : Char)
  | percent
  | next (conversion : Conversion)
  | numbered (number : Nat) (conversion : Conversion)
deriving DecidableEq, Repr

/-- What is wrong with a template. -/
inductive Flaw where
  | unfinishedNumber
  | numberOutOfRange
  | unknownConversion
  | unfinishedPlaceholder
deriving DecidableEq, Repr

/-- The wording of a flaw. -/
def Flaw.reason : Flaw → String
  | .unfinishedNumber => "argument index must be followed by '$'"
  | .numberOutOfRange => "argument index must be a positive integer"
  | .unknownConversion => "unsupported conversion"
  | .unfinishedPlaceholder => "dangling '%'"

/-- Where in a token the reader is: before one, after a percent sign, within or after a number. -/
inductive Place where
  | start
  | percent
  | digits (digits : List Char)
  | number (number : Nat)
deriving DecidableEq, Repr

/-- The conversion that a letter stands for. -/
def conversion? : Char → Option Conversion
  | 's' => some .text
  | 'd' => some .decimal
  | _ => none

/-- The tokens of a text from some place on. -/
def readTokens : Place → List Char → Except Flaw (List Token)
  | .start, [] => .ok []
  | .start, c :: rest =>
    if c = '%' then readTokens .percent rest
    else (readTokens .start rest).map (.character c :: ·)
  | .percent, [] => .error .unfinishedPlaceholder
  | .percent, c :: rest =>
    if c = '%' then (readTokens .start rest).map (.percent :: ·)
    else if c.isDigit then readTokens (.digits [c]) rest
    else
      match conversion? c with
      | some conversion => (readTokens .start rest).map (.next conversion :: ·)
      | none => .error .unknownConversion
  | .digits _, [] => .error .unfinishedNumber
  | .digits digits, c :: rest =>
    if c.isDigit then readTokens (.digits (digits ++ [c])) rest
    else if c = '$' then
      let number := Nat.ofDigitChars 10 digits 0
      if 0 < number ∧ number < Numeral.wordCount then readTokens (.number number) rest
      else .error .numberOutOfRange
    else .error .unfinishedNumber
  | .number _, [] => .error .unfinishedPlaceholder
  | .number number, c :: rest =>
    match conversion? c with
    | some conversion => (readTokens .start rest).map (.numbered number conversion :: ·)
    | none => .error .unknownConversion

end Template

/-- A well-formed template with the text it was read from. -/
structure Template where
  source : String
  tokens : List Template.Token
deriving DecidableEq, Repr

namespace Template

/-- Reads a template. -/
def read (source : String) : Except ValidationFault Template :=
  match readTokens .start source.toList with
  | .ok tokens => .ok ⟨source, tokens⟩
  | .error flaw => .error (.invalidTemplate source flaw.reason)

/-- The number of placeholders that take the next argument. -/
def nextCount : List Token → Nat
  | [] => 0
  | .next _ :: tokens => nextCount tokens + 1
  | _ :: tokens => nextCount tokens

/-- The greatest number of an argument. -/
def greatestNumber : List Token → Nat
  | [] => 0
  | .numbered number _ :: tokens => max number (greatestNumber tokens)
  | _ :: tokens => greatestNumber tokens

/-- The number of arguments that the template has places for. -/
def arity (template : Template) : Nat :=
  max (nextCount template.tokens) (greatestNumber template.tokens)

/-- The fault of an argument that has no decimal digits. -/
def notDecimal (shown : String) : EvaluationFault :=
  .formatterFailed ("'%d' expects an integer, got " ++ shown)

/-- The integer of an argument that is an integer or the literal of one. -/
def decimalOf : Value → Except EvaluationFault Int64
  | .int number => .ok number
  | .text text =>
    match Numeral.readWord (Text.trimChars text.toList) with
    | some number => .ok number
    | none => .error (notDecimal ("'" ++ text ++ "'"))
  | other => .error (notDecimal other.sortName)

/-- What a placeholder makes of its argument. -/
def convert (conversion : Conversion) (argument : Value) : Except EvaluationFault String :=
  match conversion with
  | .text => .ok argument.display
  | .decimal => (decimalOf argument).map Numeral.writeWord

/-- The text of the tokens when `taken` arguments have been taken in turn. -/
def renderTokens (arguments : List Value) : Nat → List Token → Except EvaluationFault String
  | _, [] => .ok ""
  | taken, .character c :: tokens =>
    (renderTokens arguments taken tokens).map (String.ofList [c] ++ ·)
  | taken, .percent :: tokens => (renderTokens arguments taken tokens).map ("%" ++ ·)
  | taken, .next conversion :: tokens => do
    let inserted ← convert conversion (arguments.getD taken default)
    (renderTokens arguments (taken + 1) tokens).map (inserted ++ ·)
  | taken, .numbered number conversion :: tokens => do
    let inserted ← convert conversion (arguments.getD (number - 1) default)
    (renderTokens arguments taken tokens).map (inserted ++ ·)

/-- The text of the template with its arguments inserted. -/
def render (template : Template) (arguments : List Value) : Except EvaluationFault String :=
  if arguments.length = template.arity then renderTokens arguments 0 template.tokens
  else .error (.argumentMismatch template.arity arguments.length)

end Template

end SpokenFeedback
