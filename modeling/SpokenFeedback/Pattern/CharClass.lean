import SpokenFeedback.Text.Blank
import SpokenFeedback.Text.CaseFolding
import SpokenFeedback.Text.Mathematical
import SpokenFeedback.Text.Word

/-!
# Character classes

The sets of characters that a pattern can ask for at one position.  Letters of escape sequences
and names between colons stand for the sets that are defined here.
-/

namespace SpokenFeedback

open Text (Ranges Category)

/-- A set of characters. -/
abbrev CharClass := Ranges

namespace CharClass

/-- The characters of ASCII. -/
def ascii : CharClass := [(0, 0x7F)]

/-- Decimal digits, of all scripts or of ASCII. -/
def digit (unicode : Bool) : CharClass :=
  if unicode then Category.decimalNumberRanges else [(0x30, 0x39)]

/-- White space, of all scripts or of ASCII. -/
def space (unicode : Bool) : CharClass :=
  if unicode then Text.blankRanges else [(0x9, 0xD), (0x20, 0x20)]

/-- ASCII letters, digits and the underscore. -/
def asciiWord : CharClass := [(0x30, 0x39), (0x41, 0x5A), (0x5F, 0x5F), (0x61, 0x7A)]

/-- Word characters, of all scripts or of ASCII. -/
def word (unicode : Bool) : CharClass := if unicode then Text.wordRanges else asciiWord

/-- The classes of ASCII characters that a bracketed class can name between colons. -/
def ofAsciiName? (name : String) : Option CharClass :=
  match name with
  | "alnum" => some [(0x30, 0x39), (0x41, 0x5A), (0x61, 0x7A)]
  | "alpha" => some [(0x41, 0x5A), (0x61, 0x7A)]
  | "ascii" => some ascii
  | "blank" => some [(0x9, 0x9), (0x20, 0x20)]
  | "cntrl" => some [(0x0, 0x1F), (0x7F, 0x7F)]
  | "digit" => some (digit false)
  | "graph" => some [(0x21, 0x7E)]
  | "lower" => some [(0x61, 0x7A)]
  | "print" => some [(0x20, 0x7E)]
  | "punct" => some [(0x21, 0x2F), (0x3A, 0x40), (0x5B, 0x60), (0x7B, 0x7E)]
  | "space" => some (space false)
  | "upper" => some [(0x41, 0x5A)]
  | "word" => some asciiWord
  | "xdigit" => some Text.asciiHexDigitRanges
  | _ => none

end CharClass

end SpokenFeedback
