import SpokenFeedback.Text.Alphabetic

/-!
# Word characters

The characters of which names in resource references are made, and between which and others a
word boundary lies: alphabetic characters, marks, decimal digits, connector punctuation and the
two joiners.  `isWord` asks table after table, and `wordRanges` is the same set as ranges.
-/

namespace SpokenFeedback.Text

/-- The characters that join or part their neighbours without being seen. -/
def joinControlRanges : Ranges := [(0x200C, 0x200D)]

/-- The categories of which all characters are word characters. -/
def wordCategories : List Category := [.decimalNumber, .connectorPunctuation] ++ markCategories

/-- Whether a character is a word character. -/
def isWord (c : Char) : Bool :=
  isAlphabetic c || inCategory wordCategories c || joinControlRanges.holds c

/-- The word characters. -/
def wordRanges : Ranges :=
  alphabeticRanges.union ((categoryRanges wordCategories).union joinControlRanges)

/-- Whether a character is an ASCII letter, an ASCII digit or the underscore. -/
def isAsciiWord (c : Char) : Bool := c.isAlphanum || c == '_'

end SpokenFeedback.Text
