/-!
# Flaws of patterns

Why a text is no pattern.
-/

namespace SpokenFeedback

namespace Pattern

/-- Why a text is no pattern. -/
inductive Flaw where
  | unclosedGroup
  | unopenedGroup
  | unclosedClass
  | nothingToRepeat
  | malformedCount
  | lookAround
  | backreference
  | unfinishedEscape
  | unknownEscape
  | malformedCode
  | malformedFlags
  | malformedGroupName
  | repeatedGroupName
  | unknownClass
  | notInClass
  | descendingRange
  | beyondAscii
  | malformedWordBoundary
  | nestedTooDeeply
  | tooLarge
deriving DecidableEq, Repr

/-- The wording of a flaw. -/
def Flaw.reason : Flaw → String
  | .unclosedGroup => "a group is not closed"
  | .unopenedGroup => "a closing parenthesis has no group"
  | .unclosedClass => "a character class is not closed"
  | .nothingToRepeat => "a repetition operator has nothing to repeat"
  | .malformedCount => "a repetition count is malformed"
  | .lookAround => "look-around is not supported"
  | .backreference => "backreferences are not supported"
  | .unfinishedEscape => "the pattern ends within an escape sequence"
  | .unknownEscape => "an escape sequence is not known"
  | .malformedCode => "a character code is malformed"
  | .malformedFlags => "flags are malformed"
  | .malformedGroupName => "the name of a group is malformed"
  | .repeatedGroupName => "two groups have one name"
  | .unknownClass => "a Unicode class is not known"
  | .notInClass => "an escape sequence does not denote characters"
  | .descendingRange => "a range ends before its start"
  | .beyondAscii => "a pattern without Unicode goes beyond ASCII"
  | .malformedWordBoundary => "a word boundary is malformed"
  | .nestedTooDeeply => "the pattern is nested too deeply"
  | .tooLarge => "the pattern is too large"

end Pattern

end SpokenFeedback
