import SpokenFeedback.Text.Blank
import SpokenFeedback.Text.Casing
import SpokenFeedback.Text.Punctuation

/-!
# Sentence breaks

The classes by which version 16 of the Unicode Standard segments a text into sentences.
-/

namespace SpokenFeedback.Text

namespace SentenceBreak

/-- The carriage return. -/
def carriageReturnRanges : Ranges := [(0xD, 0xD)]

/-- The line feed. -/
def lineFeedRanges : Ranges := [(0xA, 0xA)]

/-- The other ends of lines. -/
def separatorRanges : Ranges :=
  [(0x85, 0x85), (0x2028, 0x2029)]

/-- The blanks within lines. -/
def spaceRanges : Ranges :=
  blankRanges.difference
    (Ranges.unions [separatorRanges, carriageReturnRanges, lineFeedRanges])

/-- The characters that extend the one before them. -/
def extendRanges : Ranges :=
  Ranges.unions [graphemeExtendRanges, Category.spacingMarkRanges, WordBreak.joinerRanges]

/-- The format characters, but for those with a class of their own. -/
def formatRanges : Ranges :=
  Category.formatRanges.difference
    [(0x600, 0x605), (0x6DD, 0x6DD), (0x890, 0x891), (0x8E2, 0x8E2), (0x200C, 0x200D),
     (0x110BD, 0x110BD), (0x110CD, 0x110CD), (0xE0020, 0xE007F)]

/-- The lowercase characters, but for extending ones and the modern letters of Georgian. -/
def lowerRanges : Ranges :=
  lowercaseRanges.difference (graphemeExtendRanges.union
    [(0x10D0, 0x10FA), (0x10FD, 0x10FF)])

/-- The uppercase and titlecase characters, but for the capitals of Georgian. -/
def upperRanges : Ranges :=
  (uppercaseRanges.union Category.titlecaseLetterRanges).difference
    [(0x1C90, 0x1CBA), (0x1CBD, 0x1CBF)]

/-- The other alphabetic characters, and one that is used like a letter. -/
def otherLetterRanges : Ranges :=
  (alphabeticRanges.difference (Ranges.unions [lowerRanges, upperRanges, extendRanges])).union
    [(0x5F3, 0x5F3)]

/-- The digits. -/
def numericRanges : Ranges :=
  Category.decimalNumberRanges.union
    [(0x600, 0x605), (0x66B, 0x66C), (0x6DD, 0x6DD), (0x890, 0x891), (0x8E2, 0x8E2),
     (0x19DA, 0x19DA), (0x110BD, 0x110BD), (0x110CD, 0x110CD)]

/-- The marks that may end a sentence or belong to a number or an abbreviation. -/
def ambiguousTerminalRanges : Ranges :=
  [(0x2E, 0x2E), (0x2024, 0x2024), (0xFE52, 0xFE52), (0xFF0E, 0xFF0E)]

/-- The marks within sentences. -/
def continueRanges : Ranges :=
  [(0x2C, 0x2D), (0x3A, 0x3B), (0x37E, 0x37E), (0x55D, 0x55D), (0x60C, 0x60D), (0x7F8, 0x7F8),
   (0x1802, 0x1802), (0x1808, 0x1808), (0x2013, 0x2014), (0x3001, 0x3001), (0xFE10, 0xFE11),
   (0xFE13, 0xFE14), (0xFE31, 0xFE32), (0xFE50, 0xFE51), (0xFE54, 0xFE55), (0xFE58, 0xFE58),
   (0xFE63, 0xFE63), (0xFF0C, 0xFF0D), (0xFF1A, 0xFF1B), (0xFF64, 0xFF64)]

/-- The marks that end sentences. -/
def terminalRanges : Ranges := sentenceTerminalRanges.difference ambiguousTerminalRanges

/-- The brackets and quotation marks that may follow the end of a sentence. -/
def closeRanges : Ranges :=
  (categoryRanges
    [.openPunctuation, .closePunctuation, .initialPunctuation, .finalPunctuation]).union
    [(0x22, 0x22), (0x27, 0x27), (0x275B, 0x2760), (0x2E00, 0x2E01), (0x2E06, 0x2E08),
     (0x2E0B, 0x2E0B), (0x1F676, 0x1F678)]

end SentenceBreak

end SpokenFeedback.Text
