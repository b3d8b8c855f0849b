import SpokenFeedback.Text.Combining
import SpokenFeedback.Text.Emoji
import SpokenFeedback.Text.Ideograph
import SpokenFeedback.Text.Script
import SpokenFeedback.Text.Word

/-!
# Word breaks

The classes by which version 16 of the Unicode Standard segments a text into words.
-/

namespace SpokenFeedback.Text

namespace WordBreak

/-- The carriage return. -/
def carriageReturnRanges : Ranges := [(0xD, 0xD)]

/-- The line feed. -/
def lineFeedRanges : Ranges := [(0xA, 0xA)]

/-- The other ends of lines. -/
def newlineRanges : Ranges :=
  [(0xB, 0xC), (0x85, 0x85), (0x2028, 0x2029)]

/-- The joiner that shows its neighbours as one. -/
def joinerRanges : Ranges := [(0x200D, 0x200D)]

/-- The straight single quotation mark. -/
def singleQuoteRanges : Ranges := [(0x27, 0x27)]

/-- The straight double quotation mark. -/
def doubleQuoteRanges : Ranges := [(0x22, 0x22)]

/-- The characters that may stand between two letters of a word. -/
def midLetterRanges : Ranges :=
  [(0x3A, 0x3A), (0xB7, 0xB7), (0x387, 0x387), (0x55F, 0x55F), (0x5F4, 0x5F4), (0x2027, 0x2027),
   (0xFE13, 0xFE13), (0xFE55, 0xFE55), (0xFF1A, 0xFF1A)]

/-- The characters that may stand between two digits of a number. -/
def midNumberRanges : Ranges :=
  [(0x2C, 0x2C), (0x3B, 0x3B), (0x37E, 0x37E), (0x589, 0x589), (0x60C, 0x60D), (0x66C, 0x66C),
   (0x7F8, 0x7F8), (0x2044, 0x2044), (0xFE50, 0xFE50), (0xFE54, 0xFE54), (0xFF0C, 0xFF0C),
   (0xFF1B, 0xFF1B)]

/-- The characters that may stand between two letters or between two digits. -/
def midNumberOrLetterRanges : Ranges :=
  [(0x2E, 0x2E), (0x2018, 0x2019), (0x2024, 0x2024), (0xFE52, 0xFE52), (0xFF07, 0xFF07),
   (0xFF0E, 0xFF0E)]

/-- The spaces that belong together. -/
def spaceRanges : Ranges :=
  Category.spaceSeparatorRanges.difference
    [(0xA0, 0xA0), (0x2007, 0x2007), (0x202F, 0x202F)]

/-- The characters that extend the one before them. -/
def extendRanges : Ranges :=
  (Ranges.unions [graphemeExtendRanges, Category.spacingMarkRanges, emojiModifierRanges]).difference
    joinerRanges

/-- The format characters, but for those with a class of their own. -/
def formatRanges : Ranges :=
  Category.formatRanges.difference
    [(0x600, 0x605), (0x6DD, 0x6DD), (0x70F, 0x70F), (0x890, 0x891), (0x8E2, 0x8E2),
     (0x200B, 0x200D), (0x110BD, 0x110BD), (0x110CD, 0x110CD), (0xE0020, 0xE007F)]

/-- The digits. -/
def numericRanges : Ranges :=
  Category.decimalNumberRanges.union
    [(0x600, 0x605), (0x66B, 0x66B), (0x6DD, 0x6DD), (0x890, 0x891), (0x8E2, 0x8E2),
     (0x19DA, 0x19DA), (0x110BD, 0x110BD), (0x110CD, 0x110CD)]

/-- The characters of Katakana words. -/
def katakanaRanges : Ranges :=
  Script.katakana.ranges.union
    [(0x3031, 0x3035), (0x309B, 0x309C), (0x30A0, 0x30A0), (0x30FC, 0x30FC), (0xFF70, 0xFF70)]

/-- The characters that join words and numbers. -/
def extendNumberLetterRanges : Ranges :=
  Category.connectorPunctuationRanges.union
    [(0x202F, 0x202F)]

/-- The letters of Hebrew. -/
def hebrewLetterRanges : Ranges := Script.hebrew.ranges.intersection Category.otherLetterRanges

/-- The characters of scripts that are written without spaces between words. -/
def unspacedScriptRanges : Ranges :=
  Ranges.unions ([Script.ahom, Script.hiragana, Script.khmer, Script.lao, Script.myanmar,
    Script.newTaiLue, Script.taiLe, Script.taiTham, Script.taiViet, Script.thai].map Script.ranges)

/-- The alphabetic characters without a class of their own, and some that are used like letters. -/
def letterRanges : Ranges :=
  (alphabeticRanges.difference
    (Ranges.unions [ideographicRanges, katakanaRanges, extendRanges, hebrewLetterRanges,
      unspacedScriptRanges])).union
    [(0x2C2, 0x2C5), (0x2D2, 0x2D7), (0x2DE, 0x2DF), (0x2E5, 0x2EB), (0x2ED, 0x2ED), (0x2EF, 0x2FF),
     (0x55A, 0x55C), (0x55E, 0x55E), (0x58A, 0x58A), (0x5F3, 0x5F3), (0x70F, 0x70F),
     (0xA708, 0xA716), (0xA720, 0xA721), (0xA789, 0xA78A), (0xAB5B, 0xAB5B)]

end WordBreak

end SpokenFeedback.Text
