import SpokenFeedback.Text.Combining
import SpokenFeedback.Text.Emoji
import SpokenFeedback.Text.Invisible

/-!
# Grapheme breaks

The classes by which version 16 of the Unicode Standard segments a text into what a reader sees as
characters.
-/

namespace SpokenFeedback.Text

namespace GraphemeBreak

/-- The carriage return. -/
def carriageReturnRanges : Ranges := [(0xD, 0xD)]

/-- The line feed. -/
def lineFeedRanges : Ranges := [(0xA, 0xA)]

/-- The joiner that shows its neighbours as one. -/
def joinerRanges : Ranges := [(0x200D, 0x200D)]

/-- The characters that stand apart from others. -/
def controlRanges : Ranges :=
  (Ranges.unions
    [categoryRanges [.lineSeparator, .paragraphSeparator, .control, .format],
     Category.unassignedRanges.intersection defaultIgnorableRanges]).difference
    (Ranges.unions
      [carriageReturnRanges, lineFeedRanges, joinerRanges, prependedMarkRanges,
       [(0x200C, 0x200C), (0xE0020, 0xE007F)]])

/-- The characters that extend the one before them. -/
def extendRanges : Ranges := graphemeExtendRanges.union emojiModifierRanges

/-- The marks that take room of their own beside the character before them. -/
def spacingMarkRanges : Ranges :=
  (Category.spacingMarkRanges.difference (graphemeExtendRanges.union
    [(0x102B, 0x102C), (0x1038, 0x1038), (0x1062, 0x1064), (0x1067, 0x106D), (0x1083, 0x1083),
     (0x1087, 0x108C), (0x108F, 0x108F), (0x109A, 0x109C), (0x1A61, 0x1A61), (0x1A63, 0x1A64),
     (0xAA7B, 0xAA7B), (0xAA7D, 0xAA7D), (0x11720, 0x11721)])).union
    [(0xE33, 0xE33), (0xEB3, 0xEB3)]

/-- The characters that belong to the one after them. -/
def prependRanges : Ranges :=
  prependedMarkRanges.union
    [(0xD4E, 0xD4E), (0x111C2, 0x111C3), (0x113D1, 0x113D1), (0x1193F, 0x1193F), (0x11941, 0x11941),
     (0x11A3A, 0x11A3A), (0x11A84, 0x11A89), (0x11D46, 0x11D46), (0x11F02, 0x11F02)]

/-- The leading consonants of Korean. -/
def leadingRanges : Ranges :=
  [(0x1100, 0x115F), (0xA960, 0xA97C)]

/-- The vowels of Korean. -/
def vowelRanges : Ranges :=
  [(0x1160, 0x11A7), (0xD7B0, 0xD7C6), (0x16D63, 0x16D63), (0x16D67, 0x16D6A)]

/-- The trailing consonants of Korean. -/
def trailingRanges : Ranges :=
  [(0x11A8, 0x11FF), (0xD7CB, 0xD7FB)]

/-- The syllables of Korean without a trailing consonant: one in every 28. -/
def openSyllableRanges : Ranges := Ranges.every 28 0xAC00 399

/-- The syllables of Korean with a trailing consonant. -/
def closedSyllableRanges : Ranges := Ranges.difference [(0xAC00, 0xD7A3)] openSyllableRanges

end GraphemeBreak

end SpokenFeedback.Text
