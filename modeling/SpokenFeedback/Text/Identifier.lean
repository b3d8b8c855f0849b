import SpokenFeedback.Text.Alphabetic
import SpokenFeedback.Text.Punctuation

/-!
# Identifiers

The characters with which names in formal languages start and go on, as version 16 of the Unicode
Standard recommends them.
-/

namespace SpokenFeedback.Text

/-- The characters with which names start that are no letters. -/
def otherIdentifierStartRanges : Ranges :=
  [(0x1885, 0x1886), (0x2118, 0x2118), (0x212E, 0x212E), (0x309B, 0x309C)]

/-- The characters with which names go on that are neither digits nor marks. -/
def otherIdentifierContinueRanges : Ranges :=
  [(0xB7, 0xB7), (0x387, 0x387), (0x1369, 0x1371), (0x19DA, 0x19DA), (0x200C, 0x200D),
   (0x30FB, 0x30FB), (0xFF65, 0xFF65)]

/-- The marks and the blanks of formal languages. -/
def patternRanges : Ranges := patternSyntaxRanges.union patternBlankRanges

/-- The characters with which names start. -/
def identifierStartRanges : Ranges :=
  ((categoryRanges (.letterNumber :: letterCategories)).union otherIdentifierStartRanges).difference
    patternRanges

/-- The characters with which names start, or go on after their start. -/
def identifierContinueRanges : Ranges :=
  (Ranges.unions [identifierStartRanges,
    categoryRanges [.nonspacingMark, .spacingMark, .decimalNumber, .connectorPunctuation],
    otherIdentifierContinueRanges]).difference patternRanges

/-- The characters with which names start in any normal form. -/
def normalIdentifierStartRanges : Ranges :=
  identifierStartRanges.difference
    [(0x37A, 0x37A), (0xE33, 0xE33), (0xEB3, 0xEB3), (0x309B, 0x309C), (0xFC5E, 0xFC63),
     (0xFDFA, 0xFDFB), (0xFE70, 0xFE70), (0xFE72, 0xFE72), (0xFE74, 0xFE74), (0xFE76, 0xFE76),
     (0xFE78, 0xFE78), (0xFE7A, 0xFE7A), (0xFE7C, 0xFE7C), (0xFE7E, 0xFE7E), (0xFF9E, 0xFF9F)]

/-- The characters with which names start or go on in any normal form. -/
def normalIdentifierContinueRanges : Ranges :=
  identifierContinueRanges.difference
    [(0x37A, 0x37A), (0x309B, 0x309C), (0xFC5E, 0xFC63), (0xFDFA, 0xFDFB), (0xFE70, 0xFE70),
     (0xFE72, 0xFE72), (0xFE74, 0xFE74), (0xFE76, 0xFE76), (0xFE78, 0xFE78), (0xFE7A, 0xFE7A),
     (0xFE7C, 0xFE7C), (0xFE7E, 0xFE7E)]

/-- The mathematical characters with which names may start. -/
def mathIdentifierStartRanges : Ranges :=
  [(0x2202, 0x2202), (0x2207, 0x2207), (0x221E, 0x221E), (0x1D6C1, 0x1D6C1), (0x1D6DB, 0x1D6DB),
   (0x1D6FB, 0x1D6FB), (0x1D715, 0x1D715), (0x1D735, 0x1D735), (0x1D74F, 0x1D74F),
   (0x1D76F, 0x1D76F), (0x1D789, 0x1D789), (0x1D7A9, 0x1D7A9), (0x1D7C3, 0x1D7C3)]

/-- The mathematical characters with which names may start or go on. -/
def mathIdentifierContinueRanges : Ranges :=
  [(0xB2, 0xB3), (0xB9, 0xB9), (0x2070, 0x2070), (0x2074, 0x207E), (0x2080, 0x208E),
   (0x2202, 0x2202), (0x2207, 0x2207), (0x221E, 0x221E), (0x1D6C1, 0x1D6C1), (0x1D6DB, 0x1D6DB),
   (0x1D6FB, 0x1D6FB), (0x1D715, 0x1D715), (0x1D735, 0x1D735), (0x1D74F, 0x1D74F),
   (0x1D76F, 0x1D76F), (0x1D789, 0x1D789), (0x1D7A9, 0x1D7A9), (0x1D7C3, 0x1D7C3)]

end SpokenFeedback.Text
