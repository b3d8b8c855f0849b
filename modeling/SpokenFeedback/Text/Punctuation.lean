import SpokenFeedback.Text.Category

/-!
# Punctuation by use

Punctuation marks by what they do in a text, as version 16 of the Unicode Standard has them.
-/

namespace SpokenFeedback.Text

/-- The dashes. -/
def dashRanges : Ranges :=
  Category.dashPunctuationRanges.union
    [(0x2053, 0x2053), (0x207B, 0x207B), (0x208B, 0x208B), (0x2212, 0x2212)]

/-- The dashes that join the parts of words. -/
def hyphenRanges : Ranges :=
  [(0x2D, 0x2D), (0xAD, 0xAD), (0x58A, 0x58A), (0x1806, 0x1806), (0x2010, 0x2011), (0x2E17, 0x2E17),
   (0x30FB, 0x30FB), (0xFE63, 0xFE63), (0xFF0D, 0xFF0D), (0xFF65, 0xFF65)]

/-- Initial and final punctuation that does not quote. -/
def editorialMarkRanges : Ranges :=
  [(0x2E02, 0x2E05), (0x2E09, 0x2E0A), (0x2E0C, 0x2E0D), (0x2E1C, 0x2E1D), (0x2E20, 0x2E21)]

/-- The quotation marks. -/
def quotationMarkRanges : Ranges :=
  ((categoryRanges [.initialPunctuation, .finalPunctuation]).difference editorialMarkRanges).union
    [(0x22, 0x22), (0x27, 0x27), (0x201A, 0x201A), (0x201E, 0x201E), (0x2E42, 0x2E42),
     (0x300C, 0x300F), (0x301D, 0x301F), (0xFE41, 0xFE44), (0xFF02, 0xFF02), (0xFF07, 0xFF07),
     (0xFF62, 0xFF63)]

/-- The marks that end sentences. -/
def sentenceTerminalRanges : Ranges :=
  [(0x21, 0x21), (0x2E, 0x2E), (0x3F, 0x3F), (0x589, 0x589), (0x61D, 0x61F), (0x6D4, 0x6D4),
   (0x700, 0x702), (0x7F9, 0x7F9), (0x837, 0x837), (0x839, 0x839), (0x83D, 0x83E), (0x964, 0x965),
   (0x104A, 0x104B), (0x1362, 0x1362), (0x1367, 0x1368), (0x166E, 0x166E), (0x1735, 0x1736),
   (0x17D4, 0x17D5), (0x1803, 0x1803), (0x1809, 0x1809), (0x1944, 0x1945), (0x1AA8, 0x1AAB),
   (0x1B4E, 0x1B4F), (0x1B5A, 0x1B5B), (0x1B5E, 0x1B5F), (0x1B7D, 0x1B7F), (0x1C3B, 0x1C3C),
   (0x1C7E, 0x1C7F), (0x2024, 0x2024), (0x203C, 0x203D), (0x2047, 0x2049), (0x2CF9, 0x2CFB),
   (0x2E2E, 0x2E2E), (0x2E3C, 0x2E3C), (0x2E53, 0x2E54), (0x3002, 0x3002), (0xA4FF, 0xA4FF),
   (0xA60E, 0xA60F), (0xA6F3, 0xA6F3), (0xA6F7, 0xA6F7), (0xA876, 0xA877), (0xA8CE, 0xA8CF),
   (0xA92F, 0xA92F), (0xA9C8, 0xA9C9), (0xAA5D, 0xAA5F), (0xAAF0, 0xAAF1), (0xABEB, 0xABEB),
   (0xFE12, 0xFE12), (0xFE15, 0xFE16), (0xFE52, 0xFE52), (0xFE56, 0xFE57), (0xFF01, 0xFF01),
   (0xFF0E, 0xFF0E), (0xFF1F, 0xFF1F), (0xFF61, 0xFF61), (0x10A56, 0x10A57), (0x10F55, 0x10F59),
   (0x10F86, 0x10F89), (0x11047, 0x11048), (0x110BE, 0x110C1), (0x11141, 0x11143),
   (0x111C5, 0x111C6), (0x111CD, 0x111CD), (0x111DE, 0x111DF), (0x11238, 0x11239),
   (0x1123B, 0x1123C), (0x112A9, 0x112A9), (0x113D4, 0x113D5), (0x1144B, 0x1144C),
   (0x115C2, 0x115C3), (0x115C9, 0x115D7), (0x11641, 0x11642), (0x1173C, 0x1173E),
   (0x11944, 0x11944), (0x11946, 0x11946), (0x11A42, 0x11A43), (0x11A9B, 0x11A9C),
   (0x11C41, 0x11C42), (0x11EF7, 0x11EF8), (0x11F43, 0x11F44), (0x16A6E, 0x16A6F),
   (0x16AF5, 0x16AF5), (0x16B37, 0x16B38), (0x16B44, 0x16B44), (0x16D6E, 0x16D6F),
   (0x16E98, 0x16E98), (0x1BC9F, 0x1BC9F), (0x1DA88, 0x1DA88)]

/-- The marks that end sentences or parts of them. -/
def terminalPunctuationRanges : Ranges :=
  sentenceTerminalRanges.union
    [(0x2C, 0x2C), (0x3A, 0x3B), (0x37E, 0x37E), (0x387, 0x387), (0x5C3, 0x5C3), (0x60C, 0x60C),
     (0x61B, 0x61B), (0x703, 0x70A), (0x70C, 0x70C), (0x7F8, 0x7F8), (0x830, 0x835), (0x838, 0x838),
     (0x83A, 0x83C), (0x85E, 0x85E), (0xE5A, 0xE5B), (0xF08, 0xF08), (0xF0D, 0xF12),
     (0x1361, 0x1361), (0x1363, 0x1366), (0x16EB, 0x16ED), (0x17D6, 0x17D6), (0x17DA, 0x17DA),
     (0x1802, 0x1802), (0x1804, 0x1805), (0x1808, 0x1808), (0x1B5D, 0x1B5D), (0x1C3D, 0x1C3F),
     (0x2E41, 0x2E41), (0x2E4C, 0x2E4C), (0x2E4E, 0x2E4F), (0x3001, 0x3001), (0xA4FE, 0xA4FE),
     (0xA60D, 0xA60D), (0xA6F4, 0xA6F6), (0xA9C7, 0xA9C7), (0xAADF, 0xAADF), (0xFE50, 0xFE51),
     (0xFE54, 0xFE55), (0xFF0C, 0xFF0C), (0xFF1A, 0xFF1B), (0xFF64, 0xFF64), (0x1039F, 0x1039F),
     (0x103D0, 0x103D0), (0x10857, 0x10857), (0x1091F, 0x1091F), (0x10AF0, 0x10AF5),
     (0x10B3A, 0x10B3F), (0x10B99, 0x10B9C), (0x11049, 0x1104D), (0x1123A, 0x1123A),
     (0x1144D, 0x1144D), (0x1145A, 0x1145B), (0x115C4, 0x115C5), (0x11AA1, 0x11AA2),
     (0x11C43, 0x11C43), (0x11C71, 0x11C71), (0x12470, 0x12474), (0x16B39, 0x16B39),
     (0x16E97, 0x16E97), (0x1DA87, 0x1DA87), (0x1DA89, 0x1DA8A)]

/-- The marks that formal languages may use as operators. -/
def patternSyntaxRanges : Ranges :=
  [(0x21, 0x2F), (0x3A, 0x40), (0x5B, 0x5E), (0x60, 0x60), (0x7B, 0x7E), (0xA1, 0xA7), (0xA9, 0xA9),
   (0xAB, 0xAC), (0xAE, 0xAE), (0xB0, 0xB1), (0xB6, 0xB6), (0xBB, 0xBB), (0xBF, 0xBF), (0xD7, 0xD7),
   (0xF7, 0xF7), (0x2010, 0x2027), (0x2030, 0x203E), (0x2041, 0x2053), (0x2055, 0x205E),
   (0x2190, 0x245F), (0x2500, 0x2775), (0x2794, 0x2BFF), (0x2E00, 0x2E7F), (0x3001, 0x3003),
   (0x3008, 0x3020), (0x3030, 0x3030), (0xFD3E, 0xFD3F), (0xFE45, 0xFE46)]

/-- The blanks of formal languages. -/
def patternBlankRanges : Ranges :=
  [(0x9, 0xD), (0x20, 0x20), (0x85, 0x85), (0x200E, 0x200F), (0x2028, 0x2029)]

end SpokenFeedback.Text
