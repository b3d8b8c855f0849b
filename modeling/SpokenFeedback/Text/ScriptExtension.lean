import SpokenFeedback.Text.Script

/-!
# Shared characters

Some characters are used with more scripts, or with others, than the one they belong to.  The
extension of a script, as version 16 of the Unicode Standard has it, holds the characters that are
used with it: those that belong to it and are not shared, and the shared ones that are used with
it.
-/

namespace SpokenFeedback.Text

/-- Shared characters and the scripts that they are used with. -/
structure SharedRange where
  low : Nat
  high : Nat
  scripts : List Script
deriving DecidableEq, Repr

namespace Script

/-- The shared characters. -/
def shared : List SharedRange :=
  [⟨0xB7, 0xB7, [avestan, carian, coptic, duployan, elbasan, georgian, glagolitic, gothic,
     greek, gunjalaGondi, han, latin, lydian, mahajani, oldPermic, shavian]⟩,
   ⟨0x2BC, 0x2BC, [bengali, cyrillic, devanagari, latin, lisu, thai, toto]⟩,
   ⟨0x2C7, 0x2C7, [bopomofo, latin]⟩,
   ⟨0x2C9, 0x2CB, [bopomofo, latin]⟩,
   ⟨0x2CD, 0x2CD, [latin, lisu]⟩,
   ⟨0x2D7, 0x2D7, [latin, thai]⟩,
   ⟨0x2D9, 0x2D9, [bopomofo, latin]⟩,
   ⟨0x300, 0x300, [cherokee, coptic, cyrillic, greek, latin, oldPermic, sunuwar, taiLe]⟩,
   ⟨0x301, 0x301, [cherokee, cyrillic, greek, latin, osage, sunuwar, taiLe, todhri]⟩,
   ⟨0x302, 0x302, [cherokee, cyrillic, latin, tifinagh]⟩,
   ⟨0x303, 0x303, [glagolitic, latin, sunuwar, syriac, thai]⟩,
   ⟨0x304, 0x304, [caucasianAlbanian, cherokee, coptic, cyrillic, gothic, greek, latin, osage,
     syriac, tifinagh, todhri]⟩,
   ⟨0x305, 0x305, [coptic, elbasan, glagolitic, gothic, katakana, latin]⟩,
   ⟨0x306, 0x306, [cyrillic, greek, latin, oldPermic]⟩,
   ⟨0x307, 0x307, [coptic, duployan, hebrew, latin, oldPermic, syriac, taiLe, tifinagh, todhri]⟩,
   ⟨0x308, 0x308, [armenian, cyrillic, duployan, gothic, greek, hebrew, latin, oldPermic, syriac,
     taiLe]⟩,
   ⟨0x309, 0x309, [latin, tifinagh]⟩,
   ⟨0x30A, 0x30A, [duployan, latin, syriac]⟩,
   ⟨0x30B, 0x30B, [cherokee, cyrillic, latin, osage]⟩,
   ⟨0x30C, 0x30C, [cherokee, latin, taiLe]⟩,
   ⟨0x30D, 0x30D, [latin, sunuwar]⟩,
   ⟨0x30E, 0x30E, [ethiopic, latin]⟩,
   ⟨0x310, 0x310, [latin, sunuwar]⟩,
   ⟨0x311, 0x311, [cyrillic, latin, todhri]⟩,
   ⟨0x313, 0x313, [greek, latin, oldPermic, todhri]⟩,
   ⟨0x320, 0x320, [latin, syriac]⟩,
   ⟨0x323, 0x323, [cherokee, duployan, katakana, latin, syriac]⟩,
   ⟨0x324, 0x324, [cherokee, duployan, latin, syriac]⟩,
   ⟨0x325, 0x325, [latin, syriac]⟩,
   ⟨0x32D, 0x32D, [latin, sunuwar, syriac]⟩,
   ⟨0x32E, 0x32E, [latin, syriac]⟩,
   ⟨0x330, 0x330, [cherokee, latin, syriac]⟩,
   ⟨0x331, 0x331, [caucasianAlbanian, cherokee, gothic, latin, sunuwar, thai]⟩,
   ⟨0x342, 0x342, [greek]⟩,
   ⟨0x345, 0x345, [greek]⟩,
   ⟨0x358, 0x358, [latin, osage]⟩,
   ⟨0x35E, 0x35E, [caucasianAlbanian, latin, todhri]⟩,
   ⟨0x363, 0x36F, [latin]⟩,
   ⟨0x374, 0x375, [coptic, greek]⟩,
   ⟨0x483, 0x483, [cyrillic, oldPermic]⟩,
   ⟨0x484, 0x484, [cyrillic, glagolitic]⟩,
   ⟨0x485, 0x486, [cyrillic, latin]⟩,
   ⟨0x487, 0x487, [cyrillic, glagolitic]⟩,
   ⟨0x589, 0x589, [armenian, georgian, glagolitic]⟩,
   ⟨0x60C, 0x60C, [arabic, garay, hanifiRohingya, nko, syriac, thaana, yezidi]⟩,
   ⟨0x61B, 0x61B, [arabic, garay, hanifiRohingya, nko, syriac, thaana, yezidi]⟩,
   ⟨0x61C, 0x61C, [arabic, syriac, thaana]⟩,
   ⟨0x61F, 0x61F, [adlam, arabic, garay, hanifiRohingya, nko, syriac, thaana, yezidi]⟩,
   ⟨0x640, 0x640, [adlam, arabic, hanifiRohingya, mandaic, manichaean, oldUyghur, psalterPahlavi,
     sogdian, syriac]⟩,
   ⟨0x64B, 0x655, [arabic, syriac]⟩,
   ⟨0x660, 0x669, [arabic, thaana, yezidi]⟩,
   ⟨0x670, 0x670, [arabic, syriac]⟩,
   ⟨0x6D4, 0x6D4, [arabic, hanifiRohingya]⟩,
   ⟨0x951, 0x951, [bengali, devanagari, grantha, gujarati, gurmukhi, kannada, latin, malayalam,
     oriya, sharada, tamil, telugu, tirhuta]⟩,
   ⟨0x952, 0x952, [bengali, devanagari, grantha, gujarati, gurmukhi, kannada, latin, malayalam,
     oriya, tamil, telugu, tirhuta]⟩,
   ⟨0x964, 0x964, [bengali, devanagari, dogra, grantha, gujarati, gunjalaGondi, gurmukhi,
     kannada, khudawadi, mahajani, malayalam, masaramGondi, nandinagari, olOnal, oriya, sinhala,
     sylotiNagri, takri, tamil, telugu, tirhuta]⟩,
   ⟨0x965, 0x965, [bengali, devanagari, dogra, grantha, gujarati, gunjalaGondi, gurmukhi,
     gurungKhema, kannada, khudawadi, limbu, mahajani, malayalam, masaramGondi, nandinagari,
     olOnal, oriya, sinhala, sylotiNagri, takri, tamil, telugu, tirhuta]⟩,
   ⟨0x966, 0x96F, [devanagari, dogra, kaithi, mahajani]⟩,
   ⟨0x9E6, 0x9EF, [bengali, chakma, sylotiNagri]⟩,
   ⟨0xA66, 0xA6F, [gurmukhi, multani]⟩,
   ⟨0xAE6, 0xAEF, [gujarati, khojki]⟩,
   ⟨0xBE6, 0xBF3, [grantha, tamil]⟩,
   ⟨0xCE6, 0xCEF, [kannada, nandinagari, tuluTigalari]⟩,
   ⟨0x1040, 0x1049, [chakma, myanmar, taiLe]⟩,
   ⟨0x10FB, 0x10FB, [georgian, glagolitic, latin]⟩,
   ⟨0x16EB, 0x16ED, [runic]⟩,
   ⟨0x1735, 0x1736, [buhid, hanunoo, tagalog, tagbanwa]⟩,
   ⟨0x1802, 0x1803, [mongolian, phagsPa]⟩,
   ⟨0x1805, 0x1805, [mongolian, phagsPa]⟩,
   ⟨0x1CD0, 0x1CD0, [bengali, devanagari, grantha, kannada]⟩,
   ⟨0x1CD1, 0x1CD1, [devanagari]⟩,
   ⟨0x1CD2, 0x1CD2, [bengali, devanagari, grantha, kannada]⟩,
   ⟨0x1CD3, 0x1CD3, [devanagari, grantha, kannada]⟩,
   ⟨0x1CD4, 0x1CD4, [devanagari]⟩,
   ⟨0x1CD5, 0x1CD6, [bengali, devanagari]⟩,
   ⟨0x1CD7, 0x1CD7, [devanagari, sharada]⟩,
   ⟨0x1CD8, 0x1CD8, [bengali, devanagari]⟩,
   ⟨0x1CD9, 0x1CD9, [devanagari, sharada]⟩,
   ⟨0x1CDA, 0x1CDA, [devanagari, kannada, malayalam, oriya, tamil, telugu]⟩,
   ⟨0x1CDB, 0x1CDB, [devanagari]⟩,
   ⟨0x1CDC, 0x1CDD, [devanagari, sharada]⟩,
   ⟨0x1CDE, 0x1CDF, [devanagari]⟩,
   ⟨0x1CE0, 0x1CE0, [devanagari, sharada]⟩,
   ⟨0x1CE1, 0x1CE1, [bengali, devanagari]⟩,
   ⟨0x1CE2, 0x1CE8, [devanagari]⟩,
   ⟨0x1CE9, 0x1CE9, [devanagari, nandinagari]⟩,
   ⟨0x1CEA, 0x1CEA, [bengali, devanagari]⟩,
   ⟨0x1CEB, 0x1CEC, [devanagari]⟩,
   ⟨0x1CED, 0x1CED, [bengali, devanagari]⟩,
   ⟨0x1CEE, 0x1CF1, [devanagari]⟩,
   ⟨0x1CF2, 0x1CF2, [bengali, devanagari, grantha, kannada, malayalam, nandinagari, oriya,
     sinhala, telugu, tirhuta, tuluTigalari]⟩,
   ⟨0x1CF3, 0x1CF3, [devanagari, grantha]⟩,
   ⟨0x1CF4, 0x1CF4, [devanagari, grantha, kannada, tuluTigalari]⟩,
   ⟨0x1CF5, 0x1CF6, [bengali, devanagari]⟩,
   ⟨0x1CF7, 0x1CF7, [bengali]⟩,
   ⟨0x1CF8, 0x1CF9, [devanagari, grantha]⟩,
   ⟨0x1CFA, 0x1CFA, [nandinagari]⟩,
   ⟨0x1DC0, 0x1DC1, [greek]⟩,
   ⟨0x1DF8, 0x1DF8, [cyrillic, latin, syriac]⟩,
   ⟨0x1DFA, 0x1DFA, [syriac]⟩,
   ⟨0x202F, 0x202F, [latin, mongolian, phagsPa]⟩,
   ⟨0x204F, 0x204F, [adlam, arabic]⟩,
   ⟨0x205A, 0x205A, [carian, georgian, glagolitic, lycian, oldHungarian, oldTurkic]⟩,
   ⟨0x205D, 0x205D, [carian, greek, meroiticHieroglyphs, oldHungarian]⟩,
   ⟨0x20F0, 0x20F0, [devanagari, grantha, latin]⟩,
   ⟨0x2E17, 0x2E17, [coptic, latin]⟩,
   ⟨0x2E30, 0x2E30, [avestan, oldTurkic]⟩,
   ⟨0x2E31, 0x2E31, [avestan, carian, georgian, kaithi, lydian, oldHungarian, samaritan]⟩,
   ⟨0x2E3C, 0x2E3C, [duployan]⟩,
   ⟨0x2E41, 0x2E41, [adlam, arabic, oldHungarian]⟩,
   ⟨0x2E43, 0x2E43, [cyrillic, glagolitic]⟩,
   ⟨0x2FF0, 0x2FFF, [han, tangut]⟩,
   ⟨0x3001, 0x3001, [bopomofo, han, hangul, hiragana, katakana, mongolian, yi]⟩,
   ⟨0x3002, 0x3002, [bopomofo, han, hangul, hiragana, katakana, mongolian, phagsPa, yi]⟩,
   ⟨0x3003, 0x3003, [bopomofo, han, hangul, hiragana, katakana]⟩,
   ⟨0x3006, 0x3006, [han]⟩,
   ⟨0x3008, 0x3009, [bopomofo, han, hangul, hiragana, katakana, mongolian, tibetan, yi]⟩,
   ⟨0x300A, 0x300B, [bopomofo, han, hangul, hiragana, katakana, lisu, mongolian, tibetan, yi]⟩,
   ⟨0x300C, 0x3011, [bopomofo, han, hangul, hiragana, katakana, yi]⟩,
   ⟨0x3013, 0x3013, [bopomofo, han, hangul, hiragana, katakana]⟩,
   ⟨0x3014, 0x301B, [bopomofo, han, hangul, hiragana, katakana, yi]⟩,
   ⟨0x301C, 0x301F, [bopomofo, han, hangul, hiragana, katakana]⟩,
   ⟨0x302A, 0x302D, [bopomofo, han]⟩,
   ⟨0x3030, 0x3030, [bopomofo, han, hangul, hiragana, katakana]⟩,
   ⟨0x3031, 0x3035, [hiragana, katakana]⟩,
   ⟨0x3037, 0x3037, [bopomofo, han, hangul, hiragana, katakana]⟩,
   ⟨0x303C, 0x303D, [han, hiragana, katakana]⟩,
   ⟨0x303E, 0x303F, [han]⟩,
   ⟨0x3099, 0x309C, [hiragana, katakana]⟩,
   ⟨0x30A0, 0x30A0, [hiragana, katakana]⟩,
   ⟨0x30FB, 0x30FB, [bopomofo, han, hangul, hiragana, katakana, yi]⟩,
   ⟨0x30FC, 0x30FC, [hiragana, katakana]⟩,
   ⟨0x3190, 0x319F, [han]⟩,
   ⟨0x31C0, 0x31E5, [han]⟩,
   ⟨0x31EF, 0x31EF, [han, tangut]⟩,
   ⟨0x3220, 0x3247, [han]⟩,
   ⟨0x3280, 0x32B0, [han]⟩,
   ⟨0x32C0, 0x32CB, [han]⟩,
   ⟨0x32FF, 0x32FF, [han]⟩,
   ⟨0x3358, 0x3370, [han]⟩,
   ⟨0x337B, 0x337F, [han]⟩,
   ⟨0x33E0, 0x33FE, [han]⟩,
   ⟨0xA66F, 0xA66F, [cyrillic, glagolitic]⟩,
   ⟨0xA700, 0xA707, [han, latin]⟩,
   ⟨0xA830, 0xA832, [devanagari, dogra, gujarati, gurmukhi, kaithi, kannada, khojki, khudawadi,
     mahajani, malayalam, modi, nandinagari, sharada, takri, tirhuta, tuluTigalari]⟩,
   ⟨0xA833, 0xA835, [devanagari, dogra, gujarati, gurmukhi, kaithi, kannada, khojki, khudawadi,
     mahajani, modi, nandinagari, sharada, takri, tirhuta, tuluTigalari]⟩,
   ⟨0xA836, 0xA837, [devanagari, dogra, gujarati, gurmukhi, kaithi, khojki, khudawadi, mahajani,
     modi, takri, tirhuta]⟩,
   ⟨0xA838, 0xA838, [devanagari, dogra, gujarati, gurmukhi, kaithi, khojki, khudawadi, mahajani,
     modi, sharada, takri, tirhuta]⟩,
   ⟨0xA839, 0xA839, [devanagari, dogra, gujarati, gurmukhi, kaithi, khojki, khudawadi, mahajani,
     modi, takri, tirhuta]⟩,
   ⟨0xA8F1, 0xA8F1, [bengali, devanagari, tuluTigalari]⟩,
   ⟨0xA8F3, 0xA8F3, [devanagari, tamil]⟩,
   ⟨0xA92E, 0xA92E, [kayahLi, latin, myanmar]⟩,
   ⟨0xA9CF, 0xA9CF, [buginese, javanese]⟩,
   ⟨0xFD3E, 0xFD3F, [arabic, nko]⟩,
   ⟨0xFDF2, 0xFDF2, [arabic, thaana]⟩,
   ⟨0xFDFD, 0xFDFD, [arabic, thaana]⟩,
   ⟨0xFE45, 0xFE46, [bopomofo, han, hangul, hiragana, katakana]⟩,
   ⟨0xFF61, 0xFF65, [bopomofo, han, hangul, hiragana, katakana, yi]⟩,
   ⟨0xFF70, 0xFF70, [hiragana, katakana]⟩,
   ⟨0xFF9E, 0xFF9F, [hiragana, katakana]⟩,
   ⟨0x10100, 0x10101, [cypriot, cyproMinoan, linearB]⟩,
   ⟨0x10102, 0x10102, [cypriot, linearB]⟩,
   ⟨0x10107, 0x10133, [cypriot, linearA, linearB]⟩,
   ⟨0x10137, 0x1013F, [cypriot, linearB]⟩,
   ⟨0x102E0, 0x102FB, [arabic, coptic]⟩,
   ⟨0x10AF2, 0x10AF2, [manichaean, oldUyghur]⟩,
   ⟨0x11301, 0x11301, [grantha, tamil]⟩,
   ⟨0x11303, 0x11303, [grantha, tamil]⟩,
   ⟨0x1133B, 0x1133C, [grantha, tamil]⟩,
   ⟨0x11FD0, 0x11FD1, [grantha, tamil]⟩,
   ⟨0x11FD3, 0x11FD3, [grantha, tamil]⟩,
   ⟨0x1BCA0, 0x1BCA3, [duployan]⟩,
   ⟨0x1D360, 0x1D371, [han]⟩,
   ⟨0x1F250, 0x1F251, [han]⟩]

/-- The characters that are used with a script. -/
def extension (script : Script) : Ranges :=
  let codes (ranges : List SharedRange) : Ranges := ranges.map fun range => (range.low, range.high)
  (script.ranges.difference (codes shared)).union
    (codes (shared.filter fun range => range.scripts.contains script))

end Script

end SpokenFeedback.Text
