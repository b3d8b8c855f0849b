import SpokenFeedback.Text.Ranges

/-!
# Blank characters

White space as the Unicode Standard defines it, and the trimming of texts.  Names, literals and
the alternatives of a condition are read with the blanks around them removed; a scope or an origin
must not be blank throughout.
-/

namespace SpokenFeedback.Text

/-- The characters with the White_Space property. -/
def blankRanges : Ranges :=
  [(0x9, 0xD), (0x20, 0x20), (0x85, 0x85), (0xA0, 0xA0), (0x1680, 0x1680), (0x2000, 0x200A),
   (0x2028, 0x2029), (0x202F, 0x202F), (0x205F, 0x205F), (0x3000, 0x3000)]

/-- Whether a character is white space. -/
def isBlank (c : Char) : Bool := blankRanges.holds c

/-- The characters after the leading blanks. -/
def trimStart (characters : List Char) : List Char := characters.dropWhile isBlank

/-- The characters before the trailing blanks. -/
def trimEnd (characters : List Char) : List Char :=
  (characters.reverse.dropWhile isBlank).reverse

/-- The characters without the blanks at both ends. -/
def trimChars (characters : List Char) : List Char := trimEnd (trimStart characters)

/-- A text without the blanks at both ends. -/
def trim (text : String) : String := String.ofList (trimChars text.toList)

/-- Whether a text holds nothing but blanks. -/
def isBlankText (text : String) : Bool := text.toList.all isBlank

theorem trimStart_eq_nil_iff {characters : List Char} :
    trimStart characters = [] ↔ ∀ c ∈ characters, isBlank c = true := by
  induction characters with
  | nil => simp [trimStart]
  | cons c rest ih =>
    by_cases blank : isBlank c = true
    · have shorter : trimStart (c :: rest) = trimStart rest := by simp [trimStart, blank]
      rw [shorter, ih]
      simp [blank]
    · simp [trimStart, blank]

end SpokenFeedback.Text
