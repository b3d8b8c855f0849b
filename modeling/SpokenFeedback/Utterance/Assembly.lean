import SpokenFeedback.Text.Alphanumeric

/-!
# Assembling spoken text

Segments of speech are joined so that the pauses sound right: a comma and a space after a letter
or digit, a space after anything else, and nothing where either side is empty.
-/

namespace SpokenFeedback

/-- What goes between a text and the segment after it. -/
def separatorAfter (text : List Char) : List Char :=
  match text.getLast? with
  | none => []
  | some c => if Text.isAlphanumeric c then [',', ' '] else [' ']

/-- A text with one more segment. -/
def assemble (text segment : String) : String :=
  if segment = "" then text
  else text ++ String.ofList (separatorAfter text.toList) ++ segment

@[simp]
theorem assemble_empty (text : String) : assemble text "" = text := by
  simp [assemble]

@[simp]
theorem empty_assemble (segment : String) : assemble "" segment = segment := by
  by_cases empty : segment = ""
  · simp [assemble, empty]
  · simp [assemble, empty, separatorAfter]

end SpokenFeedback
