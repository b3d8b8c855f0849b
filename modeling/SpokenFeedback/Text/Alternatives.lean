/-!
# Alternatives

A specification may list alternatives between double bars.  `cutBars` cuts at the leftmost double
bars that do not overlap.
-/

namespace SpokenFeedback.Text

/-- The pieces of a text between its double bars; there is always at least one piece. -/
def cutBars : List Char → List (List Char)
  | [] => [[]]
  | '|' :: '|' :: rest => [] :: cutBars rest
  | c :: rest =>
    match cutBars rest with
    | [] => [[c]]
    | piece :: pieces => (c :: piece) :: pieces

/-- Whether a text holds a double bar. -/
def hasBars : List Char → Bool
  | '|' :: '|' :: _ => true
  | [] => false
  | _ :: rest => hasBars rest

theorem cutBars_ne_nil (text : List Char) : cutBars text ≠ [] := by
  fun_induction cutBars text <;> simp

end SpokenFeedback.Text
