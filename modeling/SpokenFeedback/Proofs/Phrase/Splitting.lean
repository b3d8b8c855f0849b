import Mathlib.Data.List.DropRight
import SpokenFeedback.Proofs.Pattern.EmptyMatches
import SpokenFeedback.Proofs.Phrase.Selection

/-!
# Splitting a text

The pieces of a text are the gaps before the successive matches of a pattern and the rest after the
last one.  Of a text that is not empty, exactly the empty pieces at the end are dropped, so that the
pieces and the matches give it back once these are added again (`Phrase.splitText_lossless`).

From an empty text nothing is dropped.  It has one piece or, where the pattern matches without a
character, two (`Phrase.arguments_split_silent_iff`).
-/

namespace SpokenFeedback

namespace Phrase

/-! ## Empty pieces at the end -/

theorem dropTrailingEmpty_eq_rdropWhile (pieces : List (List Char)) :
    dropTrailingEmpty pieces = pieces.rdropWhile List.isEmpty := rfl

theorem length_dropTrailingEmpty_le (pieces : List (List Char)) :
    (dropTrailingEmpty pieces).length ≤ pieces.length :=
  (List.rdropWhile_prefix List.isEmpty pieces).length_le

/-- What has been dropped are empty pieces, as many as are missing. -/
theorem rightpad_dropTrailingEmpty (pieces : List (List Char)) :
    (dropTrailingEmpty pieces).rightpad pieces.length [] = pieces := by
  have parted : dropTrailingEmpty pieces ++ pieces.rtakeWhile List.isEmpty = pieces :=
    List.rdropWhile_append_rtakeWhile
  have dropped : pieces.rtakeWhile List.isEmpty =
      List.replicate (pieces.rtakeWhile List.isEmpty).length [] :=
    List.eq_replicate_of_mem fun piece member =>
      List.isEmpty_iff.1 (List.mem_rtakeWhile_imp member)
  have counted := congrArg List.length parted
  rw [List.length_append] at counted
  rw [List.rightpad, ← counted, Nat.add_sub_cancel_left, ← dropped, parted]

theorem rightpad_map_dropTrailingEmpty (pieces : List (List Char)) :
    ((dropTrailingEmpty pieces).map String.ofList).rightpad pieces.length "" =
      pieces.map String.ofList := by
  calc ((dropTrailingEmpty pieces).map String.ofList).rightpad pieces.length ""
      = ((dropTrailingEmpty pieces).rightpad pieces.length []).map String.ofList := by
        simp [List.rightpad]
    _ = pieces.map String.ofList := by rw [rightpad_dropTrailingEmpty]

/-- What is left does not end in an empty piece. -/
theorem getLast?_dropTrailingEmpty (pieces : List (List Char)) :
    (dropTrailingEmpty pieces).getLast? ≠ some [] := by
  rw [dropTrailingEmpty_eq_rdropWhile]
  intro last
  rcases List.mem_getLast?_eq_getLast last with ⟨kept, same⟩
  exact List.rdropWhile_last_not List.isEmpty pieces kept (List.isEmpty_iff.2 same.symm)

/-! ## Pieces and matches in turn -/

/-- Pieces of a text and the matches after them in turn; what is left over of either comes last. -/
def interleave : List String → List String → String
  | [], left => String.join left
  | left, [] => String.join left
  | piece :: pieces, matched :: others => piece ++ matched ++ interleave pieces others

theorem interleave_cons_cons (piece matched : String) (pieces others : List String) :
    interleave (piece :: pieces) (matched :: others) =
      piece ++ matched ++ interleave pieces others := rfl

theorem interleave_singleton_nil (piece : String) : interleave [piece] [] = piece := by
  simp [interleave]

theorem interleave_segments (segments : List Pattern.Segment) (rest : List Char) :
    interleave ((segments.map Pattern.Segment.gap ++ [rest]).map String.ofList)
        (segments.map fun segment => String.ofList segment.matched) =
      String.ofList (segments.flatMap (fun segment => segment.gap ++ segment.matched) ++ rest) := by
  induction segments with
  | nil => exact interleave_singleton_nil _
  | cons segment segments ih =>
    rw [List.map_cons, List.map_cons, List.cons_append, List.map_cons, interleave_cons_cons, ih,
      List.flatMap_cons, ← String.ofList_append, ← String.ofList_append, List.append_assoc _ _ rest]

/--
A text that is not empty has successive matches in one way only.  The pieces that it is split into
are the text between them, less the empty pieces at the end: with these added again, pieces and
matches in turn are the text.
-/
theorem splitText_lossless (pattern : Pattern) {text : String} (spoken : text ≠ "") :
    ∃ (segments : List Pattern.Segment) (rest : List Char),
      (∀ others left, Pattern.Successive pattern none false text.toList others left ↔
        others = segments ∧ left = rest) ∧
      ∃ pieces : List String, splitText pattern text = pieces.map .text ∧
        pieces.length ≤ segments.length + 1 ∧
        pieces.rightpad (segments.length + 1) "" =
          (segments.map Pattern.Segment.gap ++ [rest]).map String.ofList ∧
        interleave (pieces.rightpad (segments.length + 1) "")
          (segments.map fun segment => String.ofList segment.matched) = text ∧
        pieces.getLast? ≠ some "" := by
  have counted : (pattern.pieces text.toList).length =
      (pattern.segments text.toList).1.length + 1 := by
    simp [Pattern.pieces]
  have padded : ((dropTrailingEmpty (pattern.pieces text.toList)).map String.ofList).rightpad
      ((pattern.segments text.toList).1.length + 1) "" =
        (pattern.pieces text.toList).map String.ofList := by
    rw [← counted, rightpad_map_dropTrailingEmpty]
  refine ⟨(pattern.segments text.toList).1, (pattern.segments text.toList).2,
    fun others left => Pattern.successive_iff,
    (dropTrailingEmpty (pattern.pieces text.toList)).map String.ofList, ?_, ?_, padded, ?_, ?_⟩
  · rw [splitText, if_neg spoken, List.map_map]
    rfl
  · rw [List.length_map, ← counted]
    exact length_dropTrailingEmpty_le _
  · rw [padded, Pattern.pieces, interleave_segments, Pattern.segments, Pattern.segmentsFrom_join,
      String.ofList_toList]
  · rw [List.getLast?_map]
    intro last
    rcases Option.map_eq_some_iff.1 last with ⟨piece, kept, silent⟩
    rw [String.ofList_eq_empty_iff.1 silent] at kept
    exact getLast?_dropTrailingEmpty _ kept

/-- Commas in front and side by side leave empty pieces; those at the end leave none. -/
theorem splitText_lossless_at_commas :
    ∃ (pattern : Pattern) (segments : List Pattern.Segment) (rest : List Char),
      Pattern.compile "," = .ok pattern ∧
      Pattern.Successive pattern none false (",a,,b,,").toList segments rest ∧
      ∃ pieces : List String, splitText pattern ",a,,b,," = pieces.map .text ∧
        pieces = ["", "a", "", "b"] ∧
        interleave (pieces.rightpad (segments.length + 1) "")
          (segments.map fun segment => String.ofList segment.matched) = ",a,,b,," := by
  let pattern : Pattern := ⟨",", #[.finish, .take (.one ',') 0], 1⟩
  have compiled : Pattern.compile "," = .ok pattern := by decide +kernel
  have shown : splitText pattern ",a,,b,," = ["", "a", "", "b"].map .text := by decide +kernel
  rcases splitText_lossless pattern (by decide : ",a,,b,," ≠ "") with
    ⟨segments, rest, cut, pieces, same, -, -, whole, -⟩
  refine ⟨pattern, segments, rest, compiled, (cut segments rest).2 ⟨rfl, rfl⟩, pieces, same, ?_,
    whole⟩
  rw [shown] at same
  exact (List.map_injective_iff.2 (fun _ _ => Value.text.inj) same).symm

/-! ## The empty text -/

/-- The empty text is one piece, or two if the pattern matches there. -/
theorem pieces_nil (pattern : Pattern) :
    pattern.pieces [] = if (pattern.search none []).isSome then [[], []] else [[]] := by
  have cut : ∀ {segments rest}, Pattern.Successive pattern none false [] segments rest →
      pattern.pieces [] = segments.map Pattern.Segment.gap ++ [rest] := by
    intro segments rest successive
    rcases Pattern.successive_iff.1 successive with ⟨rfl, rfl⟩
    rfl
  cases found : pattern.search none [] with
  | none => exact cut (.last (by simp [Pattern.nextMatch, found]))
  | some place =>
    rcases place with ⟨skip, length⟩
    have within : skip + length ≤ 0 := Pattern.search_le found
    rcases Nat.add_eq_zero_iff.1 (Nat.le_zero.1 within) with ⟨rfl, rfl⟩
    -- The empty match does not count a second time, so that there is one match only.
    have onward : Pattern.Successive pattern none true [] [] [] :=
      .last (by simp [Pattern.nextMatch, found])
    have first : Pattern.Successive pattern none false [] [⟨[], []⟩] [] :=
      .next rfl (by simp [Pattern.nextMatch, found]) onward
    exact cut first

theorem splitText_empty (pattern : Pattern) :
    splitText pattern "" =
      if (pattern.search none []).isSome then [.text "", .text ""] else [.text ""] := by
  rw [splitText, if_pos rfl, String.toList_empty, pieces_nil]
  split <;> rfl

theorem eventText_silent {event : Event}
    (silent : ∀ value ∈ event.spokenText, value.display = "") : eventText event = "" := by
  cases spoken : event.spokenText with
  | none => simp [eventText, spoken]
  | some value => simp [eventText, spoken, silent value spoken]

/--
Where an event says nothing of itself, a split gives one empty argument exactly if its pattern
cannot match the empty text; else it gives two.
-/
theorem arguments_split_silent_iff {source : String} {expression : Pattern.Expression}
    (read : Pattern.readExpression source = .ok expression) {event : Event}
    (silent : ∀ value ∈ event.spokenText, value.display = "") (template : Option TemplateSource)
    (surroundings : Surroundings) :
    let given := arguments ⟨template, [.split source]⟩ event surroundings
    (given = .ok [.text ""] ↔ expression.matchesBetween none none = false) ∧
      (expression.matchesBetween none none = true → given = .ok [.text "", .text ""]) := by
  intro given
  have compiles : ∃ pattern, Pattern.compile source = .ok pattern := by
    rw [Pattern.compile, read]
    exact ⟨_, rfl⟩
  rcases compiles with ⟨pattern, compiled⟩
  have splits : given = .ok (splitText pattern "") := by
    have used : compilePattern source = .ok pattern := by rw [compilePattern, compiled]
    change select event surroundings [] [.split source] = _
    rw [select, used, eventText_silent silent]
    rfl
  have found_iff := Pattern.search_nil_isSome_iff read compiled none
  rw [splits, splitText_empty]
  cases able : expression.matchesBetween none none with
  | true =>
    rw [if_pos (found_iff.2 able)]
    simp
  | false =>
    have unmatched : ¬ (pattern.search none []).isSome = true := by
      rw [found_iff, able]
      exact Bool.false_ne_true
    rw [if_neg unmatched]
    simp

/-- A comma is not found in an event without a text, which so gives one empty argument. -/
theorem arguments_split_silent_at_commas :
    Pattern.readExpression "," = .ok (.literal [',']) ∧ Event.empty.spokenText = none ∧
      arguments ⟨none, [.split ","]⟩ .empty .empty = .ok [.text ""] := by
  have read : Pattern.readExpression "," = .ok (.literal [',']) := by decide +kernel
  have silent : ∀ value ∈ Event.empty.spokenText, value.display = "" := nofun
  exact ⟨read, rfl, (arguments_split_silent_iff read silent none .empty).1.2 rfl⟩

/-- Any number of letters is found in an event without a text, which so gives two arguments. -/
theorem arguments_split_silent_twice :
    Compiles "a*" ∧ Event.empty.spokenText = none ∧
      arguments ⟨none, [.split "a*"]⟩ .empty .empty = .ok [.text "", .text ""] ∧
      arguments ⟨none, [.split "a*"]⟩ .empty .empty ≠ .ok [.text ""] := by
  have given : arguments ⟨none, [.split "a*"]⟩ .empty .empty = .ok [.text "", .text ""] := by
    decide +kernel
  refine ⟨?_, rfl, given, ?_⟩
  · rcases compilePattern_cases "a*" with compiles | ⟨-, reason, refused⟩
    · exact compiles
    · rw [arguments, select, refused] at given
      cases given
  · rw [given]
    simp

end Phrase

end SpokenFeedback
