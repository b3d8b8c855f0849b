import Mathlib.Data.List.Fold
import SpokenFeedback.Proofs.Utterance.Succession

/-!
# Segments of a spoken text

Texts under assembly are a monoid: assembling is associative, the empty text is its unit, and a text
is only ever prolonged.  Segments that are appended one by one therefore give the same text however
they are grouped (`Utterance.appendAll_group`).

`paced` says which text this is: the segments that are not silent, each but the last with the pause
that its own last character asks for (`Utterance.text_appendAll`).
-/

namespace SpokenFeedback

/-! ## The monoid of texts -/

instance : Std.Associative assemble := ⟨assemble_assoc⟩

instance : Std.LawfulIdentity assemble "" where
  left_id := empty_assemble
  right_id := assemble_empty

/-- The text of segments that are assembled one by one. -/
def assembleAll (segments : List String) : String := segments.foldl assemble ""

/-- Segments that come after a text may be assembled before they are put after it. -/
theorem foldl_assemble (text : String) (segments : List String) :
    segments.foldl assemble text = assemble text (assembleAll segments) := by
  calc segments.foldl assemble text
      = segments.foldl assemble (assemble text "") := by rw [assemble_empty]
    _ = assemble text (assembleAll segments) := List.foldl_assoc

theorem assembleAll_cons (segment : String) (segments : List String) :
    assembleAll (segment :: segments) = assemble segment (assembleAll segments) := by
  rw [assembleAll, List.foldl_cons, empty_assemble, foldl_assemble]

theorem prefix_assemble (text segment : String) :
    text.toList <+: (assemble text segment).toList := by
  rcases exists_assemble_eq_append text segment with ⟨added, prolonged⟩
  rw [prolonged, String.toList_append]
  exact List.prefix_append _ _

/-! ## Pauses between segments -/

/-- The pause after a character: a comma and a space after a letter or digit, else a space. -/
def pauseAfter (c : Char) : String := if Text.isAlphanumeric c then ", " else " "

/-- Segments in turn, each but the last with the pause that its last character asks for. -/
def paced : List String → String
  | [] => ""
  | [segment] => segment
  | segment :: next :: later =>
    segment ++ segment.toList.getLast?.elim "" pauseAfter ++ paced (next :: later)

theorem ofList_separatorAfter (text : List Char) :
    String.ofList (separatorAfter text) = text.getLast?.elim "" pauseAfter := by
  rw [separatorAfter]
  cases text.getLast? with
  | none => rfl
  | some c =>
    dsimp only [Option.elim_some]
    rw [pauseAfter, apply_ite String.ofList]

theorem paced_ne_empty {segment : String} (spoken : segment ≠ "") (later : List String) :
    paced (segment :: later) ≠ "" := by
  cases later with
  | nil => exact spoken
  | cons next later => simp [paced, spoken]

/-- A segment in front of a paced text takes the pause that its last character asks for. -/
theorem assemble_paced (segment : String) {later : List String}
    (spoken : ∀ other ∈ later, other ≠ "") :
    assemble segment (paced later) = paced (segment :: later) := by
  cases later with
  | nil => exact assemble_empty segment
  | cons next later =>
    have onwards : paced (next :: later) ≠ "" :=
      paced_ne_empty (spoken next List.mem_cons_self) later
    rw [assemble_of_spoken segment onwards, ofList_separatorAfter, paced]

/-- Silent segments are passed over, and the others are paced. -/
theorem assembleAll_eq_paced (segments : List String) :
    assembleAll segments = paced (segments.filter (· ≠ "")) := by
  induction segments with
  | nil => rfl
  | cons segment segments ih =>
    rw [assembleAll_cons, ih]
    by_cases silent : segment = ""
    · rw [silent, empty_assemble, List.filter_cons_of_neg (by simp)]
    · have others : ∀ other ∈ segments.filter (· ≠ ""), other ≠ "" := by
        intro other member
        simpa using (List.mem_filter.1 member).2
      rw [assemble_paced segment others, List.filter_cons_of_pos (by simpa using silent)]

/-! ## Utterances -/

namespace Utterance

/-- The utterance with segments appended one by one. -/
def appendAll (utterance : Utterance) (segments : List String) : Utterance :=
  segments.foldl append utterance

/-- Appending segments one by one assembles them, and changes nothing but the text. -/
theorem appendAll_eq (utterance : Utterance) (segments : List String) :
    utterance.appendAll segments = utterance.append (assembleAll segments) := by
  induction segments generalizing utterance with
  | nil => rw [assembleAll, List.foldl_nil, append, assemble_empty, appendAll, List.foldl_nil]
  | cons segment segments ih =>
    calc utterance.appendAll (segment :: segments)
        = (utterance.append segment).append (assembleAll segments) := ih (utterance.append segment)
      _ = utterance.append (assembleAll (segment :: segments)) := by
        simp only [append, assembleAll_cons, assemble_assoc]

theorem appendAll_append (utterance : Utterance) (segments later : List String) :
    utterance.appendAll (segments ++ later) = (utterance.appendAll segments).appendAll later :=
  List.foldl_append

theorem appendAll_group (utterance : Utterance) (before group after : List String) :
    utterance.appendAll (before ++ [assembleAll group] ++ after) =
      utterance.appendAll (before ++ group ++ after) := by
  simp only [appendAll_append]
  rw [appendAll_eq _ group]
  rfl

theorem text_appendAll (utterance : Utterance) (segments : List String) :
    (utterance.appendAll segments).text = paced ((utterance.text :: segments).filter (· ≠ "")) := by
  rw [appendAll_eq, ← assembleAll_eq_paced, assembleAll_cons]
  rfl

/--
Texts under assembly are a monoid whose unit is the empty text, and assembling only prolongs a text.
An utterance therefore comes to the same if some consecutive segments are assembled first and are
appended as one.  Its text is made of those of the segments that are not silent, with a pause after
each but the last that depends on the last character of this segment alone.
-/
theorem append_regrouped :
    (∀ first second third : String,
      assemble (assemble first second) third = assemble first (assemble second third)) ∧
    (∀ text : String, assemble "" text = text ∧ assemble text "" = text) ∧
    (∀ text segment : String, text.toList <+: (assemble text segment).toList) ∧
    (∀ (utterance : Utterance) (before group after : List String),
      (before ++ [group.foldl assemble ""] ++ after).foldl append utterance =
        (before ++ group ++ after).foldl append utterance) ∧
    ∀ (utterance : Utterance) (segments : List String),
      (segments.foldl append utterance).text =
        paced ((utterance.text :: segments).filter (· ≠ "")) := by
  refine ⟨assemble_assoc, ?_, prefix_assemble, appendAll_group, text_appendAll⟩
  intro text
  exact ⟨empty_assemble text, assemble_empty text⟩

-- The digit asks for a comma, the point does not, and the silent segment asks for nothing.
example : paced (["page 5", "", "of 9.", "done"].filter (· ≠ "")) = "page 5, of 9. done" := by
  decide +kernel

end Utterance

end SpokenFeedback
