import SpokenFeedback.Utterance.Basic

/-!
# Utterances one after another

What is spoken into an utterance comes after what is there: texts are assembled, metadata are
written over, sounds and vibrations are added.  `Utterance.followedBy` puts one utterance after
another in this way.  It is associative and the empty utterance is neutral to it, because assembling
texts (`assemble_assoc`) and merging maps are.

A way of speaking accumulates if it puts after any utterance what it makes of the empty one
(`Utterance.Accumulates`).  Appending, merging and adding accumulate, and so does one way of
speaking after another (`Utterance.Accumulates.comp`).
-/

namespace SpokenFeedback

/-! ## Texts -/

theorem separatorAfter_append (text : List Char) {segment : List Char} (spoken : segment ≠ []) :
    separatorAfter (text ++ segment) = separatorAfter segment := by
  rw [separatorAfter, List.getLast?_append, List.getLast?_eq_some_getLast spoken]
  rw [separatorAfter, List.getLast?_eq_some_getLast spoken]
  rfl

theorem assemble_of_spoken (text : String) {segment : String} (spoken : segment ≠ "") :
    assemble text segment = text ++ String.ofList (separatorAfter text.toList) ++ segment :=
  if_neg spoken

/-- A segment comes after the text, which is left as it is. -/
theorem exists_assemble_eq_append (text segment : String) :
    ∃ added, assemble text segment = text ++ added := by
  by_cases silent : segment = ""
  · exact ⟨"", by rw [silent, assemble_empty, String.append_empty]⟩
  · exact ⟨String.ofList (separatorAfter text.toList) ++ segment, by
      rw [assemble_of_spoken text silent, String.append_assoc]⟩

/-- The separator before a segment depends on the segment before it only. -/
theorem assemble_assoc (first second third : String) :
    assemble (assemble first second) third = assemble first (assemble second third) := by
  by_cases secondSilent : second = ""
  · simp [secondSilent]
  by_cases thirdSilent : third = ""
  · simp [thirdSilent]
  have lastSpoken : second.toList ≠ [] := by simpa using secondSilent
  have spoken : assemble second third ≠ "" := by
    simp [assemble_of_spoken second thirdSilent, thirdSilent]
  have separator : separatorAfter (assemble first second).toList =
      separatorAfter second.toList := by
    rw [assemble_of_spoken first secondSilent, String.toList_append,
      separatorAfter_append _ lastSpoken]
  rw [assemble_of_spoken _ thirdSilent, separator, assemble_of_spoken first spoken,
    assemble_of_spoken first secondSilent, assemble_of_spoken second thirdSilent]
  simp only [String.append_assoc]

/-! ## Sets of names -/

namespace NameSet

theorem get?_addAll (names : NameSet) (added : List String) (probe : String) :
    (names.addAll added).get? probe =
      if probe ∈ added then some () else names.get? probe := by
  induction added generalizing names with
  | nil => rfl
  | cons name added ih =>
    change ((names.add name).addAll added).get? probe = _
    rw [ih, add, SortedMap.get?_insert]
    by_cases here : probe = name <;> by_cases later : probe ∈ added <;>
      simp [here, later]

/-- Adding names is merging the set of these names. -/
theorem addAll_eq_merge (names : NameSet) (added : List String) :
    names.addAll added = names.merge (addAll .empty added) := by
  apply SortedMap.ext_get?
  intro probe
  rw [SortedMap.get?_merge, get?_addAll, get?_addAll]
  by_cases member : probe ∈ added <;> simp [member]

end NameSet

/-! ## Utterances -/

namespace Utterance

/-- The second utterance spoken into the first. -/
def followedBy (first second : Utterance) : Utterance where
  text := assemble first.text second.text
  metadata := first.metadata.merge second.metadata
  auditory := first.auditory.merge second.auditory
  haptic := first.haptic.merge second.haptic

@[simp]
theorem followedBy_empty (utterance : Utterance) : utterance.followedBy .empty = utterance := by
  simp [followedBy, empty]

@[simp]
theorem empty_followedBy (utterance : Utterance) : empty.followedBy utterance = utterance := by
  simp [followedBy, empty]

theorem followedBy_assoc (first second third : Utterance) :
    (first.followedBy second).followedBy third = first.followedBy (second.followedBy third) := by
  simp [followedBy, assemble_assoc, SortedMap.merge_assoc]

/-- What is made of an utterance is the utterance and, after it, what is made of the empty one. -/
def Accumulates (speak : Utterance → Utterance) : Prop :=
  ∀ utterance, speak utterance = utterance.followedBy (speak .empty)

theorem accumulates_id : Accumulates id := fun utterance => utterance.followedBy_empty.symm

/-- One way of speaking after another accumulates if both do. -/
theorem Accumulates.comp {later earlier : Utterance → Utterance} (laterOne : Accumulates later)
    (earlierOne : Accumulates earlier) : Accumulates (later ∘ earlier) := by
  intro utterance
  calc later (earlier utterance)
      = (earlier utterance).followedBy (later .empty) := laterOne _
    _ = (utterance.followedBy (earlier .empty)).followedBy (later .empty) := by
      rw [earlierOne utterance]
    _ = utterance.followedBy ((earlier .empty).followedBy (later .empty)) :=
      followedBy_assoc _ _ _
    _ = utterance.followedBy (later (earlier .empty)) := by rw [← laterOne]

theorem accumulates_append (segment : String) : Accumulates (append · segment) := by
  intro utterance
  simp [append, followedBy, empty]

end Utterance

end SpokenFeedback
