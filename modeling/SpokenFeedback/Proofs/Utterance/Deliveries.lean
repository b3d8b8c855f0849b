import Mathlib.Data.List.Basic
import SpokenFeedback.Proofs.Utterance.Segments
import SpokenFeedback.Rule.Draft

/-!
# What rules leave in an utterance

Several rules may give their metadata and feedback to one utterance, with text appended in between.
The parts of the utterance do not meddle with each other (`Utterance.receiveAll_eq`): the text is
that of the segments alone, metadata are merged one over the other, and sounds and vibrations are
added to those that are there.

What this comes to is a matter of maps and sets.  Of merged maps the last one with an entry under a
key has its way (`SortedMap.get?_foldl_merge`), and maps without a common key may be merged in
either order; the order of added names never matters.  `Utterance.receiveAll_merges` puts this
together.
-/

namespace SpokenFeedback

/-! ## Maps merged one over the other -/

namespace SortedMap

variable {κ ν α : Type} [Ord κ] [Std.TransOrd κ] [Std.LawfulEqOrd κ]

/-- A look-up finds the value of the last giver whose map has one, else the value of the base. -/
theorem get?_foldl_merge (given : α → SortedMap κ ν) (base : SortedMap κ ν) (givers : List α)
    (key : κ) :
    (givers.foldl (fun map giver => map.merge (given giver)) base).get? key =
      (givers.reverse.findSome? fun giver => (given giver).get? key).or (base.get? key) := by
  induction givers generalizing base with
  | nil => rfl
  | cons giver givers ih =>
    rw [List.foldl_cons, ih, get?_merge, List.reverse_cons, List.findSome?_append, Option.or_assoc,
      List.findSome?_singleton]

theorem merge_eq_self {base overrides : SortedMap κ ν}
    (present : ∀ key value, overrides.get? key = some value → base.get? key = some value) :
    base.merge overrides = base := by
  apply ext_get?
  intro key
  rw [get?_merge]
  cases found : overrides.get? key with
  | none => rfl
  | some value => exact (present key value found).symm

/-- Maps without a common key may be merged over a third one in either order. -/
theorem merge_right_comm (base : SortedMap κ ν) {first second : SortedMap κ ν}
    (disjoint : first.keys.Disjoint second.keys) :
    (base.merge first).merge second = (base.merge second).merge first := by
  apply ext_get?
  intro key
  simp only [get?_merge]
  cases found : first.get? key with
  | none => rfl
  | some value =>
    have elsewhere : second.get? key = none := by
      rw [Option.eq_none_iff_forall_ne_some]
      intro other alsoFound
      exact disjoint (mem_keys_iff.2 ⟨value, found⟩) (mem_keys_iff.2 ⟨other, alsoFound⟩)
    simp only [elsewhere, Option.none_or, Option.some_or]

end SortedMap

/-! ## Names added to a set -/

namespace NameSet

/-- Two sets with the same names are the same set. -/
theorem ext_contains {left right : NameSet}
    (agree : ∀ name, left.contains name = true ↔ right.contains name = true) : left = right := by
  apply SortedMap.ext_get?
  intro name
  have same : (left.get? name).isSome = (right.get? name).isSome := Bool.eq_iff_iff.2 (agree name)
  -- A name stands for itself, so there are no two values to compare.
  cases here : left.get? name <;> cases there : right.get? name <;> simp_all

theorem contains_addAll_iff {names : NameSet} {added : List String} {name : String} :
    (names.addAll added).contains name = true ↔ names.contains name = true ∨ name ∈ added := by
  rw [SortedMap.contains, get?_addAll]
  by_cases member : name ∈ added <;> simp [member, SortedMap.contains]

/-- The names that several givers add are those that were there and those of each giver. -/
theorem contains_foldl_addAll_iff {α : Type} (given : α → List String) {names : NameSet}
    {givers : List α} {name : String} :
    (givers.foldl (fun all giver => all.addAll (given giver)) names).contains name = true ↔
      names.contains name = true ∨ ∃ giver ∈ givers, name ∈ given giver := by
  induction givers generalizing names with
  | nil => simp
  | cons giver givers ih =>
    rw [List.foldl_cons, ih, contains_addAll_iff, List.exists_mem_cons_iff, or_assoc]

theorem addAll_eq_self {names : NameSet} {added : List String}
    (present : ∀ name ∈ added, names.contains name = true) : names.addAll added = names := by
  apply ext_contains
  intro name
  rw [contains_addAll_iff]
  exact or_iff_left_of_imp (present name)

theorem addAll_right_comm (names : NameSet) (first second : List String) :
    (names.addAll first).addAll second = (names.addAll second).addAll first := by
  apply ext_contains
  intro name
  simp only [contains_addAll_iff]
  exact or_right_comm

end NameSet

/-! ## One rule -/

namespace Rule

/-- A rule changes nothing in an utterance that has all that it gives. -/
theorem applyMetadata_eq_self {rule : Rule} {utterance : Utterance}
    (defined : ∀ key value, rule.metadata.get? key = some value →
      utterance.metadata.get? key = some value)
    (heard : ∀ name ∈ rule.auditory, utterance.auditory.contains name = true)
    (felt : ∀ name ∈ rule.haptic, utterance.haptic.contains name = true) :
    rule.applyMetadata utterance = utterance := by
  rw [applyMetadata, Utterance.mergeMetadata, SortedMap.merge_eq_self defined,
    NameSet.addAll_eq_self heard, NameSet.addAll_eq_self felt]

/-- Rules whose metadata have no common key may be applied in either order. -/
theorem applyMetadata_comm {first second : Rule}
    (disjoint : first.metadata.keys.Disjoint second.metadata.keys) (utterance : Utterance) :
    second.applyMetadata (first.applyMetadata utterance) =
      first.applyMetadata (second.applyMetadata utterance) := by
  simp only [applyMetadata, Utterance.mergeMetadata]
  rw [SortedMap.merge_right_comm utterance.metadata disjoint,
    NameSet.addAll_right_comm utterance.auditory, NameSet.addAll_right_comm utterance.haptic]

end Rule

/-! ## Sequences -/

/-- What an utterance may receive: a segment of text, or the metadata and feedback of a rule. -/
inductive Delivery where
  | segment (text : String)
  | rule (giver : Rule)

namespace Delivery

/-- The text of a segment. -/
def segment? : Delivery → Option String
  | .segment text => some text
  | .rule _ => none

/-- The rule that gives its metadata and feedback. -/
def rule? : Delivery → Option Rule
  | .segment _ => none
  | .rule giver => some giver

end Delivery

namespace Utterance

/-- Appends a segment, or applies the metadata of a rule. -/
def receive (utterance : Utterance) : Delivery → Utterance
  | .segment text => utterance.append text
  | .rule giver => giver.applyMetadata utterance

/-- Receives deliveries in order. -/
def receiveAll (utterance : Utterance) (deliveries : List Delivery) : Utterance :=
  deliveries.foldl receive utterance

/-- The parts of an utterance do not meddle with each other. -/
theorem receiveAll_eq (utterance : Utterance) (deliveries : List Delivery) :
    let rules := deliveries.filterMap Delivery.rule?
    utterance.receiveAll deliveries =
      { text := (deliveries.filterMap Delivery.segment?).foldl assemble utterance.text
        metadata := rules.foldl (fun map rule => map.merge rule.metadata) utterance.metadata
        auditory := rules.foldl (fun all rule => all.addAll rule.auditory) utterance.auditory
        haptic := rules.foldl (fun all rule => all.addAll rule.haptic) utterance.haptic } := by
  induction deliveries generalizing utterance with
  | nil => rfl
  | cons delivery deliveries ih =>
    -- What a delivery does to each part is where the fold over that part goes on from.
    cases delivery with
    | segment text => exact ih (utterance.append text)
    | rule giver => exact ih (giver.applyMetadata utterance)

variable {utterance : Utterance} {deliveries : List Delivery}

theorem text_receiveAll :
    (utterance.receiveAll deliveries).text =
      (utterance.appendAll (deliveries.filterMap Delivery.segment?)).text := by
  rw [receiveAll_eq, appendAll_eq]
  exact foldl_assemble utterance.text _

theorem get?_metadata_receiveAll (key : String) :
    (utterance.receiveAll deliveries).metadata.get? key =
      ((deliveries.filterMap Delivery.rule?).reverse.findSome? (·.metadata.get? key)).or
        (utterance.metadata.get? key) := by
  rw [receiveAll_eq]
  exact SortedMap.get?_foldl_merge Rule.metadata utterance.metadata _ key

theorem contains_auditory_receiveAll_iff {name : String} :
    (utterance.receiveAll deliveries).auditory.contains name = true ↔
      utterance.auditory.contains name = true ∨
        ∃ rule ∈ deliveries.filterMap Delivery.rule?, name ∈ rule.auditory := by
  rw [receiveAll_eq]
  exact NameSet.contains_foldl_addAll_iff Rule.auditory

theorem contains_haptic_receiveAll_iff {name : String} :
    (utterance.receiveAll deliveries).haptic.contains name = true ↔
      utterance.haptic.contains name = true ∨
        ∃ rule ∈ deliveries.filterMap Delivery.rule?, name ∈ rule.haptic := by
  rw [receiveAll_eq]
  exact NameSet.contains_foldl_addAll_iff Rule.haptic

/-- The last rule has given all that it gives, whatever segments came after it. -/
theorem applyMetadata_receiveAll {rule : Rule}
    (last : (deliveries.filterMap Delivery.rule?).getLast? = some rule) :
    rule.applyMetadata (utterance.receiveAll deliveries) = utterance.receiveAll deliveries := by
  have member : rule ∈ deliveries.filterMap Delivery.rule? := List.mem_of_getLast? last
  rcases List.getLast?_eq_some_iff.1 last with ⟨earlier, rules⟩
  apply Rule.applyMetadata_eq_self
  · intro key value given
    rw [get?_metadata_receiveAll, rules, List.reverse_concat, List.findSome?_cons, given]
    rfl
  · intro name given
    exact contains_auditory_receiveAll_iff.2 (.inr ⟨rule, member, given⟩)
  · intro name given
    exact contains_haptic_receiveAll_iff.2 (.inr ⟨rule, member, given⟩)

/--
What an utterance has after deliveries in any order.  Its text is the one that the segments alone
make.  Under each key it has the value of the last rule that defines the key, or else the value that
it had, and its sounds and vibrations are those it had with those of all rules.  The last rule may
therefore be applied once more without effect, and two rules that define no key in common may be
applied in either order.
-/
theorem receiveAll_merges (utterance : Utterance) (deliveries : List Delivery) :
    let rules := deliveries.filterMap Delivery.rule?
    let final := utterance.receiveAll deliveries
    final.text = (utterance.appendAll (deliveries.filterMap Delivery.segment?)).text ∧
      (∀ key, final.metadata.get? key =
        (rules.reverse.findSome? (·.metadata.get? key)).or (utterance.metadata.get? key)) ∧
      (∀ name, final.auditory.contains name = true ↔
        utterance.auditory.contains name = true ∨ ∃ rule ∈ rules, name ∈ rule.auditory) ∧
      (∀ name, final.haptic.contains name = true ↔
        utterance.haptic.contains name = true ∨ ∃ rule ∈ rules, name ∈ rule.haptic) ∧
      (∀ rule, rules.getLast? = some rule → rule.applyMetadata final = final) ∧
      ∀ first second : Rule, first.metadata.keys.Disjoint second.metadata.keys →
        second.applyMetadata (first.applyMetadata final) =
          first.applyMetadata (second.applyMetadata final) := by
  intro rules final
  refine ⟨text_receiveAll, get?_metadata_receiveAll, ?_, ?_, ?_, ?_⟩
  · intro name
    exact contains_auditory_receiveAll_iff
  · intro name
    exact contains_haptic_receiveAll_iff
  · intro rule last
    exact applyMetadata_receiveAll last
  · intro first second disjoint
    exact Rule.applyMetadata_comm disjoint final

/-- Two rules give a queue mode and the same sound, and a third one gives neither. -/
theorem receiveAll_merges_overlapping :
    ∃ quick calm low : Rule,
      Rule.ofSteps [.metadata "queuing" (.int 0), .readMetadata "earcon" "tick"] = .ok quick ∧
      Rule.ofSteps [.metadata "queuing" (.int 1), .readMetadata "earcon" "tick"] = .ok calm ∧
      Rule.ofSteps [.metadata "volume" (.text "low")] = .ok low ∧
      let final := empty.receiveAll [.rule quick, .segment "go", .rule calm]
      final.metadata.get? "queuing" = some (.int 1) ∧
        calm.applyMetadata final = final ∧
        low.applyMetadata (calm.applyMetadata final) =
          calm.applyMetadata (low.applyMetadata final) := by
  refine ⟨_, _, _, rfl, rfl, rfl, ?_⟩
  rcases receiveAll_merges empty _ with ⟨-, defined, -, -, again, either⟩
  have disjoint : ["queuing"].Disjoint ["volume"] := by simp
  exact ⟨defined "queuing", again _ rfl, either _ _ disjoint⟩

end Utterance

end SpokenFeedback
