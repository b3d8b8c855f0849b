import Mathlib.Data.Set.Insert
import SpokenFeedback.Proofs.Condition.Reading

/-!
# Integers that a specification describes

A specification of an integer property describes a set of integers: those in an order relation to a
literal, those between double bars, or a single one.  `Specification.Denotes` gives each text its
set, in terms of literals and blanks alone; a text that it gives no set is malformed.

The reader computes this grammar (`Specification.denotes_iff`), and a condition accepts exactly the
integers of the set, of whatever size (`Condition.acceptsValue_integer_iff`).
-/

namespace SpokenFeedback

/-- The relation between a candidate and a bound that the sign stands for. -/
def OrderRelation.Relates : OrderRelation → Int → Int → Prop
  | .atMost, candidate, bound => candidate ≤ bound
  | .atLeast, candidate, bound => bound ≤ candidate
  | .below, candidate, bound => candidate < bound
  | .above, candidate, bound => bound < candidate

theorem OrderRelation.holds_compare_iff (relation : OrderRelation) (candidate bound : Int) :
    relation.holds (compare candidate bound) = true ↔ relation.Relates candidate bound := by
  cases relation with
  | atMost => simp [holds, Relates, Int.compare_eq_gt]
  | atLeast => simp [holds, Relates, Int.compare_eq_lt]
  | below => simp [holds, Relates, Int.compare_eq_lt]
  | above => simp [holds, Relates, Int.compare_eq_gt]

/-! ## Sets of integers -/

/-- The integers that a demand admits. -/
inductive Demand.Admits : Demand → Set Int → Prop where
  | equals (word : Int64) : Admits (.equals (.int word)) {word.toInt}
  | ordered (relation : OrderRelation) (bound : Int64) :
    Admits (.ordered relation (.int bound)) {number | relation.Relates number bound.toInt}
  | oneOf (words : List Int64) :
    Admits (.oneOf (words.map .int)) {number | ∃ word ∈ words, number = word.toInt}

theorem Demand.Admits.unique {demand : Demand} {numbers others : Set Int}
    (admits : demand.Admits numbers) (admitsOthers : demand.Admits others) : numbers = others := by
  cases admits with
  | equals word =>
    cases admitsOthers
    rfl
  | ordered relation bound =>
    cases admitsOthers
    rfl
  | oneOf words =>
    generalize listed : Demand.oneOf (words.map .int) = demand at admitsOthers
    cases admitsOthers with
    | equals | ordered => cases listed
    | oneOf others =>
      have injective : Function.Injective Value.int := fun _ _ => Value.int.inj
      rw [injective.list_map (Demand.oneOf.inj listed)]

namespace Specification

/--
The integers that a text describes for an integer property.  The sign of an order relation is the
longest that fits, as no literal starts with an equals sign.
-/
inductive Denotes (property : Property) : List Char → Set Int → Prop where
  | ordered {before rest : List Char} {bound : Int64} (relation : OrderRelation)
    (blank : ∀ c ∈ before, Text.isBlank c = true)
    (spelled : Literal.Spells property rest bound) :
    Denotes property (before ++ relation.sign.toList ++ rest)
      {number | relation.Relates number bound.toInt}
  | oneOf {text : List Char} {pieces : List (List Char)} {words : List Int64}
    (barred : Text.doubleBar <:+: text) (separated : Text.Separated text pieces)
    (spelled : List.Forall₂ (Literal.Spells property) pieces words) :
    Denotes property text {number | ∃ word ∈ words, number = word.toInt}
  | single {text : List Char} {word : Int64} (spelled : Literal.Spells property text word) :
    Denotes property text {word.toInt}

variable {property : Property} {specification : String}

/-! ## Reading integers -/

theorem read_trim_iff (integer : property.kind = .integer) {text : List Char} {value : Value} :
    Literal.read property (Text.trim (String.ofList text)) = .ok value ↔
      ∃ word, Literal.Spells property text word ∧ value = .int word := by
  rw [Literal.read_integer_iff integer, Text.toList_trim, String.toList_ofList]
  simp only [Literal.spells_trimChars]

theorem readAlternative_integer_iff (integer : property.kind = .integer) {piece : List Char}
    {value : Value} :
    readAlternative property specification piece = .ok value ↔
      ∃ word, Literal.Spells property piece word ∧ value = .int word := by
  rw [readAlternative_eq, ← read_trim_iff integer, Text.trim, String.toList_ofList, ← trimmed]
  split
  next blank =>
    rw [Literal.read_integer_iff integer, trimmed, String.toList_ofList]
    constructor
    · rintro ⟨⟩
    · rintro ⟨word, spelled, -⟩
      have denoted := Literal.spells_iff_trimChars.1 (Literal.spells_trimChars.1 spelled)
      exact absurd (trimmed_eq_empty_iff.1 blank) denoted.ne_nil
  next => exact Iff.rfl

theorem readAlternatives_integer_iff (integer : property.kind = .integer)
    {pieces : List (List Char)} {values : List Value} :
    readAlternatives property specification pieces = .ok values ↔
      ∃ words, List.Forall₂ (Literal.Spells property) pieces words ∧ values = words.map .int := by
  rw [readAlternatives_eq_ok_iff]
  constructor
  · intro each
    induction each with
    | nil => exact ⟨[], .nil, rfl⟩
    | cons first _ ih =>
      rcases (readAlternative_integer_iff integer).1 first with ⟨word, spelled, rfl⟩
      rcases ih with ⟨words, spelledOthers, rfl⟩
      exact ⟨word :: words, .cons spelled spelledOthers, rfl⟩
  · rintro ⟨words, each, rfl⟩
    rw [List.forall₂_map_right_iff]
    apply each.imp
    intro piece word spelled
    exact (readAlternative_integer_iff integer).2 ⟨word, spelled, rfl⟩

/-! ## The demand of a described set -/

theorem relationFor?_of_spells (integer : property.kind = .integer) {before rest : List Char}
    {relation : OrderRelation} {bound : Int64} (blank : ∀ c ∈ before, Text.isBlank c = true)
    (spelled : Literal.Spells property rest bound)
    (shown : specification.toList = before ++ relation.sign.toList ++ rest) :
    relationFor? property specification = some (relation, rest) := by
  have numeric : property.kind.isNumeric = true := by
    rw [integer]
    rfl
  have filled : ∀ c ∈ (relation.sign.toList ++ rest).head?, Text.isBlank c = false := by
    cases relation <;> rintro c ⟨⟩ <;> decide
  have apart : rest.head? ≠ some '=' := by
    intro starts
    exact spelled.not_mem (by decide) (by decide) (List.mem_of_head? starts)
  rw [relationFor?, if_pos numeric, shown, List.append_assoc, Text.trimStart_append blank filled]
  exact relation?_sign_append relation apart

theorem Denotes.admits (integer : property.kind = .integer) {numbers : Set Int}
    (denotes : Denotes property specification.toList numbers) :
    (demand property specification).Admits numbers := by
  generalize shown : specification.toList = text at denotes
  cases denotes with
  | @ordered _ rest bound relation blank spelled =>
    have read := (read_trim_iff integer).2 ⟨bound, spelled, rfl⟩
    rw [demand, relationFor?_of_spells integer blank spelled shown]
    dsimp only
    rw [read]
    exact .ordered relation bound
  | @oneOf _ pieces words barred separated spelled =>
    have read : readAlternatives property specification pieces = .ok (words.map .int) :=
      (readAlternatives_integer_iff integer).2 ⟨words, spelled, rfl⟩
    -- A literal comes first, so that no order relation is stated.
    have unrelated : relationFor? property specification = none := by
      cases separated with
      | last unbarred => exact absurd barred unbarred
      | @bar piece rest others leftmost onwards =>
        cases spelled with
        | @cons _ word _ _ first _ =>
          rw [List.append_assoc] at shown
          apply relationFor?_of_read shown
          rw [Literal.read_integer_iff integer, String.toList_ofList]
          exact ⟨word, first, rfl⟩
    rw [demand, unrelated, shown, Text.hasBars_iff.2 barred, Text.separated_iff.1 separated]
    dsimp only
    rw [if_pos rfl, read]
    exact .oneOf words
  | @single _ word spelled =>
    -- No bar occurs in a literal or among blanks.
    have unbarred : ¬ Text.doubleBar <:+: specification.toList := by
      intro within
      rw [shown] at within
      exact spelled.not_mem (by decide) (by decide) (within.subset (List.mem_cons_self))
    rw [demand_of_read unbarred ((Literal.read_integer_iff integer).2 ⟨word, ?_, rfl⟩)]
    · exact .equals word
    · rw [shown]
      exact spelled

/-- A specification that describes no set of integers is malformed. -/
theorem exists_denotes_or_malformed (integer : property.kind = .integer)
    (specification : String) :
    (∃ numbers, Denotes property specification.toList numbers) ∨
      ∃ mode fault, demand property specification = .malformed mode fault := by
  rcases demand_cases property specification with
    ⟨relation, rest, stated, demanded⟩ | ⟨barred, demanded⟩ | ⟨-, demanded⟩
  · cases read : Literal.read property (Text.trim (String.ofList rest)) with
    | error fault =>
      rw [read] at demanded
      exact .inr ⟨_, _, demanded⟩
    | ok value =>
      rcases (read_trim_iff integer).1 read with ⟨bound, spelled, -⟩
      rcases Text.trimStart_decompose specification.toList with ⟨before, blank, decomposed⟩
      rw [relationFor?] at stated
      split at stated
      next =>
        rw [eq_sign_append_of_relation? stated, ← List.append_assoc] at decomposed
        rw [decomposed]
        exact .inl ⟨_, .ordered relation blank spelled⟩
      next => cases stated
  · cases read : readAlternatives property specification
      (Text.cutBars specification.toList) with
    | error fault =>
      rw [read] at demanded
      exact .inr ⟨_, _, demanded⟩
    | ok values =>
      rcases (readAlternatives_integer_iff integer).1 read with ⟨words, spelled, -⟩
      exact .inl ⟨_, .oneOf barred (Text.separated_cutBars _) spelled⟩
  · cases read : Literal.read property specification with
    | error fault =>
      rw [read] at demanded
      exact .inr ⟨_, _, demanded⟩
    | ok value =>
      rcases (Literal.read_integer_iff integer).1 read with ⟨word, spelled, -⟩
      exact .inl ⟨_, .single spelled⟩

theorem malformed_iff (integer : property.kind = .integer) (specification : String) :
    (∃ mode fault, demand property specification = .malformed mode fault) ↔
      ¬ ∃ numbers, Denotes property specification.toList numbers := by
  constructor
  · rintro ⟨mode, fault, malformed⟩ ⟨numbers, denotes⟩
    have admits := denotes.admits integer
    rw [malformed] at admits
    cases admits
  · intro undescribed
    exact (exists_denotes_or_malformed integer specification).resolve_left undescribed

end Specification

namespace Condition

variable {property : Property}

theorem acceptsValue_iff_of_admits (integer : property.kind = .integer) {demand : Demand}
    {numbers : Set Int} (admits : demand.Admits numbers) (candidate : Int64) :
    acceptsValue ⟨property, demand⟩ (some (.int candidate)) = true ↔ candidate.toInt ∈ numbers := by
  have wanted : ∀ word : Int64, valueMatches property.kind (.int word) (.int candidate) = true ↔
      candidate.toInt = word.toInt := by
    intro word
    simp [integer, valueMatches, valueOrder]
  cases admits with
  | equals word =>
    change valueMatches property.kind (.int word) (.int candidate) = true ↔ _
    exact wanted word
  | ordered relation bound =>
    change (valueOrder property.kind (.int candidate) (.int bound)).any relation.holds = true ↔ _
    rw [integer]
    exact relation.holds_compare_iff candidate.toInt bound.toInt
  | oneOf words =>
    change ((words.map Value.int).any fun accepted =>
      valueMatches property.kind accepted (.int candidate)) = true ↔ _
    rw [List.any_map, List.any_eq_true]
    apply exists_congr
    intro word
    exact and_congr_right fun _ => wanted word

/--
A condition on an integer property accepts exactly the integers that its specification describes,
and something is wrong with it exactly if the specification describes no set of integers.
-/
theorem acceptsValue_integer_iff (integer : property.kind = .integer) (specification : String) :
    let condition := ofSpecification property specification
    (∀ candidate : Int64, condition.acceptsValue (some (.int candidate)) = true ↔
      ∃ numbers, Specification.Denotes property specification.toList numbers ∧
        candidate.toInt ∈ numbers) ∧
    (condition.diagnostic?.isSome = true ↔
      ¬ ∃ numbers, Specification.Denotes property specification.toList numbers) ∧
    (∀ numbers others, Specification.Denotes property specification.toList numbers →
      Specification.Denotes property specification.toList others → numbers = others) := by
  intro condition
  refine ⟨?_, ?_, ?_⟩
  · intro candidate
    constructor
    · intro accepted
      rcases Specification.exists_denotes_or_malformed integer specification with
        ⟨numbers, denotes⟩ | ⟨mode, fault, malformed⟩
      · refine ⟨numbers, denotes, ?_⟩
        exact (acceptsValue_iff_of_admits integer (denotes.admits integer) candidate).1 accepted
      · change acceptsValue ⟨property, Specification.demand property specification⟩ _ = true
          at accepted
        rw [malformed] at accepted
        cases accepted
    · rintro ⟨numbers, denotes, member⟩
      exact (acceptsValue_iff_of_admits integer (denotes.admits integer) candidate).2 member
  · rw [diagnostic?_isSome_iff]
    exact Specification.malformed_iff integer specification
  · intro numbers others denotes denotesOthers
    exact (denotes.admits integer).unique (denotesOthers.admits integer)

/-- A bound of 2 ^ 53 refuses the next integer, though both have the same nearest float. -/
theorem acceptsValue_at_bound :
    Property.itemCount.kind = .integer ∧
      (ofSpecification .itemCount " <= 9007199254740992").acceptsValue
        (some (.int 9007199254740992)) = true ∧
      (ofSpecification .itemCount " <= 9007199254740992").acceptsValue
        (some (.int 9007199254740993)) = false := by
  have integer : Property.itemCount.kind = .integer := rfl
  rcases acceptsValue_integer_iff integer " <= 9007199254740992" with ⟨accepts, -, unique⟩
  have signed : Numeral.SignedDigits "9007199254740992".toList (9007199254740992 : Int64).toInt :=
    Numeral.readWord_eq_some_iff.1 (by decide)
  have blank : ∀ c ∈ [' '], Text.isBlank c = true := List.all_eq_true.1 (by decide)
  have spelled : Literal.Spells .itemCount " 9007199254740992".toList 9007199254740992 :=
    ⟨_, ⟨[' '], [], blank, by simp, by decide⟩, .number signed⟩
  have denotes : Specification.Denotes .itemCount " <= 9007199254740992".toList
      {number | number ≤ (9007199254740992 : Int64).toInt} := .ordered .atMost blank spelled
  refine ⟨integer, (accepts _).2 ⟨_, denotes, ?_⟩, ?_⟩
  · exact Int.le_refl _
  · rw [← Bool.not_eq_true]
    intro accepted
    rcases (accepts _).1 accepted with ⟨numbers, described, member⟩
    rw [unique _ _ described denotes] at member
    exact absurd member (by decide : ¬ (9007199254740993 : Int64).toInt ≤ 9007199254740992)

end Condition

end SpokenFeedback
