import SpokenFeedback.Proofs.Condition.Descent
import SpokenFeedback.Proofs.Condition.Reading

/-!
# Alternatives as a disjunction

A condition on one of several values is met exactly if a condition on one of them alone is met
(`Condition.evaluate_oneOf`).  Plain values, types and capabilities are decided in three ways, and
each of them asks one value after another.

`Condition.evaluate_alternatives_iff` states this of specifications: their trimmed pieces are
specifications themselves.  If one piece offends, then the whole is met by no event, and the fault
is that of the leftmost piece that offends.
-/

namespace SpokenFeedback

namespace Condition

/-! ## One of several values -/

/-- Whether a value names an accepted type or, unless the property is strict, a descendant of it. -/
def isAtOrBelow (property : Property) (types : TypeResolver) (candidate : Option Value)
    (eventSpace filterSpace : Option String) (accepted : String) : Bool :=
  (candidateType? candidate).any fun name =>
    decide (name = accepted) ||
      decide (property ≠ .classNameStrict) &&
        (types name (candidateSpace? candidate eventSpace)).any
          (isBelow types [accepted] filterSpace)

theorem isNamedOrBelow_eq_any (condition : Condition) (types : TypeResolver)
    (candidate : Option Value) (eventSpace filterSpace : Option String) :
    condition.isNamedOrBelow types candidate eventSpace filterSpace =
      condition.names.any
        (isAtOrBelow condition.property types candidate eventSpace filterSpace) := by
  have oneByOne : ∀ lineage, isBelow types condition.names filterSpace lineage = true ↔
      ∃ accepted ∈ condition.names, isBelow types [accepted] filterSpace lineage = true := by
    simp [isBelow]
  rw [Bool.eq_iff_iff, List.any_eq_true]
  simp only [isNamedOrBelow, isAtOrBelow, Option.any_eq_true, Bool.or_eq_true, Bool.and_eq_true,
    decide_eq_true_eq, List.contains_iff_mem, oneByOne]
  constructor
  · rintro ⟨name, given, listed | ⟨loose, lineage, resolved, accepted, listed, below⟩⟩
    · exact ⟨name, listed, name, given, .inl rfl⟩
    · exact ⟨accepted, listed, name, given, .inr ⟨loose, lineage, resolved, below⟩⟩
  · rintro ⟨accepted, listed, name, given, rfl | ⟨loose, lineage, resolved, below⟩⟩
    · exact ⟨name, given, .inl listed⟩
    · exact ⟨name, given, .inr ⟨loose, lineage, resolved, accepted, listed, below⟩⟩

section Values

variable (property : Property) (values : List Value)

theorem names_oneOf : names ⟨property, .oneOf values⟩ =
    values.flatMap fun value => names ⟨property, .equals value⟩ := by
  induction values with
  | nil => rfl
  | cons value values ih =>
    rw [List.flatMap_cons, ← ih]
    change ([value] ++ values).filterMap Value.text? = _
    rw [List.filterMap_append]
    rfl

theorem acceptsCapability_oneOf (hasCapability : String → Bool) :
    acceptsCapability ⟨property, .oneOf values⟩ hasCapability =
      values.any fun value => acceptsCapability ⟨property, .equals value⟩ hasCapability := by
  change (names ⟨property, .oneOf values⟩).any hasCapability = _
  rw [names_oneOf, List.any_flatMap]
  rfl

theorem acceptsValue_oneOf (candidate : Option Value) :
    acceptsValue ⟨property, .oneOf values⟩ candidate =
      values.any fun value => acceptsValue ⟨property, .equals value⟩ candidate := by
  cases candidate with
  | none => simp [acceptsValue, isWildcard]
  | some candidate => rfl

theorem isNamedOrBelow_oneOf (types : TypeResolver) (candidate : Option Value)
    (eventSpace filterSpace : Option String) :
    isNamedOrBelow ⟨property, .oneOf values⟩ types candidate eventSpace filterSpace =
      values.any fun value =>
        isNamedOrBelow ⟨property, .equals value⟩ types candidate eventSpace filterSpace := by
  rw [isNamedOrBelow_eq_any, names_oneOf, List.any_flatMap]
  congr 1
  funext value
  exact (isNamedOrBelow_eq_any ⟨property, .equals value⟩ types candidate _ _).symm

theorem acceptsType_oneOf (candidate : Option Value) (eventSpace filterSpace : Option String)
    (types : TypeResolver) :
    acceptsType ⟨property, .oneOf values⟩ candidate eventSpace filterSpace types =
      values.any fun value =>
        acceptsType ⟨property, .equals value⟩ candidate eventSpace filterSpace types := by
  rw [acceptsType_eq rfl rfl, isNamedOrBelow_oneOf]
  congr 1
  funext value
  exact (acceptsType_eq rfl rfl _ _ _ _).symm

/-- A condition on one of several values is met if the condition on one of them is. -/
theorem evaluate_oneOf (event : Event) (surroundings : Surroundings) (space : Option String) :
    evaluate ⟨property, .oneOf values⟩ event surroundings space =
      values.any fun value => evaluate ⟨property, .equals value⟩ event surroundings space := by
  simp only [evaluate]
  cases property.kind with
  | capability => exact acceptsCapability_oneOf property values _
  | typeName => exact acceptsType_oneOf property values _ _ _ _
  | integer | float | boolean | string => exact acceptsValue_oneOf property values _

end Values

/-! ## Alternatives of a specification -/

open Specification

variable {property : Property} {specification : String}

theorem mode_demandOf {mode : Mode} (demand : α → Demand)
    (formed : ∀ read, Condition.mode ⟨property, demand read⟩ = mode)
    (reading : Except ValidationFault α) :
    Condition.mode ⟨property, demandOf mode demand reading⟩ = mode := by
  cases reading with
  | ok read => exact formed read
  | error fault => rfl

theorem demand_of_oneOf (oneOf : (ofSpecification property specification).mode = .oneOf) :
    Specification.demand property specification =
      demandOf .oneOf .oneOf
        (readAlternatives property specification (Text.cutBars specification.toList)) := by
  rw [ofSpecification] at oneOf
  rcases demand_cases property specification with
    ⟨relation, bound, -, ordered⟩ | ⟨-, alternatives⟩ | ⟨-, single⟩
  · have form : Condition.mode ⟨property, _⟩ = .ordered relation :=
      mode_demandOf (.ordered relation) (fun _ => rfl)
        (Literal.read property (Text.trim (String.ofList bound)))
    rw [ordered, form] at oneOf
    cases oneOf
  · exact alternatives
  · have form : Condition.mode ⟨property, _⟩ = .equals :=
      mode_demandOf .equals (fun _ => rfl) (Literal.read property specification)
    rw [single, form] at oneOf
    cases oneOf

theorem diagnostic?_of_oneOf (oneOf : (ofSpecification property specification).mode = .oneOf)
    {fault : ValidationFault} :
    (ofSpecification property specification).diagnostic? = some fault ↔
      readAlternatives property specification (Text.cutBars specification.toList) =
        .error fault := by
  rw [ofSpecification, demand_of_oneOf oneOf]
  cases readAlternatives property specification (Text.cutBars specification.toList) with
  | ok values =>
    constructor
    · rintro ⟨⟩
    · rintro ⟨⟩
  | error found =>
    constructor
    · intro faulty
      exact congrArg Except.error (Option.some.inj faulty)
    · intro refused
      exact congrArg some (Except.error.inj refused)

theorem values_of_oneOf (oneOf : (ofSpecification property specification).mode = .oneOf)
    (sound : (ofSpecification property specification).diagnostic? = none) :
    ∃ values,
      readAlternatives property specification (Text.cutBars specification.toList) = .ok values ∧
        ofSpecification property specification = ⟨property, .oneOf values⟩ := by
  cases reading : readAlternatives property specification (Text.cutBars specification.toList) with
  | ok values =>
    refine ⟨values, rfl, ?_⟩
    rw [ofSpecification, demand_of_oneOf oneOf, reading]
    rfl
  | error fault =>
    rw [(diagnostic?_of_oneOf oneOf).2 reading] at sound
    cases sound

theorem ofSpecification_trimmed {piece : List Char} {value : Value}
    (unbarred : ¬ Text.doubleBar <:+: piece)
    (reading : readAlternative property specification piece = .ok value) :
    ofSpecification property (trimmed piece) = ⟨property, .equals value⟩ := by
  rw [readAlternative_eq] at reading
  split at reading
  next => cases reading
  next =>
    rw [ofSpecification, demand_of_read _ reading]
    rw [trimmed, String.toList_ofList]
    intro within
    exact unbarred (within.trans (Text.trimChars_infix piece))

theorem map_ofSpecification_trimmed {pieces : List (List Char)} {values : List Value}
    (unbarred : ∀ piece ∈ pieces, ¬ Text.doubleBar <:+: piece)
    (reading : readAlternatives property specification pieces = .ok values) :
    (pieces.map trimmed).map (ofSpecification property) =
      values.map fun value => ⟨property, .equals value⟩ := by
  have each := (List.forall₂_and_left _ _).2 ⟨unbarred, readAlternatives_eq_ok_iff.1 reading⟩
  rw [List.map_map, ← List.forall₂_eq_eq_eq, List.forall₂_map_left_iff,
    List.forall₂_map_right_iff]
  apply each.imp
  rintro piece value ⟨unbarred, reading⟩
  exact ofSpecification_trimmed unbarred reading

theorem evaluate_of_map_eq {alternatives : List String} {values : List Value}
    (single : alternatives.map (ofSpecification property) =
      values.map fun value => ⟨property, .equals value⟩)
    (event : Event) (surroundings : Surroundings) (space : Option String) :
    evaluate ⟨property, .oneOf values⟩ event surroundings space =
      alternatives.any fun alternative =>
        (ofSpecification property alternative).evaluate event surroundings space := by
  calc
    evaluate ⟨property, .oneOf values⟩ event surroundings space =
        (values.map fun value => (⟨property, .equals value⟩ : Condition)).any
          (·.evaluate event surroundings space) := by
      rw [evaluate_oneOf, List.any_map]
      rfl
    _ = (alternatives.map (ofSpecification property)).any
          (·.evaluate event surroundings space) := by
      rw [single]
    _ = alternatives.any fun alternative =>
          (ofSpecification property alternative).evaluate event surroundings space := by
      rw [List.any_map]
      rfl

/--
A specification of alternatives is the disjunction of its trimmed pieces.  If nothing is wrong with
it, then every piece demands equality, and an event meets the whole exactly if it meets a piece.  If
a piece offends, then no event meets the whole, and the fault is that of the leftmost such piece.
-/
theorem evaluate_alternatives_iff
    (oneOf : (ofSpecification property specification).mode = .oneOf) :
    let condition := ofSpecification property specification
    ∃ pieces, Text.Separated specification.toList pieces ∧
      let alternatives := pieces.map trimmed
      (condition.diagnostic? = none →
        (∀ alternative ∈ alternatives, ∃ value,
          ofSpecification property alternative = ⟨property, .equals value⟩) ∧
        ∀ event surroundings space,
          condition.evaluate event surroundings space = true ↔
            ∃ alternative ∈ alternatives,
              (ofSpecification property alternative).evaluate event surroundings space = true) ∧
      (∀ fault, condition.diagnostic? = some fault ↔
        LeftmostOffends property specification alternatives fault) ∧
      ((∃ alternative ∈ alternatives, ∃ fault, Offends property specification alternative fault) →
        condition.diagnostic?.isSome = true ∧
          ∀ event surroundings space, condition.evaluate event surroundings space = false) := by
  intro condition
  have separated := Text.separated_cutBars specification.toList
  refine ⟨_, separated, ?_, ?_, ?_⟩
  · intro sound
    rcases values_of_oneOf oneOf sound with ⟨values, reading, formed⟩
    have single := map_ofSpecification_trimmed separated.unbarred reading
    constructor
    · intro alternative member
      have listed : ofSpecification property alternative ∈ _ := List.mem_map_of_mem member
      rw [single] at listed
      rcases List.mem_map.1 listed with ⟨value, -, same⟩
      exact ⟨value, same.symm⟩
    · intro event surroundings space
      change (ofSpecification property specification).evaluate event surroundings space = true ↔ _
      rw [formed, evaluate_of_map_eq single, List.any_eq_true]
  · intro fault
    rw [diagnostic?_of_oneOf oneOf, readAlternatives_eq_error_iff]
  · rintro ⟨alternative, member, fault, offends⟩
    cases diagnosed : condition.diagnostic? with
    | some found =>
      exact ⟨rfl, evaluate_of_malformed diagnosed⟩
    | none =>
      rcases values_of_oneOf oneOf diagnosed with ⟨values, reading, -⟩
      rcases List.mem_map.1 member with ⟨piece, listed, rfl⟩
      exact absurd offends (not_offends_of_read reading piece listed fault)

/-- The leftmost double bar separates, so that a third bar belongs to the second alternative. -/
theorem evaluate_three_bars :
    (ofSpecification .className "View ||| Dial").mode = .oneOf ∧
      ∀ event surroundings space,
        (ofSpecification .className "View ||| Dial").evaluate event surroundings space = true ↔
          (ofSpecification .className "View").evaluate event surroundings space = true ∨
            (ofSpecification .className "| Dial").evaluate event surroundings space = true := by
  have oneOf : (ofSpecification .className "View ||| Dial").mode = .oneOf := by decide
  have sound : (ofSpecification .className "View ||| Dial").diagnostic? = none := by decide
  refine ⟨oneOf, ?_⟩
  rcases evaluate_alternatives_iff oneOf with ⟨pieces, separated, disjunction, -⟩
  have alternatives : pieces.map trimmed = ["View", "| Dial"] := by
    rw [← Text.separated_iff.1 separated]
    decide
  intro event surroundings space
  rw [(disjunction sound).2 event surroundings space, alternatives]
  simp

end Condition

end SpokenFeedback
