import Mathlib.Data.List.Forall2
import SpokenFeedback.Condition.Evaluation
import SpokenFeedback.Proofs.Condition.NumericLiteral

/-!
# Reading specifications

What the parts of a specification are read as: the sign of an order relation, one literal, and
alternatives between double bars.  Alternatives are read up to the first that offends
(`Specification.readAlternatives_eq_error_iff`), and a text that is read as a literal demands
equality with it (`Specification.demand_of_read`).

A malformed specification gives a condition that nothing meets
(`Condition.evaluate_of_malformed`).
-/

namespace SpokenFeedback

namespace Specification

variable {property : Property} {specification : String}

/-! ## Order relations -/

theorem relation?_sign_append (relation : OrderRelation) {rest : List Char}
    (apart : rest.head? ≠ some '=') :
    relation? (relation.sign.toList ++ rest) = some (relation, rest) := by
  cases relation with
  | atMost => rfl
  | atLeast => rfl
  | below =>
    cases rest with
    | nil => rfl
    | cons c rest =>
      have other : c ≠ '=' := fun same => apart (congrArg some same)
      simp [OrderRelation.sign, relation?, other]
  | above =>
    cases rest with
    | nil => rfl
    | cons c rest =>
      have other : c ≠ '=' := fun same => apart (congrArg some same)
      simp [OrderRelation.sign, relation?, other]

theorem eq_sign_append_of_relation? {text rest : List Char} {relation : OrderRelation}
    (stated : relation? text = some (relation, rest)) : text = relation.sign.toList ++ rest := by
  unfold relation? at stated
  split at stated
  next => rcases Option.some.inj stated with ⟨⟩; rfl
  next => rcases Option.some.inj stated with ⟨⟩; rfl
  next => rcases Option.some.inj stated with ⟨⟩; rfl
  next => rcases Option.some.inj stated with ⟨⟩; rfl
  next => cases stated

theorem relation?_cons_of_ne {c : Char} {rest : List Char} (notBelow : c ≠ '<')
    (notAbove : c ≠ '>') : relation? (c :: rest) = none := by
  simp [relation?, notBelow, notAbove]

/-- No order relation is stated where a literal comes first. -/
theorem relationFor?_of_read {piece more : List Char} {value : Value}
    (starts : specification.toList = piece ++ more)
    (read : Literal.read property (String.ofList piece) = .ok value) :
    relationFor? property specification = none := by
  rw [relationFor?]
  split
  next numeric =>
    rcases Literal.head_of_read numeric read with ⟨c, rest, shape, notBelow, notAbove⟩
    rw [String.toList_ofList] at shape
    rcases Text.padded_trimChars piece with ⟨before, after, blank, -, padded⟩
    have filled : Text.isBlank c = false :=
      (Text.tight_trimChars piece).first c (by rw [shape]; rfl)
    have started : Text.trimStart specification.toList = c :: (rest ++ (after ++ more)) := by
      rw [starts, padded, shape, List.append_assoc, List.append_assoc]
      apply Text.trimStart_append blank
      rintro d ⟨⟩
      exact filled
    rw [started]
    exact relation?_cons_of_ne notBelow notAbove
  next => rfl

/-! ## The three forms -/

/-- A specification states an order relation, else alternatives if barred, else one literal. -/
theorem demand_cases (property : Property) (specification : String) :
    (∃ relation bound, relationFor? property specification = some (relation, bound) ∧
        demand property specification =
          demandOf (.ordered relation) (.ordered relation)
            (Literal.read property (Text.trim (String.ofList bound)))) ∨
      (Text.doubleBar <:+: specification.toList ∧
        demand property specification =
          demandOf .oneOf .oneOf
            (readAlternatives property specification (Text.cutBars specification.toList))) ∨
      (¬ Text.doubleBar <:+: specification.toList ∧
        demand property specification =
          demandOf .equals .equals (Literal.read property specification)) := by
  rw [demand]
  split
  next relation bound stated => exact .inl ⟨relation, bound, stated, rfl⟩
  next unstated =>
    right
    split
    next barred => exact .inl ⟨Text.hasBars_iff.1 barred, rfl⟩
    next unbarred => exact .inr ⟨fun within => unbarred (Text.hasBars_iff.2 within), rfl⟩

/-! ## One literal -/

theorem demand_of_read {text : String} {value : Value}
    (unbarred : ¬ Text.doubleBar <:+: text.toList)
    (read : Literal.read property text = .ok value) : demand property text = .equals value := by
  have unrelated : relationFor? property text = none := by
    apply relationFor?_of_read (List.append_nil _).symm
    rw [String.ofList_toList]
    exact read
  have single : Text.hasBars text.toList = false := by
    rw [← Bool.not_eq_true, Text.hasBars_iff]
    exact unbarred
  rw [demand, unrelated, single, read]
  rfl

/-! ## Alternatives -/

/-- A piece without the blanks around it. -/
def trimmed (piece : List Char) : String := String.ofList (Text.trimChars piece)

/-- A trimmed piece that is no alternative, and what is wrong with it. -/
inductive Offends (property : Property) (specification : String) :
    String → ValidationFault → Prop where
  | blank : Offends property specification "" (.emptyAlternative property.name specification)
  | malformed {alternative : String} {fault : ValidationFault} (filled : alternative ≠ "")
    (refused : Literal.read property alternative = .error fault) :
    Offends property specification alternative fault

/-- The fault of the leftmost alternative that offends. -/
inductive LeftmostOffends (property : Property) (specification : String) :
    List String → ValidationFault → Prop where
  | here {alternative : String} {others : List String} {fault : ValidationFault}
    (offends : Offends property specification alternative fault) :
    LeftmostOffends property specification (alternative :: others) fault
  | later {alternative : String} {others : List String} {fault : ValidationFault}
    (sound : ∀ other, ¬ Offends property specification alternative other)
    (onwards : LeftmostOffends property specification others fault) :
    LeftmostOffends property specification (alternative :: others) fault

theorem trimmed_eq_empty_iff {piece : List Char} :
    trimmed piece = "" ↔ Text.trimChars piece = [] := by
  rw [trimmed, String.ofList_eq_empty_iff]

theorem readAlternative_eq (property : Property) (specification : String) (piece : List Char) :
    readAlternative property specification piece =
      if trimmed piece = "" then .error (.emptyAlternative property.name specification)
      else Literal.read property (trimmed piece) := by
  rw [readAlternative]
  split
  next blank => rw [if_pos (trimmed_eq_empty_iff.2 blank)]
  next filled => rw [if_neg fun empty => filled (trimmed_eq_empty_iff.1 empty), trimmed]

theorem readAlternative_eq_error_iff {piece : List Char} {fault : ValidationFault} :
    readAlternative property specification piece = .error fault ↔
      Offends property specification (trimmed piece) fault := by
  rw [readAlternative_eq]
  constructor
  · intro refused
    split at refused
    next blank =>
      rcases Except.error.inj refused with rfl
      rw [blank]
      exact .blank
    next filled => exact .malformed filled refused
  · generalize trimmed piece = alternative
    rintro (_ | ⟨filled, refused⟩)
    · rfl
    · rw [if_neg filled]
      exact refused

theorem readAlternative_eq_ok_iff {piece : List Char} {value : Value} :
    readAlternative property specification piece = .ok value ↔
      trimmed piece ≠ "" ∧ Literal.read property (trimmed piece) = .ok value := by
  rw [readAlternative_eq]
  split
  next blank =>
    constructor
    · rintro ⟨⟩
    · rintro ⟨filled, -⟩
      exact absurd blank filled
  next filled => exact (and_iff_right filled).symm

theorem readAlternatives_eq_ok_iff {pieces : List (List Char)} {values : List Value} :
    readAlternatives property specification pieces = .ok values ↔
      List.Forall₂ (fun piece value => readAlternative property specification piece = .ok value)
        pieces values := by
  induction pieces generalizing values with
  | nil =>
    rw [readAlternatives, List.forall₂_nil_left_iff, Except.ok.injEq]
    exact eq_comm
  | cons piece pieces ih =>
    rw [readAlternatives, List.forall₂_cons_left_iff]
    constructor
    · intro read
      split at read
      next => cases read
      next value first =>
        cases others : readAlternatives property specification pieces with
        | error fault =>
          rw [others] at read
          cases read
        | ok rest =>
          rw [others] at read
          exact ⟨value, rest, first, ih.1 others, (Except.ok.inj read).symm⟩
    · rintro ⟨value, rest, first, others, rfl⟩
      rw [first, ih.2 others]
      rfl

theorem not_offends_of_read {pieces : List (List Char)} {values : List Value}
    (reading : readAlternatives property specification pieces = .ok values) :
    ∀ piece ∈ pieces, ∀ fault, ¬ Offends property specification (trimmed piece) fault := by
  have each := readAlternatives_eq_ok_iff.1 reading
  apply And.left
  rw [← List.forall₂_and_left pieces values]
  apply each.imp
  intro piece value read
  refine ⟨?_, read⟩
  intro fault offends
  cases read.symm.trans (readAlternative_eq_error_iff.2 offends)

/-- The fault of alternatives is that of the leftmost one that offends. -/
theorem readAlternatives_eq_error_iff {pieces : List (List Char)} {fault : ValidationFault} :
    readAlternatives property specification pieces = .error fault ↔
      LeftmostOffends property specification (pieces.map trimmed) fault := by
  induction pieces with
  | nil =>
    constructor
    · rintro ⟨⟩
    · rintro ⟨⟩
  | cons piece pieces ih =>
    rw [readAlternatives, List.map_cons]
    cases first : readAlternative property specification piece with
    | error found =>
      -- Reading stops here, so that an alternative further on cannot be the leftmost.
      have offends := readAlternative_eq_error_iff.1 first
      constructor
      · intro same
        rcases Except.error.inj same with rfl
        exact .here offends
      · intro leftmost
        cases leftmost with
        | here offending =>
          have same := first.symm.trans (readAlternative_eq_error_iff.2 offending)
          rcases Except.error.inj same with rfl
          rfl
        | later sound onwards => exact absurd offends (sound found)
    | ok value =>
      have sound : ∀ other, ¬ Offends property specification (trimmed piece) other := by
        intro other offends
        cases first.symm.trans (readAlternative_eq_error_iff.2 offends)
      have others : (readAlternatives property specification pieces).map (value :: ·) =
          .error fault ↔ readAlternatives property specification pieces = .error fault := by
        cases readAlternatives property specification pieces with
        | error found => exact Iff.rfl
        | ok rest =>
          constructor
          · rintro ⟨⟩
          · rintro ⟨⟩
      rw [others, ih]
      constructor
      · exact .later sound
      · intro leftmost
        cases leftmost with
        | here offending => exact absurd offending (sound fault)
        | later _ onwards => exact onwards

end Specification

/-! ## Malformed specifications -/

theorem Condition.eq_malformed_of_diagnostic? {condition : Condition} {fault : ValidationFault}
    (faulty : condition.diagnostic? = some fault) :
    ∃ mode, condition.demand = .malformed mode fault := by
  rcases condition with ⟨property, demand⟩
  cases demand with
  | malformed mode found =>
    rcases Option.some.inj faulty with rfl
    exact ⟨mode, rfl⟩
  | anything | equals | ordered | oneOf => cases faulty

theorem Condition.diagnostic?_isSome_iff {condition : Condition} :
    condition.diagnostic?.isSome = true ↔
      ∃ mode fault, condition.demand = .malformed mode fault := by
  rw [Option.isSome_iff_exists]
  constructor
  · rintro ⟨fault, faulty⟩
    rcases eq_malformed_of_diagnostic? faulty with ⟨mode, malformed⟩
    exact ⟨mode, fault, malformed⟩
  · rintro ⟨mode, fault, malformed⟩
    refine ⟨fault, ?_⟩
    rw [diagnostic?, malformed]

/-- A malformed condition is met by no event, whatever the kind of its property. -/
theorem Condition.evaluate_of_malformed {condition : Condition} {fault : ValidationFault}
    (faulty : condition.diagnostic? = some fault) (event : Event) (surroundings : Surroundings)
    (space : Option String) : condition.evaluate event surroundings space = false := by
  rcases condition.eq_malformed_of_diagnostic? faulty with ⟨mode, demanded⟩
  have demanding : condition.isWildcard = false := by simp [isWildcard, demanded]
  rw [evaluate]
  split
  · have unnamed : condition.names = [] := by simp [names, values, demanded]
    simp [acceptsCapability, demanding, unnamed]
  · simp [acceptsType, acceptsTypeBy, demanded]
  · have refused : condition.acceptsPresent = fun _ => false := by
      funext value
      simp [acceptsPresent, demanded]
    cases event.resolve condition.property <;> simp [acceptsValue, demanding, refused]

end SpokenFeedback
