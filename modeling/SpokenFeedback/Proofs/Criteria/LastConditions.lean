import Mathlib.Data.List.Induction
import SpokenFeedback.Proofs.Rule.Standing

/-!
# The last condition on each property

Criteria are stated step by step: a condition by its specification, by its specification under a
name, or ready made.  What they demand in the end is the conjunction of the last conditions, one on
each property that was named.  `Criteria.LastAt` says which condition is the last one on its
property and at which step it was given.

`Criteria.exists_entries` says that the criteria hold exactly the last conditions, in the order of
these steps.  A later step can also change in which namespace earlier conditions are met:
`Criteria.hint_iff` says that the namespace is that of the last condition on the package.
-/

namespace SpokenFeedback

namespace Criteria

/-- One step in which criteria are stated. -/
inductive Step where
  | specify (property : Property) (specification : String)
  | specifyNamed (name specification : String)
  | condition (condition : Condition)

/-- The part that does to the criteria of a draft what the step does to criteria. -/
def Step.part : Step → DraftStep
  | .specify property specification => .specify property specification
  | .specifyNamed name specification => .specifyNamed name specification
  | .condition given => .condition given

/-- Takes one step. -/
def take (criteria : Criteria) : Step → Criteria
  | .specify property specification => criteria.specify property specification
  | .specifyNamed name specification => criteria.specifyNamed name specification
  | .condition condition => criteria.add condition

/-- The criteria that are stated by steps in order. -/
def ofSteps (steps : List Step) : Criteria := steps.foldl take empty

theorem criteria_apply_part (draft : Draft) (step : Step) :
    (draft.apply step.part).criteria = draft.criteria.take step := by
  cases step <;> rfl

theorem criteria_applyAll_parts (draft : Draft) (steps : List Step) :
    (draft.applyAll (steps.map Step.part)).criteria = steps.foldl take draft.criteria := by
  induction steps generalizing draft with
  | nil => rfl
  | cons step steps ih =>
    rw [List.foldl_cons, ← criteria_apply_part]
    exact ih (draft.apply step.part)

theorem ofSteps_append_singleton (steps : List Step) (step : Step) :
    ofSteps (steps ++ [step]) = (ofSteps steps).take step := by
  rw [ofSteps, List.foldl_append]
  rfl

/-- No name is unknown exactly if no step was misnamed. -/
theorem unknownNames_ofSteps_eq_nil_iff {steps : List Step} :
    (ofSteps steps).unknownNames = [] ↔ ∀ step ∈ steps, ¬ step.part.Misnamed := by
  have asDraft := @Draft.unknownNames_eq_nil_iff (steps.map Step.part)
  rw [criteria_applyAll_parts, List.forall_mem_map] at asDraft
  exact asDraft

/-- A step adds the condition that it gives, or leaves the conditions as they are. -/
theorem conditions_take_cases (criteria : Criteria) (step : Step) :
    (∃ condition, step.part.Gives condition ∧ criteria.take step = criteria.add condition) ∨
      (∀ condition, ¬ step.part.Gives condition) ∧
        (criteria.take step).conditions = criteria.conditions := by
  have asPart := Draft.criteria_apply_cases { Draft.empty with criteria } step.part
  rw [criteria_apply_part] at asPart
  rcases asPart with ⟨condition, gives, -, added⟩ | ⟨silent, same, -⟩
  · exact .inl ⟨condition, gives, added⟩
  · exact .inr ⟨silent, same⟩

/-! ## Last conditions -/

/-- The condition is given at a place among the steps, and no later one is on its property. -/
structure LastAt (steps : List Step) (place : Nat) (condition : Condition) : Prop where
  given : ∃ step, steps[place]? = some step ∧ step.part.Gives condition
  kept : ∀ later step, place < later → steps[later]? = some step →
    step.part.SilentOn condition.property

/-- The condition is the last one that the steps give on the property. -/
def LastOn (steps : List Step) (property : Property) (condition : Condition) : Prop :=
  condition.property = property ∧ ∃ place, LastAt steps place condition

variable {steps : List Step}

theorem LastAt.lt_length {place : Nat} {condition : Condition}
    (last : LastAt steps place condition) : place < steps.length := by
  rcases last.given with ⟨step, here, -⟩
  exact (List.getElem?_eq_some_iff.1 here).1

/-- Of two last conditions the one that was given earlier is on another property. -/
theorem LastAt.property_ne {place later : Nat} {condition other : Condition}
    (last : LastAt steps place condition) (alsoLast : LastAt steps later other)
    (before : place < later) : condition.property ≠ other.property := by
  rcases alsoLast.given with ⟨step, there, gives⟩
  exact (last.kept later step before there other gives).symm

theorem LastOn.unique {property : Property} {condition other : Condition}
    (last : LastOn steps property condition) (alsoLast : LastOn steps property other) :
    condition = other := by
  rcases last with ⟨rfl, place, last⟩
  rcases alsoLast with ⟨same, otherPlace, alsoLast⟩
  rcases Nat.lt_trichotomy place otherPlace with before | rfl | after
  · exact absurd same.symm (last.property_ne alsoLast before)
  · rcases last.given with ⟨step, here, gives⟩
    rcases alsoLast.given with ⟨otherStep, alsoHere, alsoGives⟩
    rcases Option.some.inj (here.symm.trans alsoHere) with rfl
    exact gives.unique alsoGives
  · exact absurd same (alsoLast.property_ne last after)

/-- After one more step, its own condition is the last one, and those on other properties are. -/
theorem lastAt_append_singleton {step : Step} {place : Nat} {condition : Condition} :
    LastAt (steps ++ [step]) place condition ↔
      place = steps.length ∧ step.part.Gives condition ∨
        LastAt steps place condition ∧ step.part.SilentOn condition.property := by
  have newest : (steps ++ [step])[steps.length]? = some step := List.getElem?_concat_length
  have earlier : ∀ place, place < steps.length → (steps ++ [step])[place]? = steps[place]? :=
    fun place bound => List.getElem?_append_left bound
  constructor
  · intro last
    have bound := last.lt_length
    rw [List.length_append, List.length_singleton] at bound
    rcases last.given with ⟨giver, here, gives⟩
    rcases Nat.lt_succ_iff_lt_or_eq.1 bound with before | rfl
    · refine .inr ⟨⟨⟨giver, ?_, gives⟩, ?_⟩, last.kept steps.length step before newest⟩
      · rwa [earlier place before] at here
      · intro later other after there
        apply last.kept later other after
        rwa [earlier later (List.getElem?_eq_some_iff.1 there).1]
    · rcases Option.some.inj (newest.symm.trans here) with rfl
      exact .inl ⟨rfl, gives⟩
  · rintro (⟨rfl, gives⟩ | ⟨last, silent⟩)
    · refine ⟨⟨step, newest, gives⟩, ?_⟩
      intro later other after there
      have bound := (List.getElem?_eq_some_iff.1 there).1
      rw [List.length_append, List.length_singleton] at bound
      omega
    · rcases last.given with ⟨giver, here, gives⟩
      refine ⟨⟨giver, ?_, gives⟩, ?_⟩
      · rwa [earlier place last.lt_length]
      · intro later other after there
        have bound := (List.getElem?_eq_some_iff.1 there).1
        rw [List.length_append, List.length_singleton] at bound
        rcases Nat.lt_succ_iff_lt_or_eq.1 bound with before | rfl
        · rw [earlier later before] at there
          exact last.kept later other after there
        · rcases Option.some.inj (newest.symm.trans there) with rfl
          exact silent

/-! ## The conditions in order -/

/-- The criteria hold the last conditions in the order of the steps that gave them. -/
theorem exists_entries (steps : List Step) :
    ∃ entries : List (Nat × Condition),
      entries.map Prod.snd = (ofSteps steps).conditions ∧
        (entries.map Prod.fst).Pairwise (· < ·) ∧
          ∀ place condition, (place, condition) ∈ entries ↔ LastAt steps place condition := by
  induction steps using List.reverseRecOn with
  | nil =>
    refine ⟨[], rfl, .nil, fun place condition => iff_of_false nofun ?_⟩
    intro last
    exact absurd last.lt_length (Nat.not_lt_zero place)
  | append_singleton steps step ih =>
    rcases ih with ⟨entries, held, ascending, complete⟩
    rw [ofSteps_append_singleton]
    simp only [lastAt_append_singleton]
    rcases conditions_take_cases (ofSteps steps) step with ⟨added, gives, changed⟩ | ⟨silent, same⟩
    · refine ⟨entries.filter (fun entry => entry.2.property ≠ added.property) ++
        [(steps.length, added)], ?_, ?_, ?_⟩
      · rw [changed, add, ← held, List.filter_map, List.map_append]
        rfl
      · rw [List.map_append, List.pairwise_append]
        refine ⟨?_, List.pairwise_singleton _ _, ?_⟩
        · exact ascending.sublist (List.filter_sublist.map Prod.fst)
        · intro place earlier last isLast
          rcases List.mem_map.1 earlier with ⟨⟨_, condition⟩, member, rfl⟩
          rw [List.mem_singleton.1 isLast]
          exact ((complete _ _).1 (List.mem_filter.1 member).1).lt_length
      · intro place condition
        rw [List.mem_append, List.mem_filter, complete, List.mem_singleton, decide_eq_true_eq,
          Prod.mk.injEq, gives.iff_eq, gives.silentOn_iff, or_comm]
    · refine ⟨entries, held.trans same.symm, ascending, fun place condition => ?_⟩
      rw [complete, or_iff_right fun own => silent condition own.2]
      exact (and_iff_left fun other gives => absurd gives (silent other)).symm

theorem mem_conditions_ofSteps {condition : Condition} :
    condition ∈ (ofSteps steps).conditions ↔ ∃ place, LastAt steps place condition := by
  rcases exists_entries steps with ⟨entries, held, -, complete⟩
  rw [← held, List.mem_map]
  constructor
  · rintro ⟨⟨place, condition⟩, member, rfl⟩
    exact ⟨place, (complete _ _).1 member⟩
  · rintro ⟨place, last⟩
    exact ⟨(place, condition), (complete _ _).2 last, rfl⟩

/-- No two conditions are on one property. -/
theorem nodup_properties (steps : List Step) :
    ((ofSteps steps).conditions.map Condition.property).Nodup := by
  rcases exists_entries steps with ⟨entries, held, ascending, complete⟩
  rw [← held, List.map_map, List.Nodup, List.pairwise_map]
  apply (List.pairwise_map.1 ascending).imp_of_mem
  intro entry later member laterMember before
  exact ((complete _ _).1 member).property_ne ((complete _ _).1 laterMember) before

/-! ## The namespace -/

/--
The namespace that the last condition on the package names: the value that it demands if it demands
equality, and otherwise none.
-/
inductive Hint (steps : List Step) : Option String → Prop where
  | named {condition : Condition} {value : Value} (last : LastOn steps .packageName condition)
    (equality : condition.demand = .equals value) : Hint steps value.text?
  | loose {condition : Condition} (last : LastOn steps .packageName condition)
    (other : ∀ value, condition.demand ≠ .equals value) : Hint steps none
  | absent (missing : ∀ condition, ¬ LastOn steps .packageName condition) : Hint steps none

theorem condition?_eq_some_iff {property : Property} {condition : Condition} :
    (ofSteps steps).condition? property = some condition ↔ LastOn steps property condition := by
  have found_last : ∀ found, (ofSteps steps).condition? property = some found →
      LastOn steps property found := by
    intro found sought
    have onProperty : found.property = property := by simpa using List.find?_some sought
    exact ⟨onProperty, mem_conditions_ofSteps.1 (List.mem_of_find?_eq_some sought)⟩
  constructor
  · exact found_last condition
  · intro last
    cases sought : (ofSteps steps).condition? property with
    | some found => rw [(found_last found sought).unique last]
    | none =>
      have missing := List.find?_eq_none.1 sought condition (mem_conditions_ofSteps.2 last.2)
      exact absurd last.1 (by simpa using missing)

/-- Classes are looked up in the namespace that the last condition on the package names. -/
theorem hint_iff {space : Option String} :
    Hint steps space ↔ space = (ofSteps steps).packageName? := by
  rw [packageName?]
  constructor
  · intro hint
    cases hint with
    | named last equality =>
      rw [condition?_eq_some_iff.2 last, Option.bind_some,
        Condition.equalityValue?_eq_some_iff.2 equality, Option.bind_some]
    | @loose condition last other =>
      have noValue : condition.equalityValue? = none :=
        Option.eq_none_iff_forall_ne_some.2 fun value demanded =>
          other value (Condition.equalityValue?_eq_some_iff.1 demanded)
      rw [condition?_eq_some_iff.2 last, Option.bind_some, noValue, Option.bind_none]
    | absent missing =>
      have noCondition : (ofSteps steps).condition? .packageName = none :=
        Option.eq_none_iff_forall_ne_some.2 fun condition sought =>
          missing condition (condition?_eq_some_iff.1 sought)
      rw [noCondition, Option.bind_none, Option.bind_none]
  · rintro rfl
    cases sought : (ofSteps steps).condition? .packageName with
    | none =>
      refine .absent fun condition last => ?_
      rw [condition?_eq_some_iff.2 last] at sought
      cases sought
    | some condition =>
      have last := condition?_eq_some_iff.1 sought
      rw [Option.bind_some]
      cases demanded : condition.equalityValue? with
      | some value => exact .named last (Condition.equalityValue?_eq_some_iff.1 demanded)
      | none =>
        refine .loose last fun value equality => ?_
        rw [Condition.equalityValue?_eq_some_iff.2 equality] at demanded
        cases demanded

/-! ## Meeting the criteria -/

theorem accepts_ofSteps_iff {event : Event} {surroundings : Surroundings} :
    (ofSteps steps).accepts event surroundings = true ↔
      (∀ step ∈ steps, ¬ step.part.Misnamed) ∧
        ∀ property condition, LastOn steps property condition →
          condition.evaluate event surroundings (ofSteps steps).packageName? = true := by
  rw [accepts, Bool.and_eq_true_iff, List.isEmpty_iff, unknownNames_ofSteps_eq_nil_iff,
    List.all_eq_true]
  apply and_congr_right'
  constructor
  · rintro met property condition ⟨-, last⟩
    exact met condition (mem_conditions_ofSteps.2 last)
  · intro met condition member
    exact met _ condition ⟨rfl, mem_conditions_ofSteps.1 member⟩

/--
Criteria are met exactly if no step was misnamed and every last condition is met, in the namespace
that the last condition on the package names.  They hold these conditions in the order of the steps
that gave them, one on each property.  Other steps that leave the same last conditions state
criteria for the same events, if among both or among neither of them one is misnamed.
-/
theorem accepts_iff_last_conditions (steps : List Step) :
    (∃ space, (∀ other, Hint steps other ↔ other = space) ∧
      ∀ event surroundings, (ofSteps steps).accepts event surroundings = true ↔
        (∀ step ∈ steps, ¬ step.part.Misnamed) ∧
          ∀ property condition, LastOn steps property condition →
            condition.evaluate event surroundings space = true) ∧
    (∃ entries : List (Nat × Condition),
      entries.map Prod.snd = (ofSteps steps).conditions ∧
        (entries.map Prod.fst).Pairwise (· < ·) ∧
          ∀ place condition, (place, condition) ∈ entries ↔ LastAt steps place condition) ∧
    ((ofSteps steps).conditions.map Condition.property).Nodup ∧
    ∀ others : List Step,
      (∀ property condition, LastOn steps property condition ↔ LastOn others property condition) →
      ((∃ step ∈ steps, step.part.Misnamed) ↔ ∃ step ∈ others, step.part.Misnamed) →
      ∀ event surroundings,
        (ofSteps steps).accepts event surroundings =
          (ofSteps others).accepts event surroundings := by
  refine ⟨⟨_, fun other => hint_iff, fun event surroundings => accepts_ofSteps_iff⟩,
    exists_entries steps, nodup_properties steps, ?_⟩
  intro others sameLast sameNames event surroundings
  have sameFound : ∀ property,
      (ofSteps steps).condition? property = (ofSteps others).condition? property := by
    intro property
    apply Option.ext
    intro condition
    rw [condition?_eq_some_iff, condition?_eq_some_iff, sameLast]
  have samePackage : (ofSteps steps).packageName? = (ofSteps others).packageName? := by
    rw [packageName?, packageName?, sameFound]
  have sameNamed : (∀ step ∈ steps, ¬ step.part.Misnamed) ↔
      ∀ step ∈ others, ¬ step.part.Misnamed := by
    simpa only [not_exists, not_and] using not_congr sameNames
  rw [Bool.eq_iff_iff, accepts_ofSteps_iff, accepts_ofSteps_iff, samePackage, sameNamed]
  simp only [sameLast]

end Criteria

end SpokenFeedback
