import SpokenFeedback.Proofs.Condition.Descent
import SpokenFeedback.Proofs.Lineage.Extension
import SpokenFeedback.Rule.Basic

/-!
# Growing surroundings

No condition is met because something is missing.  Surroundings that come to know more types or
have more capabilities therefore meet every condition that they met before.

`Surroundings.Extends` compares what two surroundings know.  `Condition.evaluate_of_extends` carries
a condition from the one to the other, `Criteria.accepts_of_extends` all conditions of a rule, and
`RuleFilter.accept_of_growth` is the case of one new type and of one new capability.
-/

namespace SpokenFeedback

namespace Surroundings

/-- The surroundings with the types of a directory. -/
def withTypes (surroundings : Surroundings) (directory : TypeDirectory) : Surroundings :=
  { surroundings with types := directory.resolver }

/-- The surroundings with one more capability. -/
def grant (surroundings : Surroundings) (capability : String) : Surroundings :=
  { surroundings with
    hasCapability := fun name => name == capability || surroundings.hasCapability name }

/-- The larger surroundings know the types of the smaller ones and have their capabilities. -/
structure Extends (larger smaller : Surroundings) : Prop where
  types : larger.types.Extends smaller.types
  capabilities : ∀ capability, smaller.hasCapability capability = true →
    larger.hasCapability capability = true

theorem extends_withTypes_declare (surroundings : Surroundings) (directory : TypeDirectory)
    {type : TypeName} (unknown : directory.table.Unknown type.name) (parent : Option String) :
    (surroundings.withTypes (directory.declare type parent)).Extends
      (surroundings.withTypes directory) where
  types := directory.extends_declare unknown parent
  capabilities _ present := present

theorem extends_grant (surroundings : Surroundings) (capability : String) :
    (surroundings.grant capability).Extends surroundings where
  types := .refl surroundings.types
  capabilities _ present := Bool.or_eq_true_iff.2 (.inr present)

end Surroundings

namespace Condition

variable {larger smaller : TypeResolver}

theorem isBelow_of_extends (extended : larger.Extends smaller) {names : List String}
    {filterSpace : Option String} {candidate grown : Lineage}
    (begins : candidate.names <+: grown.names)
    (below : isBelow smaller names filterSpace candidate = true) :
    isBelow larger names filterSpace grown = true := by
  rw [isBelow, List.any_eq_true] at below ⊢
  rcases below with ⟨name, member, above⟩
  rcases (Option.any_eq_true _ _).1 above with ⟨accepted, found, assignable⟩
  rcases extended name filterSpace accepted found with ⟨longer, alsoFound, sameBeginning⟩
  refine ⟨name, member, (Option.any_eq_true _ _).2 ⟨longer, alsoFound, ?_⟩⟩
  have listed : accepted.name ∈ candidate.names := List.contains_iff_mem.1 assignable
  apply List.contains_iff_mem.2
  rw [Lineage.name_eq_of_prefix sameBeginning]
  exact begins.mem listed

theorem isNamedOrBelow_of_extends (extended : larger.Extends smaller) {condition : Condition}
    {value : Option Value} {eventSpace filterSpace : Option String}
    (met : condition.isNamedOrBelow smaller value eventSpace filterSpace = true) :
    condition.isNamedOrBelow larger value eventSpace filterSpace = true := by
  rw [isNamedOrBelow, Option.any_eq_true] at met ⊢
  rcases met with ⟨name, given, decided⟩
  refine ⟨name, given, ?_⟩
  rcases Bool.or_eq_true_iff.1 decided with literal | descended
  · rw [literal, Bool.true_or]
  · rcases Bool.and_eq_true_iff.1 descended with ⟨lenient, reached⟩
    rcases (Option.any_eq_true _ _).1 reached with ⟨candidate, found, below⟩
    rcases extended name _ candidate found with ⟨grown, alsoFound, begins⟩
    have stillBelow := isBelow_of_extends extended begins below
    rw [lenient, alsoFound, Option.any_some, stillBelow, Bool.and_true, Bool.or_true]

theorem acceptsType_of_extends (extended : larger.Extends smaller) {condition : Condition}
    {value : Option Value} {eventSpace filterSpace : Option String}
    (met : condition.acceptsType value eventSpace filterSpace smaller = true) :
    condition.acceptsType value eventSpace filterSpace larger = true := by
  rcases condition with ⟨property, demand⟩
  cases demand with
  | anything => rfl
  | malformed mode fault => cases met
  | equals accepted =>
    rw [acceptsType_eq rfl rfl] at met ⊢
    exact isNamedOrBelow_of_extends extended met
  | ordered relation bound =>
    rw [acceptsType_eq rfl rfl] at met ⊢
    exact isNamedOrBelow_of_extends extended met
  | oneOf accepted =>
    rw [acceptsType_eq rfl rfl] at met ⊢
    exact isNamedOrBelow_of_extends extended met

/-- A condition that is met in some surroundings is met in all that know more. -/
theorem evaluate_of_extends {larger smaller : Surroundings} (extended : larger.Extends smaller)
    {condition : Condition} {event : Event} {filterSpace : Option String}
    (met : condition.evaluate event smaller filterSpace = true) :
    condition.evaluate event larger filterSpace = true := by
  rw [evaluate] at met ⊢
  split
  next capability =>
    rw [capability] at met
    rcases Bool.or_eq_true_iff.1 met with demandless | present
    · rw [acceptsCapability, demandless, Bool.true_or]
    · rcases List.any_eq_true.1 present with ⟨name, named, has⟩
      apply Bool.or_eq_true_iff.2
      exact .inr (List.any_eq_true.2 ⟨name, named, extended.capabilities name has⟩)
  next ofType =>
    rw [ofType] at met
    exact acceptsType_of_extends extended.types met
  next => simpa using met

end Condition

theorem Criteria.accepts_of_extends {larger smaller : Surroundings}
    (extended : larger.Extends smaller) {criteria : Criteria} {event : Event}
    (accepted : criteria.accepts event smaller = true) :
    criteria.accepts event larger = true := by
  rw [accepts, Bool.and_eq_true, List.all_eq_true] at accepted ⊢
  refine ⟨accepted.1, fun condition member => ?_⟩
  exact Condition.evaluate_of_extends extended (accepted.2 condition member)

namespace RuleFilter

theorem accept_criteria_iff {given : Criteria} {event : Event} {context : Context} :
    (criteria given).accept event context = .done true ↔
      given.accepts event context.surroundings = true := by
  rw [accept, Outcome.done.injEq]

/--
Criteria are monotone in the surroundings.  After a type is declared under a name that was unknown
before, globally or in a namespace and with or without a parent, every lineage begins with the
names that it had, and criteria accept the events that they accepted; so they do after a capability
is granted.
-/
theorem accept_of_growth (surroundings : Surroundings) (directory : TypeDirectory)
    (type : TypeName) (parent : Option String) (unknown : directory.table.Unknown type.name) :
    let declared := directory.declare type parent
    let before := surroundings.withTypes directory
    (∀ name within lineage, (directory.resolve name within).1 = some lineage →
        ∃ longer, (declared.resolve name within).1 = some longer ∧
          lineage.names <+: longer.names) ∧
      ∀ (given : Criteria) (event : Event) (values : Metadata),
        (criteria given).accept event ⟨before, values⟩ = .done true →
          (criteria given).accept event ⟨surroundings.withTypes declared, values⟩ = .done true ∧
            ∀ capability,
              (criteria given).accept event ⟨before.grant capability, values⟩ = .done true := by
  intro declared before
  refine ⟨directory.extends_declare unknown parent, ?_⟩
  intro given event values accepted
  rw [accept_criteria_iff] at accepted
  constructor
  · rw [accept_criteria_iff]
    exact Criteria.accepts_of_extends
      (surroundings.extends_withTypes_declare directory unknown parent) accepted
  · intro capability
    rw [accept_criteria_iff]
    exact Criteria.accepts_of_extends (before.extends_grant capability) accepted

/-- A type is accepted for its parent also when the end of its lineage is declared below it. -/
theorem accept_of_cycle_closed :
    let directory := ((TypeDirectory.empty 2).declare ⟨"Dial", none⟩ (some "View")).declare
      ⟨"Knob", some "app"⟩ (some "Dial")
    let given := (Criteria.empty.specify .packageName "app").specify .className "Dial || Key"
    let event := (Event.empty.set .packageName (.text "app")).set .className (.text "Knob")
    directory.table.Unknown "View" ∧
      (directory.resolve "Knob" (some "app")).1 = some ⟨"Knob", ["Dial", "View"]⟩ ∧
      (criteria given).accept event ⟨Surroundings.empty.withTypes directory, .empty⟩ =
        .done true ∧
      (criteria given).accept event
          ⟨Surroundings.empty.withTypes (directory.declare ⟨"View", some "app"⟩ (some "Knob")),
            .empty⟩ = .done true := by
  intro directory given event
  have unknown : directory.table.Unknown "View" := by
    intro within
    simp [directory, TypeDirectory.declare, TypeDirectory.empty, TypeTable.declare,
      TypeTable.empty, TypeTable.declaration?]
  have accepted : (criteria given).accept event
      ⟨Surroundings.empty.withTypes directory, .empty⟩ = .done true := by decide
  refine ⟨unknown, by decide, accepted, ?_⟩
  exact ((accept_of_growth .empty directory ⟨"View", some "app"⟩ (some "Knob") unknown).2 given
    event .empty accepted).1

end RuleFilter

end SpokenFeedback
