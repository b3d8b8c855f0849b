import SpokenFeedback.Condition.Evaluation
import SpokenFeedback.Condition.Specification
import SpokenFeedback.Proofs.Lineage.Misses

/-!
# Descent from accepted types

A condition on `className` accepts a candidate whose name it lists, and a candidate that descends
from a listed type.  Evaluation asks a directory that remembers unanswered questions while it is
asked, in an order that depends on the answers.

`TypeDirectory.Settles` says that an action on a directory has the result which the table alone
determines.  Evaluation asks one question after another and does nothing else, so that one proof,
`Condition.Follows.acceptsTypeBy`, serves evaluation by a table and by a directory.
`Condition.Descends` gives descent by parent chains, and `Condition.acceptsTypeIn_iff_reachable`
describes by it what conditions on both type properties accept.
-/

namespace SpokenFeedback

/-! ## Actions on a directory -/

namespace TypeDirectory

/-- Asks the directory, which may remember the question. -/
def ask (name : String) (within : Option String) : StateM TypeDirectory (Option Lineage) :=
  fun directory => directory.resolve name within

/-- On every directory of a table the action has the given result and keeps the table. -/
def Settles (table : TypeTable) (action : StateM TypeDirectory α) (result : α) : Prop :=
  ∀ directory : TypeDirectory, directory.table = table → directory.MissesUndeclared →
    (action.run directory).1 = result ∧ (action.run directory).2.table = table ∧
      (action.run directory).2.MissesUndeclared

namespace Settles

variable {table : TypeTable}

theorem pure (result : α) : Settles table (Pure.pure result) result := by
  intro directory sameTable undeclared
  exact ⟨rfl, sameTable, undeclared⟩

theorem bind {action : StateM TypeDirectory α} {next : α → StateM TypeDirectory β} {first : α}
    {second : β} (settled : Settles table action first)
    (nextSettled : Settles table (next first) second) : Settles table (action >>= next) second := by
  intro directory sameTable undeclared
  rcases settled directory sameTable undeclared with ⟨result, keptTable, keptUndeclared⟩
  change ((next (action.run directory).1).run (action.run directory).2).1 = second ∧
    ((next (action.run directory).1).run (action.run directory).2).2.table = table ∧
      ((next (action.run directory).1).run (action.run directory).2).2.MissesUndeclared
  rw [result]
  exact nextSettled _ keptTable keptUndeclared

theorem ask (name : String) (within : Option String) :
    Settles table (TypeDirectory.ask name within) (table.lineage? name within) := by
  rintro directory rfl undeclared
  exact ⟨undeclared.resolve_fst name within, directory.table_resolve name within,
    undeclared.resolve name within⟩

end Settles

end TypeDirectory

namespace Condition

/-- Whether a value meets a condition on types, where the directory is asked. -/
def acceptsTypeIn (condition : Condition) (directory : TypeDirectory) (value : Option Value)
    (eventSpace filterSpace : Option String) : Bool :=
  ((condition.acceptsTypeBy TypeDirectory.ask value eventSpace filterSpace).run directory).1

/-! ## Evaluation by a table -/

/-- Whether a resolved type descends from one of the names, each looked up in a namespace. -/
def isBelow (types : TypeResolver) (names : List String) (filterSpace : Option String)
    (candidate : Lineage) : Bool :=
  names.any fun name =>
    (types name filterSpace).any (·.isAssignableFrom (.declared candidate))

/-- Whether a value meets a condition by its name or, unless the condition is strict, by descent. -/
def isNamedOrBelow (condition : Condition) (types : TypeResolver) (value : Option Value)
    (eventSpace filterSpace : Option String) : Bool :=
  (candidateType? value).any fun name =>
    condition.names.contains name ||
      decide (condition.property ≠ .classNameStrict) &&
        (types name (candidateSpace? value eventSpace)).any
          (isBelow types condition.names filterSpace)

section Resolution

variable {m : Type → Type} [Monad m] {resolve : String → Option String → m (Option Lineage)}
  {types : TypeResolver} {Yields : m Bool → Bool → Prop}

/-- A relation between actions and results in which every question has the answer of a resolver. -/
structure Follows (resolve : String → Option String → m (Option Lineage)) (types : TypeResolver)
    (Yields : m Bool → Bool → Prop) : Prop where
  pure : ∀ result, Yields (Pure.pure result) result
  ask : ∀ name within next result, Yields (next (types name within)) result →
    Yields (resolve name within >>= next) result

theorem Follows.descends [LawfulMonad m] (follows : Follows resolve types Yields)
    (names : List String) (candidate : Lineage) (filterSpace : Option String) :
    Yields (descends resolve names candidate filterSpace)
      (isBelow types names filterSpace candidate) := by
  induction names with
  | nil => exact follows.pure false
  | cons name names ih =>
    rw [Condition.descends, List.anyM_cons, isBelow, List.any_cons, bind_assoc]
    apply follows.ask
    cases types name filterSpace with
    | none =>
      rw [pure_bind]
      exact ih
    | some accepted =>
      rw [pure_bind, Option.any_some]
      cases accepted.isAssignableFrom (.declared candidate) with
      | true => exact follows.pure true
      | false => exact ih

/-- A condition that names values is decided by the names if possible, and else by descent. -/
theorem acceptsTypeBy_eq (resolve : String → Option String → m (Option Lineage))
    {condition : Condition} (demanding : condition.isWildcard = false)
    (wellFormed : condition.diagnostic? = none) (value : Option Value)
    (eventSpace filterSpace : Option String) :
    condition.acceptsTypeBy resolve value eventSpace filterSpace =
      match candidateType? value with
      | none => pure false
      | some name =>
        if condition.names.contains name then pure true
        else if condition.property = .classNameStrict then pure false
        else
          resolve name (candidateSpace? value eventSpace) >>= fun answer =>
            match answer with
            | some candidate => descends resolve condition.names candidate filterSpace
            | none => pure false := by
  rcases condition with ⟨property, demand⟩
  rw [acceptsTypeBy]
  cases demand with
  | anything => cases demanding
  | malformed mode fault => cases wellFormed
  | equals accepted => cases candidateType? value <;> rfl
  | ordered relation bound => cases candidateType? value <;> rfl
  | oneOf accepted => cases candidateType? value <;> rfl

theorem Follows.acceptsTypeBy [LawfulMonad m] (follows : Follows resolve types Yields)
    {condition : Condition} (demanding : condition.isWildcard = false)
    (wellFormed : condition.diagnostic? = none) (value : Option Value)
    (eventSpace filterSpace : Option String) :
    Yields (condition.acceptsTypeBy resolve value eventSpace filterSpace)
      (condition.isNamedOrBelow types value eventSpace filterSpace) := by
  rw [acceptsTypeBy_eq resolve demanding wellFormed, isNamedOrBelow]
  cases candidateType? value with
  | none => exact follows.pure false
  | some name =>
    simp only [Option.any_some]
    by_cases literal : condition.names.contains name = true
    · rw [if_pos literal, literal]
      exact follows.pure true
    by_cases strict : condition.property = .classNameStrict
    · simp only [literal, strict]
      exact follows.pure false
    · simp only [literal, strict, ne_eq, not_false_eq_true, decide_true, Bool.true_and,
        Bool.false_or]
      apply follows.ask
      cases types name (candidateSpace? value eventSpace) with
      | none => exact follows.pure false
      | some candidate => exact follows.descends condition.names candidate filterSpace

end Resolution

variable {condition : Condition}

theorem acceptsType_eq (demanding : condition.isWildcard = false)
    (wellFormed : condition.diagnostic? = none) (value : Option Value)
    (eventSpace filterSpace : Option String) (types : TypeResolver) :
    condition.acceptsType value eventSpace filterSpace types =
      condition.isNamedOrBelow types value eventSpace filterSpace := by
  have follows : Follows (m := Id) (fun name within => pure (types name within)) types
      (fun action result => action.run = result) :=
    { pure := fun _ => rfl
      ask := fun _ _ _ _ same => same }
  exact follows.acceptsTypeBy demanding wellFormed value eventSpace filterSpace

/-! ## Evaluation by a directory -/

/-- Asking a directory gives what its table gives. -/
theorem settles_acceptsTypeBy (table : TypeTable) (demanding : condition.isWildcard = false)
    (wellFormed : condition.diagnostic? = none) (value : Option Value)
    (eventSpace filterSpace : Option String) :
    TypeDirectory.Settles table
      (condition.acceptsTypeBy TypeDirectory.ask value eventSpace filterSpace)
      (condition.isNamedOrBelow table.lineage? value eventSpace filterSpace) := by
  have follows : Follows TypeDirectory.ask table.lineage? (TypeDirectory.Settles table) :=
    { pure := .pure
      ask := fun name within _ _ => (TypeDirectory.Settles.ask name within).bind }
  exact follows.acceptsTypeBy demanding wellFormed value eventSpace filterSpace

/-- What a directory remembers while it is asked makes no difference to evaluation. -/
theorem acceptsTypeIn_eq {directory : TypeDirectory} (reachable : directory.Reachable)
    (demanding : condition.isWildcard = false) (wellFormed : condition.diagnostic? = none)
    (value : Option Value) (eventSpace filterSpace : Option String) :
    condition.acceptsTypeIn directory value eventSpace filterSpace =
      condition.acceptsType value eventSpace filterSpace directory.resolver := by
  have undeclared := reachable.missesUndeclared
  have settled := settles_acceptsTypeBy directory.table demanding wellFormed value eventSpace
    filterSpace directory rfl undeclared
  rw [undeclared.resolver_eq, acceptsType_eq demanding wellFormed]
  exact settled.1

/-! ## Candidates and their chains -/

/-- The type that a value names; a text names it without a namespace. -/
inductive Candidate : Option Value → TypeName → Prop where
  | text {name : String} (filled : name ≠ "") : Candidate (some (.text name)) ⟨name, none⟩
  | type {named : TypeName} (filled : named.name ≠ "") : Candidate (some (.type named)) named

theorem any_candidateType?_iff (value : Option Value) (eventSpace : Option String)
    (accepts : String → Option String → Bool) :
    ((candidateType? value).any fun name => accepts name (candidateSpace? value eventSpace)) =
        true ↔
      ∃ named, Candidate value named ∧
        accepts named.name (named.within.or eventSpace) = true := by
  constructor
  · intro accepted
    rcases (Option.any_eq_true _ _).1 accepted with ⟨name, found, holds⟩
    rcases Option.filter_eq_some_iff.1 found with ⟨present, filled⟩
    have someName : name ≠ "" := by simpa using filled
    rcases Option.bind_eq_some_iff.1 present with ⟨given, rfl, shown⟩
    cases given with
    | text content =>
      rcases Option.some.inj shown with rfl
      exact ⟨_, .text someName, holds⟩
    | type named =>
      rcases Option.some.inj shown with rfl
      exact ⟨named, .type someName, holds⟩
    | bool truth => cases shown
    | int number => cases shown
    | float number => cases shown
  · rintro ⟨named, candidate, holds⟩
    cases candidate with
    | text filled =>
      simpa [candidateType?, candidateSpace?, Value.text?, Value.type?, filled] using holds
    | type filled =>
      simpa [candidateType?, candidateSpace?, Value.text?, Value.type?, filled] using holds

theorem isBelow_lineage?_iff {table : TypeTable} {names : List String}
    {filterSpace : Option String} {candidate : Lineage} :
    isBelow table.lineage? names filterSpace candidate = true ↔
      ∃ ancestor ∈ names, table.Declares ancestor filterSpace ∧ ancestor ∈ candidate.names := by
  rw [isBelow, List.any_eq_true]
  apply exists_congr
  intro ancestor
  rw [Option.any_eq_true, ← TypeTable.lineage?_isSome_iff]
  constructor
  · rintro ⟨member, accepted, found, above⟩
    refine ⟨member, ⟨accepted, found⟩, ?_⟩
    rw [← TypeTable.name_of_lineage? found]
    exact List.contains_iff_mem.1 above
  · rintro ⟨member, ⟨accepted, found⟩, above⟩
    refine ⟨member, accepted, found, ?_⟩
    rw [← TypeTable.name_of_lineage? found] at above
    exact List.contains_iff_mem.2 above

/-- A candidate descends from one of the names along the parent chain of its own type. -/
structure Descends (table : TypeTable) (names : List String) (filterSpace : Option String)
    (type : TypeName) : Prop where
  declared : table.Declares type.name type.within
  above : ∃ ancestor ∈ names, table.Declares ancestor filterSpace ∧
    ∃ chain, table.ChainFrom type.within type.name chain ∧ ancestor ∈ chain.eraseDups.take 64

theorem any_isBelow_iff {table : TypeTable} {names : List String} {filterSpace : Option String}
    {type : TypeName} :
    (table.lineage? type.name type.within).any (isBelow table.lineage? names filterSpace) = true ↔
      Descends table names filterSpace type := by
  rw [Option.any_eq_true]
  constructor
  · rintro ⟨lineage, found, below⟩
    rcases isBelow_lineage?_iff.1 below with ⟨ancestor, member, known, listed⟩
    refine ⟨TypeTable.lineage?_isSome_iff.1 ⟨lineage, found⟩, ancestor, member, known, ?_⟩
    exact (TypeTable.mem_lineage?_iff found).1 listed
  · rintro ⟨declared, ancestor, member, known, chained⟩
    rcases TypeTable.lineage?_isSome_iff.2 declared with ⟨lineage, found⟩
    refine ⟨lineage, found, isBelow_lineage?_iff.2 ⟨ancestor, member, known, ?_⟩⟩
    exact (TypeTable.mem_lineage?_iff found).2 chained

/-- A condition accepts the candidates that it names and, unless strict, their descendants. -/
theorem acceptsTypeIn_iff {directory : TypeDirectory} (reachable : directory.Reachable)
    (demanding : condition.isWildcard = false) (wellFormed : condition.diagnostic? = none)
    {value : Option Value} {eventSpace filterSpace : Option String} :
    condition.acceptsTypeIn directory value eventSpace filterSpace = true ↔
      ∃ named, Candidate value named ∧
        (named.name ∈ condition.names ∨
          condition.property ≠ .classNameStrict ∧
            Descends directory.table condition.names filterSpace
              ⟨named.name, named.within.or eventSpace⟩) := by
  rw [acceptsTypeIn_eq reachable demanding wellFormed, acceptsType_eq demanding wellFormed,
    reachable.missesUndeclared.resolver_eq, isNamedOrBelow,
    any_candidateType?_iff value eventSpace fun name within =>
      condition.names.contains name ||
        decide (condition.property ≠ .classNameStrict) &&
          (directory.table.lineage? name within).any
            (isBelow directory.table.lineage? condition.names filterSpace)]
  apply exists_congr
  intro named
  rw [Bool.or_eq_true, Bool.and_eq_true, List.contains_iff_mem, decide_eq_true_iff,
    ← any_isBelow_iff]

/-! ## Specifications of types -/

theorem isWildcard_ofSpecification (property : Property) (specification : String) :
    (ofSpecification property specification).isWildcard = false := by
  rw [isWildcard, decide_eq_false_iff_not, ofSpecification, Specification.demand]
  split
  next relation bound _ =>
    cases Literal.read property (Text.trim (String.ofList bound)) <;> exact nofun
  next =>
    split
    · cases Specification.readAlternatives property specification
        (Text.cutBars specification.toList) <;> exact nofun
    · cases Literal.read property specification <;> exact nofun

theorem readAlternatives_classNameStrict {specification : String} {pieces : List (List Char)}
    {values : List Value}
    (read : Specification.readAlternatives .className specification pieces = .ok values) :
    Specification.readAlternatives .classNameStrict specification pieces = .ok values := by
  induction pieces generalizing values with
  | nil => exact read
  | cons piece pieces ih =>
    rw [Specification.readAlternatives, Specification.readAlternative] at read ⊢
    cases trimmed : Text.trimChars piece with
    | nil =>
      rw [trimmed] at read
      cases read
    | cons first others =>
      rw [trimmed] at read
      cases readOthers : Specification.readAlternatives .className specification pieces with
      | error fault =>
        rw [readOthers] at read
        cases read
      | ok rest =>
        rw [readOthers] at read
        rw [ih readOthers]
        exact read

/-- A well-formed specification demands the same of both type properties. -/
theorem demand_classNameStrict {specification : String}
    (wellFormed : (ofSpecification .className specification).diagnostic? = none) :
    Specification.demand .classNameStrict specification =
      Specification.demand .className specification := by
  rw [ofSpecification, diagnostic?] at wellFormed
  have unordered : ∀ property : Property, property.kind = .typeName →
      Specification.demand property specification =
        if Text.hasBars specification.toList then
          Specification.demandOf .oneOf .oneOf
            (Specification.readAlternatives property specification
              (Text.cutBars specification.toList))
        else .equals (.type ⟨specification, none⟩) := by
    intro property ofType
    rw [Specification.demand, Specification.relationFor?, Literal.read, ofType]
    rfl
  rw [unordered .className rfl] at wellFormed ⊢
  rw [unordered .classNameStrict rfl]
  by_cases alternatives : Text.hasBars specification.toList = true
  · rw [if_pos alternatives] at wellFormed ⊢
    rw [if_pos alternatives]
    cases read : Specification.readAlternatives .className specification
        (Text.cutBars specification.toList) with
    | error fault =>
      rw [read] at wellFormed
      cases wellFormed
    | ok values => rw [readAlternatives_classNameStrict read]
  · rw [if_neg alternatives, if_neg alternatives]

/--
A well-formed condition on `className` accepts exactly the candidates that it names and those that
are declared and have a declared type of its names among the first distinct names of their parent
chain, wherever the directory stands and whatever it remembers.  The same specification on
`classNameStrict` accepts exactly the candidates that it names, and so no others.
-/
theorem acceptsTypeIn_iff_reachable {directory : TypeDirectory} (reachable : directory.Reachable)
    {specification : String}
    (wellFormed : (ofSpecification .className specification).diagnostic? = none)
    (value : Option Value) (eventSpace filterSpace : Option String) :
    let condition := ofSpecification .className specification
    let strict := ofSpecification .classNameStrict specification
    (condition.acceptsTypeIn directory value eventSpace filterSpace = true ↔
        ∃ named, Candidate value named ∧
          (named.name ∈ condition.names ∨
            Descends directory.table condition.names filterSpace
              ⟨named.name, named.within.or eventSpace⟩)) ∧
      (strict.acceptsTypeIn directory value eventSpace filterSpace = true ↔
        ∃ named, Candidate value named ∧ named.name ∈ condition.names) ∧
      (strict.acceptsTypeIn directory value eventSpace filterSpace = true →
        condition.acceptsTypeIn directory value eventSpace filterSpace = true) := by
  intro condition strict
  have strict_eq : strict = ⟨.classNameStrict, condition.demand⟩ :=
    congrArg (Condition.mk .classNameStrict) (demand_classNameStrict wellFormed)
  have sameNames : strict.names = condition.names := by
    rw [strict_eq]
    rfl
  have strictWellFormed : strict.diagnostic? = none := by
    rw [strict_eq]
    exact wellFormed
  have accepts : condition.acceptsTypeIn directory value eventSpace filterSpace = true ↔
      ∃ named, Candidate value named ∧
        (named.name ∈ condition.names ∨
          Descends directory.table condition.names filterSpace
            ⟨named.name, named.within.or eventSpace⟩) := by
    rw [acceptsTypeIn_iff reachable (isWildcard_ofSpecification _ _) wellFormed]
    apply exists_congr
    intro named
    apply and_congr_right
    intro _
    exact or_congr_right (and_iff_right nofun)
  have strictAccepts : strict.acceptsTypeIn directory value eventSpace filterSpace = true ↔
      ∃ named, Candidate value named ∧ named.name ∈ condition.names := by
    rw [acceptsTypeIn_iff reachable (isWildcard_ofSpecification _ _) strictWellFormed]
    apply exists_congr
    intro named
    apply and_congr_right
    intro _
    rw [sameNames]
    exact or_iff_left fun further => further.1 rfl
  refine ⟨accepts, strictAccepts, ?_⟩
  intro strictly
  rcases strictAccepts.1 strictly with ⟨named, candidate, listed⟩
  exact accepts.2 ⟨named, candidate, .inl listed⟩

/-- A type of a namespace is accepted for its parent, after it was missed outside the namespace. -/
theorem acceptsTypeIn_parent_in_own_namespace :
    ∃ directory : TypeDirectory, directory.Reachable ∧ directory.missCount = 1 ∧
      (ofSpecification .className "View || Dial").diagnostic? = none ∧
      (ofSpecification .className "View || Dial").acceptsTypeIn directory
        (some (.type ⟨"Knob", some "app"⟩)) (some "other") none = true := by
  let declared := ((TypeDirectory.empty 2).declare ⟨"View", none⟩ none).declare
    ⟨"Knob", some "app"⟩ (some "View")
  have reachable : (declared.resolve "Knob" none).2.Reachable :=
    (((TypeDirectory.Reachable.empty 2).declare _ _).declare _ _).resolve _ _
  have wellFormed : (ofSpecification .className "View || Dial").diagnostic? = none := by decide
  have listed : "View" ∈ (ofSpecification .className "View || Dial").names := by decide
  refine ⟨_, reachable, by decide, wellFormed, ?_⟩
  apply (acceptsTypeIn_iff_reachable reachable wellFormed _ _ _).1.2
  refine ⟨⟨"Knob", some "app"⟩, .type (by decide), .inr ⟨⟨some "View", .within (by decide)⟩, ?_⟩⟩
  refine ⟨"View", listed, ⟨none, .globally nofun (by decide)⟩, ["Knob", "View"], ?_, by decide⟩
  exact .step (.within (by decide)) (.start "View")

end Condition

end SpokenFeedback
