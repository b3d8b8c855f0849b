import Mathlib.Data.List.Infix
import SpokenFeedback.Lineage.TypeTable

/-!
# Parent chains

The lineage of a type is computed by a walk that keeps the names it has visited and the room that
is left.  This module says what the walk computes without speaking of either: the names of a
lineage are the first distinct names of the parent chain, at most `Lineage.maxNames` of them.

`TypeTable.DeclaredAs` is the rule of shadowing, `TypeTable.ChainFrom` gives the finite beginnings
of a parent chain, which on a cycle may be as long as one likes.  `TypeTable.climb_eq` is the
invariant of the walk, and `TypeTable.mem_lineage?_iff` reads the names of a lineage off the chain.
-/

namespace SpokenFeedback

namespace TypeTable

/-! ## Declarations -/

/--
A name is declared with a parent, or with none, for a namespace: in the namespace, or globally if
the namespace does not declare it.
-/
inductive DeclaredAs (table : TypeTable) (name : String) :
    Option String → Option String → Prop where
  | within {space : String} {parent : Option String}
    (own : table.declaration? ⟨name, some space⟩ = some parent) :
    DeclaredAs table name (some space) parent
  | globally {within parent : Option String}
    (unshadowed : ∀ space ∈ within, table.declaration? ⟨name, some space⟩ = none)
    (shared : table.declaration? ⟨name, none⟩ = some parent) :
    DeclaredAs table name within parent

/-- A name is declared for a namespace. -/
def Declares (table : TypeTable) (name : String) (within : Option String) : Prop :=
  ∃ parent, table.DeclaredAs name within parent

variable {table : TypeTable} {name : String} {within : Option String}

theorem lookup_eq_some_iff {parent : Option String} :
    table.lookup name within = some parent ↔ table.DeclaredAs name within parent := by
  constructor
  · intro found
    cases within with
    | none => exact .globally (by simp) found
    | some space =>
      rw [lookup] at found
      rcases Option.or_eq_some_iff.1 found with own | ⟨unshadowed, shared⟩
      · exact .within own
      · exact .globally (by simpa using unshadowed) shared
  · intro declared
    cases declared with
    | within own => simp [lookup, own]
    | globally unshadowed shared =>
      cases within with
      | none => exact shared
      | some space => simp [lookup, unshadowed space rfl, shared]

theorem DeclaredAs.unique {parent other : Option String}
    (declared : table.DeclaredAs name within parent)
    (alsoDeclared : table.DeclaredAs name within other) : parent = other := by
  rw [← lookup_eq_some_iff] at declared alsoDeclared
  exact Option.some.inj (declared.symm.trans alsoDeclared)

theorem lookup_eq_none_iff : table.lookup name within = none ↔ ¬ table.Declares name within := by
  rw [Declares, Option.eq_none_iff_forall_ne_some, not_exists]
  simp only [ne_eq, lookup_eq_some_iff]

/-- A name has no lineage exactly if it is not declared. -/
theorem lineage?_eq_none_iff :
    table.lineage? name within = none ↔ ¬ table.Declares name within := by
  rw [lineage?, Option.map_eq_none_iff, lookup_eq_none_iff]

theorem lineage?_isSome_iff :
    (∃ lineage, table.lineage? name within = some lineage) ↔ table.Declares name within := by
  rw [← not_iff_not, ← lineage?_eq_none_iff, Option.eq_none_iff_forall_ne_some, not_exists]

theorem name_of_lineage? {lineage : Lineage} (found : table.lineage? name within = some lineage) :
    lineage.name = name := by
  rcases Option.map_eq_some_iff.1 found with ⟨parent, -, rfl⟩
  rfl

/-! ## Chains -/

/-- The beginnings of the parent chain of a name, with every parent looked up in one namespace. -/
inductive ChainFrom (table : TypeTable) (within : Option String) : String → List String → Prop where
  | start (name : String) : ChainFrom table within name [name]
  | step {name parent : String} {names : List String}
    (declared : table.DeclaredAs name within (some parent))
    (onwards : ChainFrom table within parent names) :
    ChainFrom table within name (name :: names)

theorem ChainFrom.mem_self {names : List String} (begun : table.ChainFrom within name names) :
    name ∈ names := by
  cases begun <;> exact List.mem_cons_self

/-- The parent of a name; none if it is not declared or is declared without parent. -/
def parent? (table : TypeTable) (within : Option String) (name : String) : Option String :=
  (table.lookup name within).bind id

/-- The beginning of a parent chain that has a given length, or the whole chain if it is shorter. -/
def chain (table : TypeTable) (within : Option String) : Nat → Option String → List String
  | 0, _ => []
  | _ + 1, none => []
  | length + 1, some name => name :: chain table within length (table.parent? within name)

theorem parent?_eq_some_iff {parent : String} :
    table.parent? within name = some parent ↔ table.DeclaredAs name within (some parent) := by
  rw [← lookup_eq_some_iff, parent?, Option.bind_eq_some_iff]
  simp

theorem chainFrom_chain (length : Nat) (name : String) :
    table.ChainFrom within name (table.chain within (length + 1) (some name)) := by
  induction length generalizing name with
  | zero => exact .start name
  | succ length ih =>
    rw [chain]
    cases next : table.parent? within name with
    | none => exact .start name
    | some parent => exact .step (parent?_eq_some_iff.1 next) (ih parent)

theorem ChainFrom.eq_chain {names : List String} (begun : table.ChainFrom within name names) :
    names = table.chain within names.length (some name) := by
  induction begun with
  | start name => rfl
  | step declared onwards ih =>
    rw [List.length_cons, chain, parent?_eq_some_iff.2 declared, ← ih]

theorem chain_prefix_of_le {short long : Nat} (shorter : short ≤ long) (start : Option String) :
    table.chain within short start <+: table.chain within long start := by
  induction short generalizing long start with
  | zero => exact List.nil_prefix
  | succ short ih =>
    cases long with
    | zero => exact absurd shorter (Nat.not_succ_le_zero short)
    | succ long =>
      cases start with
      | none => exact List.nil_prefix
      | some name =>
        rw [chain, chain, List.prefix_cons_inj]
        exact ih (Nat.le_of_succ_le_succ shorter) _

/-- A longer beginning of a chain has the distinct names of a shorter one before any others. -/
theorem distinct_chain_prefix_of_le (table : TypeTable) (within start : Option String)
    {short long : Nat} (shorter : short ≤ long) :
    (table.chain within short start).eraseDups <+: (table.chain within long start).eraseDups := by
  rcases chain_prefix_of_le shorter start with ⟨rest, extended⟩
  rw [← extended, List.eraseDups_append]
  exact List.prefix_append _ _

/-! ## The walk -/

/--
The names visited on a walk that stands at `start`: their parents are visited themselves, or are
where the walk stands.
-/
def Trail (table : TypeTable) (within : Option String) (seen : List String)
    (start : Option String) : Prop :=
  ∀ visited ∈ seen, ∀ parent, table.parent? within visited = some parent →
    parent ∈ seen ∨ start = some parent

namespace Trail

variable {seen : List String} {next : String}

/-- The walk goes on from a name to its parent. -/
theorem step (trail : table.Trail within seen (some next)) :
    table.Trail within (next :: seen) (table.parent? within next) := by
  intro visited member parent found
  rcases List.mem_cons.1 member with rfl | earlier
  · exact .inr found
  · rcases trail visited earlier parent found with known | here
    · exact .inl (List.mem_cons_of_mem next known)
    · exact .inl (Option.some.inj here ▸ List.mem_cons_self)

/-- A walk that is back at a visited name meets no other names from there. -/
theorem chain_subset (trail : table.Trail within seen (some next)) (back : next ∈ seen)
    (length : Nat) : table.chain within length (some next) ⊆ seen := by
  induction length generalizing next with
  | zero => exact List.nil_subset seen
  | succ length ih =>
    rw [chain]
    apply List.cons_subset.2 ⟨back, _⟩
    cases found : table.parent? within next with
    | none =>
      cases length <;> exact List.nil_subset seen
    | some parent =>
      have closed : ∀ visited ∈ seen, ∀ other, table.parent? within visited = some other →
          other ∈ seen := by
        intro visited member other isParent
        rcases trail visited member other isParent with known | here
        · exact known
        · exact Option.some.inj here ▸ back
      apply ih _ (closed next back parent found)
      intro visited member other isParent
      exact .inl (closed visited member other isParent)

end Trail

theorem climb_none (room : Nat) (seen : List String) :
    table.climb within room seen none = [] := by
  cases room <;> rfl

theorem climb_of_seen {next : String} {seen : List String} (visited : next ∈ seen) (room : Nat) :
    table.climb within room seen (some next) = [] := by
  cases room with
  | zero => rfl
  | succ room => rw [climb, if_pos visited]

theorem climb_of_fresh {next : String} {seen : List String} (fresh : next ∉ seen) (room : Nat) :
    table.climb within (room + 1) seen (some next) =
      next :: table.climb within room (next :: seen) (table.parent? within next) := by
  rw [climb, if_neg fresh, parent?]
  cases table.lookup next within with
  | none => exact congrArg _ (climb_none room _).symm
  | some parent => rfl

/--
The walk gives the distinct names of the chain that it has not visited, as many as there is room
for.
-/
theorem climb_eq (room : Nat) {seen : List String} {start : Option String}
    (trail : table.Trail within seen start) {length : Nat} (enough : room ≤ length) :
    table.climb within room seen start =
      ((table.chain within length start).filter (· ∉ seen)).eraseDups.take room := by
  induction room generalizing seen start length with
  | zero => rfl
  | succ room ih =>
    cases start with
    | none =>
      have nothing : table.chain within length none = [] := by cases length <;> rfl
      rw [climb_none, nothing]
      rfl
    | some next =>
      by_cases visited : next ∈ seen
      · have nothingNew : (table.chain within length (some next)).filter (· ∉ seen) = [] := by
          rw [List.filter_eq_nil_iff]
          intro name listed
          simpa using trail.chain_subset visited length listed
        rw [climb_of_seen visited, nothingNew]
        rfl
      · cases length with
        | zero => exact absurd enough (Nat.not_succ_le_zero room)
        | succ length =>
          have unseen : ∀ name, (!name == next && decide (name ∉ seen)) =
              decide (name ∉ next :: seen) := by
            intro name
            by_cases same : name = next <;> simp [same]
          rw [climb_of_fresh visited, ih trail.step (Nat.le_of_succ_le_succ enough), chain,
            List.filter_cons_of_pos (by simpa using visited), List.eraseDups_cons,
            List.take_succ_cons, List.filter_filter]
          simp only [unseen]

/-- The names of a lineage are the name and what the walk from its parent gives. -/
theorem names_eq_climb {lineage : Lineage} (found : table.lineage? name within = some lineage) :
    lineage.names =
      name :: table.climb within (Lineage.maxNames - 1) [name] (table.parent? within name) := by
  rcases Option.map_eq_some_iff.1 found with ⟨parent, declared, rfl⟩
  have next : table.parent? within name = parent := by rw [parent?, declared, Option.bind_some, id]
  rw [Lineage.names, next]

/-- The names of a lineage are the first distinct names of a long enough chain. -/
theorem names_of_lineage? {lineage : Lineage} (found : table.lineage? name within = some lineage)
    {length : Nat} (enough : Lineage.maxNames ≤ length) :
    lineage.names = (table.chain within length (some name)).eraseDups.take Lineage.maxNames := by
  have walked : table.climb within Lineage.maxNames [] (some name) =
      name :: table.climb within (Lineage.maxNames - 1) [name] (table.parent? within name) :=
    climb_of_fresh List.not_mem_nil _
  have unvisited : table.Trail within [] (some name) := fun _ member => nomatch member
  rw [names_eq_climb found, ← walked, climb_eq Lineage.maxNames unvisited enough]
  simp

/--
A name is in the lineage of a declared type exactly if it is among the first distinct names, up to
the greatest number, of some beginning of the parent chain.
-/
theorem mem_lineage?_iff {lineage : Lineage} (found : table.lineage? name within = some lineage)
    {other : String} :
    other ∈ lineage.names ↔
      ∃ names, table.ChainFrom within name names ∧
        other ∈ names.eraseDups.take Lineage.maxNames := by
  constructor
  · intro listed
    rw [names_of_lineage? found (Nat.le_refl _)] at listed
    exact ⟨_, chainFrom_chain (Lineage.maxNames - 1) name, listed⟩
  · rintro ⟨names, begun, listed⟩
    rw [begun.eq_chain] at listed
    rw [names_of_lineage? found (Nat.le_max_right names.length Lineage.maxNames)]
    have earlier := distinct_chain_prefix_of_le table within (some name)
      (Nat.le_max_left names.length Lineage.maxNames)
    exact (earlier.take Lineage.maxNames).mem listed

end TypeTable

end SpokenFeedback
