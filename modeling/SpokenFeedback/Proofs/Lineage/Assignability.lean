import Mathlib.Data.List.Perm.Subperm
import SpokenFeedback.Proofs.Lineage.Misses

/-!
# Assignability

A resolved type stands for its ancestors: one of its lineage is assignable from it.  Every resolved
type brings a lineage of its own, from a walk of its own that may have been cut off, so that
assignability is an order only as far as lineages are whole.

`TypeTable.IsAbove` is the order that the parent chains give, and whole chains are whole lineages
(`TypeTable.mem_names_iff_isAbove`).  On a cycle every name is above every other
(`TypeTable.IsCycle.isAbove`), and without cycles no two names are above each other
(`TypeTable.Acyclic.eq_of_isAbove`).  `TypeDirectory.isAssignable_preorder` says what follows for
types that are resolved in one namespace.
-/

namespace SpokenFeedback

theorem List.nodup_eraseDups {α : Type} [BEq α] [LawfulBEq α] (entries : List α) :
    entries.eraseDups.Nodup := by
  -- Each entry is kept once and filtered out of the rest, which so becomes shorter.
  induction length : entries.length using Nat.strongRecOn generalizing entries with
  | ind count ih =>
    cases entries with
    | nil => exact List.nodup_nil
    | cons entry entries =>
      rw [List.eraseDups_cons, List.nodup_cons, List.mem_eraseDups, List.mem_filter]
      refine ⟨by simp, ih _ ?_ _ rfl⟩
      rw [← length, List.length_cons]
      exact Nat.lt_succ_of_le (List.length_filter_le _ _)

namespace TypeTable

/-- The upper name is on the parent chain of the lower one, perhaps as the lower one itself. -/
def IsAbove (table : TypeTable) (within : Option String) (upper lower : String) : Prop :=
  ∃ names, table.ChainFrom within lower names ∧ upper ∈ names

/-- The parent chain of a name visits no more than so many distinct names. -/
def VisitsAtMost (table : TypeTable) (within : Option String) (count : Nat) (name : String) :
    Prop :=
  ∀ names, table.ChainFrom within name names → names.eraseDups.length ≤ count

/-- No parent chain comes back to a name that it has visited. -/
def Acyclic (table : TypeTable) (within : Option String) : Prop :=
  ∀ name names, table.ChainFrom within name names → names.Nodup

/-- The parent of each of the names is the next one, and that of the last is the first. -/
def IsCycle (table : TypeTable) (within : Option String) (names : List String) : Prop :=
  ∃ first rest, names = first :: rest ∧ table.ChainFrom within first (names ++ [first])

variable {table : TypeTable} {within : Option String} {name upper middle lower : String}
  {names others cycle : List String}

/-! ## Chains put together -/

namespace ChainFrom

/-- A chain may go on from any of its names as the chain of that name does. -/
theorem continued (begun : table.ChainFrom within lower names) (member : upper ∈ names)
    (onwards : table.ChainFrom within upper others) :
    ∃ before, table.ChainFrom within lower (before ++ others) ∧
      (lower = upper ∨ lower ∈ before) := by
  induction begun with
  | start name =>
    rcases List.mem_singleton.1 member with rfl
    exact ⟨[], onwards, .inl rfl⟩
  | @step name parent names declared _ ih =>
    rcases List.mem_cons.1 member with rfl | later
    · exact ⟨[], onwards, .inl rfl⟩
    · rcases ih later with ⟨before, chain, -⟩
      exact ⟨name :: before, .step declared chain, .inr List.mem_cons_self⟩

/-- The last name of a chain is above all of its names. -/
theorem isAbove_of_getLast? (begun : table.ChainFrom within name names) {last visited : String}
    (ends : names.getLast? = some last) (member : visited ∈ names) :
    table.IsAbove within last visited := by
  induction begun with
  | start name =>
    rcases List.mem_singleton.1 member with rfl
    exact ⟨[visited], .start visited, List.mem_of_getLast? ends⟩
  | @step name parent names declared onwards ih =>
    rcases List.mem_cons.1 member with rfl | later
    · exact ⟨visited :: names, .step declared onwards, List.mem_of_getLast? ends⟩
    · refine ih ?_ later
      rcases List.exists_cons_of_ne_nil (List.ne_nil_of_mem later) with ⟨first, rest, rfl⟩
      rwa [List.getLast?_cons_cons] at ends

/-- Every name of a chain but the last has its parent further on. -/
theorem exists_parent (begun : table.ChainFrom within name names) {visited : String}
    (member : visited ∈ names.dropLast) :
    ∃ parent ∈ names.tail, table.DeclaredAs visited within (some parent) := by
  induction begun with
  | start name => cases member
  | @step name parent names declared onwards ih =>
    rw [List.dropLast_cons_of_ne_nil (List.ne_nil_of_mem onwards.mem_self)] at member
    rcases List.mem_cons.1 member with rfl | later
    · exact ⟨parent, onwards.mem_self, declared⟩
    · rcases ih later with ⟨next, further, isParent⟩
      exact ⟨next, List.mem_of_mem_tail further, isParent⟩

end ChainFrom

theorem IsAbove.trans (first : table.IsAbove within upper middle)
    (second : table.IsAbove within middle lower) : table.IsAbove within upper lower := by
  rcases first with ⟨others, onwards, above⟩
  rcases second with ⟨names, begun, member⟩
  rcases begun.continued member onwards with ⟨before, chain, -⟩
  exact ⟨before ++ others, chain, List.mem_append_right before above⟩

/-- Without cycles no two names are above each other. -/
theorem Acyclic.eq_of_isAbove (acyclic : table.Acyclic within)
    (first : table.IsAbove within upper lower) (second : table.IsAbove within lower upper) :
    upper = lower := by
  rcases first with ⟨others, onwards, returned⟩
  rcases second with ⟨names, begun, member⟩
  rcases begun.continued member onwards with ⟨before, chain, same | early⟩
  · exact same
  · have apart := (List.nodup_append.1 (acyclic upper _ chain)).2.2
    exact absurd rfl (apart upper early upper returned)

/-! ## Whole lineages -/

theorem isAbove_of_mem_names {lineage : Lineage}
    (found : table.lineage? lower within = some lineage) (listed : upper ∈ lineage.names) :
    table.IsAbove within upper lower := by
  rcases (mem_lineage?_iff found).1 listed with ⟨names, begun, member⟩
  exact ⟨names, begun, List.mem_eraseDups.1 (List.mem_of_mem_take member)⟩

/-- A lineage holds the whole parent chain if it has room for its names. -/
theorem mem_names_iff_isAbove {lineage : Lineage}
    (found : table.lineage? lower within = some lineage)
    (short : table.VisitsAtMost within Lineage.maxNames lower) :
    upper ∈ lineage.names ↔ table.IsAbove within upper lower := by
  constructor
  · exact isAbove_of_mem_names found
  · rintro ⟨names, begun, member⟩
    refine (mem_lineage?_iff found).2 ⟨names, begun, ?_⟩
    rw [List.take_of_length_le (short names begun)]
    exact List.mem_eraseDups.2 member

/-! ## Cycles -/

namespace IsCycle

theorem parent_mem (closed : table.IsCycle within cycle) (member : name ∈ cycle)
    {parent : String} (declared : table.DeclaredAs name within (some parent)) :
    parent ∈ cycle := by
  rcases closed with ⟨first, rest, rfl, chain⟩
  rcases chain.exists_parent (by rwa [List.dropLast_concat]) with ⟨next, further, isParent⟩
  rcases Option.some.inj (declared.unique isParent) with rfl
  rcases List.mem_append.1 further with inRest | back
  · exact List.mem_cons_of_mem first inRest
  · exact List.mem_singleton.1 back ▸ List.mem_cons_self

/-- A chain that is on a cycle stays there. -/
theorem chain_subset (closed : table.IsCycle within cycle) (member : name ∈ cycle)
    (begun : table.ChainFrom within name names) : names ⊆ cycle := by
  induction begun with
  | start name => exact List.cons_subset.2 ⟨member, List.nil_subset cycle⟩
  | step declared _ ih =>
    exact List.cons_subset.2 ⟨member, ih (closed.parent_mem member declared)⟩

theorem visitsAtMost (closed : table.IsCycle within cycle) (member : name ∈ cycle) :
    table.VisitsAtMost within cycle.length name := by
  intro names begun
  have onCycle : names.eraseDups ⊆ cycle := fun visited listed =>
    closed.chain_subset member begun (List.mem_eraseDups.1 listed)
  exact (List.subperm_of_subset (List.nodup_eraseDups names) onCycle).length_le

/-- On a cycle every name is above every other. -/
theorem isAbove (closed : table.IsCycle within cycle) (first : upper ∈ cycle)
    (second : lower ∈ cycle) : table.IsAbove within upper lower := by
  rcases closed with ⟨start, rest, rfl, chain⟩
  have fromStart : table.IsAbove within upper start :=
    ⟨_, chain, List.mem_append_left [start] first⟩
  have toStart : table.IsAbove within start lower :=
    chain.isAbove_of_getLast? List.getLast?_concat (List.mem_append_left [start] second)
  exact fromStart.trans toStart

theorem declares (closed : table.IsCycle within cycle) (member : name ∈ cycle) :
    table.Declares name within := by
  rcases closed with ⟨first, rest, rfl, chain⟩
  rcases chain.exists_parent (by rwa [List.dropLast_concat]) with ⟨parent, -, declared⟩
  exact ⟨some parent, declared⟩

end IsCycle

end TypeTable

/-! ## Resolved types -/

namespace TypeDirectory

/-- Two names resolve in a namespace, and the upper type is assignable from the lower one. -/
def IsAssignable (directory : TypeDirectory) (within : Option String) (upper lower : String) :
    Prop :=
  ∃ above below, (directory.resolve upper within).1 = some above ∧
    (directory.resolve lower within).1 = some below ∧
      above.isAssignableFrom (.declared below) = true

variable {directory : TypeDirectory} {within : Option String} {upper lower : String}

/-- A type is assignable from those that have its name in their lineages. -/
theorem isAssignable_iff (reachable : directory.Reachable) :
    directory.IsAssignable within upper lower ↔
      directory.table.Declares upper within ∧
        ∃ below, directory.table.lineage? lower within = some below ∧ upper ∈ below.names := by
  simp only [IsAssignable, reachable.missesUndeclared.resolve_fst]
  constructor
  · rintro ⟨above, below, foundAbove, foundBelow, assignable⟩
    refine ⟨TypeTable.lineage?_isSome_iff.1 ⟨above, foundAbove⟩, below, foundBelow, ?_⟩
    rw [← TypeTable.name_of_lineage? foundAbove]
    exact List.contains_iff_mem.1 assignable
  · rintro ⟨declared, below, foundBelow, listed⟩
    rcases TypeTable.lineage?_isSome_iff.2 declared with ⟨above, foundAbove⟩
    refine ⟨above, below, foundAbove, foundBelow, ?_⟩
    rw [← TypeTable.name_of_lineage? foundAbove] at listed
    exact List.contains_iff_mem.2 listed

theorem IsAssignable.isAbove (reachable : directory.Reachable)
    (assignable : directory.IsAssignable within upper lower) :
    directory.table.IsAbove within upper lower := by
  rcases (isAssignable_iff reachable).1 assignable with ⟨-, below, found, listed⟩
  exact TypeTable.isAbove_of_mem_names found listed

/-- Where lineages are whole, a type is assignable from what it is above. -/
theorem isAssignable_of_isAbove (reachable : directory.Reachable)
    (short : directory.table.VisitsAtMost within Lineage.maxNames lower)
    (upperDeclared : directory.table.Declares upper within)
    (lowerDeclared : directory.table.Declares lower within)
    (above : directory.table.IsAbove within upper lower) :
    directory.IsAssignable within upper lower := by
  rcases TypeTable.lineage?_isSome_iff.2 lowerDeclared with ⟨below, found⟩
  refine (isAssignable_iff reachable).2 ⟨upperDeclared, below, found, ?_⟩
  exact (TypeTable.mem_names_iff_isAbove found short).2 above

/--
Within one namespace every declared type is assignable from itself, and assignability passes on to a
third type if the chain of the lowest one visits at most 64 names, whatever cycles there are.  The
types of a cycle of at most 64 names are assignable from each other; where there are no cycles, only
a type and itself are.
-/
theorem isAssignable_preorder (reachable : directory.Reachable) (within : Option String) :
    (∀ name, directory.table.Declares name within → directory.IsAssignable within name name) ∧
      (∀ first second third, directory.table.VisitsAtMost within 64 third →
        directory.IsAssignable within first second → directory.IsAssignable within second third →
          directory.IsAssignable within first third) ∧
      (∀ cycle, directory.table.IsCycle within cycle → cycle.length ≤ 64 →
        ∀ first ∈ cycle, ∀ second ∈ cycle, directory.IsAssignable within first second) ∧
      (directory.table.Acyclic within → ∀ first second,
        directory.IsAssignable within first second → directory.IsAssignable within second first →
          first = second) := by
  refine ⟨?_, ?_, ?_, ?_⟩
  · intro name declared
    rcases TypeTable.lineage?_isSome_iff.2 declared with ⟨lineage, found⟩
    refine (isAssignable_iff reachable).2 ⟨declared, lineage, found, ?_⟩
    rw [Lineage.names, TypeTable.name_of_lineage? found]
    exact List.mem_cons_self
  · intro first second third short upper lower
    rcases (isAssignable_iff reachable).1 upper with ⟨firstDeclared, -⟩
    rcases (isAssignable_iff reachable).1 lower with ⟨-, below, found, -⟩
    have above := (upper.isAbove reachable).trans (lower.isAbove reachable)
    exact isAssignable_of_isAbove reachable short firstDeclared
      (TypeTable.lineage?_isSome_iff.1 ⟨below, found⟩) above
  · intro cycle closed fits first upper second lower
    have short : directory.table.VisitsAtMost within Lineage.maxNames second :=
      fun names begun => (closed.visitsAtMost lower names begun).trans fits
    exact isAssignable_of_isAbove reachable short (closed.declares upper) (closed.declares lower)
      (closed.isAbove upper lower)
  · intro acyclic first second upper lower
    exact acyclic.eq_of_isAbove (upper.isAbove reachable) (lower.isAbove reachable)

/-- A cycle may close through a declaration of the namespace, and is none outside of it. -/
theorem isAssignable_around_cycle :
    ∃ directory : TypeDirectory, directory.Reachable ∧
      directory.table.IsCycle (some "app") ["Knob", "Dial"] ∧
      directory.IsAssignable (some "app") "Knob" "Dial" ∧
      directory.IsAssignable (some "app") "Dial" "Knob" ∧
      ¬ directory.IsAssignable none "Dial" "Knob" := by
  let declared := ((TypeDirectory.empty 2).declare ⟨"Dial", none⟩ (some "Knob")).declare
    ⟨"Knob", none⟩ none
  have reachable : (declared.declare ⟨"Knob", some "app"⟩ (some "Dial")).Reachable :=
    (((TypeDirectory.Reachable.empty 2).declare _ _).declare _ _).declare _ _
  have closed : (declared.declare ⟨"Knob", some "app"⟩ (some "Dial")).table.IsCycle (some "app")
      ["Knob", "Dial"] :=
    ⟨"Knob", ["Dial"], rfl, .step (.within (by decide))
      (.step (.globally (by decide) (by decide)) (.start "Knob"))⟩
  rcases isAssignable_preorder reachable (some "app") with ⟨-, -, around, -⟩
  refine ⟨_, reachable, closed, ?_, ?_, ?_⟩
  · exact around _ closed (by decide) "Knob" (by decide) "Dial" (by decide)
  · exact around _ closed (by decide) "Dial" (by decide) "Knob" (by decide)
  · intro outside
    rcases (isAssignable_iff reachable).1 outside with ⟨-, below, found, listed⟩
    have alone : (declared.declare ⟨"Knob", some "app"⟩ (some "Dial")).table.lineage? "Knob" none =
        some ⟨"Knob", []⟩ := by decide
    rcases Option.some.inj (alone.symm.trans found) with rfl
    exact absurd listed (by decide)

end TypeDirectory

end SpokenFeedback
