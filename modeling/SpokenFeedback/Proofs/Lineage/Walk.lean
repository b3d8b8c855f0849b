import Mathlib.Data.List.Nodup
import Mathlib.Logic.Relation
import SpokenFeedback.Proofs.Lineage.Misses

/-!
# The walk along parents

A lineage is found by a walk from parent to parent that keeps the names it has passed.
`TypeTable.Step` is one step of it: to the parent of the last name, if the parent is new and there
is room for it.

Every step takes some of the room, and so no walk goes on for ever (`TypeTable.wellFounded_step`).
What is true of the names at the start stays true with each step (`TypeTable.Passed.step`), and a
walk stops for one of the reasons of `TypeTable.EndsAt`.  A lineage is where the walk from its name
stops (`TypeTable.reaches_lineage?`); `TypeDirectory.resolve_walks_parents` says what follows for
the answers of a directory.
-/

namespace SpokenFeedback

namespace TypeTable

/-- A walk goes on to the parent of its last name, if the parent is new and there is room for it. -/
inductive Step (table : TypeTable) (within : Option String) : List String → List String → Prop where
  | onward {passed : List String} {last parent : String} (stands : passed.getLast? = some last)
    (declared : table.DeclaredAs last within (some parent)) (fresh : parent ∉ passed)
    (room : passed.length < Lineage.maxNames) : Step table within passed (passed ++ [parent])

/-- Why a walk that has passed these names, the given one being the last, goes no further. -/
inductive EndsAt (table : TypeTable) (within : Option String) (passed : List String)
    (last : String) : Prop where
  | parentless (declared : table.DeclaredAs last within none)
  | undeclared (unknown : ¬ table.Declares last within)
  | returning {parent : String} (declared : table.DeclaredAs last within (some parent))
    (back : parent ∈ passed)
  | full (taken : passed.length = Lineage.maxNames)

/-- The names that a walk has passed: each the parent of the one before, and none of them twice. -/
structure Passed (table : TypeTable) (within : Option String) (name : String)
    (passed : List String) : Prop where
  begun : table.ChainFrom within name passed
  distinct : passed.Nodup
  bounded : passed.length ≤ Lineage.maxNames

variable {table : TypeTable} {within : Option String} {name last parent : String}
  {passed longer seen : List String} {lineage : Lineage}

/-! ## One step -/

theorem ChainFrom.concat (begun : table.ChainFrom within name passed)
    (stands : passed.getLast? = some last)
    (declared : table.DeclaredAs last within (some parent)) :
    table.ChainFrom within name (passed ++ [parent]) := by
  induction begun with
  | start name =>
    rcases Option.some.inj stands with rfl
    exact .step declared (.start parent)
  | step next onwards ih =>
    rcases List.exists_cons_of_ne_nil (List.ne_nil_of_mem onwards.mem_self) with ⟨first, rest, rfl⟩
    rw [List.getLast?_cons_cons] at stands
    exact .step next (ih stands)

namespace Step

theorem length_eq (onward : table.Step within passed longer) :
    longer.length = passed.length + 1 := by
  cases onward
  rw [List.length_append, List.length_singleton]

theorem length_lt (onward : table.Step within passed longer) :
    passed.length < Lineage.maxNames := by
  cases onward
  assumption

end Step

namespace Passed

theorem start (table : TypeTable) (within : Option String) (name : String) :
    table.Passed within name [name] :=
  ⟨.start name, List.nodup_singleton name, Nat.succ_le_of_lt (by decide)⟩

/-- A step keeps what is true of the names. -/
theorem step (sofar : table.Passed within name passed) (onward : table.Step within passed longer) :
    table.Passed within name longer := by
  have bounded : longer.length ≤ Lineage.maxNames := onward.length_eq ▸ onward.length_lt
  rcases onward with ⟨stands, declared, fresh, -⟩
  refine ⟨sofar.begun.concat stands declared, ?_, bounded⟩
  rw [← List.concat_eq_append]
  exact sofar.distinct.concat fresh

/-- And so does a walk of any number of steps. -/
theorem reached (walked : Relation.ReflTransGen (table.Step within) [name] passed) :
    table.Passed within name passed := by
  induction walked with
  | refl => exact start table within name
  | tail _ onward ih => exact ih.step onward

end Passed

/-- No walk goes on for ever, whatever the table and wherever the walk begins. -/
theorem wellFounded_step (table : TypeTable) (within : Option String) :
    WellFounded fun longer passed => table.Step within passed longer := by
  let room (passed : List String) : Nat := Lineage.maxNames - passed.length
  refine Subrelation.wf (r := InvImage (· < ·) room) ?_ (InvImage.wf room Nat.lt_wfRel.wf)
  intro longer passed onward
  have longerByOne := onward.length_eq
  have enough := onward.length_lt
  simp only [InvImage, room]
  omega

/-! ## The end of a walk -/

/-- A walk stops where there is a reason to, and nowhere else. -/
theorem stopped_iff (stands : passed.getLast? = some last)
    (bounded : passed.length ≤ Lineage.maxNames) :
    (∀ longer, ¬ table.Step within passed longer) ↔ table.EndsAt within passed last := by
  constructor
  · intro stopped
    by_cases known : table.Declares last within
    · rcases known with ⟨_ | parent, declared⟩
      · exact .parentless declared
      · by_cases back : parent ∈ passed
        · exact .returning declared back
        · refine .full (Nat.le_antisymm bounded (Nat.le_of_not_lt ?_))
          intro room
          exact stopped _ (.onward stands declared back room)
    · exact .undeclared known
  · rintro reason longer ⟨alsoStands, declared, fresh, room⟩
    rcases Option.some.inj (stands.symm.trans alsoStands) with rfl
    cases reason with
    | parentless alsoDeclared => cases alsoDeclared.unique declared
    | undeclared unknown => exact unknown ⟨_, declared⟩
    | returning alsoDeclared back =>
      cases alsoDeclared.unique declared
      exact fresh back
    | full taken => exact absurd taken (Nat.ne_of_lt room)

theorem endsAt_of_parent?_eq_none (ends : table.parent? within last = none) :
    table.EndsAt within passed last := by
  cases looked : table.lookup last within with
  | none => exact .undeclared (lookup_eq_none_iff.1 looked)
  | some parent =>
    rw [parent?, looked, Option.bind_some, id] at ends
    exact .parentless (lookup_eq_some_iff.1 (ends ▸ looked))

/-- The walk goes on by steps through the names that are climbed to, and stops at the last one. -/
theorem reaches_climb {room : Nat} (stands : passed.getLast? = some last)
    (visited : ∀ other, other ∈ seen ↔ other ∈ passed)
    (left : passed.length + room = Lineage.maxNames) :
    let final := passed ++ table.climb within room seen (table.parent? within last)
    Relation.ReflTransGen (table.Step within) passed final ∧
      ∀ longer, ¬ table.Step within final longer := by
  -- The room that is left runs out with the names; `seen` has the names passed in another order.
  induction room generalizing passed seen last with
  | zero =>
    rw [climb, List.append_nil]
    exact ⟨.refl, (stopped_iff stands (Nat.le_of_eq left)).2 (.full left)⟩
  | succ room ih =>
    have bounded : passed.length ≤ Lineage.maxNames := left ▸ Nat.le_add_right _ _
    cases next : table.parent? within last with
    | none =>
      rw [climb_none, List.append_nil]
      exact ⟨.refl, (stopped_iff stands bounded).2 (endsAt_of_parent?_eq_none next)⟩
    | some parent =>
      have declared : table.DeclaredAs last within (some parent) := parent?_eq_some_iff.1 next
      by_cases back : parent ∈ seen
      · rw [climb_of_seen back, List.append_nil]
        have returned : parent ∈ passed := (visited parent).1 back
        exact ⟨.refl, (stopped_iff stands bounded).2 (.returning declared returned)⟩
      · have onward : table.Step within passed (passed ++ [parent]) :=
          .onward stands declared (mt (visited parent).2 back) (by omega)
        have alsoVisited : ∀ other, other ∈ parent :: seen ↔ other ∈ passed ++ [parent] := by
          intro other
          rw [List.mem_cons, List.mem_append, List.mem_singleton, visited, or_comm]
        have lessLeft : (passed ++ [parent]).length + room = Lineage.maxNames := by
          rw [onward.length_eq]
          omega
        rcases ih List.getLast?_concat alsoVisited lessLeft with ⟨further, stopped⟩
        rw [climb_of_fresh back, List.append_cons]
        exact ⟨.head onward further, stopped⟩

/-- The names of a lineage are those that the walk from the name passes until it stops. -/
theorem reaches_lineage? (found : table.lineage? name within = some lineage) :
    Relation.ReflTransGen (table.Step within) [name] lineage.names ∧
      ∀ longer, ¬ table.Step within lineage.names longer := by
  rw [names_eq_climb found]
  have stands : [name].getLast? = some name := rfl
  exact reaches_climb stands (fun _ => Iff.rfl) rfl

/-- A name is declared for a namespace exactly if it is declared in it or globally. -/
theorem declares_iff :
    table.Declares name within ↔
      (∃ space ∈ within, (table.declaration? ⟨name, some space⟩).isSome) ∨
        (table.declaration? ⟨name, none⟩).isSome := by
  rw [← not_iff_not, ← lookup_eq_none_iff]
  cases within with
  | none => simp [lookup]
  | some space => simp [lookup]

end TypeTable

namespace TypeDirectory

/--
A name is resolved exactly if it is declared in the namespace or globally.  The name and its
ancestors are then the parent chain of the name, in which every parent is looked up in the namespace
first and globally otherwise: no name twice, at most 64 names, and an end only at a name without
parent, at one that is not declared, at one whose parent is in the list, or at the 64th.  The walk
along the parents passes these names one by one and stops there, as every walk stops in every table.
-/
theorem resolve_walks_parents {directory : TypeDirectory} (reachable : directory.Reachable)
    (name : String) (within : Option String) :
    ((∃ lineage, (directory.resolve name within).1 = some lineage) ↔
      (∃ space ∈ within, (directory.table.declaration? ⟨name, some space⟩).isSome) ∨
        (directory.table.declaration? ⟨name, none⟩).isSome) ∧
      (∀ lineage, (directory.resolve name within).1 = some lineage →
        lineage.name = name ∧
          directory.table.ChainFrom within name lineage.names ∧
          lineage.names.Nodup ∧
          lineage.names.length ≤ 64 ∧
          (∀ last, lineage.names.getLast? = some last →
            directory.table.EndsAt within lineage.names last) ∧
          Relation.ReflTransGen (directory.table.Step within) [name] lineage.names ∧
          ∀ longer, ¬ directory.table.Step within lineage.names longer) ∧
      WellFounded fun longer passed => directory.table.Step within passed longer := by
  rw [reachable.missesUndeclared.resolve_fst]
  refine ⟨?_, ?_, directory.table.wellFounded_step within⟩
  · rw [TypeTable.lineage?_isSome_iff, TypeTable.declares_iff]
  · intro lineage found
    rcases TypeTable.reaches_lineage? found with ⟨walked, stopped⟩
    have passed := TypeTable.Passed.reached walked
    refine ⟨TypeTable.name_of_lineage? found, passed.begun, passed.distinct, passed.bounded, ?_,
      walked, stopped⟩
    intro last stands
    exact (TypeTable.stopped_iff stands passed.bounded).1 stopped

/-- In its namespace a walk comes back to its first name; outside of it there is less to walk on. -/
theorem resolve_walks_back_in_namespace :
    ∃ directory : TypeDirectory, directory.Reachable ∧
      (directory.resolve "Dial" (some "app")).1 = some ⟨"Dial", ["Knob"]⟩ ∧
      directory.table.ChainFrom (some "app") "Dial" ["Dial", "Knob"] ∧
      (∀ longer, ¬ directory.table.Step (some "app") ["Dial", "Knob"] longer) ∧
      ¬ ∃ lineage, (directory.resolve "Knob" none).1 = some lineage := by
  let directory := ((TypeDirectory.empty 2).declare ⟨"Dial", none⟩ (some "Knob")).declare
    ⟨"Knob", some "app"⟩ (some "Dial")
  have reachable : directory.Reachable := ((Reachable.empty 2).declare _ _).declare _ _
  have found : (directory.resolve "Dial" (some "app")).1 = some ⟨"Dial", ["Knob"]⟩ := by decide
  rcases resolve_walks_parents reachable "Dial" (some "app") with ⟨-, walks, -⟩
  rcases walks _ found with ⟨-, chain, -, -, -, -, stopped⟩
  rcases resolve_walks_parents reachable "Knob" none with ⟨resolves, -, -⟩
  exact ⟨directory, reachable, found, chain, stopped, mt resolves.1 (by decide)⟩

-- Of 65 names each but the first is the parent of the one before, and the list ends with the 64th.
example :
    let table : TypeTable := ⟨(List.range 64).map fun place =>
      (⟨toString place, none⟩, some (toString (place + 1)))⟩
    (table.lineage? "0" none).map (·.names) = some ((List.range 64).map toString) := by
  decide +kernel

end TypeDirectory

end SpokenFeedback
