import SpokenFeedback.Value

/-!
# Tables of declared types

A table declares types by name, globally or in a namespace, each with the name of its parent or
with none.  A type's lineage is its own name followed by the names reached from parent to parent.
The walk looks every parent up relative to the namespace it started with; it ends at a type
without parent, at a name that is not declared, before a name that it has visited, and at
`maxNames` names at the latest.
-/

namespace SpokenFeedback

/-- A resolved type: its name and the names of its ancestors, the nearest first. -/
structure Lineage where
  name : String
  ancestors : List String
deriving DecidableEq, Repr

/-- A type that a resolver has answered with; those of other resolvers show only their name. -/
inductive TypeHandle where
  | declared (lineage : Lineage)
  | foreign (name : String)
deriving DecidableEq, Repr

namespace Lineage

/-- The greatest number of names in a lineage. -/
def maxNames : Nat := 64

/-- The type's own name and the names of its ancestors. -/
def names (lineage : Lineage) : List String := lineage.name :: lineage.ancestors

/-- Whether a value of the other type is one of this type. -/
def isAssignableFrom (lineage : Lineage) : TypeHandle → Bool
  | .declared other => other.names.contains lineage.name
  | .foreign name => name == lineage.name

end Lineage

/-- What is asked of a resolver: the lineage of a name, looked up in a namespace or globally. -/
abbrev TypeResolver := String → Option String → Option Lineage

/-- The declared types, each with the name of its parent. -/
structure TypeTable where
  declarations : List (TypeName × Option String)
deriving DecidableEq, Repr

namespace TypeTable

/-- The table that declares no type. -/
def empty : TypeTable := ⟨[]⟩

instance : Inhabited TypeTable := ⟨empty⟩

/-- Declares a type, in place of an earlier declaration of the same name and namespace. -/
def declare (table : TypeTable) (type : TypeName) (parent : Option String) : TypeTable :=
  ⟨(type, parent) :: table.declarations.filter fun entry => entry.1 ≠ type⟩

/-- The number of declared types. -/
def size (table : TypeTable) : Nat := table.declarations.length

/-- The declaration of exactly this name and namespace. -/
def declaration? (table : TypeTable) (type : TypeName) : Option (Option String) :=
  (table.declarations.find? fun entry => entry.1 = type).map Prod.snd

/-- The parent of a name, looked up in the namespace first and globally otherwise. -/
def lookup (table : TypeTable) (name : String) (within : Option String) :
    Option (Option String) :=
  match within with
  | some space => (table.declaration? ⟨name, some space⟩).or (table.declaration? ⟨name, none⟩)
  | none => table.declaration? ⟨name, none⟩

/-- The ancestors that a walk still reaches: `room` more at most, and none that it has seen. -/
def climb (table : TypeTable) (within : Option String) :
    Nat → List String → Option String → List String
  | 0, _, _ => []
  | _ + 1, _, none => []
  | room + 1, seen, some next =>
    if next ∈ seen then []
    else
      next ::
        match table.lookup next within with
        | none => []
        | some parent => climb table within room (next :: seen) parent

/-- The lineage of a declared name. -/
def lineage? (table : TypeTable) (name : String) (within : Option String) : Option Lineage :=
  (table.lookup name within).map fun parent =>
    ⟨name, table.climb within (Lineage.maxNames - 1) [name] parent⟩

theorem declaration?_declare (table : TypeTable) (type other : TypeName)
    (parent : Option String) :
    (table.declare type parent).declaration? other =
      if other = type then some parent else table.declaration? other := by
  by_cases same : other = type
  · simp [declare, declaration?, same]
  · have differs : ¬ type = other := fun equal => same equal.symm
    simp only [declare, declaration?, List.find?_cons, differs, decide_false, List.find?_filter,
      same, ↓reduceIte]
    congr 2
    funext entry
    by_cases hit : entry.1 = other <;> simp [hit, same]

end TypeTable

end SpokenFeedback
