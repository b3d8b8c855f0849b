import SpokenFeedback.Proofs.Lineage.Misses

/-!
# Declaring an unknown name

A lineage may end at a name that is not declared.  Once this name is declared the lineage goes on
there, into a cycle perhaps or up to the greatest number of names, but all names that it had before
stay where they are.

`TypeTable.climb_prefix_declare` says so of the walk, and `TypeDirectory.extends_declare` of the
answers of a directory, whatever it remembers.
-/

namespace SpokenFeedback

/-- What one resolver answers another answers too, with the same names and perhaps more of them. -/
def TypeResolver.Extends (larger smaller : TypeResolver) : Prop :=
  ∀ name within lineage, smaller name within = some lineage →
    ∃ longer, larger name within = some longer ∧ lineage.names <+: longer.names

theorem TypeResolver.Extends.refl (types : TypeResolver) : types.Extends types :=
  fun _ _ lineage found => ⟨lineage, found, List.prefix_refl _⟩

theorem Lineage.name_eq_of_prefix {shorter longer : Lineage}
    (begins : shorter.names <+: longer.names) : longer.name = shorter.name := by
  rcases begins with ⟨rest, extended⟩
  exact (List.cons.inj extended).1.symm

namespace TypeTable

/-- The name is declared neither globally nor in any namespace. -/
def Unknown (table : TypeTable) (name : String) : Prop :=
  ∀ within, table.declaration? ⟨name, within⟩ = none

variable {table : TypeTable} {type : TypeName} {name : String} {within : Option String}

theorem lookup_of_unknown (unknown : table.Unknown name) : table.lookup name within = none := by
  cases within with
  | none => exact unknown none
  | some space => rw [lookup, unknown, unknown, Option.none_or]

theorem lookup_declare_of_ne (different : name ≠ type.name) (parent : Option String) :
    (table.declare type parent).lookup name within = table.lookup name within := by
  have other : ∀ space, (⟨name, space⟩ : TypeName) ≠ type := by
    rintro space rfl
    exact different rfl
  cases within <;> simp only [lookup, declaration?_declare, other, ↓reduceIte]

theorem lookup_declare_of_unknown (unknown : table.Unknown type.name) {known : Option String}
    (found : table.lookup name within = some known) (parent : Option String) :
    (table.declare type parent).lookup name within = some known := by
  have different : name ≠ type.name := by
    rintro rfl
    rw [lookup_of_unknown unknown] at found
    cases found
  rw [lookup_declare_of_ne different, found]

/-- The walk passes the names that it passed before an unknown name was declared. -/
theorem climb_prefix_declare (unknown : table.Unknown type.name) (parent : Option String)
    (room : Nat) (seen : List String) (start : Option String) :
    table.climb within room seen start <+:
      (table.declare type parent).climb within room seen start := by
  induction room generalizing seen start with
  | zero => exact List.nil_prefix
  | succ room ih =>
    cases start with
    | none => exact List.nil_prefix
    | some next =>
      rw [climb, climb]
      split
      next => exact List.nil_prefix
      next =>
        apply (List.prefix_cons_inj next).2
        cases found : table.lookup next within with
        -- Here the walk ended; the declared name may be the one to go on from.
        | none => exact List.nil_prefix
        | some known =>
          rw [lookup_declare_of_unknown unknown found]
          exact ih (next :: seen) known

theorem extends_lineage?_declare (unknown : table.Unknown type.name) (parent : Option String) :
    TypeResolver.Extends (table.declare type parent).lineage? table.lineage? := by
  intro name within lineage found
  rcases Option.map_eq_some_iff.1 found with ⟨known, looked, rfl⟩
  refine ⟨_, congrArg _ (lookup_declare_of_unknown unknown looked parent), ?_⟩
  exact (List.prefix_cons_inj name).2 (climb_prefix_declare unknown parent _ _ _)

end TypeTable

namespace TypeDirectory

theorem lineage?_of_resolve {directory : TypeDirectory} {name : String} {within : Option String}
    {lineage : Lineage} (answered : (directory.resolve name within).1 = some lineage) :
    directory.table.lineage? name within = some lineage := by
  rcases directory.resolve_cases name within with
    ⟨-, resolved⟩ | ⟨other, found, resolved⟩ | ⟨-, resolved⟩
  · rw [resolved] at answered
    cases answered
  · rw [resolved] at answered
    exact found.trans answered
  · rw [resolved] at answered
    cases answered

/-- After an unknown name is declared, every lineage begins with the names that it had before. -/
theorem extends_declare (directory : TypeDirectory) {type : TypeName}
    (unknown : directory.table.Unknown type.name) (parent : Option String) :
    (directory.declare type parent).resolver.Extends directory.resolver := by
  intro name within lineage answered
  rw [(missesUndeclared_declare directory type parent).resolver_eq]
  exact TypeTable.extends_lineage?_declare unknown parent name within lineage
    (lineage?_of_resolve answered)

end TypeDirectory

end SpokenFeedback
