import SpokenFeedback.Fault
import SpokenFeedback.Text.Blank

/-!
# Scopes and origins

A rule is filed under a scope, usually that of an application, or under the fallback scope for all
events.  Its origin says who supplied it.  The fallback scope comes before every named one, and
named scopes are in the order of their names.
-/

namespace SpokenFeedback

/-- Where a rule is filed. -/
inductive Scope where
  | fallback
  | named (name : String)
deriving DecidableEq, Repr, Inhabited

namespace Scope

/-- The name of a named scope. -/
def name? : Scope → Option String
  | .fallback => none
  | .named name => some name

/-- Whether this is the fallback scope. -/
def isFallback (scope : Scope) : Bool := scope.name?.isNone

/-- The scope as it is shown. -/
def display : Scope → String
  | .fallback => "<fallback>"
  | .named name => name

/-- Whether the scope has a name that is blank. -/
def isBlank : Scope → Bool
  | .fallback => false
  | .named name => Text.isBlankText name

/-- The scope with a name that is not blank. -/
def ofName (name : String) : Except RegistrationFault Scope :=
  if Text.isBlankText name then .error .blankScope else .ok (.named name)

theorem name?_injective {left right : Scope} (same : left.name? = right.name?) : left = right := by
  cases left <;> cases right <;> simp_all [name?]

instance : Ord Scope := ⟨fun left right => compare left.name? right.name?⟩

theorem compare_eq (left right : Scope) : compare left right = compare left.name? right.name? := rfl

instance : Std.TransOrd Scope where
  eq_swap {left right} := by
    rw [compare_eq, compare_eq]
    exact Std.OrientedCmp.eq_swap
  isLE_trans {first second third} before after := by
    rw [compare_eq] at *
    exact Std.TransCmp.isLE_trans before after

instance : Std.LawfulEqOrd Scope where
  compare_self {scope} := by
    rw [compare_eq]
    exact Std.ReflCmp.compare_self
  eq_of_compare {left right} same := by
    rw [compare_eq] at same
    exact name?_injective (Std.LawfulEqCmp.eq_of_compare same)

end Scope

/-- Who supplied a rule. -/
structure Origin where
  tag : String
deriving DecidableEq, Repr, Inhabited

namespace Origin

/-- Whether the tag is blank. -/
def isBlank (origin : Origin) : Bool := Text.isBlankText origin.tag

/-- The origin with a tag that is not blank. -/
def ofTag (tag : String) : Except RegistrationFault Origin :=
  if Text.isBlankText tag then .error .blankOrigin else .ok ⟨tag⟩

end Origin

end SpokenFeedback
