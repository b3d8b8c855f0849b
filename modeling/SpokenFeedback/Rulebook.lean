import SpokenFeedback.Rule.Basic

/-!
# Rulebooks

A rulebook files rules by scope, each with its origin, in the order in which they were added.  A
scope without rules is not in the book.  Rules can be removed by origin or by scope.
-/

namespace SpokenFeedback

/-- A rule in a rulebook. -/
structure RuleEntry where
  origin : Origin
  rule : Rule

/-- The text of a rule with its origin. -/
def RuleEntry.describe (entry : RuleEntry) : String :=
  entry.origin.tag ++ " " ++ entry.rule.describe

/-- Rules filed by scope. -/
structure Rulebook where
  buckets : SortedMap Scope (List RuleEntry)

namespace Rulebook

/-- The rulebook without rules. -/
def empty : Rulebook := ⟨.empty⟩

instance : Inhabited Rulebook := ⟨empty⟩

/-- The rules under a scope, if there are any. -/
def rulesFor? (book : Rulebook) (scope : Scope) : Option (List RuleEntry) := book.buckets.get? scope

/-- The scopes under which there are rules, in ascending order. -/
def scopes (book : Rulebook) : List Scope := book.buckets.keys

/-- The number of rules. -/
def size (book : Rulebook) : Nat := (book.buckets.values.map List.length).foldr (· + ·) 0

/-- Whether there is no rule. -/
def isEmpty (book : Rulebook) : Bool := book.size = 0

/-- Files entries after those that the scope has; a scope does not come to be without entries. -/
def file (book : Rulebook) (scope : Scope) (entries : List RuleEntry) : Rulebook :=
  if entries.isEmpty then book
  else ⟨book.buckets.insert scope ((book.rulesFor? scope).getD [] ++ entries)⟩

/-- Adds rules of an origin under a scope, and says how many. -/
def add (book : Rulebook) (scope : Scope) (origin : Origin) (rules : List Rule) :
    Except RegistrationFault (Nat × Rulebook) :=
  if scope.isBlank then .error .blankScope
  else if origin.isBlank then .error .blankOrigin
  else .ok (rules.length, book.file scope (rules.map fun rule => ⟨origin, rule⟩))

/-- The entries of a bucket that are not of an origin, unless none is left. -/
def withoutOrigin (origin : Origin) (entries : List RuleEntry) : Option (List RuleEntry) :=
  match entries.filter fun entry => entry.origin ≠ origin with
  | [] => none
  | kept => some kept

/-- Removes the rules of an origin, and says how many there were. -/
def removeOrigin (book : Rulebook) (origin : Origin) : Nat × Rulebook :=
  let kept : Rulebook := ⟨book.buckets.filterMap fun _ entries => withoutOrigin origin entries⟩
  (book.size - kept.size, kept)

/-- Removes the rules under a scope, and says how many there were. -/
def removeScope (book : Rulebook) (scope : Scope) : Nat × Rulebook :=
  (((book.rulesFor? scope).getD []).length, ⟨book.buckets.erase scope⟩)

end Rulebook

end SpokenFeedback
