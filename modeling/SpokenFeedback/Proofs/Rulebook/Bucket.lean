import Mathlib.Algebra.GroupWithZero.Nat
import SpokenFeedback.Rulebook

/-!
# The buckets of a rulebook

`Rulebook.bucket` reads a rulebook as a function from scopes to rules, where a scope that is not in
the book has none.  Each operation on rulebooks has one equation through this view.

A rulebook is stocked if no scope in it is without rules.  Every operation keeps a book stocked, and
a stocked book is determined by its buckets.  The scopes of a book are listed in the order
`Scope.Before`.
-/

namespace SpokenFeedback

/-! ## The order of scopes -/

namespace Scope

/-- The fallback scope comes before every named one; named scopes are in the order of names. -/
inductive Before : Scope → Scope → Prop where
  | fallback (name : String) : Before .fallback (.named name)
  | named {earlier later : String} (before : earlier < later) :
    Before (.named earlier) (.named later)

/-- The order in which scopes are kept is `Before`. -/
theorem compare_eq_lt_iff {left right : Scope} : compare left right = .lt ↔ left.Before right := by
  constructor
  · intro ordered
    cases left with
    | fallback =>
      cases right with
      | fallback => cases ordered
      | named name => exact .fallback name
    | named earlier =>
      cases right with
      | fallback => cases ordered
      | named later => exact .named (compareOfLessAndEq_eq_lt.1 ordered)
  · intro before
    cases before with
    | fallback name => rfl
    | named before => exact compareOfLessAndEq_eq_lt.2 before

instance : DecidableRel Before := fun _ _ => decidable_of_iff _ compare_eq_lt_iff

theorem Before.irrefl (scope : Scope) : ¬ scope.Before scope := by
  intro before
  cases before with
  | named before => exact String.lt_irrefl _ before

end Scope

/-! ## The view -/

namespace Rulebook

/-- The rules under a scope; none if the scope is not in the book. -/
def bucket (book : Rulebook) (scope : Scope) : List RuleEntry :=
  (book.rulesFor? scope).getD []

theorem mem_bucket_iff {book : Rulebook} {scope : Scope} {entry : RuleEntry} :
    entry ∈ book.bucket scope ↔
      ∃ entries, book.rulesFor? scope = some entries ∧ entry ∈ entries := by
  rw [bucket]
  cases book.rulesFor? scope <;> simp

/-- No scope in the book is without rules. -/
def Stocked (book : Rulebook) : Prop :=
  ∀ scope, book.rulesFor? scope ≠ some []

@[simp]
theorem bucket_empty (scope : Scope) : empty.bucket scope = [] := rfl

theorem stocked_empty : empty.Stocked := by
  intro scope stored
  cases stored

/-! ## Operations -/

theorem rulesFor?_file (book : Rulebook) (scope probe : Scope) {entries : List RuleEntry}
    (someEntry : entries ≠ []) :
    (book.file scope entries).rulesFor? probe =
      if probe = scope then some (book.bucket scope ++ entries) else book.rulesFor? probe := by
  have filled : entries.isEmpty = false := by simpa using someEntry
  simp [file, filled, rulesFor?, bucket, SortedMap.get?_insert]

/-- Filing puts the entries after those that the scope has. -/
@[simp]
theorem bucket_file (book : Rulebook) (scope probe : Scope) (entries : List RuleEntry) :
    (book.file scope entries).bucket probe =
      book.bucket probe ++ if probe = scope then entries else [] := by
  by_cases noneFiled : entries = []
  · simp [file, noneFiled]
  · rw [bucket, rulesFor?_file book scope probe noneFiled]
    split
    next same =>
      subst same
      rfl
    next => simp [bucket]

theorem Stocked.file {book : Rulebook} (stocked : book.Stocked) (scope : Scope)
    (entries : List RuleEntry) : (book.file scope entries).Stocked := by
  intro probe
  by_cases noneFiled : entries = []
  · simpa [Rulebook.file, noneFiled] using stocked probe
  · rw [rulesFor?_file book scope probe noneFiled]
    split
    · simp [noneFiled]
    · exact stocked probe

theorem rulesFor?_removeOrigin (book : Rulebook) (origin : Origin) (scope : Scope) :
    (book.removeOrigin origin).2.rulesFor? scope =
      (book.rulesFor? scope).bind (withoutOrigin origin) := by
  simp [removeOrigin, rulesFor?, SortedMap.get?_filterMap]

/-- Removing an origin leaves the other entries of each scope in their order. -/
@[simp]
theorem bucket_removeOrigin (book : Rulebook) (origin : Origin) (scope : Scope) :
    (book.removeOrigin origin).2.bucket scope =
      (book.bucket scope).filter fun entry => entry.origin ≠ origin := by
  rw [bucket, rulesFor?_removeOrigin, bucket]
  cases book.rulesFor? scope with
  | none => rfl
  | some entries =>
    simp only [Option.bind_some, Option.getD_some, withoutOrigin]
    split
    next gone => exact gone.symm
    next kept => rfl

theorem stocked_removeOrigin (book : Rulebook) (origin : Origin) :
    (book.removeOrigin origin).2.Stocked := by
  intro scope stored
  rw [rulesFor?_removeOrigin] at stored
  rcases Option.bind_eq_some_iff.1 stored with ⟨entries, -, kept⟩
  rw [withoutOrigin] at kept
  split at kept
  next => cases kept
  next someKept => exact someKept (Option.some.inj kept)

theorem rulesFor?_removeScope (book : Rulebook) (scope probe : Scope) :
    (book.removeScope scope).2.rulesFor? probe =
      if probe = scope then none else book.rulesFor? probe := by
  simp [removeScope, rulesFor?, SortedMap.get?_erase]

/-- Removing a scope empties its bucket and no other. -/
@[simp]
theorem bucket_removeScope (book : Rulebook) (scope probe : Scope) :
    (book.removeScope scope).2.bucket probe = if probe = scope then [] else book.bucket probe := by
  rw [bucket, rulesFor?_removeScope]
  split <;> rfl

theorem Stocked.removeScope {book : Rulebook} (stocked : book.Stocked) (scope : Scope) :
    (book.removeScope scope).2.Stocked := by
  intro probe
  rw [rulesFor?_removeScope]
  split
  · simp
  · exact stocked probe

/-! ## What a stocked book shows -/

/-- A look-up in a stocked book gives the bucket, unless it is empty. -/
theorem Stocked.rulesFor? {book : Rulebook} (stocked : book.Stocked) (scope : Scope) :
    book.rulesFor? scope = if book.bucket scope = [] then none else some (book.bucket scope) := by
  have filled := stocked scope
  rw [bucket]
  cases found : book.rulesFor? scope with
  | none => rfl
  | some entries =>
    rw [found] at filled
    have someEntry : entries ≠ [] := fun gone => filled (congrArg some gone)
    simp [someEntry]

/-- Books with the same look-ups are the same book. -/
theorem ext_rulesFor? {left right : Rulebook}
    (agree : ∀ scope, left.rulesFor? scope = right.rulesFor? scope) : left = right := by
  have sameBuckets : left.buckets = right.buckets := SortedMap.ext_get? agree
  cases left
  cases right
  exact congrArg Rulebook.mk sameBuckets

/-- Stocked books with the same buckets are the same book. -/
theorem Stocked.ext {left right : Rulebook} (leftStocked : left.Stocked)
    (rightStocked : right.Stocked) (agree : ∀ scope, left.bucket scope = right.bucket scope) :
    left = right := by
  apply ext_rulesFor?
  intro scope
  rw [leftStocked.rulesFor?, rightStocked.rulesFor?, agree]

/-- The scopes of a stocked book are those under which there are rules. -/
theorem Stocked.mem_scopes_iff {book : Rulebook} (stocked : book.Stocked) {scope : Scope} :
    scope ∈ book.scopes ↔ book.bucket scope ≠ [] := by
  have listed : scope ∈ book.scopes ↔ ∃ entries, book.rulesFor? scope = some entries :=
    SortedMap.mem_keys_iff
  rw [listed, stocked.rulesFor?]
  by_cases noneLeft : book.bucket scope = [] <;> simp [noneLeft]

theorem scopes_ascending (book : Rulebook) : book.scopes.Pairwise Scope.Before :=
  book.buckets.keys_ascending.imp Scope.compare_eq_lt_iff.1

theorem scopes_nodup (book : Rulebook) : book.scopes.Nodup := by
  apply book.scopes_ascending.imp
  intro earlier later before same
  subst same
  exact Scope.Before.irrefl _ before

/-- The number of rules is the sum over the scopes. -/
theorem size_eq_sum (book : Rulebook) :
    book.size = (book.scopes.map fun scope => (book.bucket scope).length).sum := by
  have lengths :
      (book.buckets.values.map List.length) =
        book.scopes.map fun scope => (book.bucket scope).length := by
    simp only [SortedMap.values, scopes, SortedMap.keys, List.map_map]
    apply List.map_congr_left
    rintro ⟨scope, entries⟩ member
    have found : book.rulesFor? scope = some entries := SortedMap.get?_eq_some_iff.2 member
    simp [bucket, found]
  rw [size, lengths]
  rfl

end Rulebook

end SpokenFeedback
