import Mathlib.Algebra.BigOperators.Group.Finset.Basic
import SpokenFeedback.Proofs.Rulebook.Loading
import SpokenFeedback.Proofs.Rulebook.Log

/-!
# Unloading an origin

Hosts load and unload rules by their origins, and the rules of one origin stand between those of
others.  Unloading takes out everything an origin has brought in and nothing else: the book is then
the one that would be there if the origin had never supplied a rule.

Every piece of upkeep filters the rules under each scope and puts some behind them, and neither
depends on the book (`Rulebook.bucket_upkeep`).  Removing an origin therefore passes over one piece
of upkeep (`Rulebook.removeOrigin_upkeep`) and over a sequence of them
(`Rulebook.removeOrigin_upkeepAll`), and `Dispatcher.unload_erases_origin` says what a host sees.
-/

namespace SpokenFeedback

/-- A call by which a host changes the rules of a dispatcher or of its book. -/
inductive Upkeep where
  | load (origin : Origin) (rules : List Rule)
  | unload (origin : Origin)
  | change (next : RulebookChange)

namespace Upkeep

/-- The origin for which the call supplies rules. -/
def supplier? : Upkeep → Option Origin
  | .load origin _ | .change (.add _ origin _) => some origin
  | .unload _ | .change (.removeOrigin _) | .change (.removeScope _) => none

/-- Whether the call leaves an entry under a scope where it is. -/
def keeps (scope : Scope) (entry : RuleEntry) : Upkeep → Bool
  | .load _ _ | .change (.add _ _ _) => true
  | .unload origin | .change (.removeOrigin origin) => entry.origin ≠ origin
  | .change (.removeScope removed) => scope ≠ removed

/-- The entries that the call puts behind those under a scope. -/
def supplies (scope : Scope) : Upkeep → List RuleEntry
  | .load origin rules =>
    if Rulebook.Publishes origin rules scope then
      (rules.filter fun rule => rule.scope = scope).map (⟨origin, ·⟩)
    else []
  | .change (.add filed origin rules) =>
    if filed.isBlank = false ∧ origin.isBlank = false ∧ scope = filed then
      rules.map (⟨origin, ·⟩)
    else []
  | .unload _ | .change (.removeOrigin _) | .change (.removeScope _) => []

theorem supplier?_of_mem_supplies {call : Upkeep} {scope : Scope} {entry : RuleEntry}
    (member : entry ∈ call.supplies scope) : call.supplier? = some entry.origin := by
  cases call with
  | load origin rules =>
    rw [supplies] at member
    split at member
    · rcases List.mem_map.1 member with ⟨rule, -, rfl⟩
      rfl
    · cases member
  | unload => cases member
  | change next =>
    cases next with
    | add filed origin rules =>
      rw [supplies] at member
      split at member
      · rcases List.mem_map.1 member with ⟨rule, -, rfl⟩
        rfl
      · cases member
    | removeOrigin | removeScope => cases member

theorem keeps_of_supplier? {call : Upkeep} {origin : Origin}
    (supplied : call.supplier? = some origin) (scope : Scope) (entry : RuleEntry) :
    call.keeps scope entry = true := by
  cases call with
  | load => rfl
  | unload => cases supplied
  | change next =>
    cases next with
    | add => rfl
    | removeOrigin | removeScope => cases supplied

/-- Of the entries that a call supplies, removal of an origin takes all or none. -/
theorem filter_supplies (call : Upkeep) (scope : Scope) (origin : Origin) :
    (call.supplies scope).filter (fun entry => entry.origin ≠ origin) =
      if call.supplier? = some origin then [] else call.supplies scope := by
  split
  next supplied =>
    rw [List.filter_eq_nil_iff]
    intro entry member
    have same := (supplier?_of_mem_supplies member).symm.trans supplied
    simpa using same
  next unsupplied =>
    rw [List.filter_eq_self]
    intro entry member
    have different : entry.origin ≠ origin := by
      rintro rfl
      exact unsupplied (supplier?_of_mem_supplies member)
    simpa using different

end Upkeep

/-! ## The book -/

namespace Rulebook

/-- Makes a call on the book. -/
def upkeep (book : Rulebook) : Upkeep → Rulebook
  | .load origin rules => (book.load origin rules).2
  | .unload origin => (book.removeOrigin origin).2
  | .change next => (book.change next).2

/-- Makes calls on the book in order. -/
def upkeepAll (book : Rulebook) (calls : List Upkeep) : Rulebook := calls.foldl upkeep book

/-- A call filters the rules under a scope and puts others behind them, whatever the book. -/
theorem bucket_upkeep (book : Rulebook) (call : Upkeep) (scope : Scope) :
    (book.upkeep call).bucket scope =
      (book.bucket scope).filter (call.keeps scope ·) ++ call.supplies scope := by
  cases call with
  | load origin rules => simp [upkeep, Upkeep.keeps, Upkeep.supplies, bucket_load]
  | unload origin => simp [upkeep, Upkeep.keeps, Upkeep.supplies]
  | change next =>
    cases next with
    | add filed origin rules =>
      rw [upkeep, change_add]
      cases blankScope : filed.isBlank <;> cases blankOrigin : origin.isBlank <;>
        simp [Upkeep.keeps, Upkeep.supplies, blankScope, blankOrigin]
    | removeOrigin origin => simp [upkeep, change, Upkeep.keeps, Upkeep.supplies]
    | removeScope removed =>
      by_cases here : scope = removed <;>
        simp [upkeep, change, Upkeep.keeps, Upkeep.supplies, here]

theorem Stocked.upkeep {book : Rulebook} (stocked : book.Stocked) (call : Upkeep) :
    (book.upkeep call).Stocked := by
  cases call with
  | load origin rules => exact stocked.load origin rules
  | unload origin => exact stocked_removeOrigin book origin
  | change next =>
    cases next with
    | add filed origin rules =>
      rw [Rulebook.upkeep, change_add]
      split_ifs
      · exact stocked
      · exact stocked
      · exact stocked.file filed _
    | removeOrigin origin => exact stocked_removeOrigin book origin
    | removeScope removed => exact stocked.removeScope removed

theorem Stocked.upkeepAll {book : Rulebook} (stocked : book.Stocked) (calls : List Upkeep) :
    (book.upkeepAll calls).Stocked := by
  induction calls generalizing book with
  | nil => exact stocked
  | cons call calls ih => exact ih (stocked.upkeep call)

/-- Removing an origin undoes a call that supplies it, and passes over any other call. -/
theorem removeOrigin_upkeep (book : Rulebook) (call : Upkeep) (origin : Origin) :
    ((book.upkeep call).removeOrigin origin).2 =
      if call.supplier? = some origin then (book.removeOrigin origin).2
      else (book.removeOrigin origin).2.upkeep call := by
  have removed : ∀ scope, ((book.upkeep call).removeOrigin origin).2.bucket scope =
      ((book.bucket scope).filter fun entry => entry.origin ≠ origin).filter (call.keeps scope ·) ++
        if call.supplier? = some origin then [] else call.supplies scope := by
    intro scope
    rw [bucket_removeOrigin, bucket_upkeep, List.filter_append, call.filter_supplies,
      List.filter_filter, List.filter_filter]
    simp only [Bool.and_comm]
  split
  next supplied =>
    apply (stocked_removeOrigin _ origin).ext (stocked_removeOrigin book origin)
    intro scope
    rw [removed, if_pos supplied, bucket_removeOrigin, List.append_nil, List.filter_eq_self]
    exact fun entry _ => Upkeep.keeps_of_supplier? supplied scope entry
  next unsupplied =>
    apply (stocked_removeOrigin _ origin).ext ((stocked_removeOrigin book origin).upkeep call)
    intro scope
    rw [removed, if_neg unsupplied, bucket_upkeep, bucket_removeOrigin]

/-- Removing an origin after a sequence of calls undoes those that supply it, and no other. -/
theorem removeOrigin_upkeepAll (book : Rulebook) (calls : List Upkeep) (origin : Origin) :
    ((book.upkeepAll calls).removeOrigin origin).2 =
      (book.removeOrigin origin).2.upkeepAll
        (calls.filter fun call => call.supplier? ≠ some origin) := by
  induction calls generalizing book with
  | nil => rfl
  | cons call calls ih =>
    change (((book.upkeep call).upkeepAll calls).removeOrigin origin).2 = _
    rw [ih, removeOrigin_upkeep]
    by_cases supplied : call.supplier? = some origin
    · rw [if_pos supplied, List.filter_cons_of_neg (by simpa using supplied)]
    · rw [if_neg supplied, List.filter_cons_of_pos (by simpa using supplied)]
      rfl

/-! ## The number of rules of an origin -/

/-- The number of rules of an origin under all scopes. -/
def countOf (book : Rulebook) (origin : Origin) : Nat :=
  (book.scopes.map fun scope =>
    (book.bucket scope).countP fun entry => entry.origin = origin).sum

theorem bucket_eq_nil_of_not_mem_scopes {book : Rulebook} {scope : Scope}
    (absent : scope ∉ book.scopes) : book.bucket scope = [] := by
  cases found : book.rulesFor? scope with
  | none => rw [bucket, found, Option.getD_none]
  | some entries => exact absurd (SortedMap.mem_keys_iff.2 ⟨entries, found⟩) absent

/-- The number of rules is the sum over any scopes that cover those of the book. -/
theorem size_eq_sum_of_covered {book : Rulebook} {scopes : List Scope} (distinct : scopes.Nodup)
    (covered : ∀ scope ∈ book.scopes, scope ∈ scopes) :
    book.size = (scopes.map fun scope => (book.bucket scope).length).sum := by
  rw [size_eq_sum, ← List.sum_toFinset _ book.scopes_nodup, ← List.sum_toFinset _ distinct]
  apply Finset.sum_subset
  · intro scope listed
    exact List.mem_toFinset.2 (covered scope (List.mem_toFinset.1 listed))
  · intro scope _ absent
    rw [bucket_eq_nil_of_not_mem_scopes (by simpa using absent), List.length_nil]

theorem mem_scopes_of_mem_removeOrigin {book : Rulebook} {origin : Origin} {scope : Scope}
    (listed : scope ∈ (book.removeOrigin origin).2.scopes) : scope ∈ book.scopes := by
  by_contra absent
  have filled := (stocked_removeOrigin book origin).mem_scopes_iff.1 listed
  rw [bucket_removeOrigin, bucket_eq_nil_of_not_mem_scopes absent] at filled
  exact filled rfl

/-- Removing an origin reports the number of its rules. -/
theorem removeOrigin_fst (book : Rulebook) (origin : Origin) :
    (book.removeOrigin origin).1 = book.countOf origin := by
  have covered : ∀ scope ∈ (book.removeOrigin origin).2.scopes, scope ∈ book.scopes :=
    fun scope => mem_scopes_of_mem_removeOrigin
  have kept := size_eq_sum_of_covered book.scopes_nodup covered
  have parts : book.size = book.countOf origin + (book.removeOrigin origin).2.size := by
    rw [size_eq_sum, kept, countOf, ← List.sum_map_add]
    congr 2
    funext scope
    rw [bucket_removeOrigin, ← List.countP_eq_length_filter,
      List.length_eq_countP_add_countP fun entry : RuleEntry => decide (entry.origin = origin)]
    simp
  change book.size - (book.removeOrigin origin).2.size = _
  rw [parts, Nat.add_sub_cancel]

/-- Removing an origin changes nothing exactly if the book has no rules of it. -/
theorem Stocked.removeOrigin_eq_self_iff {book : Rulebook} (stocked : book.Stocked)
    {origin : Origin} :
    (book.removeOrigin origin).2 = book ↔
      ∀ scope, ∀ entry ∈ book.bucket scope, entry.origin ≠ origin := by
  have unfiltered : ∀ scope,
      (book.removeOrigin origin).2.bucket scope = book.bucket scope ↔
        ∀ entry ∈ book.bucket scope, entry.origin ≠ origin := by
    intro scope
    simp [List.filter_eq_self]
  constructor
  · intro same scope
    rw [← unfiltered, same]
  · intro foreign
    apply (stocked_removeOrigin book origin).ext stocked
    exact fun scope => (unfiltered scope).2 (foreign scope)

end Rulebook

/-! ## The dispatcher -/

namespace Dispatcher

/-- Makes a call on the dispatcher or on its book. -/
def upkeep (dispatcher : Dispatcher) : Upkeep → Dispatcher
  | .load origin rules => (dispatcher.load origin rules).2
  | .unload origin => (dispatcher.unload origin).2
  | .change next => { dispatcher with book := (dispatcher.book.change next).2 }

/-- Makes calls in order. -/
def upkeepAll (dispatcher : Dispatcher) (calls : List Upkeep) : Dispatcher :=
  calls.foldl upkeep dispatcher

theorem upkeepAll_eq (dispatcher : Dispatcher) (calls : List Upkeep) :
    dispatcher.upkeepAll calls = { dispatcher with book := dispatcher.book.upkeepAll calls } := by
  induction calls generalizing dispatcher with
  | nil => rfl
  | cons call calls ih =>
    have called : dispatcher.upkeep call =
        { dispatcher with book := dispatcher.book.upkeep call } := by
      cases call <;> rfl
    change (dispatcher.upkeep call).upkeepAll calls = _
    rw [ih, called]
    rfl

theorem unload_snd (dispatcher : Dispatcher) (origin : Origin) :
    (dispatcher.unload origin).2 =
      { dispatcher with book := (dispatcher.book.removeOrigin origin).2 } := rfl

/-- A load makes no difference to what its origin leaves behind. -/
theorem unload_load (dispatcher : Dispatcher) (origin : Origin) (rules : List Rule) :
    ((dispatcher.load origin rules).2.unload origin).2 = (dispatcher.unload origin).2 := by
  have undone := dispatcher.book.removeOrigin_upkeep (.load origin rules) origin
  rw [Upkeep.supplier?, if_pos rfl] at undone
  rw [unload_snd, unload_snd, ← undone]
  rfl

/--
Unloading erases an origin.  After any calls on a dispatcher that started without rules, unloading
an origin leaves what the same calls leave without those that supply the origin: the rules of the
others in their order.  A load is undone exactly if no other rules of its origin are there, and
unloading reports how many rules of the origin were there.
-/
theorem unload_erases_origin (surroundings : Surroundings) (settings : Settings)
    (calls : List Upkeep) (origin : Origin) :
    let dispatcher := (start .empty surroundings settings).upkeepAll calls
    (dispatcher.unload origin).2 =
        (start .empty surroundings settings).upkeepAll
          (calls.filter fun call => call.supplier? ≠ some origin) ∧
      (∀ scope, (dispatcher.unload origin).2.book.bucket scope =
        (dispatcher.book.bucket scope).filter fun entry => entry.origin ≠ origin) ∧
      (∀ rules, ((dispatcher.load origin rules).2.unload origin).2 = dispatcher ↔
        ∀ scope, ∀ entry ∈ dispatcher.book.bucket scope, entry.origin ≠ origin) ∧
      (dispatcher.unload origin).1 = dispatcher.book.countOf origin := by
  intro dispatcher
  have reached : dispatcher = { start .empty surroundings settings with
      book := Rulebook.empty.upkeepAll calls } := upkeepAll_eq _ calls
  have stocked : dispatcher.book.Stocked := by
    rw [reached]
    exact Rulebook.stocked_empty.upkeepAll calls
  refine ⟨?_, dispatcher.book.bucket_removeOrigin origin, ?_,
    dispatcher.book.removeOrigin_fst origin⟩
  · rw [upkeepAll_eq, reached, unload_snd, Rulebook.removeOrigin_upkeepAll]
    rfl
  · intro rules
    rw [← stocked.removeOrigin_eq_self_iff, unload_load, unload_snd]
    constructor
    · intro same
      exact congrArg Dispatcher.book same
    · intro same
      rw [same]

end Dispatcher

end SpokenFeedback
