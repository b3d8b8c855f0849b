import Mathlib.Algebra.BigOperators.Group.Finset.Piecewise
import SpokenFeedback.Proofs.Rulebook.Bucket

/-!
# Rulebooks as logs

A rulebook sorts its rules into buckets and rebuilds them with every change.  What it shows is
nevertheless what one chronological list of filings shows: additions go to its end, removals take
filings out of it, and the rules under a scope are the filings of that scope in their order.

`RuleLog.change` gives the changes on such a list.  `Rulebook.Reflects.change` says what one change
keeps, `Rulebook.Reflects.changeAll` what a sequence of changes keeps, and
`Rulebook.changeAll_refines_log` spells out what a host sees of a book that started empty.
-/

namespace SpokenFeedback

/-- A change to the rules of a book. -/
inductive RulebookChange where
  | add (scope : Scope) (origin : Origin) (rules : List Rule)
  | removeOrigin (origin : Origin)
  | removeScope (scope : Scope)

/-- What a host is told of a change: the number of rules, or why it was refused. -/
abbrev ChangeReport := Except RegistrationFault Nat

namespace Rulebook

/-- Makes a change; a change that is refused leaves the book as it was. -/
def change (book : Rulebook) : RulebookChange → ChangeReport × Rulebook
  | .add scope origin rules =>
    match book.add scope origin rules with
    | .ok (count, extended) => (.ok count, extended)
    | .error fault => (.error fault, book)
  | .removeOrigin origin => (.ok (book.removeOrigin origin).1, (book.removeOrigin origin).2)
  | .removeScope scope => (.ok (book.removeScope scope).1, (book.removeScope scope).2)

/-- Makes changes in order. -/
def changeAll (book : Rulebook) : List RulebookChange → List ChangeReport × Rulebook
  | [] => ([], book)
  | change :: changes =>
    let (report, changed) := book.change change
    let (reports, final) := changed.changeAll changes
    (report :: reports, final)

end Rulebook

/-! ## The log -/

/-- A rule as it was filed. -/
structure Filing where
  scope : Scope
  entry : RuleEntry

/-- Filings in the order in which they were made. -/
abbrev RuleLog := List Filing

namespace RuleLog

/-- The filings that an addition makes. -/
def filings (scope : Scope) (origin : Origin) (rules : List Rule) : RuleLog :=
  rules.map fun rule => ⟨scope, ⟨origin, rule⟩⟩

/-- Makes a change on the log. -/
def change (log : RuleLog) : RulebookChange → ChangeReport × RuleLog
  | .add scope origin rules =>
    if scope.isBlank then (.error .blankScope, log)
    else if origin.isBlank then (.error .blankOrigin, log)
    else (.ok rules.length, log ++ filings scope origin rules)
  | .removeOrigin origin =>
    (.ok (log.countP fun filing => filing.entry.origin = origin),
      log.filter fun filing => filing.entry.origin ≠ origin)
  | .removeScope scope =>
    (.ok (log.countP fun filing => filing.scope = scope),
      log.filter fun filing => filing.scope ≠ scope)

/-- Makes changes on the log in order. -/
def changeAll (log : RuleLog) : List RulebookChange → List ChangeReport × RuleLog
  | [] => ([], log)
  | next :: changes =>
    let (report, changed) := change log next
    let (reports, final) := changeAll changed changes
    (report :: reports, final)

/-- The rules filed under a scope, in their order. -/
def under (log : RuleLog) (scope : Scope) : List RuleEntry :=
  (log.filter fun filing => filing.scope = scope).map Filing.entry

theorem mem_under {log : RuleLog} {scope : Scope} {entry : RuleEntry} :
    entry ∈ under log scope ↔ ∃ filing ∈ log, filing.scope = scope ∧ filing.entry = entry := by
  simp [under, and_assoc]

@[simp]
theorem under_nil (scope : Scope) : under [] scope = [] := rfl

theorem under_cons (filing : Filing) (log : RuleLog) (scope : Scope) :
    under (filing :: log) scope =
      if filing.scope = scope then filing.entry :: under log scope else under log scope := by
  by_cases here : filing.scope = scope <;> simp [under, here]

@[simp]
theorem under_append (log later : RuleLog) (scope : Scope) :
    under (log ++ later) scope = under log scope ++ under later scope := by
  simp [under]

@[simp]
theorem under_filings (scope probe : Scope) (origin : Origin) (rules : List Rule) :
    under (filings scope origin rules) probe =
      if probe = scope then rules.map (⟨origin, ·⟩) else [] := by
  by_cases here : scope = probe
  · simp [under, filings, here, List.filter_map, Function.comp_def]
  · simp [under, filings, here, Ne.symm here, List.filter_map, Function.comp_def]

@[simp]
theorem under_removeOrigin (log : RuleLog) (origin : Origin) (scope : Scope) :
    under (log.filter fun filing => filing.entry.origin ≠ origin) scope =
      (under log scope).filter fun entry => entry.origin ≠ origin := by
  simp only [under, List.filter_map, List.filter_filter, Function.comp_def]
  congr 2
  funext filing
  exact Bool.and_comm _ _

@[simp]
theorem under_removeScope (log : RuleLog) (scope probe : Scope) :
    under (log.filter fun filing => filing.scope ≠ scope) probe =
      if probe = scope then [] else under log probe := by
  induction log with
  | nil => simp
  | cons filing log ih =>
    by_cases gone : filing.scope = scope
    · simp only [List.filter_cons, gone, ne_eq, not_true_eq_false, decide_false, Bool.false_eq_true,
        ↓reduceIte] at ih ⊢
      rw [ih, under_cons, gone]
      by_cases here : probe = scope <;> simp [here, Ne.symm]
    · simp only [List.filter_cons, gone, ne_eq, not_false_eq_true, decide_true, ↓reduceIte,
        under_cons] at ih ⊢
      rw [ih]
      by_cases here : probe = scope
      · simp [here, gone]
      · simp [here]

/-- A log is sound if no scope and no origin in it is blank. -/
def Sound (log : RuleLog) : Prop :=
  ∀ filing ∈ log, filing.scope.isBlank = false ∧ filing.entry.origin.isBlank = false

theorem sound_nil : Sound [] := by
  intro filing member
  cases member

theorem sound_change {log : RuleLog} (sound : Sound log) (next : RulebookChange) :
    Sound (change log next).2 := by
  cases next with
  | add scope origin rules =>
    rw [change]
    split
    · exact sound
    next namedScope =>
      split
      · exact sound
      next namedOrigin =>
        intro filing member
        rcases List.mem_append.1 member with old | new
        · exact sound filing old
        · rcases List.mem_map.1 new with ⟨rule, -, rfl⟩
          exact ⟨by simpa using namedScope, by simpa using namedOrigin⟩
  | removeOrigin origin => exact fun filing member => sound filing (List.mem_filter.1 member).1
  | removeScope scope => exact fun filing member => sound filing (List.mem_filter.1 member).1

theorem sound_changeAll {log : RuleLog} (sound : Sound log) (changes : List RulebookChange) :
    Sound (changeAll log changes).2 := by
  induction changes generalizing log with
  | nil => exact sound
  | cons next changes ih => exact ih (sound_change sound next)

/-- Scopes without repetition that cover a log have all of its rules between them. -/
theorem sum_under_eq_length {scopes : List Scope} (distinct : scopes.Nodup) {log : RuleLog}
    (covered : ∀ filing ∈ log, filing.scope ∈ scopes) :
    (scopes.map fun scope => (under log scope).length).sum = log.length := by
  induction log with
  | nil => simp
  | cons filing log ih =>
    have split : ∀ scope,
        (under (filing :: log) scope).length =
          (if filing.scope = scope then 1 else 0) + (under log scope).length := by
      intro scope
      rw [under_cons]
      split <;> simp [Nat.add_comm]
    have once : (scopes.map fun scope => if filing.scope = scope then 1 else 0).sum = 1 := by
      rw [← List.sum_toFinset _ distinct, Finset.sum_ite_eq]
      simp [covered filing]
    simp only [split, List.sum_map_add, once, List.length_cons]
    rw [ih fun other member => covered other (by simp [member]), Nat.add_comm]

end RuleLog

/-! ## What a book shows of its log -/

namespace Rulebook

/-- A book reflects a log if it has under each scope the rules of the log in their order. -/
structure Reflects (book : Rulebook) (log : RuleLog) : Prop where
  stocked : book.Stocked
  bucket_eq : ∀ scope, book.bucket scope = RuleLog.under log scope

theorem reflects_nil : empty.Reflects [] :=
  ⟨stocked_empty, fun _ => rfl⟩

/-! ### Additions -/

theorem change_add (book : Rulebook) (scope : Scope) (origin : Origin) (rules : List Rule) :
    book.change (.add scope origin rules) =
      if scope.isBlank then (.error .blankScope, book)
      else if origin.isBlank then (.error .blankOrigin, book)
      else (.ok rules.length, book.file scope (rules.map (⟨origin, ·⟩))) := by
  rw [change, add]
  split_ifs <;> rfl

/-- An addition is refused if its scope has a blank name or its origin is blank. -/
theorem change_add_refused_iff (book : Rulebook) (scope : Scope) (origin : Origin)
    (rules : List Rule) :
    (∃ fault, (book.change (.add scope origin rules)).1 = .error fault) ↔
      (∃ name, scope = .named name ∧ Text.isBlankText name) ∨ Text.isBlankText origin.tag := by
  have blank_iff : scope.isBlank = true ↔ ∃ name, scope = .named name ∧ Text.isBlankText name := by
    cases scope <;> simp [Scope.isBlank]
  rw [change_add, ← blank_iff, ← Origin.isBlank]
  split_ifs with blankScope blankOrigin
  · simp [blankScope]
  · simp [blankOrigin]
  · simp [blankScope, blankOrigin]

/-- A refused change leaves the book as it was. -/
theorem change_of_refused {book : Rulebook} {next : RulebookChange} {fault : RegistrationFault}
    (refused : (book.change next).1 = .error fault) : (book.change next).2 = book := by
  cases next with
  | add scope origin rules =>
    rw [change_add] at refused ⊢
    split_ifs at refused ⊢ <;> rfl
  | removeOrigin origin => cases refused
  | removeScope scope => cases refused

/-! ### One change, and a sequence of changes -/

namespace Reflects

variable {book : Rulebook} {log : RuleLog}

theorem mem_scopes_iff (reflects : book.Reflects log) {scope : Scope} :
    scope ∈ book.scopes ↔ ∃ filing ∈ log, filing.scope = scope := by
  rw [reflects.stocked.mem_scopes_iff, reflects.bucket_eq, RuleLog.under]
  simp [List.filter_eq_nil_iff]

theorem size_eq (reflects : book.Reflects log) : book.size = log.length := by
  have covered : ∀ filing ∈ log, filing.scope ∈ book.scopes :=
    fun filing member => reflects.mem_scopes_iff.2 ⟨filing, member, rfl⟩
  rw [size_eq_sum, ← RuleLog.sum_under_eq_length book.scopes_nodup covered]
  simp only [reflects.bucket_eq]

theorem removeOrigin (reflects : book.Reflects log) (origin : Origin) :
    (book.removeOrigin origin).2.Reflects
      (log.filter fun filing => filing.entry.origin ≠ origin) where
  stocked := stocked_removeOrigin book origin
  bucket_eq scope := by
    rw [bucket_removeOrigin, RuleLog.under_removeOrigin, reflects.bucket_eq]

/-- The number that a removal of an origin reports is that of its filings. -/
theorem removeOrigin_count (reflects : book.Reflects log) (origin : Origin) :
    (book.removeOrigin origin).1 = log.countP fun filing => filing.entry.origin = origin := by
  have parts := List.length_eq_countP_add_countP
    (fun filing : Filing => decide (filing.entry.origin = origin)) (l := log)
  have kept := (reflects.removeOrigin origin).size_eq
  rw [← List.countP_eq_length_filter] at kept
  change book.size - (book.removeOrigin origin).2.size = _
  rw [reflects.size_eq, kept, parts]
  simp

theorem removeScope (reflects : book.Reflects log) (scope : Scope) :
    (book.removeScope scope).2.Reflects
      (log.filter fun filing => filing.scope ≠ scope) where
  stocked := reflects.stocked.removeScope scope
  bucket_eq probe := by
    rw [bucket_removeScope, RuleLog.under_removeScope, reflects.bucket_eq]

/-- The number that a removal of a scope reports is that of its filings. -/
theorem removeScope_count (reflects : book.Reflects log) (scope : Scope) :
    (book.removeScope scope).1 = log.countP fun filing => filing.scope = scope := by
  change (book.bucket scope).length = _
  rw [reflects.bucket_eq, RuleLog.under, List.length_map, List.countP_eq_length_filter]

theorem file (reflects : book.Reflects log) (scope : Scope) (origin : Origin)
    (rules : List Rule) :
    (book.file scope (rules.map (⟨origin, ·⟩))).Reflects
      (log ++ RuleLog.filings scope origin rules) where
  stocked := reflects.stocked.file scope _
  bucket_eq probe := by
    rw [bucket_file, RuleLog.under_append, RuleLog.under_filings, reflects.bucket_eq]

/-- A change of the book is reported as that of the log, and the book reflects the log again. -/
theorem change (reflects : book.Reflects log) (next : RulebookChange) :
    (book.change next).1 = (RuleLog.change log next).1 ∧
      (book.change next).2.Reflects (RuleLog.change log next).2 := by
  cases next with
  | add scope origin rules =>
    rw [change_add, RuleLog.change]
    split_ifs
    · exact ⟨rfl, reflects⟩
    · exact ⟨rfl, reflects⟩
    · exact ⟨rfl, reflects.file scope origin rules⟩
  | removeOrigin origin =>
    exact ⟨congrArg _ (reflects.removeOrigin_count origin), reflects.removeOrigin origin⟩
  | removeScope scope =>
    exact ⟨congrArg _ (reflects.removeScope_count scope), reflects.removeScope scope⟩

theorem changeAll (reflects : book.Reflects log) (changes : List RulebookChange) :
    (book.changeAll changes).1 = (RuleLog.changeAll log changes).1 ∧
      (book.changeAll changes).2.Reflects (RuleLog.changeAll log changes).2 := by
  induction changes generalizing book log with
  | nil => exact ⟨rfl, reflects⟩
  | cons next changes ih =>
    rcases reflects.change next with ⟨sameReport, changed⟩
    rcases ih changed with ⟨sameReports, final⟩
    rw [Rulebook.changeAll, RuleLog.changeAll]
    exact ⟨congrArg₂ List.cons sameReport sameReports, final⟩

end Reflects

/--
A book that started empty shows its log: the reports of all changes, the rules under each scope in
the order of their filing, the scopes in ascending order and the number of rules.  No scope is
listed without rules, and nothing blank is ever filed.
-/
theorem changeAll_refines_log (changes : List RulebookChange) :
    let book := (empty.changeAll changes).2
    let log := (RuleLog.changeAll [] changes).2
    (empty.changeAll changes).1 = (RuleLog.changeAll [] changes).1 ∧
      (∀ scope, book.rulesFor? scope =
        if log.under scope = [] then none else some (log.under scope)) ∧
      book.scopes.Pairwise Scope.Before ∧
      (∀ scope, scope ∈ book.scopes ↔ ∃ filing ∈ log, filing.scope = scope) ∧
      book.size = log.length ∧
      (∀ scope origin rules,
        (∃ fault, (book.change (.add scope origin rules)).1 = .error fault) ↔
          (∃ name, scope = .named name ∧ Text.isBlankText name) ∨ Text.isBlankText origin.tag) ∧
      (∀ next fault, (book.change next).1 = .error fault → (book.change next).2 = book) ∧
      ∀ scope entries, book.rulesFor? scope = some entries →
        entries ≠ [] ∧ scope.isBlank = false ∧ ∀ entry ∈ entries, entry.origin.isBlank = false := by
  intro book log
  rcases reflects_nil.changeAll changes with ⟨reports, reflects⟩
  have sound : RuleLog.Sound log := RuleLog.sound_changeAll RuleLog.sound_nil changes
  have lookup : ∀ scope, book.rulesFor? scope =
      if log.under scope = [] then none else some (log.under scope) := by
    intro scope
    rw [reflects.stocked.rulesFor?, reflects.bucket_eq]
  refine ⟨reports, lookup, book.scopes_ascending, fun scope => reflects.mem_scopes_iff,
    reflects.size_eq, book.change_add_refused_iff, fun next fault => book.change_of_refused, ?_⟩
  intro scope entries stored
  rw [lookup] at stored
  split at stored
  next => cases stored
  next someEntry =>
    rcases Option.some.inj stored with rfl
    refine ⟨someEntry, ?_, ?_⟩
    · rcases List.exists_mem_of_ne_nil _ someEntry with ⟨entry, member⟩
      rcases RuleLog.mem_under.1 member with ⟨filing, filed, here, -⟩
      exact here ▸ (sound filing filed).1
    · intro entry member
      rcases RuleLog.mem_under.1 member with ⟨filing, filed, -, rfl⟩
      exact (sound filing filed).2

end Rulebook

end SpokenFeedback
