import SpokenFeedback.Proofs.Dispatch.FirstMatch
import SpokenFeedback.Proofs.Rulebook.Unloading

/-!
# Scopes given and derived

The scope of an event is given by the caller, or else derived from the event's package, or else the
fallback scope.  None of these ways finds rules that another misses: what is derived from a package
agrees with the scope of that name given outright.

The two differ on blank names, which derivation drops and a caller may well give.  They agree there
because no rule is ever filed under a blank scope: `Rulebook.Addressed` is the invariant of the
book, which `Rulebook.Addressed.upkeep` keeps over one call and `Rulebook.Addressed.upkeepAll` over
all of them.  `Rule.Declines` lists the ways in which a rule leaves an event to the rules after it,
and `Dispatcher.process_of_declined` says that a scope of such rules is as good as none.
-/

namespace SpokenFeedback

/-! ## Rules that decline -/

namespace Rule

/-- The filter says no or breaks down, or the formatter breaks down on the utterance. -/
inductive Declines (rule : Rule) (event : Event) (context : Context) (utterance : Utterance) :
    Prop where
  | rejects {filter : RuleFilter} (given : filter ∈ rule.filter)
    (answer : filter.accept event context = .done false)
  | filterFails {filter : RuleFilter} (given : filter ∈ rule.filter) {fault : Fault}
    (answer : filter.accept event context = .failed fault)
  | filterPanics {filter : RuleFilter} (given : filter ∈ rule.filter) {message : Option String}
    (answer : filter.accept event context = .panicked message)
  | formatterFails {formatter : RuleFormatter} (given : formatter ∈ rule.formatter) {fault : Fault}
    (ending : (formatter.format event context (rule.applyMetadata utterance)).2 = .failed fault)
  | formatterPanics {formatter : RuleFormatter} (given : formatter ∈ rule.formatter)
    {message : Option String}
    (ending : (formatter.format event context (rule.applyMetadata utterance)).2 =
      .panicked message)

variable {rule : Rule} {event : Event} {context : Context} {utterance : Utterance}

/-- A rule is applicable unless it declines in one of the five ways. -/
theorem declines_iff :
    rule.Declines event context utterance ↔ ¬ rule.Applicable event context utterance := by
  constructor
  · rintro declines ⟨accepted, spoken⟩
    cases declines with
    | rejects given answer => simp [accepted _ given] at answer
    | filterFails given answer => simp [accepted _ given] at answer
    | filterPanics given answer => simp [accepted _ given] at answer
    | formatterFails given ending => simp [spoken _ given] at ending
    | formatterPanics given ending => simp [spoken _ given] at ending
  · intro inapplicable
    by_cases accepted : rule.Accepts event context
    · have unspoken : ¬ rule.Speaks event context utterance :=
        fun spoken => inapplicable ⟨accepted, spoken⟩
      simp only [Speaks, not_forall] at unspoken
      rcases unspoken with ⟨formatter, given, unfinished⟩
      cases ending : (formatter.format event context (rule.applyMetadata utterance)).2 with
      | done => exact absurd ending unfinished
      | failed fault => exact .formatterFails given ending
      | panicked message => exact .formatterPanics given ending
    · simp only [Accepts, not_forall] at accepted
      rcases accepted with ⟨filter, given, refused⟩
      cases answer : filter.accept event context with
      | done accepts =>
        cases accepts with
        | true => exact absurd answer refused
        | false => exact .rejects given answer
      | failed fault => exact .filterFails given answer
      | panicked message => exact .filterPanics given answer

end Rule

theorem firstApplicable?_append_of_declined {event : Event} {context : Context}
    {utterance : Utterance} {declined : List RuleEntry}
    (decline : ∀ entry ∈ declined, entry.rule.Declines event context utterance)
    (entries : List RuleEntry) :
    firstApplicable? event context utterance (declined ++ entries) =
      firstApplicable? event context utterance entries := by
  have noneOfThem : firstApplicable? event context utterance declined = none := by
    apply List.find?_eq_none.2
    intro entry member
    simpa using Rule.declines_iff.1 (decline entry member)
  rw [firstApplicable?, List.find?_append]
  rw [firstApplicable?] at noneOfThem
  rw [noneOfThem, Option.none_or, firstApplicable?]

/-! ## Books without blank scopes -/

theorem Upkeep.supplies_of_isBlank {scope : Scope} (blank : scope.isBlank = true)
    (call : Upkeep) : call.supplies scope = [] := by
  cases call with
  | load origin rules =>
    have unpublished : ¬ Rulebook.Publishes origin rules scope := by
      intro publishes
      rcases publishes.someRule with ⟨rule, member, rfl⟩
      exact Scope.Before.irrefl _ (publishes.precedes rule member blank)
    rw [supplies, if_neg unpublished]
  | unload => rfl
  | change next =>
    cases next with
    | add filed origin rules =>
      rw [supplies, if_neg]
      rintro ⟨named, -, rfl⟩
      simp [blank] at named
    | removeOrigin | removeScope => rfl

namespace Rulebook

/-- No rule is filed under a blank scope. -/
def Addressed (book : Rulebook) : Prop :=
  ∀ scope, scope.isBlank = true → book.bucket scope = []

theorem addressed_empty : empty.Addressed := fun scope _ => bucket_empty scope

theorem Addressed.upkeep {book : Rulebook} (addressed : book.Addressed) (call : Upkeep) :
    (book.upkeep call).Addressed := by
  intro scope blank
  rw [bucket_upkeep, addressed scope blank, Upkeep.supplies_of_isBlank blank]
  rfl

theorem Addressed.upkeepAll {book : Rulebook} (addressed : book.Addressed)
    (calls : List Upkeep) : (book.upkeepAll calls).Addressed := by
  induction calls generalizing book with
  | nil => exact addressed
  | cons call calls ih => exact ih (addressed.upkeep call)

end Rulebook

/-! ## Dispatch -/

theorem Event.packageScope?_of_text {event : Event} {value : Value} {name : String}
    (present : event.raw .packageName = some value) (named : value.text? = some name) :
    event.packageScope? = Scope.ofPackage? name := by
  rw [packageScope?, present]
  cases value with
  | text content => exact congrArg Scope.ofPackage? (Option.some.inj named)
  | type type => exact congrArg Scope.ofPackage? (Option.some.inj named)
  | bool | int | float => cases named

theorem Event.packageScope?_of_no_text {event : Event}
    (unnamed : ∀ value, event.raw .packageName = some value → value.text? = none) :
    event.packageScope? = none := by
  rw [packageScope?]
  split
  next name present => cases unnamed _ present
  next named present => cases unnamed _ present
  next => rfl

namespace Dispatcher

variable {dispatcher : Dispatcher} {event : Event}

/-- What an event is processed to depends on the candidates through the first applicable one. -/
theorem process_congr {left right : Occasion} (sameValues : left.values = right.values)
    (sameFirst :
      firstApplicable? event ⟨dispatcher.surroundings, left.values⟩ dispatcher.pool.obtain.1
          (dispatcher.candidates event left) =
        firstApplicable? event ⟨dispatcher.surroundings, left.values⟩ dispatcher.pool.obtain.1
          (dispatcher.candidates event right)) :
    dispatcher.process event left = dispatcher.process event right := by
  have sameResult : dispatcher.processInto event left dispatcher.pool.obtain.1 =
      dispatcher.processInto event right dispatcher.pool.obtain.1 := by
    rw [processInto_eq, processInto_eq, sameFirst, sameValues]
  simp only [process, sameResult]

/-- With the scope of a package name given, its rules are tried and then the fallback rules. -/
theorem candidates_ofPackage (addressed : dispatcher.book.Addressed) {occasion : Occasion}
    {name : String}
    (sought : effectiveScope? dispatcher.settings event occasion.scope = Scope.ofPackage? name) :
    dispatcher.candidates event occasion =
      dispatcher.book.bucket (.named name) ++ dispatcher.book.bucket .fallback := by
  rw [candidates, sought, Scope.ofPackage?]
  by_cases blank : Text.isBlankText name = true
  · -- Derivation drops the blank name; the scope of this name has no rules.
    rw [if_pos blank, addressed (.named name) blank]
    rfl
  · rw [if_neg blank]

/-- A scope whose rules all decline is as good as the fallback scope. -/
theorem process_of_declined {scope : Scope} {values : Metadata}
    (decline : ∀ entry ∈ dispatcher.book.bucket scope,
      entry.rule.Declines event ⟨dispatcher.surroundings, values⟩ dispatcher.pool.obtain.1) :
    dispatcher.process event ⟨some scope, values⟩ =
      dispatcher.process event ⟨some .fallback, values⟩ := by
  cases scope with
  | fallback => rfl
  | named name => exact process_congr rfl (firstApplicable?_append_of_declined decline _)

/--
Deriving the scope agrees with giving it.  Whatever has been done to the book, an event without a
given scope is processed as under the scope named by its package, blank or not, and as under the
fallback scope if its package is missing or no text or if the settings do not allow derivation.  A
scope whose rules all decline leaves no trace: it is as if the fallback scope had been given.
-/
theorem process_derives_given_scope (calls : List Upkeep) (surroundings : Surroundings)
    (pool : UtterancePool) (settings : Settings) (event : Event) (values : Metadata) :
    let dispatcher : Dispatcher := ⟨Rulebook.empty.upkeepAll calls, surroundings, pool, settings⟩
    let unscoped := dispatcher.process event ⟨none, values⟩
    let under := fun scope => dispatcher.process event ⟨some scope, values⟩
    (settings.fallbackToPackageScope = true →
        (∀ value name, event.raw .packageName = some value → value.text? = some name →
          unscoped = under (.named name)) ∧
        ((∀ value, event.raw .packageName = some value → value.text? = none) →
          unscoped = under .fallback)) ∧
      (settings.fallbackToPackageScope = false → unscoped = under .fallback) ∧
      ∀ scope,
        (∀ entry ∈ dispatcher.book.bucket scope,
          entry.rule.Declines event ⟨surroundings, values⟩ pool.obtain.1) →
        under scope = under .fallback := by
  intro dispatcher unscoped under
  have addressed : dispatcher.book.Addressed := Rulebook.addressed_empty.upkeepAll calls
  have same_of_candidates : ∀ scope,
      dispatcher.candidates event ⟨none, values⟩ =
        dispatcher.candidates event ⟨some scope, values⟩ → unscoped = under scope :=
    fun scope same => process_congr rfl (congrArg (firstApplicable? event _ _) same)
  have derived : settings.fallbackToPackageScope = true →
      effectiveScope? settings event none = event.packageScope? := by
    intro byPackage
    rw [effectiveScope?, if_pos byPackage]
  refine ⟨fun byPackage => ⟨?_, ?_⟩, ?_, fun scope => process_of_declined⟩
  · intro value name present named
    have sought := (derived byPackage).trans (Event.packageScope?_of_text present named)
    exact same_of_candidates _ (candidates_ofPackage addressed sought)
  · intro unnamed
    have sought := (derived byPackage).trans (Event.packageScope?_of_no_text unnamed)
    apply same_of_candidates
    rw [candidates, sought]
    rfl
  · intro notByPackage
    apply same_of_candidates
    have sought : effectiveScope? settings event none = none := by
      simp [effectiveScope?, notByPackage]
    rw [candidates, sought]
    rfl

end Dispatcher

end SpokenFeedback
