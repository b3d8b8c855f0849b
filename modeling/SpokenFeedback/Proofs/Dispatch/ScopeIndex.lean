import Mathlib.Data.List.Find
import SpokenFeedback.Proofs.Dispatch.FirstMatch
import SpokenFeedback.Proofs.Rule.Given
import SpokenFeedback.Proofs.Rulebook.Loading

/-!
# Scopes hide no declared rule

Dispatch looks at the rules of two scopes only.  In a book of declared rules this leaves out no
rule that accepts the event: a rule that is filed under a name accepts only events whose package
scope is this name.

`Rulebook.Declared` gives the books that arise by loading declared rules and by removing rules, and
`Rulebook.Declared.rule` what holds of every rule in them.  `Dispatcher.processInto_of_declared`
then says which rule dispatch reports, and `Rulebook.Declared.exists_accepts_iff` that it reports
one whenever any rule of the book accepts the event.
-/

namespace SpokenFeedback

/-! ## Rules on an event -/

namespace Rule

variable {rule : Rule} {event : Event} {context : Context} {utterance : Utterance}

/-- A rule without parts of the host never fails to speak. -/
theorem HostFree.speaks (hostFree : rule.HostFree) : rule.Speaks event context utterance := by
  intro formatter given
  rcases hostFree.formatter_eq_phrase given with ⟨phrase, rfl⟩
  rfl

theorem HostFree.applicable_iff (hostFree : rule.HostFree) :
    rule.Applicable event context utterance ↔ rule.Accepts event context :=
  and_iff_left hostFree.speaks

/-- A declared rule that is filed under a name accepts only events of the package of this name. -/
theorem Declared.packageScope?_of_accepts (declared : rule.Declared) {name : String}
    (filed : rule.scope = .named name) (accepts : rule.Accepts event context) :
    event.packageScope? = some (.named name) := by
  rcases declared.filter_eq_criteria filed with ⟨named, criteria, filtered, bound⟩
  have met : criteria.accepts event context.surroundings = true :=
    Outcome.done.inj (accepts _ filtered)
  have sent : event.packageName? = some name := Criteria.packageName?_of_accepts bound met
  rw [← event.packageScope?_eq, sent]
  simp [Option.filter, named]

end Rule

/-! ## Declared books -/

namespace Rulebook

/-- The books that arise by loading declared rules and by removing rules. -/
inductive Declared : Rulebook → Prop where
  | empty : Declared .empty
  | load {book : Rulebook} (declared : Declared book) (origin : Origin) {rules : List Rule}
    (rulesDeclared : ∀ rule ∈ rules, rule.Declared) : Declared (book.load origin rules).2
  | unload {book : Rulebook} (declared : Declared book) (origin : Origin) :
    Declared (book.removeOrigin origin).2
  | removeScope {book : Rulebook} (declared : Declared book) (scope : Scope) :
    Declared (book.removeScope scope).2

/-- The rules of a declared book are declared and filed under their own scopes. -/
theorem Declared.rule {book : Rulebook} (declared : book.Declared) {scope : Scope}
    {entry : RuleEntry} (member : entry ∈ book.bucket scope) :
    entry.rule.Declared ∧ entry.rule.scope = scope := by
  induction declared with
  | empty => cases member
  | load _ origin rulesDeclared ih =>
    rcases mem_bucket_load member with old | ⟨loaded, own⟩
    · exact ih old
    · exact ⟨rulesDeclared entry.rule loaded, own⟩
  | unload _ origin ih =>
    rw [bucket_removeOrigin] at member
    exact ih (List.mem_filter.1 member).1
  | removeScope _ removed ih =>
    rw [bucket_removeScope] at member
    split at member
    · cases member
    · exact ih member

end Rulebook

/-! ## Dispatch -/

/-- The first of the entries whose rule accepts the event. -/
def firstAccepting? (event : Event) (context : Context) (entries : List RuleEntry) :
    Option RuleEntry :=
  entries.find? fun entry => entry.rule.Accepts event context

theorem firstAccepting?_isSome_iff {event : Event} {context : Context}
    {entries : List RuleEntry} :
    (firstAccepting? event context entries).isSome = true ↔
      ∃ entry ∈ entries, entry.rule.Accepts event context := by
  simp [firstAccepting?]

/-- Among rules without parts of the host the first applicable is the first to accept the event. -/
theorem firstApplicable?_eq_firstAccepting? {event : Event} {context : Context}
    {utterance : Utterance} {entries : List RuleEntry}
    (hostFree : ∀ entry ∈ entries, entry.rule.HostFree) :
    firstApplicable? event context utterance entries = firstAccepting? event context entries := by
  apply List.find?_congr
  intro entry member
  simp only [(hostFree entry member).applicable_iff]

/-- The rules under the scope of the event's package. -/
def Rulebook.packageRules (book : Rulebook) (event : Event) : List RuleEntry :=
  match event.packageScope? with
  | none => []
  | some scope => book.bucket scope

namespace Rulebook.Declared

variable {book : Rulebook} {event : Event} {context : Context}

theorem of_mem_packageRules (declared : book.Declared) {entry : RuleEntry}
    (member : entry ∈ book.packageRules event) : entry.rule.Declared := by
  rw [packageRules] at member
  split at member
  · cases member
  · exact (declared.rule member).1

/-- What is filed under a name accepts only events of the package of this name. -/
theorem packageScope?_of_accepts (declared : book.Declared) {name : String} {entry : RuleEntry}
    (member : entry ∈ book.bucket (.named name)) (accepts : entry.rule.Accepts event context) :
    event.packageScope? = some (.named name) := by
  rcases declared.rule member with ⟨ruleDeclared, own⟩
  exact ruleDeclared.packageScope?_of_accepts own accepts

/-- A rule that accepts the event is among those that dispatch looks at. -/
theorem exists_accepts_iff (declared : book.Declared) :
    ((∃ entry ∈ book.packageRules event, entry.rule.Accepts event context) ∨
        ∃ entry ∈ book.bucket .fallback, entry.rule.Accepts event context) ↔
      ∃ scope, ∃ entry ∈ book.bucket scope, entry.rule.Accepts event context := by
  constructor
  · rintro (⟨entry, member, accepts⟩ | ⟨entry, member, accepts⟩)
    · rw [packageRules] at member
      split at member
      · cases member
      next scope _ => exact ⟨scope, entry, member, accepts⟩
    · exact ⟨.fallback, entry, member, accepts⟩
  · rintro ⟨scope, entry, member, accepts⟩
    cases scope with
    | fallback => exact .inr ⟨entry, member, accepts⟩
    | named name =>
      have sought : book.packageRules event = book.bucket (.named name) := by
        rw [packageRules, declared.packageScope?_of_accepts member accepts]
      exact .inl ⟨entry, sought ▸ member, accepts⟩

end Rulebook.Declared

namespace Dispatcher

variable {dispatcher : Dispatcher} (event : Event) {occasion : Occasion}

/-- Without a given scope the candidates are the rules of the package, then the fallback rules. -/
theorem candidates_of_unscoped (byPackage : dispatcher.settings.fallbackToPackageScope = true)
    (unscoped : occasion.scope = none) :
    dispatcher.candidates event occasion =
      dispatcher.book.packageRules event ++ dispatcher.book.bucket .fallback := by
  have sought : effectiveScope? dispatcher.settings event none = event.packageScope? := by
    simp [effectiveScope?, byPackage]
  rw [candidates, unscoped, sought, Rulebook.packageRules]
  cases found : event.packageScope? with
  | none => rfl
  | some scope =>
    rcases Event.named_of_packageScope? found with ⟨name, rfl⟩
    rfl

/-- In a declared book dispatch reports the first rule that accepts the event. -/
theorem processInto_of_declared (declared : dispatcher.book.Declared)
    (byPackage : dispatcher.settings.fallbackToPackageScope = true)
    (unscoped : occasion.scope = none) (utterance : Utterance) :
    let context : Context := ⟨dispatcher.surroundings, occasion.values⟩
    let first := (firstAccepting? event context (dispatcher.book.packageRules event)).or
      (firstAccepting? event context (dispatcher.book.bucket .fallback))
    dispatcher.processInto event occasion utterance =
      (first, contributionOf event context utterance first) := by
  intro context first
  have split := candidates_of_unscoped event byPackage unscoped
  have hostFree : ∀ entry ∈ dispatcher.candidates event occasion, entry.rule.HostFree := by
    rw [split]
    intro entry member
    rcases List.mem_append.1 member with ofPackage | ofFallback
    · exact (declared.of_mem_packageRules ofPackage).hostFree
    · exact (declared.rule ofFallback).1.hostFree
  have search : firstApplicable? event context utterance (dispatcher.candidates event occasion) =
      first := by
    rw [firstApplicable?_eq_firstAccepting? hostFree, split, firstAccepting?, List.find?_append]
    rfl
  rw [processInto_eq, search]

/--
In a book of declared rules scopes hide nothing: dispatch without a given scope reports a rule
whenever a rule under any scope accepts the event.  It is the first such rule under the scope of
the event's package, or else the first under the fallback scope, and it is reported even if its
phrase cannot be rendered and only its metadata and feedback are given.
-/
theorem process_finds_first_accepting (dispatcher : Dispatcher) (event : Event)
    (occasion : Occasion) (declared : dispatcher.book.Declared)
    (byPackage : dispatcher.settings.fallbackToPackageScope = true)
    (unscoped : occasion.scope = none) :
    let context : Context := ⟨dispatcher.surroundings, occasion.values⟩
    let result := (dispatcher.process event occasion).1
    (result.matched.isSome = true ↔
        ∃ scope entries, dispatcher.book.rulesFor? scope = some entries ∧
          ∃ entry ∈ entries, entry.rule.Accepts event context) ∧
      result.matched =
        (firstAccepting? event context (dispatcher.book.packageRules event)).or
          (firstAccepting? event context (dispatcher.book.bucket .fallback)) ∧
      (∀ name entries, dispatcher.book.rulesFor? (.named name) = some entries →
        ∀ entry ∈ entries, entry.rule.Accepts event context →
          event.packageScope? = some (.named name)) ∧
      ∀ entry phrase fault, result.matched = some entry →
        entry.rule.formatter = some (.phrase phrase) →
        phrase.render event dispatcher.surroundings = .error fault →
          result.utterance = entry.rule.applyMetadata dispatcher.pool.obtain.1 := by
  intro context result
  have dispatched :=
    processInto_of_declared event declared byPackage unscoped dispatcher.pool.obtain.1
  have matched : result.matched =
      (firstAccepting? event context (dispatcher.book.packageRules event)).or
        (firstAccepting? event context (dispatcher.book.bucket .fallback)) :=
    congrArg Prod.fst dispatched
  have spoken : result.utterance =
      contributionOf event context dispatcher.pool.obtain.1 result.matched := by
    rw [matched]
    exact congrArg Prod.snd dispatched
  refine ⟨?_, matched, ?_, ?_⟩
  · rw [matched, Option.isSome_or, Bool.or_eq_true, firstAccepting?_isSome_iff,
      firstAccepting?_isSome_iff, declared.exists_accepts_iff]
    constructor
    · rintro ⟨scope, entry, member, accepts⟩
      rcases Rulebook.mem_bucket_iff.1 member with ⟨entries, stored, listed⟩
      exact ⟨scope, entries, stored, entry, listed, accepts⟩
    · rintro ⟨scope, entries, stored, entry, listed, accepts⟩
      exact ⟨scope, entry, Rulebook.mem_bucket_iff.2 ⟨entries, stored, listed⟩, accepts⟩
  · intro name entries stored entry listed accepts
    have member := Rulebook.mem_bucket_iff.2 ⟨entries, stored, listed⟩
    exact declared.packageScope?_of_accepts member accepts
  · intro entry phrase fault reported given unrendered
    rw [spoken, reported, contributionOf, Rule.contribution, given]
    simp [RuleFormatter.format, Phrase.speak, unrendered, context]

/-- A rule that demands a package is reported for its events, though its template lacks a value. -/
theorem process_finds_rule_of_package :
    ∃ rule : Rule,
      Rule.ofSteps [.condition ⟨.packageName, .equals (.text "app")⟩, .template "%s"] = .ok rule ∧
        ((start (Rulebook.empty.load ⟨"plugin"⟩ [rule]).2 .empty .standard).process
          (Event.empty.set .packageName (.text "app")) .plain).1.matched.isSome = true := by
  refine ⟨_, rfl, ?_⟩
  refine (process_finds_first_accepting _ _ _ (.load .empty ⟨"plugin"⟩ ?_) rfl rfl).1.2 ?_
  · intro rule member
    rcases List.mem_singleton.1 member with rfl
    exact ⟨[.condition ⟨.packageName, .equals (.text "app")⟩, .template "%s"], by decide, rfl⟩
  · refine ⟨.named "app", _, rfl, _, List.mem_singleton_self _, ?_⟩
    intro filter given
    rcases Option.some.inj given with rfl
    rfl

end Dispatcher

end SpokenFeedback
