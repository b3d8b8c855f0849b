import SpokenFeedback.Dispatch
import SpokenFeedback.Proofs.Rulebook.Bucket

/-!
# The first applicable rule

Dispatch tries rules one after another on one utterance, and a rule may change the utterance before
it turns out to fail.  Nevertheless the result depends on one rule only: the first that is
applicable to the utterance as it was given.

`Rule.Applicable` states when a rule is applicable from the answers of its filter and its formatter
alone, and `Rule.contribution` is what the rule by itself makes of an utterance.
`Rule.attempt_of_applicable` and `Rule.attempt_of_not_applicable` say what one attempt does,
`attemptAll_eq` what a list of attempts does, and `Dispatcher.processInto_first_applicable` what
dispatch does with the rules of both tiers.
-/

namespace SpokenFeedback

theorem Outcome.caught_eq_ok_iff {outcome : Outcome α} {result : α} :
    outcome.caught = .ok result ↔ outcome = .done result := by
  cases outcome <;> simp [caught]

/-! ## One rule -/

namespace Rule

variable (rule : Rule) (event : Event) (context : Context) (utterance : Utterance)

/-- The rule has no filter, or its filter says yes. -/
def Accepts : Prop :=
  ∀ filter ∈ rule.filter, filter.accept event context = .done true

instance : Decidable (rule.Accepts event context) :=
  inferInstanceAs (Decidable (∀ filter ∈ rule.filter, filter.accept event context = .done true))

/-- The rule has no formatter, or its formatter succeeds after metadata and feedback are given. -/
def Speaks : Prop :=
  ∀ formatter ∈ rule.formatter,
    (formatter.format event context (rule.applyMetadata utterance)).2 = .done ()

instance : Decidable (rule.Speaks event context utterance) :=
  inferInstanceAs (Decidable (∀ formatter ∈ rule.formatter,
    (formatter.format event context (rule.applyMetadata utterance)).2 = .done ()))

/-- The rule is for the event and can be spoken into the utterance. -/
def Applicable : Prop :=
  rule.Accepts event context ∧ rule.Speaks event context utterance

instance : Decidable (rule.Applicable event context utterance) :=
  inferInstanceAs (Decidable (_ ∧ _))

/-- What the rule alone makes of an utterance. -/
def contribution : Utterance :=
  match rule.formatter with
  | none => rule.applyMetadata utterance
  | some formatter => (formatter.format event context (rule.applyMetadata utterance)).1

variable {rule event context utterance}

theorem accepts_eq_ok_true_iff :
    rule.accepts event context = .ok true ↔ rule.Accepts event context := by
  rw [accepts, Accepts]
  cases rule.filter with
  | none => simp
  | some filter => simp [Outcome.caught_eq_ok_iff]

theorem express_fst : (rule.express event context utterance).1 =
    rule.contribution event context utterance := by
  rw [express, contribution]
  cases rule.formatter <;> rfl

theorem express_snd_eq_ok_iff : (rule.express event context utterance).2 = .ok () ↔
    rule.Speaks event context utterance := by
  rw [express, Speaks]
  cases rule.formatter with
  | none => simp
  | some formatter => simp [Outcome.caught_eq_ok_iff]

/-- An applicable rule is applied, and leaves its contribution. -/
theorem attempt_of_applicable (applicable : rule.Applicable event context utterance) :
    rule.attempt event context utterance =
      (.ok true, rule.contribution event context utterance) := by
  rcases applicable with ⟨accepted, spoken⟩
  have expressed : rule.express event context utterance =
      (rule.contribution event context utterance, .ok ()) :=
    Prod.ext express_fst (express_snd_eq_ok_iff.2 spoken)
  simp only [attempt, accepts_eq_ok_true_iff.2 accepted, expressed]

/-- Any other rule is not applied, and the utterance is left as it was. -/
theorem attempt_of_not_applicable (inapplicable : ¬ rule.Applicable event context utterance) :
    ∃ report, report ≠ .ok true ∧ rule.attempt event context utterance = (report, utterance) := by
  rw [attempt]
  cases answer : rule.accepts event context with
  | error fault => exact ⟨.error fault, by simp, rfl⟩
  | ok accepted =>
    cases accepted with
    | false => exact ⟨.ok false, by simp, rfl⟩
    | true =>
      have accepted := accepts_eq_ok_true_iff.1 answer
      cases expressed : rule.express event context utterance with
      | mk changed ending =>
        cases ending with
        | error fault => exact ⟨.error fault, by simp, rfl⟩
        | ok done =>
          -- The formatter has changed the utterance, and only here it is kept.
          have spoken : rule.Speaks event context utterance := by
            rw [← express_snd_eq_ok_iff, expressed]
          exact absurd ⟨accepted, spoken⟩ inapplicable

end Rule

/-! ## A list of rules -/

/-- The first of the entries that is applicable to the utterance. -/
def firstApplicable? (event : Event) (context : Context) (utterance : Utterance)
    (entries : List RuleEntry) : Option RuleEntry :=
  entries.find? fun entry => entry.rule.Applicable event context utterance

/-- What the rule that is applied makes of an utterance; without a rule it stays as it is. -/
def contributionOf (event : Event) (context : Context) (utterance : Utterance) :
    Option RuleEntry → Utterance
  | none => utterance
  | some entry => entry.rule.contribution event context utterance

/-- Attempts in order apply the first applicable rule, whatever the rules before it do. -/
theorem attemptAll_eq (event : Event) (context : Context) (utterance : Utterance)
    (entries : List RuleEntry) :
    attemptAll event context entries utterance =
      (firstApplicable? event context utterance entries,
        contributionOf event context utterance
          (firstApplicable? event context utterance entries)) := by
  induction entries with
  | nil => rfl
  | cons entry entries ih =>
    rw [attemptAll, firstApplicable?]
    by_cases applicable : entry.rule.Applicable event context utterance
    · rw [Rule.attempt_of_applicable applicable,
        List.find?_cons_of_pos (by simpa using applicable)]
      rfl
    · rcases Rule.attempt_of_not_applicable applicable with ⟨report, unapplied, attempted⟩
      rw [attempted, List.find?_cons_of_neg (by simpa using applicable)]
      split
      next same => simp_all
      next => simp_all [firstApplicable?]

/-! ## The two tiers -/

/-- The scope that a package name stands for; a blank name stands for none. -/
def Scope.ofPackage? (name : String) : Option Scope :=
  if Text.isBlankText name then none else some (.named name)

theorem Scope.ofPackage?_eq (name : String) :
    ((some name).filter fun name => !Text.isBlankText name).map .named = ofPackage? name := by
  cases blank : Text.isBlankText name <;> simp [ofPackage?, Option.filter, blank]

/-- The scope of the event's package, if the package is given as a text or a type. -/
def Event.packageScope? (event : Event) : Option Scope :=
  match event.raw .packageName with
  | some (.text name) => Scope.ofPackage? name
  | some (.type named) => Scope.ofPackage? named.name
  | _ => none

theorem Event.packageScope?_eq (event : Event) :
    (event.packageName?.filter fun name => !Text.isBlankText name).map .named =
      event.packageScope? := by
  have plain : event.resolve .packageName = event.raw .packageName := rfl
  rw [packageName?, plain, packageScope?]
  cases event.raw .packageName with
  | none => rfl
  | some value =>
    cases value with
    | text name => exact Scope.ofPackage?_eq name
    | type named => exact Scope.ofPackage?_eq named.name
    | bool truth => rfl
    | int number => rfl
    | float number => rfl

theorem Event.named_of_packageScope? {event : Event} {scope : Scope}
    (found : event.packageScope? = some scope) : ∃ name, scope = .named name := by
  rw [← packageScope?_eq] at found
  rcases Option.map_eq_some_iff.1 found with ⟨name, -, rfl⟩
  exact ⟨name, rfl⟩

/--
The scope whose rules are tried before the fallback rules: the one given, or else, if the settings
allow, that of the event's package.
-/
def effectiveScope? (settings : Settings) (event : Event) : Option Scope → Option Scope
  | some scope => some scope
  | none => if settings.fallbackToPackageScope then event.packageScope? else none

theorem eventScope?_eq (settings : Settings) (event : Event) (given : Option Scope) :
    eventScope? settings event given = effectiveScope? settings event given := by
  cases given with
  | some scope => simp [eventScope?, effectiveScope?]
  | none =>
    rw [eventScope?, effectiveScope?, event.packageScope?_eq]
    cases settings.fallbackToPackageScope <;> rfl

namespace Dispatcher

/-- The rules that dispatch may try on an event, in order. -/
def candidates (dispatcher : Dispatcher) (event : Event) (occasion : Occasion) :
    List RuleEntry :=
  match effectiveScope? dispatcher.settings event occasion.scope with
  | some (.named name) => dispatcher.book.bucket (.named name) ++ dispatcher.book.bucket .fallback
  | _ => dispatcher.book.bucket .fallback

/-- Dispatch applies the first applicable rule of both tiers to the utterance as it was given. -/
theorem processInto_eq (dispatcher : Dispatcher) (event : Event) (occasion : Occasion)
    (utterance : Utterance) :
    let context : Context := ⟨dispatcher.surroundings, occasion.values⟩
    let first := firstApplicable? event context utterance (dispatcher.candidates event occasion)
    dispatcher.processInto event occasion utterance =
      (first, contributionOf event context utterance first) := by
  intro context first
  have tiers : dispatcher.candidates event occasion =
      dispatcher.book.scopedRules (eventScope? dispatcher.settings event occasion.scope)
        ++ dispatcher.book.bucket .fallback := by
    rw [candidates, eventScope?_eq]
    rcases effectiveScope? dispatcher.settings event occasion.scope with _ | _ | _ <;> rfl
  have search : first = (firstApplicable? event context utterance
        (dispatcher.book.scopedRules (eventScope? dispatcher.settings event occasion.scope))).or
      (firstApplicable? event context utterance (dispatcher.book.bucket .fallback)) := by
    simp only [first, tiers, firstApplicable?, List.find?_append]
  rw [processInto, search, attemptAll_eq]
  cases firstApplicable? event context utterance
      (dispatcher.book.scopedRules (eventScope? dispatcher.settings event occasion.scope)) with
  | some entry => rfl
  | none => exact attemptAll_eq event context utterance _

/--
First match with rollback: dispatch reports the first applicable candidate and leaves what this
rule alone makes of the given utterance, or reports none and leaves the utterance as it was.
-/
theorem processInto_first_applicable (dispatcher : Dispatcher) (event : Event)
    (occasion : Occasion) (utterance : Utterance) :
    let context : Context := ⟨dispatcher.surroundings, occasion.values⟩
    (∃ skipped entry rest,
      dispatcher.candidates event occasion = skipped ++ entry :: rest ∧
        (∀ earlier ∈ skipped, ¬ earlier.rule.Applicable event context utterance) ∧
        entry.rule.Applicable event context utterance ∧
        dispatcher.processInto event occasion utterance =
          (some entry, entry.rule.contribution event context utterance)) ∨
      ((∀ entry ∈ dispatcher.candidates event occasion,
          ¬ entry.rule.Applicable event context utterance) ∧
        dispatcher.processInto event occasion utterance = (none, utterance)) := by
  intro context
  have dispatched := processInto_eq dispatcher event occasion utterance
  cases found : firstApplicable? event context utterance (dispatcher.candidates event occasion) with
  | some entry =>
    left
    rcases List.find?_eq_some_iff_append.1 found with ⟨applicable, skipped, rest, split, unfit⟩
    refine ⟨skipped, entry, rest, split, ?_, by simpa using applicable, ?_⟩
    · intro earlier member
      simpa using unfit earlier member
    · rw [dispatched, found]
      rfl
  | none =>
    right
    have unfit := List.find?_eq_none.1 found
    constructor
    · intro entry member
      simpa using unfit entry member
    · rw [dispatched, found]
      rfl

end Dispatcher

end SpokenFeedback
