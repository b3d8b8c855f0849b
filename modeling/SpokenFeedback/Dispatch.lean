import SpokenFeedback.Rulebook
import SpokenFeedback.Utterance.Pool

/-!
# Dispatch

A dispatcher finds the rule for an event: the first applicable one among the rules of the event's
scope and then among those of the fallback scope.  A rule that rejects the event, fails or panics
leaves the utterance as it was, and the search goes on with the next.

The event's scope is given by the caller or, if the settings allow, taken from the event's package.
-/

namespace SpokenFeedback

/-- The settings of a dispatcher. -/
structure Settings where
  poolCapacity : Nat
  traceMatches : Bool
  fallbackToPackageScope : Bool
deriving DecidableEq, Repr

/-- The settings unless told otherwise. -/
def Settings.standard : Settings := ⟨UtterancePool.defaultCapacity, false, true⟩

instance : Inhabited Settings := ⟨.standard⟩

/-- What the caller says about one event. -/
structure Occasion where
  scope : Option Scope
  values : Metadata

/-- The occasion about which nothing is said. -/
def Occasion.plain : Occasion := ⟨none, .empty⟩

instance : Inhabited Occasion := ⟨.plain⟩

namespace Rule

/-- Whether the rule is for an event; a rule without filter is for every event. -/
def accepts (rule : Rule) (event : Event) (context : Context) : Except Fault Bool :=
  match rule.filter with
  | none => .ok true
  | some filter => (filter.accept event context).caught

/-- Makes the rule's utterance of an event, without regard to its filter. -/
def express (rule : Rule) (event : Event) (context : Context) (utterance : Utterance) :
    Utterance × Except Fault Unit :=
  let marked := rule.applyMetadata utterance
  match rule.formatter with
  | none => (marked, .ok ())
  | some formatter =>
    let (changed, outcome) := formatter.format event context marked
    (changed, outcome.caught)

/--
Tries the rule on an event: whether it was applied, and the utterance afterwards, which is the one
before unless the rule was applied.
-/
def attempt (rule : Rule) (event : Event) (context : Context) (utterance : Utterance) :
    Except Fault Bool × Utterance :=
  match rule.accepts event context with
  | .error fault => (.error fault, utterance)
  | .ok false => (.ok false, utterance)
  | .ok true =>
    match rule.express event context utterance with
    | (changed, .ok ()) => (.ok true, changed)
    | (_, .error fault) => (.error fault, utterance)

end Rule

/-- Tries rules in order up to the first that can be applied. -/
def attemptAll (event : Event) (context : Context) :
    List RuleEntry → Utterance → Option RuleEntry × Utterance
  | [], utterance => (none, utterance)
  | entry :: entries, utterance =>
    match entry.rule.attempt event context utterance with
    | (.ok true, changed) => (some entry, changed)
    | (_, left) => attemptAll event context entries left

/-- The scope of an event: the one given, or that of its package if the settings allow. -/
def eventScope? (settings : Settings) (event : Event) (given : Option Scope) : Option Scope :=
  if given.isSome || !settings.fallbackToPackageScope then given
  else (event.packageName?.filter fun name => !Text.isBlankText name).map .named

namespace Rulebook

/-- The rules to be tried under a scope that is not the fallback scope. -/
def scopedRules (book : Rulebook) : Option Scope → List RuleEntry
  | some (.named name) => (book.rulesFor? (.named name)).getD []
  | _ => []

/-- Files groups of rules in order, up to the first that is refused; those before it stay. -/
def publish (origin : Origin) :
    List (Scope × List Rule) → Rulebook → Except RegistrationFault Nat × Rulebook
  | [], book => (.ok 0, book)
  | (scope, rules) :: groups, book =>
    match book.add scope origin rules with
    | .error fault => (.error fault, book)
    | .ok (count, extended) =>
      let (others, published) := publish origin groups extended
      (others.map (count + ·), published)

/-- Rules grouped by their own scopes, in ascending order of the scopes. -/
def groupByScope (rules : List Rule) : SortedMap Scope (List Rule) :=
  rules.foldl
    (fun groups rule => groups.insert rule.scope ((groups.get? rule.scope).getD [] ++ [rule]))
    .empty

/-- Files rules of an origin under their own scopes. -/
def load (book : Rulebook) (origin : Origin) (rules : List Rule) :
    Except RegistrationFault Nat × Rulebook :=
  publish origin (groupByScope rules).entries book

end Rulebook

/-- A rulebook at work in its surroundings. -/
structure Dispatcher where
  book : Rulebook
  surroundings : Surroundings
  pool : UtterancePool
  settings : Settings

namespace Dispatcher

/-- A dispatcher at its start. -/
def start (book : Rulebook) (surroundings : Surroundings) (settings : Settings) : Dispatcher :=
  ⟨book, surroundings, .ofCapacity settings.poolCapacity, settings⟩

/-- Finds the rule for an event and lets it speak into an utterance of the caller. -/
def processInto (dispatcher : Dispatcher) (event : Event) (occasion : Occasion)
    (utterance : Utterance) : Option RuleEntry × Utterance :=
  let context : Context := ⟨dispatcher.surroundings, occasion.values⟩
  let scope := eventScope? dispatcher.settings event occasion.scope
  match attemptAll event context (dispatcher.book.scopedRules scope) utterance with
  | (some entry, spoken) => (some entry, spoken)
  | (none, left) =>
    attemptAll event context ((dispatcher.book.rulesFor? .fallback).getD []) left

/-- What became of an event. -/
structure Result where
  matched : Option RuleEntry
  utterance : Utterance

/-- Finds the rule for an event and lets it speak into an utterance of the pool. -/
def process (dispatcher : Dispatcher) (event : Event) (occasion : Occasion) :
    Result × Dispatcher :=
  let (utterance, pool) := dispatcher.pool.obtain
  let (matched, spoken) := dispatcher.processInto event occasion utterance
  (⟨matched, spoken⟩, { dispatcher with pool })

/-- Gives an utterance back to the pool. -/
def recycle (dispatcher : Dispatcher) (utterance : Utterance) : Dispatcher :=
  { dispatcher with pool := dispatcher.pool.recycle utterance }

/-- Files rules of an origin under their own scopes. -/
def load (dispatcher : Dispatcher) (origin : Origin) (rules : List Rule) :
    Except RegistrationFault Nat × Dispatcher :=
  let (count, book) := dispatcher.book.load origin rules
  (count, { dispatcher with book })

/-- Removes the rules of an origin. -/
def unload (dispatcher : Dispatcher) (origin : Origin) : Nat × Dispatcher :=
  let (count, book) := dispatcher.book.removeOrigin origin
  (count, { dispatcher with book })

end Dispatcher

end SpokenFeedback
