import SpokenFeedback.Criteria
import SpokenFeedback.Phrase
import SpokenFeedback.Rule.Host
import SpokenFeedback.Rule.Scope

/-!
# Rules

A rule has a filter that says which events it is for, a formatter that speaks them, and metadata
and feedback that it gives to every utterance it makes.  Filter and formatter may be missing: the
rule is then for every event, or speaks nothing.
-/

namespace SpokenFeedback

/-- What decides whether a rule is for an event. -/
inductive RuleFilter where
  | criteria (criteria : Criteria)
  | host (filter : HostFilter)

namespace RuleFilter

/-- Decides on an event. -/
def accept (filter : RuleFilter) (event : Event) (context : Context) : Outcome Bool :=
  match filter with
  | .criteria given => .done (given.accepts event context.surroundings)
  | .host supplied => supplied.accept event context

/-- The text of the filter. -/
def describe : RuleFilter → String
  | .criteria given => given.describe
  | .host supplied => supplied.description

end RuleFilter

/-- What speaks an event. -/
inductive RuleFormatter where
  | phrase (phrase : Phrase)
  | host (formatter : HostFormatter)

namespace RuleFormatter

/-- Speaks an event into an utterance. -/
def format (formatter : RuleFormatter) (event : Event) (context : Context)
    (utterance : Utterance) : Utterance × Outcome Unit :=
  match formatter with
  | .phrase given => (given.speak event context.surroundings utterance, .done ())
  | .host supplied => supplied.format event context utterance

end RuleFormatter

/-- A rule. -/
structure Rule where
  scope : Scope
  filter : Option RuleFilter
  formatter : Option RuleFormatter
  metadata : Metadata
  auditory : List String
  haptic : List String
  index : Nat

namespace Rule

/-- Gives the rule's metadata and feedback to an utterance. -/
def applyMetadata (rule : Rule) (utterance : Utterance) : Utterance :=
  { utterance.mergeMetadata rule.metadata with
    auditory := utterance.auditory.addAll rule.auditory
    haptic := utterance.haptic.addAll rule.haptic }

/-- The text of the rule: its index, its scope and its filter. -/
def describe (rule : Rule) : String :=
  "#" ++ toString rule.index ++ " scope=" ++ rule.scope.display ++ " filter=["
    ++ (rule.filter.map RuleFilter.describe).getD "*" ++ "]"

end Rule

end SpokenFeedback
