import SpokenFeedback.Dispatch
import SpokenFeedback.Json.Reader
import SpokenFeedback.Json.Writer
import SpokenFeedback.Lineage.TypeDirectory
import SpokenFeedback.Proofs.Condition.Descent
import SpokenFeedback.Proofs.Condition.Description
import SpokenFeedback.Proofs.Condition.Disjunction
import SpokenFeedback.Proofs.Condition.Fitting
import SpokenFeedback.Proofs.Condition.FloatLiteral
import SpokenFeedback.Proofs.Condition.Growth
import SpokenFeedback.Proofs.Condition.IntegerDenotation
import SpokenFeedback.Proofs.Condition.LiteralKinds
import SpokenFeedback.Proofs.Condition.NumericLiteral
import SpokenFeedback.Proofs.Condition.Reading
import SpokenFeedback.Proofs.Condition.SurroundingBlanks
import SpokenFeedback.Proofs.Criteria.LastConditions
import SpokenFeedback.Proofs.Dispatch.Accumulation
import SpokenFeedback.Proofs.Dispatch.FirstMatch
import SpokenFeedback.Proofs.Dispatch.FlawedRules
import SpokenFeedback.Proofs.Dispatch.GivenScope
import SpokenFeedback.Proofs.Dispatch.Pooling
import SpokenFeedback.Proofs.Dispatch.ScopeIndex
import SpokenFeedback.Proofs.Lineage.Assignability
import SpokenFeedback.Proofs.Lineage.Misses
import SpokenFeedback.Proofs.Lineage.ParentChain
import SpokenFeedback.Proofs.Lineage.Walk
import SpokenFeedback.Proofs.Phrase.DisabledState
import SpokenFeedback.Proofs.Phrase.ResourceTemplate
import SpokenFeedback.Proofs.Phrase.Speaking
import SpokenFeedback.Proofs.Phrase.Splitting
import SpokenFeedback.Proofs.Rule.Declared
import SpokenFeedback.Proofs.Rule.Given
import SpokenFeedback.Proofs.Rule.Refusal
import SpokenFeedback.Proofs.Rulebook.Batches
import SpokenFeedback.Proofs.Rulebook.Bucket
import SpokenFeedback.Proofs.Rulebook.Loading
import SpokenFeedback.Proofs.Rulebook.Log
import SpokenFeedback.Proofs.Rulebook.Unloading
import SpokenFeedback.Proofs.Storage.Recovery
import SpokenFeedback.Proofs.Template.Substitution
import SpokenFeedback.Proofs.Utterance.Deliveries
import SpokenFeedback.Proofs.Utterance.Segments
import SpokenFeedback.Proofs.Utterance.Succession
import SpokenFeedback.Rule.Draft
import SpokenFeedback.Storage.Event
import SpokenFeedback.Storage.Name
import SpokenFeedback.Storage.Settings
