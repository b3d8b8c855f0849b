import SpokenFeedback.Event
import SpokenFeedback.Fault
import SpokenFeedback.Utterance.Basic

/-!
# Parts that the host supplies

A host application can supply filters and formatters of its own.  Such a part can fail with a
fault, and it can panic, with or without a message; a formatter that does either may have changed
the utterance before.
-/

namespace SpokenFeedback

/-- How a part of the host ends. -/
inductive Outcome (α : Type) where
  | done (result : α)
  | failed (fault : Fault)
  | panicked (message : Option String)
deriving DecidableEq, Repr

/-- The result of a part of the host, where a panic counts as a fault. -/
def Outcome.caught : Outcome α → Except Fault α
  | .done result => .ok result
  | .failed fault => .error fault
  | .panicked message =>
    .error (.evaluation (.panicked (message.getD "unknown panic payload")))

/-- A filter of the host. -/
structure HostFilter where
  description : String
  accept : Event → Context → Outcome Bool

/-- The description of a filter that gives none. -/
def HostFilter.plainDescription : String := "custom"

/-- A formatter of the host, which gives the utterance as it leaves it. -/
structure HostFormatter where
  format : Event → Context → Utterance → Utterance × Outcome Unit

end SpokenFeedback
