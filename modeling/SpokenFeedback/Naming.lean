import SpokenFeedback.Fault
import SpokenFeedback.Vocabulary.Property
import SpokenFeedback.Vocabulary.QueueMode

/-!
# Names in rules

What a name in a rule stands for.  Blanks around a name do not count, and the fault of a name that
stands for nothing shows it without them.
-/

namespace SpokenFeedback

/-- The property that a name stands for. -/
def Property.read (name : String) : Except ValidationFault Property :=
  match ofName? name with
  | some property => .ok property
  | none => .error (.unknownProperty (Text.trim name))

/-- The queue mode that a name stands for. -/
def QueueMode.read (name : String) : Except ValidationFault QueueMode :=
  match ofName? name with
  | some mode => .ok mode
  | none => .error (.unknownQueueMode (Text.trim name))

end SpokenFeedback
