import SpokenFeedback.Text.Blank

/-!
# Queue modes

How an utterance takes its turn among those still being spoken.
-/

namespace SpokenFeedback

/-- How an utterance is queued. -/
inductive QueueMode where
  | interrupt
  | queue
  | computeFromEventContext
  | uninterruptible
deriving DecidableEq, Repr

namespace QueueMode

/-- Every mode, in the order of the codes. -/
def all : List QueueMode := [.interrupt, .queue, .computeFromEventContext, .uninterruptible]

/-- The code that an utterance's metadata carries. -/
def code : QueueMode → Int64
  | .interrupt => 0
  | .queue => 1
  | .computeFromEventContext => 2
  | .uninterruptible => 3

/-- The name that rules use. -/
def name : QueueMode → String
  | .interrupt => "INTERRUPT"
  | .queue => "QUEUE"
  | .computeFromEventContext => "COMPUTE_FROM_EVENT_CONTEXT"
  | .uninterruptible => "UNINTERRUPTIBLE"

/-- The mode with exactly this name. -/
def ofExactName? (name : String) : Option QueueMode := all.find? fun mode => mode.name = name

/-- The mode with this name; blanks around the name do not count. -/
def ofName? (name : String) : Option QueueMode := ofExactName? (Text.trim name)

/-- The mode with this code. -/
def ofCode? (code : Int64) : Option QueueMode := all.find? fun mode => mode.code = code

@[simp]
theorem ofCode?_code (mode : QueueMode) : ofCode? mode.code = some mode := by
  cases mode <;> decide

end QueueMode

end SpokenFeedback
