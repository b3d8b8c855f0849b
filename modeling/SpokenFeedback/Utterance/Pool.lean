import SpokenFeedback.Utterance.Basic

/-!
# Pools of utterances

A pool keeps a number of cleared utterances for use again.
-/

namespace SpokenFeedback

/-- Idle utterances, the one to be used next first. -/
structure UtterancePool where
  capacity : Nat
  idle : List Utterance
deriving DecidableEq

namespace UtterancePool

/-- The capacity of a pool unless told otherwise. -/
def defaultCapacity : Nat := 3

/-- The pool without utterances. -/
def ofCapacity (capacity : Nat) : UtterancePool := ⟨capacity, []⟩

instance : Inhabited UtterancePool := ⟨ofCapacity defaultCapacity⟩

/-- Takes an utterance out of the pool, or makes a new one if there is none. -/
def obtain (pool : UtterancePool) : Utterance × UtterancePool :=
  match pool.idle with
  | [] => (.empty, pool)
  | utterance :: idle => (utterance, { pool with idle })

/-- Clears an utterance and keeps it if there is room. -/
def recycle (pool : UtterancePool) (utterance : Utterance) : UtterancePool :=
  if pool.idle.length < pool.capacity then { pool with idle := utterance.clear :: pool.idle }
  else pool

end UtterancePool

end SpokenFeedback
