import SpokenFeedback.Pattern.ByteRange
import SpokenFeedback.Pattern.CharClass
import SpokenFeedback.Pattern.Footprint.Basic

/-!
# Footprints of sets

The states that recognise one character of a set by the bytes of its encoding.  Characters share
states where their encodings agree: forwards from their starts and, as far as the table of slots
remembers them, from their ends; backwards from their starts, which come last.
-/

namespace SpokenFeedback

namespace Pattern

/-- Bytes with which a state goes on to another. -/
structure ByteStep where
  bytes : ByteRange
  next : Nat
deriving DecidableEq, Repr

/-- What has been built of an automaton while sequences of byte ranges are put into it. -/
structure Sharing (Key : Type) where
  footprint : Footprint
  table : Remembered Key

/-- The steps of a state that is still open, the last first, and the bytes of the step to come. -/
structure OpenState where
  steps : List ByteStep
  pending : Option ByteRange

namespace OpenState

/-- The steps of a state, the last first, once it is known where the bytes to come lead. -/
def finish (state : OpenState) (next : Nat) : List ByteStep :=
  match state.pending with
  | some bytes => ⟨bytes, next⟩ :: state.steps
  | none => state.steps

end OpenState

/-- The state with these steps, the last first: one that is remembered, or a new one. -/
def settle (reversed : List ByteStep) (sharing : Sharing (List ByteStep)) :
    Nat × Sharing (List ByteStep) :=
  let steps := reversed.reverse
  let hash := steps.foldl
    (fun hash step => mixIn (mixIn (mixIn hash step.bytes.1) step.bytes.2) step.next) hashStart
  let slot := slotOf 10000 hash
  match sharing.table.find? slot steps with
  | some state => (state, sharing)
  | none =>
    let state := sharing.footprint.states
    (state, ⟨sharing.footprint.addRanges steps.length, sharing.table.insert slot steps state⟩)

/-- Settles open states, each of which leads to the next and the last to `target`. -/
def settleAll (target : Nat) :
    List OpenState → Sharing (List ByteStep) → Nat × Sharing (List ByteStep)
  | [], sharing => (target, sharing)
  | state :: deeper, sharing =>
    let (next, sharing) := settleAll target deeper sharing
    settle (state.finish next) sharing

/-- Puts a sequence into open states and settles those at which it leaves the one before it. -/
def putSequence (target : Nat) :
    List OpenState → List ByteRange → Sharing (List ByteStep) →
      List OpenState × Sharing (List ByteStep)
  | state :: deeper, bytes :: rest, sharing =>
    if state.pending = some bytes then
      let (deeper, sharing) := putSequence target deeper rest sharing
      (state :: deeper, sharing)
    else
      let (next, sharing) := settleAll target deeper sharing
      (⟨state.finish next, some bytes⟩ :: rest.map fun bytes => ⟨[], some bytes⟩, sharing)
  | states, _, sharing => (states, sharing)

/-- The cost of a set forwards: sequences share states from their starts and from their ends. -/
def forwardSetCost (sequences : List (List ByteRange)) : Cost := fun footprint =>
  let target := footprint.states
  let (states, sharing) := sequences.foldl
    (fun (states, sharing) sequence => putSequence target states sequence sharing)
    ([⟨[], none⟩], ⟨footprint.addState, .empty _⟩)
  (settleAll target states sharing).2.footprint

/-- A step backwards over bytes to a state: where it comes from, or a new state. -/
def stepBack (state : Nat) (bytes : ByteRange) (sharing : Sharing (Nat × ByteRange)) :
    Nat × Sharing (Nat × ByteRange) :=
  let slot := slotOf 1000 (mixIn (mixIn (mixIn hashStart state) bytes.1) bytes.2)
  match sharing.table.find? slot (state, bytes) with
  | some known => (known, sharing)
  | none =>
    let added := sharing.footprint.states
    (added, ⟨sharing.footprint.addState, sharing.table.insert slot (state, bytes) added⟩)

/-- The cost of a set backwards: sequences share states from their starts, which come last. -/
def backwardSetCost (sequences : List (List ByteRange)) : Cost := fun footprint =>
  let target := footprint.states + 1
  let sharing := sequences.foldl
    (fun sharing sequence =>
      (sequence.foldl (fun (state, sharing) bytes => stepBack state bytes sharing)
        (target, sharing)).2)
    (⟨footprint.addState.addState, .empty _⟩ : Sharing (Nat × ByteRange))
  sharing.footprint.addBranches sequences.length

/-- The cost of one character of a set. -/
def setCost (backward : Bool) (set : CharClass) : Cost :=
  if set.all fun range => range.2 < 0x80 then fun footprint =>
    footprint.addState.addRanges set.length
  else
    let sequences := set.flatMap fun (low, high) => byteSequences low high
    if backward then backwardSetCost sequences else forwardSetCost sequences

end Pattern

end SpokenFeedback
