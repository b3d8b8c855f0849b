/-!
# Footprints

A pattern may not be too large.  What counts is the memory of the automata over bytes that would
recognise its matches forwards and backwards: a state takes 32 bytes, a byte range of a state that
asks for a byte takes 8 more, and a branch of a state that forks takes 4 more.

States that have been built are remembered in a table of slots, where a newer state displaces an
older one.  How many states there are in the end depends on the slots, and so on the numbers of the
states built before; this is why a footprint counts states beside bytes.
-/

namespace SpokenFeedback

namespace Pattern

/-- How many states of an automaton have been built, and how many bytes they take. -/
structure Footprint where
  states : Nat
  bytes : Nat
deriving DecidableEq, Repr

namespace Footprint

/-- The footprint of nothing. -/
def zero : Footprint := ⟨0, 0⟩

/-- The greatest number of bytes that an automaton may take: ten mebibytes. -/
def maxBytes : Nat := 10 * 1024 * 1024

/-- Whether the automaton takes too many bytes. -/
def isTooLarge (footprint : Footprint) : Bool := maxBytes < footprint.bytes

/-- One more state without byte ranges and branches. -/
def addState (footprint : Footprint) : Footprint :=
  ⟨footprint.states + 1, footprint.bytes + 32⟩

/-- More states without byte ranges and branches. -/
def addStates (count : Nat) (footprint : Footprint) : Footprint :=
  ⟨footprint.states + count, footprint.bytes + 32 * count⟩

/-- One more state with byte ranges. -/
def addRanges (count : Nat) (footprint : Footprint) : Footprint :=
  ⟨footprint.states + 1, footprint.bytes + 32 + 8 * count⟩

/-- Branches for states that have been built. -/
def addBranches (count : Nat) (footprint : Footprint) : Footprint :=
  ⟨footprint.states, footprint.bytes + 4 * count⟩

end Footprint

/-- A part of an expression by what it adds to a footprint. -/
abbrev Cost := Footprint → Footprint

/-- The number of lists over which the slots are spread. -/
def bucketCount : Nat := 512

/-- The states that have been built, by slots. -/
structure Remembered (Key : Type) where
  buckets : Array (List (Nat × Key × Nat))

namespace Remembered

/-- The table without states. -/
def empty (Key : Type) : Remembered Key := ⟨Array.replicate bucketCount []⟩

/-- The state in a slot, if it was built for this key. -/
def find? {Key : Type} [DecidableEq Key] (table : Remembered Key) (slot : Nat) (key : Key) :
    Option Nat :=
  match (table.buckets.getD (slot % bucketCount) []).find? fun entry => entry.1 == slot with
  | some (_, other, state) => if other = key then some state else none
  | none => none

/-- The table with a state put in a slot. -/
def insert {Key : Type} (table : Remembered Key) (slot : Nat) (key : Key) (state : Nat) :
    Remembered Key :=
  ⟨table.buckets.modify (slot % bucketCount) ((slot, key, state) :: ·)⟩

end Remembered

/-- One step of a multiplicative hash of 64 bits. -/
def mixIn (hash : UInt64) (number : Nat) : UInt64 := (hash ^^^ number.toUInt64) * 1099511628211

/-- The hash of no numbers. -/
def hashStart : UInt64 := 14695981039346656037

/-- The slot of a hash among a number of slots. -/
def slotOf (slots : UInt64) (hash : UInt64) : Nat := (hash % slots).toNat

end Pattern

end SpokenFeedback
