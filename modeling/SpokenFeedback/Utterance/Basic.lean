import SpokenFeedback.Surroundings
import SpokenFeedback.Utterance.Assembly
import SpokenFeedback.Vocabulary.QueueMode

/-!
# Utterances

What is to be spoken and felt: a text, metadata for the speech engine, and the sounds and
vibrations that go with it.
-/

namespace SpokenFeedback

/-- A text to speak with its metadata and feedback. -/
structure Utterance where
  text : String
  metadata : Metadata
  auditory : NameSet
  haptic : NameSet
deriving DecidableEq

namespace Utterance

/-- The metadata key under which the queue mode is kept. -/
def queueingKey : String := "queuing"

/-- The utterance that says nothing. -/
def empty : Utterance := ⟨"", .empty, .empty, .empty⟩

instance : Inhabited Utterance := ⟨empty⟩

/-- Whether there is nothing to speak, to tell or to feel. -/
def isEmpty (utterance : Utterance) : Bool :=
  utterance.text = "" && utterance.metadata.isEmpty && utterance.auditory.isEmpty
    && utterance.haptic.isEmpty

/-- The utterance with its text, metadata and feedback taken away. -/
def clear (utterance : Utterance) : Utterance :=
  { utterance with text := "", metadata := .empty, auditory := .empty, haptic := .empty }

@[simp]
theorem clear_eq_empty (utterance : Utterance) : utterance.clear = empty := rfl

/-- Appends a segment to the text. -/
def append (utterance : Utterance) (segment : String) : Utterance :=
  { utterance with text := assemble utterance.text segment }

/-- Puts one value into the metadata. -/
def insertMetadata (utterance : Utterance) (key : String) (value : Value) : Utterance :=
  { utterance with metadata := utterance.metadata.insert key value }

/-- Writes metadata over the metadata that is there. -/
def mergeMetadata (utterance : Utterance) (metadata : Metadata) : Utterance :=
  { utterance with metadata := utterance.metadata.merge metadata }

/-- Adds a sound. -/
def addAuditory (utterance : Utterance) (resource : String) : Utterance :=
  { utterance with auditory := utterance.auditory.add resource }

/-- Adds a vibration. -/
def addHaptic (utterance : Utterance) (resource : String) : Utterance :=
  { utterance with haptic := utterance.haptic.add resource }

/-- The queue mode that the metadata carry. -/
def queueMode? (utterance : Utterance) : Option QueueMode :=
  ((utterance.metadata.get? queueingKey).bind Value.int?).bind QueueMode.ofCode?

end Utterance

end SpokenFeedback
