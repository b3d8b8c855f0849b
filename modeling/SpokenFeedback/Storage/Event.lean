import SpokenFeedback.Event
import SpokenFeedback.Storage.Value
import SpokenFeedback.Utterance.Basic

/-!
# Stored events and utterances

An event is stored as an object from the names of its properties to their values, and an utterance
as an object of its parts.
-/

namespace SpokenFeedback

namespace Event

/-- The tree of an event, with the properties in the order of declaration. -/
def toJson (event : Event) : Json :=
  .object (event.toList.map fun (property, value) => (property.name, value.toJson))

/-- The event of members of an object, after those that have been read. -/
def ofMembers? (event : Event) : List (String × Json) → Option Event
  | [] => some event
  | (name, value) :: members =>
    match Property.ofExactName? name, Value.ofJson? 1 value with
    | some property, some value => ofMembers? (event.set property value) members
    | _, _ => none

/-- The event of a tree. -/
def ofJson? : Json → Option Event
  | .object members => ofMembers? empty members
  | _ => none

end Event

/-- The tree of a set of names. -/
def NameSet.toJson (names : NameSet) : Json := .list (names.keys.map .text)

/-- The tree of metadata. -/
def Metadata.toJson (metadata : Metadata) : Json :=
  .object (metadata.entries.map fun (key, value) => (key, value.toJson))

/-- The tree of an utterance. -/
def Utterance.toJson (utterance : Utterance) : Json :=
  .object
    [("text", .text utterance.text), ("metadata", Metadata.toJson utterance.metadata),
      ("auditory", utterance.auditory.toJson), ("haptic", utterance.haptic.toJson)]

end SpokenFeedback
