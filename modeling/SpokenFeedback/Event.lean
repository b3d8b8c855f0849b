import SpokenFeedback.Value
import SpokenFeedback.Vocabulary.Property

/-!
# Events

An event gives values to some of the properties.  `resolve` reads a property with the derived
ones taken into account, and `spokenText` is what an event says of itself.
-/

namespace SpokenFeedback

/-- The values that an event gives to properties. -/
structure Event where
  raw : Property → Option Value

namespace Event

/-- The event without properties. -/
def empty : Event := ⟨fun _ => none⟩

instance : Inhabited Event := ⟨empty⟩

/-- The event with one property set. -/
def set (event : Event) (property : Property) (value : Value) : Event :=
  ⟨fun other => if other = property then some value else event.raw other⟩

/-- The event with one property taken out. -/
def remove (event : Event) (property : Property) : Event :=
  ⟨fun other => if other = property then none else event.raw other⟩

/-- The event of a list of properties; of two values for one property the later one stays. -/
def ofList (values : List (Property × Value)) : Event :=
  values.foldl (fun event entry => event.set entry.1 entry.2) empty

/-- The properties with a value, in the order of declaration. -/
def toList (event : Event) : List (Property × Value) :=
  Property.all.filterMap fun property => (event.raw property).map (property, ·)

/-- The number of properties with a value. -/
def size (event : Event) : Nat := event.toList.length

/-- Whether no property has a value. -/
def isEmpty (event : Event) : Bool := event.size = 0

/-- The value of a property if its text is not empty. -/
def nonEmptyText? (event : Event) (property : Property) : Option Value :=
  (event.raw property).filter fun value => value.text?.any (· ≠ "")

/-- The value of a property, derived properties included. -/
def resolve (event : Event) : Property → Option Value
  | .contentDescriptionOrText =>
    (event.nonEmptyText? .text).or (event.raw .contentDescription)
  | .classNameStrict => event.raw .className
  | property => event.raw property

/-- What the event says of itself: its description if that is not empty, else its text. -/
def spokenText (event : Event) : Option Value :=
  (event.nonEmptyText? .contentDescription).or (event.raw .text)

/-- The name of the package that the event comes from. -/
def packageName? (event : Event) : Option String := (event.resolve .packageName).bind Value.text?

@[ext]
theorem ext {left right : Event} (agree : ∀ property, left.raw property = right.raw property) :
    left = right := by
  cases left; cases right
  simpa using funext agree

@[simp]
theorem raw_set (event : Event) (property other : Property) (value : Value) :
    (event.set property value).raw other =
      if other = property then some value else event.raw other := rfl

@[simp]
theorem raw_remove (event : Event) (property other : Property) :
    (event.remove property).raw other = if other = property then none else event.raw other := rfl

end Event

end SpokenFeedback
