import SpokenFeedback.Text.Blank
import SpokenFeedback.Vocabulary.Kind

/-!
# Properties

The properties that events carry and that rules speak of.  Their names are closed: a rule that
names any other property is at fault.  Two properties are derived, that is, read off others.
-/

namespace SpokenFeedback

/-- The properties of an event, of the device and of its software. -/
inductive Property where
  | eventType
  | packageName
  | className
  | classNameStrict
  | text
  | beforeText
  | contentDescription
  | contentDescriptionOrText
  | eventTime
  | itemCount
  | currentItemIndex
  | fromIndex
  | toIndex
  | scrollable
  | scrollX
  | scrollY
  | recordCount
  | checked
  | enabled
  | fullScreen
  | password
  | addedCount
  | removedCount
  | versionCode
  | versionName
  | platformRelease
  | platformSdk
  | systemFeature
deriving DecidableEq, Repr, Inhabited

namespace Property

/-- Every property, in the order of declaration. -/
def all : List Property :=
  [.eventType, .packageName, .className, .classNameStrict, .text, .beforeText,
   .contentDescription, .contentDescriptionOrText, .eventTime, .itemCount, .currentItemIndex,
   .fromIndex, .toIndex, .scrollable, .scrollX, .scrollY, .recordCount, .checked, .enabled,
   .fullScreen, .password, .addedCount, .removedCount, .versionCode, .versionName,
   .platformRelease, .platformSdk, .systemFeature]

/-- The name that rules and stored events use. -/
def name : Property → String
  | .eventType => "eventType"
  | .packageName => "packageName"
  | .className => "className"
  | .classNameStrict => "classNameStrict"
  | .text => "text"
  | .beforeText => "beforeText"
  | .contentDescription => "contentDescription"
  | .contentDescriptionOrText => "contentDescriptionOrText"
  | .eventTime => "eventTime"
  | .itemCount => "itemCount"
  | .currentItemIndex => "currentItemIndex"
  | .fromIndex => "fromIndex"
  | .toIndex => "toIndex"
  | .scrollable => "scrollable"
  | .scrollX => "scrollX"
  | .scrollY => "scrollY"
  | .recordCount => "recordCount"
  | .checked => "checked"
  | .enabled => "enabled"
  | .fullScreen => "fullScreen"
  | .password => "password"
  | .addedCount => "addedCount"
  | .removedCount => "removedCount"
  | .versionCode => "versionCode"
  | .versionName => "versionName"
  | .platformRelease => "platformRelease"
  | .platformSdk => "platformSdk"
  | .systemFeature => "systemFeature"

/-- The kind of value that rules compare the property with. -/
def kind : Property → Kind
  | .eventType | .itemCount | .currentItemIndex | .fromIndex | .toIndex | .scrollX | .scrollY
  | .recordCount | .addedCount | .removedCount | .versionCode | .platformSdk => .integer
  | .eventTime => .float
  | .scrollable | .checked | .enabled | .fullScreen | .password => .boolean
  | .packageName | .text | .beforeText | .contentDescription | .contentDescriptionOrText
  | .versionName | .platformRelease => .string
  | .className | .classNameStrict => .typeName
  | .systemFeature => .capability

/-- Whether the property is read off other properties. -/
def isDerived : Property → Bool
  | .contentDescriptionOrText | .classNameStrict => true
  | _ => false

/-- The property with exactly this name. -/
def ofExactName? (name : String) : Option Property := all.find? fun property => property.name = name

/-- The property with this name; blanks around the name do not count. -/
def ofName? (name : String) : Option Property := ofExactName? (Text.trim name)

theorem mem_all (property : Property) : property ∈ all := by
  cases property <;> decide

@[simp]
theorem ofExactName?_name (property : Property) : ofExactName? property.name = some property := by
  cases property <;> decide

/-- No two properties share a name. -/
theorem name_injective {left right : Property} (same : left.name = right.name) : left = right := by
  have found := ofExactName?_name left
  rw [same, ofExactName?_name] at found
  exact (Option.some.inj found).symm

end Property

end SpokenFeedback
