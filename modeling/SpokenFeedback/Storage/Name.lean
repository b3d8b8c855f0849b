import SpokenFeedback.Json.Tree
import SpokenFeedback.Rule.Scope
import SpokenFeedback.Vocabulary.Property
import SpokenFeedback.Vocabulary.QueueMode

/-!
# Stored names

Properties, kinds and queue modes are stored by name, and so is the fallback scope; a named scope
is an object of its name, and an origin is its tag.  Names are read exactly, blanks included.
-/

namespace SpokenFeedback

namespace Property

/-- The tree of a property. -/
def toJson (property : Property) : Json := .text property.name

/-- The property of a tree. -/
def ofJson? (tree : Json) : Option Property := tree.choice?.bind ofExactName?

end Property

namespace Kind

/-- The tree of a kind. -/
def toJson (kind : Kind) : Json := .text kind.name

/-- The kind of a tree. -/
def ofJson? (tree : Json) : Option Kind :=
  tree.choice?.bind fun name => all.find? fun kind => kind.name = name

end Kind

namespace QueueMode

/-- The tree of a queue mode. -/
def toJson (mode : QueueMode) : Json := .text mode.name

/-- The queue mode of a tree. -/
def ofJson? (tree : Json) : Option QueueMode := tree.choice?.bind ofExactName?

end QueueMode

namespace Scope

/-- The tree of a scope. -/
def toJson : Scope → Json
  | .fallback => .text "fallback"
  | .named name => .object [("named", .text name)]

/-- The scope of a tree. -/
def ofJson? : Json → Option Scope
  | .text "fallback" => some .fallback
  | .object [("fallback", .null)] => some .fallback
  | .object [("named", .text name)] => some (.named name)
  | _ => none

end Scope

namespace Origin

/-- The tree of an origin. -/
def toJson (origin : Origin) : Json := .text origin.tag

/-- The origin of a tree. -/
def ofJson? (tree : Json) : Option Origin := tree.text?.map Origin.mk

end Origin

end SpokenFeedback
