import SpokenFeedback.Json.Tree
import SpokenFeedback.Value

/-!
# Stored values

A value is stored as an object of its sort and its content; when it is read, the two may come in
either order, other members do not count, and a list of the two will do.  A type is stored as an
object of its name and, if it gives one, its namespace.
-/

namespace SpokenFeedback

namespace TypeName

/-- The tree of a type name. -/
def toJson (type : TypeName) : Json :=
  match type.within with
  | none => .object [("name", .text type.name)]
  | some space => .object [("name", .text type.name), ("namespace", .text space)]

/-- A type name of a name and a namespace, which may be null. -/
def ofParts? (name : Json) (space : Json) : Option TypeName := do
  some ⟨← name.text?, ← space.optionalText?⟩

/-- The type name of a tree. -/
def ofJson? : Json → Option TypeName
  | .object members =>
    match members.filter (·.1 = "name"), members.filter (·.1 = "namespace") with
    | [(_, name)], [] => ofParts? name .null
    | [(_, name)], [(_, space)] => ofParts? name space
    | _, _ => none
  | .list [name] => ofParts? name .null
  | .list [name, space] => ofParts? name space
  | _ => none

end TypeName

namespace Value

/-- The tree of a value's content. -/
def contentToJson : Value → Json
  | .bool truth => .bool truth
  | .int number => .ofInt number.toInt
  | .float number => .ofFloat number
  | .text content => .text content
  | .type named => named.toJson

/-- The tree of a value. -/
def toJson (value : Value) : Json :=
  .object [("type", .text value.sortName), ("value", value.contentToJson)]

/-- The value of a sort with a content. -/
def ofContent? (sort : String) (content : Json) : Option Value :=
  match sort, content with
  | "bool", .bool truth => some (.bool truth)
  | "int", .number token => token.word?.map .int
  | "float", .number token => token.float?.map .float
  | "string", .text content => some (.text content)
  | "type", content => (TypeName.ofJson? content).map .type
  | _, _ => none

/-- Whether a member of an object is the sort or the content of a value. -/
def isPart (member : String × Json) : Bool := member.1 = "type" || member.1 = "value"

/-- The greatest nesting of what is read before it is known what it is. -/
def maxNesting : Nat := 127

/--
The value of a tree with lists and objects around it.  A content that comes before the sort must be
sound throughout and not nested too deeply, since all of it is read before its sort is known.
-/
def ofJson? (around : Nat) : Json → Option Value
  | .object members =>
    match members.filter isPart with
    | [("type", sort), ("value", content)] => sort.choice?.bind fun sort => ofContent? sort content
    | [("value", content), ("type", sort)] =>
      if content.isSound ∧ around + 1 + content.nesting ≤ maxNesting then
        sort.choice?.bind fun sort => ofContent? sort content
      else none
    | _ => none
  | .list [sort, content] => sort.text?.bind fun sort => ofContent? sort content
  | _ => none

end Value

end SpokenFeedback
