import SpokenFeedback.Json.Tree

/-!
# Writing JSON

The compact text of a tree.  In a quoted text the quotation mark, the backslash and the control
characters are escaped, five of the latter by a letter and the others by their number in lower
case; every other character stands for itself.
-/

namespace SpokenFeedback

namespace Json

/-- The digit of a number below sixteen, in lower case. -/
def hexDigit (value : Nat) : Char := Nat.digitChar value

/-- The characters that stand for one character in a quoted text. -/
def escape (c : Char) : List Char :=
  if c = '"' then ['\\', '"']
  else if c = '\\' then ['\\', '\\']
  else if c.toNat = 0x08 then ['\\', 'b']
  else if c.toNat = 0x09 then ['\\', 't']
  else if c.toNat = 0x0A then ['\\', 'n']
  else if c.toNat = 0x0C then ['\\', 'f']
  else if c.toNat = 0x0D then ['\\', 'r']
  else if c.toNat < 0x20 then
    ['\\', 'u', '0', '0', hexDigit (c.toNat / 16), hexDigit (c.toNat % 16)]
  else [c]

/-- A text between quotation marks. -/
def writeText (content : String) : List Char := '"' :: content.toList.flatMap escape ++ ['"']

mutual

/-- The compact text of a tree. -/
def writeChars : Json → List Char
  | .null => "null".toList
  | .bool true => "true".toList
  | .bool false => "false".toList
  | .number token => token.write
  | .text content => writeText content
  | .unpaired => "null".toList
  | .list items => '[' :: writeItems items ++ [']']
  | .object members => '{' :: writeMembers members ++ ['}']

/-- The items of a list, with commas between them. -/
def writeItems : List Json → List Char
  | [] => []
  | [item] => item.writeChars
  | item :: items => item.writeChars ++ ',' :: writeItems items

/-- The members of an object, with commas between them. -/
def writeMembers : List (String × Json) → List Char
  | [] => []
  | [(key, value)] => writeText key ++ ':' :: value.writeChars
  | (key, value) :: members =>
    writeText key ++ ':' :: value.writeChars ++ ',' :: writeMembers members

end

/-- The compact text of a tree. -/
def write (tree : Json) : String := String.ofList tree.writeChars

end Json

end SpokenFeedback
