import SpokenFeedback.Text.Word

/-!
# References to resources

A reference names a text that is kept apart from the rules: an at sign, optionally a package and a
colon, a kind, a slash and a name.  Kind and name are word characters; a package may also have
points.
-/

namespace SpokenFeedback

namespace Reference

/-- Whether a text is a kind, a slash and a name, neither of which is empty. -/
def isPath (path : List Char) : Bool :=
  match path.takeWhile Text.isWord, path.dropWhile Text.isWord with
  | _ :: _, '/' :: name => name ≠ [] && name.all Text.isWord
  | _, _ => false

/-- Whether a character may stand in the name of a package. -/
def inPackage (c : Char) : Bool := Text.isWord c || c == '.'

/-- What follows the package and its colon; the whole body if it starts with no package. -/
def afterPackage (body : List Char) : List Char :=
  match body.takeWhile inPackage, body.dropWhile inPackage with
  | _ :: _, ':' :: path => path
  | _, _ => body

end Reference

/-- Whether a text has the shape of a reference to a resource. -/
def isReference (text : String) : Bool :=
  match text.toList with
  | '@' :: body => Reference.isPath (Reference.afterPackage body)
  | _ => false

end SpokenFeedback
