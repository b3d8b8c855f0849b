import SpokenFeedback.Lineage.TypeTable

/-!
# Type directories

A directory answers questions about a table and remembers, up to a fixed number, the questions
that had no answer.  What it remembers is forgotten when a type is declared and when there is no
room for one more, so a remembered question never has an answer.  A question is looked up and
remembered in one step: no declaration comes in between.
-/

namespace SpokenFeedback

/-- A table together with the questions known to have no answer. -/
structure TypeDirectory where
  table : TypeTable
  misses : List TypeName
  capacity : Nat
deriving DecidableEq, Repr

namespace TypeDirectory

/-- The number of unanswered questions that a directory remembers unless told otherwise. -/
def defaultCapacity : Nat := 1024

/-- The directory without types that remembers up to `capacity` questions. -/
def empty (capacity : Nat) : TypeDirectory := ⟨.empty, [], capacity⟩

instance : Inhabited TypeDirectory := ⟨empty defaultCapacity⟩

/-- Declares a type and forgets the unanswered questions. -/
def declare (directory : TypeDirectory) (type : TypeName) (parent : Option String) :
    TypeDirectory :=
  { directory with table := directory.table.declare type parent, misses := [] }

/-- Remembers a question without answer, after forgetting all others if there is no room. -/
def remember (directory : TypeDirectory) (question : TypeName) : TypeDirectory :=
  if directory.capacity = 0 then directory
  else
    let kept := if directory.misses.length ≥ directory.capacity then [] else directory.misses
    { directory with misses := if question ∈ kept then kept else question :: kept }

/-- Answers a question, and remembers it if it has no answer. -/
def resolve (directory : TypeDirectory) (name : String) (within : Option String) :
    Option Lineage × TypeDirectory :=
  if ⟨name, within⟩ ∈ directory.misses then (none, directory)
  else
    match directory.table.lineage? name within with
    | some lineage => (some lineage, directory)
    | none => (none, directory.remember ⟨name, within⟩)

/-- The directory as a resolver; its answers do not depend on the order of questions. -/
def resolver (directory : TypeDirectory) : TypeResolver := fun name within =>
  (directory.resolve name within).1

/-- The number of declared types. -/
def size (directory : TypeDirectory) : Nat := directory.table.size

/-- The number of remembered questions. -/
def missCount (directory : TypeDirectory) : Nat := directory.misses.length

/-- Asking changes no declaration. -/
@[simp]
theorem table_resolve (directory : TypeDirectory) (name : String) (within : Option String) :
    (directory.resolve name within).2.table = directory.table := by
  simp only [resolve, remember]
  split
  · rfl
  · split
    · rfl
    · split <;> rfl

end TypeDirectory

end SpokenFeedback
