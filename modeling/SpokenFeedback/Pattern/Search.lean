import SpokenFeedback.Pattern.Program

/-!
# Searching

A search runs all ways of matching side by side through the text, in order of preference, and
drops a way that reaches an instruction at which a preferred one already is.  So a search takes
time proportional to the text, whatever the pattern.  The earliest start wins; among the matches
from there, the preferred one.
-/

namespace SpokenFeedback

namespace Pattern

/-- A way of matching: the instruction it has reached and where its match started. -/
structure Thread where
  instruction : Nat
  start : Nat
deriving DecidableEq, Repr

/-- The instructions reached at a position, and the threads there that can take a character. -/
structure Frontier where
  seen : Array Bool
  ready : Array Thread

/--
Follows forks and assertions from the instructions of a stack.  No instruction is followed twice,
so that twice the size of the program bounds the steps.
-/
def follow (program : Program) (before after : Option Char) (start : Nat) :
    Nat → List Nat → Frontier → Frontier
  | 0, _, frontier => frontier
  | _ + 1, [], frontier => frontier
  | fuel + 1, number :: stack, frontier =>
    if frontier.seen.getD number true then follow program before after start fuel stack frontier
    else
      let frontier := { frontier with seen := frontier.seen.setIfInBounds number true }
      match program.getD number .finish with
      | .fork preferred other =>
        follow program before after start fuel (preferred :: other :: stack) frontier
      | .check assertion next =>
        if assertion.holds before after then
          follow program before after start fuel (next :: stack) frontier
        else follow program before after start fuel stack frontier
      | .take _ _ | .finish =>
        follow program before after start fuel stack
          { frontier with ready := frontier.ready.push ⟨number, start⟩ }

/-- The threads that can take a character or finish, in order of preference. -/
def readyThreads (program : Program) (before after : Option Char) (threads : List Thread) :
    List Thread :=
  let fuel := 2 * program.size + 2
  let frontier := threads.foldl
    (fun frontier thread =>
      follow program before after thread.start fuel [thread.instruction] frontier)
    ⟨Array.replicate program.size false, #[]⟩
  frontier.ready.toList

/--
Lets the threads take a character, down to the first one that finishes.  That one's match replaces
any match found before, and the threads below it are dropped.
-/
def advance (program : Program) (next : Option Char) (position : Nat) :
    List Thread → Option (Nat × Nat) → List Thread × Option (Nat × Nat)
  | [], found => ([], found)
  | thread :: threads, found =>
    match program.getD thread.instruction .finish with
    | .take set target =>
      let (moved, found) := advance program next position threads found
      if next.any set.holds then (⟨target, thread.start⟩ :: moved, found) else (moved, found)
    | _ => ([], some (thread.start, position - thread.start))

/-- Runs the threads through the rest of the text; gives the start and length of the match. -/
def run (program : Program) (entry : Nat) (threads : List Thread) (found : Option (Nat × Nat))
    (before : Option Char) (position : Nat) (rest : List Char) : Option (Nat × Nat) :=
  let threads := if found.isNone then threads ++ [⟨entry, position⟩] else threads
  let ready := readyThreads program before rest.head? threads
  let (threads, found) := advance program rest.head? position ready found
  match rest with
  | [] => found
  | c :: rest =>
    if threads.isEmpty && found.isSome then found
    else run program entry threads found (some c) (position + 1) rest

end Pattern

/-- A compiled pattern with the text it was read from. -/
structure Pattern where
  source : String
  program : Pattern.Program
  entry : Nat
deriving DecidableEq, Repr

namespace Pattern

/-- Compiles a pattern's text. -/
def compile (source : String) : Except Flaw Pattern :=
  (readExpression source).map fun expression =>
    let (entry, program) := Program.ofExpression expression
    ⟨source, program, entry⟩

/-- How many characters come before the first match, and how many it takes. -/
def search (pattern : Pattern) (before : Option Char) (text : List Char) : Option (Nat × Nat) :=
  run pattern.program pattern.entry [] none before 0 text

/--
The first match in what is left of a text.  Directly after a match an empty match does not count,
and the search goes on one character further.
-/
def nextMatch (pattern : Pattern) (before : Option Char) (afterMatch : Bool) (text : List Char) :
    Option (Nat × Nat) :=
  match pattern.search before text with
  | some (0, 0) =>
    if afterMatch then
      match text with
      | [] => none
      | c :: rest => (pattern.search (some c) rest).map fun (skip, length) => (skip + 1, length)
    else some (0, 0)
  | other => other

/-- A match together with the text between it and the match before. -/
structure Segment where
  gap : List Char
  matched : List Char
deriving DecidableEq, Repr

/-- The last character of a text, or the one before it if the text is empty. -/
def lastOr (before : Option Char) (text : List Char) : Option Char := text.getLast?.or before

/-- Cuts a text at its successive matches, of which there are no more than the fuel. -/
def segmentsFrom (pattern : Pattern) :
    Nat → Option Char → Bool → List Char → List Segment × List Char
  | 0, _, _, text => ([], text)
  | fuel + 1, before, afterMatch, text =>
    match pattern.nextMatch before afterMatch text with
    | none => ([], text)
    | some (skip, length) =>
      let gap := text.take skip
      let matched := (text.drop skip).take length
      let (segments, rest) := segmentsFrom pattern fuel (lastOr before (gap ++ matched)) true
        ((text.drop skip).drop length)
      (⟨gap, matched⟩ :: segments, rest)

/-- The successive matches of a text with the gaps before them, and the rest of the text. -/
def segments (pattern : Pattern) (text : List Char) : List Segment × List Char :=
  pattern.segmentsFrom (text.length + 2) none false text

/-- The text of the first match. -/
def find? (pattern : Pattern) (text : String) : Option String :=
  (pattern.search none text.toList).map fun (skip, length) =>
    String.ofList ((text.toList.drop skip).take length)

/-- The number of bytes of characters in UTF-8. -/
def byteCount (characters : List Char) : Nat := (characters.map Char.utf8Size).foldr (· + ·) 0

/-- The start and the end of the first match, in bytes of UTF-8. -/
def findBytes? (pattern : Pattern) (text : String) : Option (Nat × Nat) :=
  (pattern.search none text.toList).map fun (skip, length) =>
    (byteCount (text.toList.take skip), byteCount (text.toList.take (skip + length)))

/-- The pieces of a text between the successive matches. -/
def pieces (pattern : Pattern) (text : List Char) : List (List Char) :=
  let (segments, rest) := pattern.segments text
  segments.map Segment.gap ++ [rest]

/-- Cutting a text at its matches loses nothing. -/
theorem segmentsFrom_join (pattern : Pattern) (fuel : Nat) (before : Option Char)
    (afterMatch : Bool) (text : List Char) :
    (pattern.segmentsFrom fuel before afterMatch text).1.flatMap
        (fun segment => segment.gap ++ segment.matched)
      ++ (pattern.segmentsFrom fuel before afterMatch text).2 = text := by
  induction fuel generalizing before afterMatch text with
  | zero => simp [segmentsFrom]
  | succ fuel ih =>
    simp only [segmentsFrom]
    split
    next => simp
    next skip length _ =>
      simp only [List.flatMap_cons, List.append_assoc]
      rw [ih, List.take_append_drop, List.take_append_drop]

end Pattern

end SpokenFeedback
