import SpokenFeedback.Pattern.Flags
import SpokenFeedback.Text.Alphanumeric

/-!
# Groups and counts of patterns

What opens a group, which may name it or change the flags, and what says how often something is
repeated and whether more rounds are preferred.
-/

namespace SpokenFeedback

namespace Pattern

/-- Whether a character may stand in the name of a group, at its start or further on. -/
def inGroupName (first : Bool) (c : Char) : Bool :=
  c == '_' || Text.isLetter c ||
    (!first && (c == '.' || c == '[' || c == ']' || Text.isAlphanumeric c))

/-- Takes the name of a group up to the closing angle bracket. -/
def readGroupName (first : Bool) : List Char → Except Flaw (List Char × List Char)
  | [] => .error .malformedGroupName
  | '>' :: rest => if first then .error .malformedGroupName else .ok ([], rest)
  | c :: rest =>
    if inGroupName first c then
      (readGroupName false rest).map fun (name, rest) => (c :: name, rest)
    else .error .malformedGroupName

/-- The letters that have been read of a group of flags. -/
structure FlagLetters where
  flags : Flags
  seen : List Char
  negated : Bool
  dangling : Bool

/-- Reads flags up to the colon or parenthesis that ends them, which is given back. -/
def readFlags (letters : FlagLetters) : List Char → Except Flaw (FlagLetters × Char × List Char)
  | [] => .error .malformedFlags
  | c :: rest =>
    if c = ':' ∨ c = ')' then
      if letters.dangling then .error .malformedFlags else .ok (letters, c, rest)
    else if letters.seen.contains c then .error .malformedFlags
    else if c = '-' then
      readFlags ⟨letters.flags, c :: letters.seen, true, true⟩ rest
    else
      match letters.flags.set? c (!letters.negated) with
      | some flags => readFlags ⟨flags, c :: letters.seen, letters.negated, false⟩ rest
      | none => .error .malformedFlags

/-- Whether a group can be referred to, and by what. -/
inductive GroupKind where
  | plain
  | numbered
  | named (name : String)
deriving DecidableEq, Repr

/-- What an opening parenthesis begins. -/
inductive GroupStart where
  | change (flags : Flags)
  | group (flags : Flags) (kind : GroupKind)

/-- Reads the start of a group after its opening parenthesis. -/
def readGroupStart (flags : Flags) (characters : List Char) :
    Except Flaw (GroupStart × List Char) :=
  let named (rest : List Char) : Except Flaw (GroupStart × List Char) :=
    (readGroupName true rest).map fun (name, rest) =>
      (.group flags (.named (String.ofList name)), rest)
  match flags.skip characters with
  | '?' :: '=' :: _ => .error .lookAround
  | '?' :: '!' :: _ => .error .lookAround
  | '?' :: '<' :: '=' :: _ => .error .lookAround
  | '?' :: '<' :: '!' :: _ => .error .lookAround
  | '?' :: 'P' :: '<' :: rest => named rest
  | '?' :: '<' :: rest => named rest
  | '?' :: rest =>
    match readFlags ⟨flags, [], false, false⟩ rest with
    | .error flaw => .error flaw
    | .ok (letters, ending, rest) =>
      if ending = ':' then .ok (.group letters.flags .plain, rest)
      else if letters.seen.isEmpty then .error .nothingToRepeat
      else .ok (.change letters.flags, rest)
  | rest => .ok (.group flags .numbered, rest)

/-- Takes digits, between which white space counts only if the flags say so. -/
def readCountDigits (flags : Flags) : Nat → List Char → List Char × List Char
  | 0, characters => ([], characters)
  | fuel + 1, characters =>
    match characters with
    | [] => ([], [])
    | c :: rest =>
      if c.isDigit then
        let (digits, rest) := readCountDigits flags fuel (flags.skip rest)
        (c :: digits, rest)
      else ([], c :: rest)

/-- What a repetition count must be below: the number of values of 32 bits. -/
def countLimit : Nat := 4294967296

/-- Reads a repetition count below the limit and the white space around it. -/
def readCount (flags : Flags) (characters : List Char) : Except Flaw (Nat × List Char) :=
  let start := characters.dropWhile Text.isBlank
  let (digits, rest) := readCountDigits flags (start.length + 1) start
  let value := Nat.ofDigitChars 10 digits 0
  if digits = [] ∨ value ≥ countLimit then .error .malformedCount
  else .ok (value, flags.skip (rest.dropWhile Text.isBlank))

/-- Reads the counts of a repetition after its opening brace. -/
def readCounts (flags : Flags) (characters : List Char) :
    Except Flaw ((Nat × Option Nat) × List Char) := do
  let (least, rest) ← readCount flags (flags.skip characters)
  match rest with
  | '\x7d' :: rest => .ok ((least, some least), rest)
  | ',' :: rest =>
    match flags.skip rest with
    | '\x7d' :: rest => .ok ((least, none), rest)
    | rest => do
      let (most, rest) ← readCount flags rest
      match rest with
      | '\x7d' :: rest =>
        if most < least then .error .malformedCount else .ok ((least, some most), rest)
      | _ => .error .malformedCount
  | _ => .error .malformedCount

/-- Splits off the question mark that makes a repetition prefer fewer rounds. -/
def readGreed (flags : Flags) : List Char → Bool × List Char
  | '?' :: rest => (flags.swapGreed, rest)
  | rest => (!flags.swapGreed, rest)

end Pattern

end SpokenFeedback
