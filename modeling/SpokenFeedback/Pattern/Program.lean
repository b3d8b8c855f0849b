import SpokenFeedback.Pattern.Reader

/-!
# Programs of patterns

An expression becomes a program of instructions that refer to each other by number.  A fork prefers
its first branch; the order of branches carries the preferences of the expression.

A repetition of a body that can match without taking a character is written as an optional
repetition of one round and more.  A single fork would let the empty round come before the
continuation and so change which match is preferred.
-/

namespace SpokenFeedback

namespace Pattern

/-- An instruction; the numbers are those of the instructions to go on with. -/
inductive Instruction where
  | take (set : CharClass) (next : Nat)
  | check (assertion : Assertion) (next : Nat)
  | fork (preferred other : Nat)
  | finish
deriving DecidableEq, Repr, Inhabited

/-- Numbered instructions. -/
abbrev Program := Array Instruction

namespace Program

/-- A fork between going on and leaving, which prefers to go on if it is greedy. -/
def forkTo (greedy : Bool) (onward exit : Nat) : Instruction :=
  if greedy then .fork onward exit else .fork exit onward

/-- What a part of a program becomes: where it starts, and the program with it. -/
abbrev Emitted := Nat × Program

/-- Emits a body a number of times in a row. -/
def emitCopies (emitBody : Nat → Program → Emitted) : Nat → Nat → Program → Emitted
  | 0, next, program => (next, program)
  | count + 1, next, program =>
    let (entry, program) := emitBody next program
    emitCopies emitBody count entry program

/-- Emits a body up to a number of times, each round only after the one before it. -/
def emitOptional (emitBody : Nat → Program → Emitted) (greedy : Bool) (exit : Nat) :
    Nat → Nat → Program → Emitted
  | 0, next, program => (next, program)
  | count + 1, next, program =>
    let (entry, program) := emitBody next program
    emitOptional emitBody greedy exit count program.size
      (program.push (forkTo greedy entry exit))

/-- Emits a loop of one round and more; gives its start, its fork and the program. -/
def emitLoop (emitBody : Nat → Program → Emitted) (greedy : Bool) (exit : Nat)
    (program : Program) : Nat × Nat × Program :=
  let fork := program.size
  let (entry, program) := emitBody fork (program.push .finish)
  (entry, fork, program.setIfInBounds fork (forkTo greedy entry exit))

/-- Emits the characters of a literal. -/
def emitText : List Char → Nat → Program → Emitted
  | [], next, program => (next, program)
  | c :: rest, next, program =>
    let (next, program) := emitText rest next program
    (program.size, program.push (.take (.one c) next))

/-- Emits an expression before the instruction `next`. -/
def emit : Expression → Nat → Program → Emitted
  | .empty, next, program => (next, program)
  | .literal text, next, program => emitText text next program
  | .one set, next, program => (program.size, program.push (.take set next))
  | .assert assertion, next, program => (program.size, program.push (.check assertion next))
  | .group _ body, next, program => emit body next program
  | .sequence first rest, next, program =>
    let (entry, program) := emit rest next program
    emit first entry program
  | .choice preferred rest, next, program =>
    let (first, program) := emit preferred next program
    let (second, program) := emit rest next program
    (program.size, program.push (.fork first second))
  | .repetition least most greedy body, next, program =>
    match most with
    | some most =>
      let (entry, program) := emitOptional (emit body) greedy next (most - least) next program
      emitCopies (emit body) least entry program
    | none =>
      let (entry, fork, program) := emitLoop (emit body) greedy next program
      if least = 0 then
        if body.minLength.any (0 < ·) then (fork, program)
        else (program.size, program.push (forkTo greedy entry next))
      else emitCopies (emit body) (least - 1) entry program

/-- The program of an expression, which finishes at instruction zero, and its start. -/
def ofExpression (expression : Expression) : Emitted := emit expression 0 #[.finish]

end Program

end Pattern

end SpokenFeedback
