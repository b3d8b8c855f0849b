import SpokenFeedback.Proofs.Pattern.Matches

/-!
# Matches without characters

`Pattern.Expression.matchesBetween` says whether an expression can match between two characters
without taking either.  The program of an expression leads from its start to what comes after it
without taking a character exactly in this case (`Pattern.emits_emit`), and so a pattern matches in
the empty text exactly if its expression can match at this one position
(`Pattern.search_nil_isSome_iff`).

A part of a program is left only through its exit.  From this the parts are put together: one after
the other, side by side behind a fork, and a body in a loop.
-/

namespace SpokenFeedback

namespace Pattern

/-- Whether the expression can match between two characters without taking either. -/
def Expression.matchesBetween (before after : Option Char) : Expression → Bool
  | .empty => true
  | .literal text => text.isEmpty
  | .one _ => false
  | .assert assertion => assertion.holds before after
  | .group _ body => body.matchesBetween before after
  | .sequence first rest => first.matchesBetween before after && rest.matchesBetween before after
  | .choice preferred rest =>
    preferred.matchesBetween before after || rest.matchesBetween before after
  | .repetition least _ _ body => least = 0 || body.matchesBetween before after

section Programs

variable {before after : Option Char} {next : Nat} {old program : Program}

/-! ## Parts of a program -/

/-- The instruction has been emitted after those of the old program. -/
def Inside (old program : Program) (number : Nat) : Prop :=
  old.size ≤ number ∧ number < program.size

theorem Inside.mono {larger : Program} {number : Nat} (inside : Inside old program number)
    (grows : program.size ≤ larger.size) : Inside old larger number :=
  ⟨inside.1, Nat.lt_of_lt_of_le inside.2 grows⟩

theorem Inside.of_older {older : Program} {number : Nat} (inside : Inside old program number)
    (grows : older.size ≤ old.size) : Inside older program number :=
  ⟨Nat.le_trans grows inside.1, inside.2⟩

/-- The program has the instructions of another one from some number on. -/
def Holds (whole program : Program) (low : Nat) : Prop :=
  ∀ number, low ≤ number → number < program.size → whole[number]? = program[number]?

/-- The program continues the old one by a part that is left only through its exit. -/
structure Region (before after : Option Char) (next : Nat) (old program : Program) : Prop where
  exits : next < old.size
  grows : old.size ≤ program.size
  keeps : ∀ number, number < old.size → program[number]? = old[number]?
  moves : ∀ number, Inside old program number →
    ∃ instruction, program[number]? = some instruction ∧ instruction ≠ .finish ∧
      ∀ onward ∈ instruction.nexts before after, onward = next ∨ Inside old program onward

/-- A part that has been emitted leads to its exit without a character exactly if it matches so. -/
structure Emits (before after : Option Char) (matched : Prop) (next : Nat) (old : Program)
    (entry : Nat) (program : Program) : Prop where
  region : Region before after next old program
  entered : entry = next ∨ Inside old program entry
  reaches_iff : ∀ whole : Program, Holds whole program old.size →
    (Reaches whole before after entry next ↔ matched)

theorem Region.leads {whole : Program} (region : Region before after next old program)
    (holds : Holds whole program old.size) {number onward : Nat}
    (inside : Inside old program number) (leads : Leads whole before after number onward) :
    onward = next ∨ Inside old program onward := by
  rcases region.moves number inside with ⟨instruction, here, -, nexts⟩
  rcases leads with ⟨other, held, member⟩
  rw [holds number inside.1 inside.2, here, Option.some.injEq] at held
  exact nexts onward (held ▸ member)

/-- Whoever leaves a part passes its exit. -/
theorem Region.passes {whole : Program} (region : Region before after next old program)
    (holds : Holds whole program old.size) {entry target : Nat}
    (entered : entry = next ∨ Inside old program entry) (outside : ¬ Inside old program target)
    (reaches : Reaches whole before after entry target) :
    Reaches whole before after entry next ∧ Reaches whole before after next target := by
  induction reaches using Relation.ReflTransGen.head_induction_on with
  | refl =>
    rcases entered with rfl | inside
    · exact ⟨.refl, .refl⟩
    · exact absurd inside outside
  | head leads onward ih =>
    rcases entered with rfl | inside
    · exact ⟨.refl, .head leads onward⟩
    · rcases ih (region.leads holds inside leads) with ⟨toExit, further⟩
      exact ⟨.head leads toExit, further⟩

/-! ## Putting parts together -/

/-- No instruction leads to the exit at once. -/
theorem Region.refl (exits : next < old.size) : Region before after next old old where
  exits := exits
  grows := Nat.le_refl _
  keeps := fun _ _ => rfl
  moves := fun _ inside => absurd inside.2 (Nat.not_lt_of_le inside.1)

/-- A part that goes on into an earlier one, up to the exit of that one. -/
theorem Region.comp {middle : Nat} {between : Program}
    (first : Region before after next old between)
    (onward : middle = next ∨ Inside old between middle)
    (second : Region before after middle between program) :
    Region before after next old program where
  exits := first.exits
  grows := Nat.le_trans first.grows second.grows
  keeps := fun number bound =>
    (second.keeps number (Nat.lt_of_lt_of_le bound first.grows)).trans (first.keeps number bound)
  moves := by
    intro number inside
    rcases Nat.lt_or_ge number between.size with early | late
    · rcases first.moves number ⟨inside.1, early⟩ with ⟨instruction, here, going, nexts⟩
      refine ⟨instruction, (second.keeps number early).trans here, going, fun target member => ?_⟩
      exact (nexts target member).imp_right fun within => within.mono second.grows
    · rcases second.moves number ⟨late, inside.2⟩ with ⟨instruction, here, going, nexts⟩
      refine ⟨instruction, here, going, fun target member => ?_⟩
      rcases nexts target member with rfl | within
      · exact onward.imp_right fun within => within.mono second.grows
      · exact .inr (within.of_older first.grows)

theorem Holds.of_region {whole between : Program} {middle : Nat}
    (holds : Holds whole program old.size) (second : Region before after middle between program) :
    Holds whole between old.size := by
  intro number low high
  rw [holds number low (Nat.lt_of_lt_of_le high second.grows), second.keeps number high]

theorem Holds.of_le {whole : Program} {low high : Nat} (holds : Holds whole program low)
    (above : low ≤ high) : Holds whole program high :=
  fun number later => holds number (Nat.le_trans above later)

/-- Nothing needs to be emitted to be at the exit. -/
theorem Emits.exit (region : Region before after next old program) :
    Emits before after True next old next program where
  region := region
  entered := .inl rfl
  reaches_iff := fun _ _ => iff_of_true .refl trivial

theorem Emits.congr {matched other : Prop} {entry : Nat}
    (emits : Emits before after matched next old entry program) (same : matched ↔ other) :
    Emits before after other next old entry program :=
  propext same ▸ emits

/-- One part before another one. -/
theorem Emits.comp {matched other : Prop} {entry middle : Nat} {between : Program}
    (first : Emits before after matched next old middle between)
    (second : Emits before after other middle between entry program) :
    Emits before after (other ∧ matched) next old entry program where
  region := first.region.comp first.entered second.region
  entered := by
    rcases second.entered with rfl | inside
    · exact first.entered.imp_right fun inside => inside.mono second.region.grows
    · exact .inr (inside.of_older first.region.grows)
  reaches_iff := by
    intro whole holds
    have early : Holds whole between old.size := holds.of_region second.region
    have late : Holds whole program between.size := holds.of_le first.region.grows
    have outside : ¬ Inside between program next := fun inside =>
      Nat.not_lt_of_le (inside.of_older first.region.grows).1 first.region.exits
    rw [← second.reaches_iff whole late, ← first.reaches_iff whole early]
    constructor
    · exact second.region.passes late second.entered outside
    · rintro ⟨toMiddle, toExit⟩
      exact toMiddle.trans toExit

/-- A part that is only gone through up to its exit, with another one after it. -/
theorem Emits.extend {matched : Prop} {entry : Nat} {between : Program}
    (first : Emits before after matched next old entry between)
    (second : Region before after next between program) :
    Emits before after matched next old entry program where
  region := first.region.comp (.inl rfl) second
  entered := first.entered.imp_right fun inside => inside.mono second.grows
  reaches_iff := fun whole holds => first.reaches_iff whole (holds.of_region second)

/-- A part with one more instruction, which leads to the exit or into the part. -/
theorem Region.push {instruction : Instruction} (region : Region before after next old program)
    (going : instruction ≠ .finish)
    (nexts : ∀ onward ∈ instruction.nexts before after, onward = next ∨ Inside old program onward) :
    Region before after next old (program.push instruction) where
  exits := region.exits
  grows := Nat.le_trans region.grows (by simp)
  keeps := by
    intro number bound
    rw [Array.getElem?_push, if_neg (Nat.ne_of_lt (Nat.lt_of_lt_of_le bound region.grows))]
    exact region.keeps number bound
  moves := by
    have longer : program.size ≤ (program.push instruction).size := by
      rw [Array.size_push]
      exact Nat.le_succ _
    intro number inside
    rw [Array.getElem?_push]
    split
    next last =>
      refine ⟨instruction, rfl, going, fun onward member => ?_⟩
      exact (nexts onward member).imp_right fun within => within.mono longer
    next early =>
      have bound : number < program.size := by
        have high := inside.2
        rw [Array.size_push] at high
        omega
      rcases region.moves number ⟨inside.1, bound⟩ with ⟨other, here, otherGoing, otherNexts⟩
      refine ⟨other, here, otherGoing, fun onward member => ?_⟩
      exact (otherNexts onward member).imp_right fun within => within.mono longer

/-- One more instruction in front of parts with the same exit. -/
theorem Emits.push {matched : Prop} {instruction : Instruction}
    (region : Region before after next old program) (going : instruction ≠ .finish)
    (nexts : ∀ onward ∈ instruction.nexts before after, onward = next ∨ Inside old program onward)
    (reaches_iff : ∀ whole : Program, Holds whole program old.size →
      ((∃ onward ∈ instruction.nexts before after, Reaches whole before after onward next) ↔
        matched)) :
    Emits before after matched next old program.size (program.push instruction) where
  region := region.push going nexts
  entered := .inr ⟨region.grows, by simp⟩
  reaches_iff := by
    intro whole holds
    have here : whole[program.size]? = some instruction := by
      rw [holds program.size region.grows (by simp), Array.getElem?_push_size]
    have part : Holds whole program old.size := by
      intro number low high
      rw [holds number low (Nat.lt_of_lt_of_le high (by simp)), Array.getElem?_push,
        if_neg (Nat.ne_of_lt high)]
    have elsewhere : program.size ≠ next :=
      Nat.ne_of_gt (Nat.lt_of_lt_of_le region.exits region.grows)
    rw [← reaches_iff whole part]
    constructor
    · intro reaches
      rcases Relation.ReflTransGen.cases_head reaches with same | ⟨onward, leads, further⟩
      · exact absurd same elsewhere
      · rcases leads with ⟨other, held, member⟩
        rw [here, Option.some.injEq] at held
        exact ⟨onward, held ▸ member, further⟩
    · rintro ⟨onward, member, further⟩
      exact .head ⟨instruction, here, member⟩ further

/-- A fork in front of two parts with the same exit. -/
theorem Emits.fork {matched other : Prop} {one another : Nat}
    (first : Emits before after matched next old one program)
    (second : Emits before after other next old another program) :
    Emits before after (matched ∨ other) next old program.size
      (program.push (.fork one another)) := by
  refine .push first.region nofun ?_ ?_
  · intro onward member
    have branch : onward = one ∨ onward = another := by simpa [Instruction.nexts] using member
    rcases branch with rfl | rfl
    · exact first.entered
    · exact second.entered
  · intro whole holds
    rw [← first.reaches_iff whole holds, ← second.reaches_iff whole holds]
    simp [Instruction.nexts]

/-- A fork behind which one branch is the exit itself. -/
theorem Emits.forkTo {matched : Prop} {onward : Nat} (greedy : Bool)
    (emits : Emits before after matched next old onward program) :
    Emits before after True next old program.size
      (program.push (Program.forkTo greedy onward next)) := by
  have exit : Emits before after True next old next program := .exit emits.region
  cases greedy with
  | true => exact (emits.fork exit).congr (by simp)
  | false => exact (exit.fork emits).congr (by simp)

/-! ## The parts of an expression -/

theorem mem_nexts_forkTo_iff {greedy : Bool} {one another onward : Nat} :
    onward ∈ (Program.forkTo greedy one another).nexts before after ↔
      onward = one ∨ onward = another := by
  cases greedy <;> simp [Program.forkTo, Instruction.nexts, or_comm]

theorem forkTo_ne_finish {greedy : Bool} {one another : Nat} :
    Program.forkTo greedy one another ≠ .finish := by
  cases greedy <;> nofun

theorem Inside.loop {fork : Instruction} {number : Nat}
    (inside : Inside (old.push .finish) program number) :
    Inside old (program.setIfInBounds old.size fork) number := by
  rcases inside with ⟨low, high⟩
  rw [Array.size_push] at low
  exact ⟨Nat.le_of_succ_le low, by rwa [Array.size_setIfInBounds]⟩

theorem inside_loop {middle : Nat} {fork : Instruction}
    (body : Region before after middle (old.push .finish) program) :
    Inside old (program.setIfInBounds old.size fork) old.size := by
  have grows := body.grows
  rw [Array.size_push] at grows
  exact ⟨Nat.le_refl _, by rwa [Array.size_setIfInBounds]⟩

/-- The fork of a loop is written into the place that was kept for it in front of the body. -/
theorem Region.loop {entry : Nat} (greedy : Bool) (exits : next < old.size)
    (body : Region before after old.size (old.push .finish) program)
    (entered : entry = old.size ∨ Inside (old.push .finish) program entry) :
    Region before after next old
      (program.setIfInBounds old.size (Program.forkTo greedy entry next)) where
  exits := exits
  grows := Nat.le_of_lt (inside_loop body).2
  keeps := by
    intro number bound
    rw [Array.getElem?_setIfInBounds_ne (Nat.ne_of_gt bound),
      body.keeps number (by rw [Array.size_push]; exact Nat.lt_succ_of_lt bound),
      Array.getElem?_push, if_neg (Nat.ne_of_lt bound)]
  moves := by
    intro number inside
    rcases Nat.eq_or_lt_of_le inside.1 with rfl | later
    · refine ⟨_, Array.getElem?_setIfInBounds_self_of_lt ?_, forkTo_ne_finish, ?_⟩
      · simpa using inside.2
      · intro onward member
        rcases mem_nexts_forkTo_iff.1 member with rfl | rfl
        · exact .inr (entered.elim (fun same => same ▸ inside_loop body) Inside.loop)
        · exact .inl rfl
    · have within : Inside (old.push .finish) program number :=
        ⟨by rwa [Array.size_push], by simpa using inside.2⟩
      rcases body.moves number within with ⟨instruction, here, going, nexts⟩
      refine ⟨instruction, ?_, going, fun onward member => .inr ?_⟩
      · rw [Array.getElem?_setIfInBounds_ne (Nat.ne_of_lt later), here]
      · rcases nexts onward member with rfl | further
        · exact inside_loop body
        · exact further.loop

/-- A loop is entered at its fork, or at its body if one round has to be made. -/
theorem emits_loop {matched : Prop} {entry : Nat} (greedy : Bool) (exits : next < old.size)
    (body : Emits before after matched old.size (old.push .finish) entry program) :
    let looped := program.setIfInBounds old.size (Program.forkTo greedy entry next)
    Emits before after True next old old.size looped ∧
      Emits before after matched next old entry looped := by
  intro looped
  have region : Region before after next old looped :=
    Region.loop greedy exits body.region body.entered
  have fork : Inside old looped old.size := inside_loop body.region
  have leaves : ∀ whole : Program, Holds whole looped old.size →
      Reaches whole before after old.size next := by
    intro whole holds
    refine .single ⟨Program.forkTo greedy entry next, ?_, mem_nexts_forkTo_iff.2 (.inr rfl)⟩
    rw [holds old.size (Nat.le_refl _) fork.2]
    exact Array.getElem?_setIfInBounds_self_of_lt (by simpa [looped] using fork.2)
  refine ⟨⟨region, .inr fork, fun whole holds => iff_of_true (leaves whole holds) trivial⟩,
    ⟨region, .inr ?_, fun whole holds => ?_⟩⟩
  · exact body.entered.elim (fun same => same ▸ fork) Inside.loop
  · have part : Holds whole program (old.push .finish).size := by
      intro number low high
      rw [Array.size_push] at low
      rw [holds number (Nat.le_of_succ_le low) (by simpa [looped] using high),
        Array.getElem?_setIfInBounds_ne (Nat.ne_of_lt low)]
    have outside : ¬ Inside (old.push .finish) program next := by
      rintro ⟨low, -⟩
      rw [Array.size_push] at low
      omega
    rw [← body.reaches_iff whole part]
    constructor
    · intro reaches
      exact (body.region.passes part body.entered outside reaches).1
    · intro reaches
      exact reaches.trans (leaves whole holds)

theorem Emits.entry_lt {matched : Prop} {entry : Nat}
    (emits : Emits before after matched next old entry program) : entry < program.size := by
  rcases emits.entered with rfl | inside
  · exact Nat.lt_of_lt_of_le emits.region.exits emits.region.grows
  · exact inside.2

/-- An instruction on its own. -/
theorem emits_single (instruction : Instruction) (exits : next < old.size)
    (going : instruction ≠ .finish)
    (nexts : ∀ onward ∈ instruction.nexts before after, onward = next) :
    Emits before after (next ∈ instruction.nexts before after) next old old.size
      (old.push instruction) := by
  refine .push (.refl exits) going (fun onward member => .inl (nexts onward member)) ?_
  intro whole _
  constructor
  · rintro ⟨onward, member, -⟩
    exact nexts onward member ▸ member
  · intro member
    exact ⟨next, member, .refl⟩

/-- An instruction that takes a character is not passed without one. -/
theorem emits_take (set : CharClass) (exits : next < old.size) :
    Emits before after False next old old.size (old.push (.take set next)) := by
  refine (emits_single (.take set next) exits (by simp) ?_).congr ?_
  · intro onward member
    cases member
  · simp [Instruction.nexts]

/-- An assertion is passed where it holds. -/
theorem emits_check (assertion : Assertion) (exits : next < old.size) :
    Emits before after (assertion.holds before after = true) next old old.size
      (old.push (.check assertion next)) := by
  refine (emits_single (.check assertion next) exits (by simp) ?_).congr ?_
  · intro onward member
    rw [Instruction.nexts] at member
    split at member
    · exact List.mem_singleton.1 member
    · cases member
  · by_cases holds : assertion.holds before after = true <;> simp [Instruction.nexts, holds]

theorem emits_emitText (text : List Char) (exits : next < old.size) :
    Emits before after (text.isEmpty = true) next old (Program.emitText text next old).1
      (Program.emitText text next old).2 := by
  induction text with
  | nil => exact (Emits.exit (.refl exits)).congr (by simp)
  | cons c rest ih =>
    exact (ih.comp (emits_take (.one c) ih.entry_lt)).congr (by simp)

section Repetition

variable {emitBody : Nat → Program → Program.Emitted} {matched : Prop}
  (body : ∀ next old, next < old.size →
    Emits before after matched next old (emitBody next old).1 (emitBody next old).2)

include body

theorem emits_emitCopies (count : Nat) {first : Prop} {entry : Nat}
    (start : Emits before after first next old entry program) :
    Emits before after ((count = 0 ∨ matched) ∧ first) next old
      (Program.emitCopies emitBody count entry program).1
      (Program.emitCopies emitBody count entry program).2 := by
  induction count generalizing first entry program with
  | zero => exact start.congr (by simp)
  | succ count ih =>
    have round := start.comp (body entry program start.entry_lt)
    refine (ih round).congr ?_
    by_cases passes : matched <;> simp [passes]

theorem emits_emitOptional (greedy : Bool) (count : Nat) {entry : Nat}
    (start : Emits before after True next old entry program) :
    Emits before after True next old
      (Program.emitOptional emitBody greedy next count entry program).1
      (Program.emitOptional emitBody greedy next count entry program).2 := by
  induction count generalizing entry program with
  | zero => exact start
  | succ count ih =>
    have round := start.comp (body entry program start.entry_lt)
    exact ih (round.forkTo greedy)

end Repetition

/-- The program of an expression leads to what comes after it as the expression matches. -/
theorem emits_emit (expression : Expression) (exits : next < old.size) :
    Emits before after (expression.matchesBetween before after = true) next old
      (Program.emit expression next old).1 (Program.emit expression next old).2 := by
  induction expression generalizing next old with
  | empty => exact (Emits.exit (.refl exits)).congr (by simp [Expression.matchesBetween])
  | literal text => exact emits_emitText text exits
  | one set => exact (emits_take set exits).congr (by simp [Expression.matchesBetween])
  | assert assertion => exact emits_check assertion exits
  | group _ body ih => exact ih exits
  | sequence first rest firstOne restOne =>
    have later := restOne exits
    exact (later.comp (firstOne later.entry_lt)).congr (by simp [Expression.matchesBetween])
  | choice preferred rest preferredOne restOne =>
    have first := preferredOne exits
    have second := restOne (Nat.lt_of_lt_of_le exits first.region.grows)
    have behind := (Emits.exit first.region).comp second
    exact ((first.extend second.region).fork behind).congr (by simp [Expression.matchesBetween])
  | repetition least most greedy body ih =>
    have once : ∀ next old, next < old.size → Emits before after
        (body.matchesBetween before after = true) next old (Program.emit body next old).1
        (Program.emit body next old).2 := fun _ _ => ih
    cases most with
    | some most =>
      have rounds := emits_emitOptional once greedy (most - least) (Emits.exit (.refl exits))
      exact (emits_emitCopies once least rounds).congr (by simp [Expression.matchesBetween])
    | none =>
      have started := once old.size (old.push .finish) (by simp)
      rcases emits_loop greedy exits started with ⟨atFork, atBody⟩
      simp only [Program.emit, Program.emitLoop]
      split
      next optional =>
        split
        next => exact atFork.congr (by simp [Expression.matchesBetween, optional])
        next =>
          exact (atBody.forkTo greedy).congr (by simp [Expression.matchesBetween, optional])
      next required =>
        refine (emits_emitCopies once (least - 1) atBody).congr ?_
        by_cases passes : body.matchesBetween before after = true <;>
          simp [Expression.matchesBetween, required, passes]

end Programs

/-! ## Matches in the empty text -/

/-- The program of an expression finishes at its first instruction only. -/
theorem finish_iff (expression : Expression) {number : Nat} :
    (Program.ofExpression expression).2[number]? = some .finish ↔ number = 0 := by
  have emits : Emits none none _ 0 #[.finish] (Program.ofExpression expression).1
      (Program.ofExpression expression).2 := emits_emit expression (by simp)
  constructor
  · intro finishes
    by_cases first : number = 0
    · exact first
    have inside : Inside #[.finish] (Program.ofExpression expression).2 number :=
      ⟨Nat.pos_of_ne_zero first, (Array.getElem?_eq_some_iff.1 finishes).1⟩
    rcases emits.region.moves number inside with ⟨instruction, here, going, -⟩
    rw [finishes, Option.some.injEq] at here
    exact absurd here.symm going
  · rintro rfl
    exact emits.region.keeps 0 (by simp)

/-- The program of an expression can finish without a character exactly if it matches so. -/
theorem reaches_finish_iff (expression : Expression) (before after : Option Char) :
    Reaches (Program.ofExpression expression).2 before after
        (Program.ofExpression expression).1 0 ↔
      expression.matchesBetween before after = true :=
  (emits_emit expression (by simp)).reaches_iff _ fun _ _ _ => rfl

/-- A match is found at the first thread that waits for no character. -/
theorem advance_isSome_iff {program : Program} {next : Option Char} {position : Nat}
    {threads : List Thread} :
    (advance program next position threads none).2.isSome = true ↔
      ∃ thread ∈ threads, ∀ set target,
        program.getD thread.instruction .finish ≠ .take set target := by
  induction threads with
  | nil => simp [advance]
  | cons thread threads ih =>
    simp only [advance, List.mem_cons, exists_eq_or_imp]
    split
    next set target taken =>
      have waits : ¬ ∀ set target, program.getD thread.instruction .finish ≠ .take set target :=
        fun free => free set target taken
      rw [or_iff_right waits, ← ih]
      split <;> rfl
    next free => exact iff_of_true rfl (.inl free)

/-- Where nothing is left, a pattern matches exactly if its expression needs no character there. -/
theorem search_nil_isSome_iff {source : String} {expression : Expression} {pattern : Pattern}
    (read : readExpression source = .ok expression) (compiled : compile source = .ok pattern)
    (before : Option Char) :
    (pattern.search before []).isSome = true ↔ expression.matchesBetween before none = true := by
  rw [compile, read] at compiled
  cases compiled
  rw [← reaches_finish_iff, search, run_nil, round, advance_isSome_iff]
  constructor
  · rintro ⟨⟨number, start⟩, member, free⟩
    rcases mem_readyThreads_singleton.1 member with ⟨-, ⟨instruction, here, rests⟩, reaches⟩
    cases instruction with
    | fork => cases rests
    | check => cases rests
    | take set target =>
      refine absurd ?_ (free set target)
      rw [Array.getD_eq_getD_getElem?, here, Option.getD_some]
    | finish => exact (finish_iff expression).1 here ▸ reaches
  · intro reaches
    have finishes := (finish_iff expression).2 rfl
    refine ⟨⟨0, 0⟩, mem_readyThreads_singleton.2 ⟨rfl, ⟨.finish, finishes, rfl⟩, reaches⟩, ?_⟩
    intro set target
    rw [Array.getD_eq_getD_getElem?, finishes, Option.getD_some]
    nofun

end Pattern

end SpokenFeedback
