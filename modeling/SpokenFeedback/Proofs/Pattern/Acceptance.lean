import SpokenFeedback.Proofs.Pattern.EmptyMatches

/-!
# Acceptance

`Pattern.Finishes` says on which texts a program can finish from one of its instructions: it moves
on between characters and takes characters one by one, by whatever branches.  A search, which runs
all ways side by side and drops those that meet a preferred one, finds a match exactly if the
program can finish from its start somewhere in the text (`Pattern.search_isSome_iff`).

What is preferred decides which match is found, but not whether there is one.  A thread is dropped
only where another one has been at its instruction, or below one that has finished.
-/

namespace SpokenFeedback

namespace Pattern

/-- From the instruction the program can finish on a beginning of the text. -/
inductive Finishes (program : Program) : Option Char → Nat → List Char → Prop where
  | finish {before : Option Char} {number : Nat} {text : List Char}
    (here : program[number]? = some .finish) : Finishes program before number text
  | moves {before : Option Char} {number next : Nat} {text : List Char}
    (leads : Leads program before text.head? number next)
    (onward : Finishes program before next text) : Finishes program before number text
  | takes {before : Option Char} {number next : Nat} {set : CharClass} {c : Char}
    {rest : List Char} (here : program[number]? = some (.take set next))
    (member : set.holds c = true) (onward : Finishes program (some c) next rest) :
    Finishes program before number (c :: rest)

section Acceptance

variable {program : Program} {before after : Option Char} {number : Nat} {text : List Char}

/-! ## One instruction -/

theorem Finishes.of_reaches {target : Nat}
    (reaches : Reaches program before text.head? number target)
    (onward : Finishes program before target text) : Finishes program before number text := by
  induction reaches using Relation.ReflTransGen.head_induction_on with
  | refl => exact onward
  | head leads _ ih => exact .moves leads ih

/-- A program finishes or takes a character where it has come to rest. -/
theorem finishes_iff :
    Finishes program before number text ↔
      ∃ target, Reaches program before text.head? number target ∧
        (program[target]? = some .finish ∨
          ∃ set next c rest, program[target]? = some (.take set next) ∧ text = c :: rest ∧
            set.holds c = true ∧ Finishes program (some c) next rest) := by
  constructor
  · intro finishes
    induction finishes with
    | @finish _ number _ here => exact ⟨number, .refl, .inl here⟩
    | moves leads _ ih =>
      rcases ih with ⟨target, reaches, rests⟩
      exact ⟨target, .head leads reaches, rests⟩
    | @takes _ number next set c rest here member onward =>
      exact ⟨number, .refl, .inr ⟨set, next, c, rest, here, rfl, member, onward⟩⟩
  · rintro ⟨target, reaches, here | ⟨set, next, c, rest, here, rfl, member, onward⟩⟩
    · exact .of_reaches reaches (.finish here)
    · exact .of_reaches reaches (.takes here member onward)

/-- What a program does at an instruction to finish. -/
theorem finishes_step_iff {instruction : Instruction}
    (here : program[number]? = some instruction) :
    Finishes program before number text ↔
      instruction = .finish ∨
        (∃ next ∈ instruction.nexts before text.head?, Finishes program before next text) ∨
        ∃ set next c rest, instruction = .take set next ∧ text = c :: rest ∧ set.holds c = true ∧
          Finishes program (some c) next rest := by
  constructor
  · intro finishes
    cases finishes with
    | finish ends => exact .inl (Option.some.inj (here.symm.trans ends))
    | moves leads onward =>
      rcases leads with ⟨other, there, member⟩
      rw [← Option.some.inj (here.symm.trans there)] at member
      exact .inr (.inl ⟨_, member, onward⟩)
    | takes waits member onward =>
      exact .inr (.inr ⟨_, _, _, _, Option.some.inj (here.symm.trans waits), rfl, member, onward⟩)
  · rintro (rfl | ⟨next, member, onward⟩ | ⟨set, next, c, rest, rfl, rfl, member, onward⟩)
    · exact .finish here
    · exact .moves ⟨instruction, here, member⟩ onward
    · exact .takes here member onward

theorem finishes_fork_iff {preferred other : Nat}
    (here : program[number]? = some (.fork preferred other)) :
    Finishes program before number text ↔
      Finishes program before preferred text ∨ Finishes program before other text := by
  simp [finishes_step_iff here, Instruction.nexts]

theorem finishes_check_iff {assertion : Assertion} {next : Nat}
    (here : program[number]? = some (.check assertion next)) :
    Finishes program before number text ↔
      assertion.holds before text.head? = true ∧ Finishes program before next text := by
  simp [finishes_step_iff here, Instruction.nexts, and_assoc]

theorem finishes_take_iff {set : CharClass} {next : Nat}
    (here : program[number]? = some (.take set next)) :
    Finishes program before number text ↔
      ∃ c rest, text = c :: rest ∧ set.holds c = true ∧ Finishes program (some c) next rest := by
  simp [finishes_step_iff here, Instruction.nexts, and_assoc]

theorem lastOr_cons (before : Option Char) (c : Char) (gap : List Char) :
    lastOr before (c :: gap) = lastOr (some c) gap := by
  cases gap with
  | nil => rfl
  | cons d gap => simp [lastOr, List.getLast?_cons]

/-- A loop takes one character of its set and more, and is left anywhere after the first. -/
theorem finishes_loop_iff {set : CharClass} {fork exit : Nat}
    (taking : program[number]? = some (.take set fork))
    (forking : program[fork]? = some (.fork number exit)) :
    Finishes program before number text ↔
      ∃ taken rest, text = taken ++ rest ∧ taken ≠ [] ∧ (∀ c ∈ taken, set.holds c = true) ∧
        Finishes program (lastOr before taken) exit rest := by
  induction text generalizing before with
  | nil =>
    rw [finishes_take_iff taking]
    constructor
    · rintro ⟨c, rest, ⟨⟩, -⟩
    · rintro ⟨taken, rest, whole, filled, -⟩
      exact absurd (List.append_eq_nil_iff.1 whole.symm).1 filled
  | cons c left ih =>
    rw [finishes_take_iff taking]
    constructor
    · rintro ⟨d, rest, same, member, onward⟩
      rcases List.cons.inj same with ⟨rfl, rfl⟩
      rcases (finishes_fork_iff forking).1 onward with again | leaves
      · rcases ih.1 again with ⟨taken, rest, rfl, -, members, leaves⟩
        rw [← lastOr_cons before c taken] at leaves
        have each : ∀ d ∈ c :: taken, set.holds d = true :=
          List.forall_mem_cons.2 ⟨member, members⟩
        exact ⟨c :: taken, rest, rfl, List.cons_ne_nil _ _, each, leaves⟩
      · exact ⟨[c], left, rfl, List.cons_ne_nil _ _, List.forall_mem_singleton.2 member, leaves⟩
    · rintro ⟨taken, rest, whole, filled, members, leaves⟩
      rcases List.exists_cons_of_ne_nil filled with ⟨d, others, rfl⟩
      rcases List.cons.inj whole with ⟨rfl, rfl⟩
      rw [lastOr_cons] at leaves
      rcases List.forall_mem_cons.1 members with ⟨member, membersOnward⟩
      refine ⟨c, _, rfl, member, (finishes_fork_iff forking).2 ?_⟩
      by_cases single : others = []
      · rw [single] at leaves ⊢
        exact .inr leaves
      · exact .inl (ih.2 ⟨others, rest, rfl, single, membersOnward, leaves⟩)

/-! ## The threads of several instructions -/

/-- A stack that is followed after everything known may hold any instruction. -/
theorem Closed.push {frontier : Frontier} (closed : Closed program before after [] frontier)
    (stack : List Nat) : Closed program before after stack frontier where
  sized := closed.sized
  leads known leads := (closed.leads known leads).imp_right fun member => nomatch member
  rests := closed.rests

theorem unseen_le_size (seen : Array Bool) : unseen seen ≤ seen.size := by
  rw [unseen, ← Array.length_toList]
  exact List.count_le_length

/-- Follows the instructions of threads one after the other, each with enough fuel. -/
def followAll (program : Program) (before after : Option Char) (threads : List Thread)
    (frontier : Frontier) : Frontier :=
  threads.foldl
    (fun frontier thread =>
      follow program before after thread.start (2 * program.size + 2) [thread.instruction] frontier)
    frontier

theorem readyThreads_eq_followAll (threads : List Thread) :
    readyThreads program before after threads =
      (followAll program before after threads
        ⟨Array.replicate program.size false, #[]⟩).ready.toList := rfl

/-- Following threads closes the frontier over all of them. -/
theorem closed_followAll (threads : List Thread) {frontier : Frontier}
    (closed : Closed program before after [] frontier) :
    Closed program before after [] (followAll program before after threads frontier) ∧
      ∀ number, (frontier.Knows number ∨ ∃ thread ∈ threads, thread.instruction = number) →
        (followAll program before after threads frontier).Knows number := by
  induction threads generalizing frontier with
  | nil =>
    refine ⟨closed, ?_⟩
    rintro number (known | ⟨thread, member, -⟩)
    · exact known
    · exact absurd member List.not_mem_nil
  | cons first threads ih =>
    have enough : [first.instruction].length + 2 * unseen frontier.seen < 2 * program.size + 2 := by
      have bound := closed.sized ▸ unseen_le_size frontier.seen
      rw [List.length_singleton]
      omega
    rcases closed_follow first.start (closed.push _) enough with ⟨followed, keeps⟩
    rcases ih followed with ⟨ended, kept⟩
    refine ⟨ended, ?_⟩
    rintro number (known | ⟨thread, member, rfl⟩)
    · exact kept number (.inl (keeps number (.inl known)))
    · rcases List.mem_cons.1 member with rfl | later
      · exact kept _ (.inl (keeps _ (.inr (List.mem_singleton_self _))))
      · exact kept _ (.inr ⟨thread, later, rfl⟩)

theorem of_mem_ready_followAll {threads : List Thread} {frontier : Frontier} {thread : Thread}
    (sized : frontier.seen.size = program.size)
    (member : thread ∈ (followAll program before after threads frontier).ready) :
    thread ∈ frontier.ready ∨
      Rests program thread.instruction ∧
        ∃ other ∈ threads, Reaches program before after other.instruction thread.instruction := by
  induction threads generalizing frontier with
  | nil => exact .inl member
  | cons first threads ih =>
    rcases ih (size_seen_follow.trans sized) member with followed | ⟨rests, other, later, reaches⟩
    · rcases mem_ready_follow sized followed with old | ⟨-, rests, number, onStack, reaches⟩
      · exact .inl old
      · rw [List.mem_singleton.1 onStack] at reaches
        exact .inr ⟨rests, first, .head _, reaches⟩
    · exact .inr ⟨rests, other, .tail _ later, reaches⟩

/-- There are threads ready at just those resting instructions that the threads reach. -/
theorem exists_mem_readyThreads_iff {threads : List Thread} :
    (∃ thread ∈ readyThreads program before after threads, thread.instruction = number) ↔
      Rests program number ∧
        ∃ thread ∈ threads, Reaches program before after thread.instruction number := by
  rw [readyThreads_eq_followAll]
  constructor
  · rintro ⟨thread, member, rfl⟩
    rcases of_mem_ready_followAll Array.size_replicate (Array.mem_toList_iff.1 member) with
      old | found
    · exact absurd old (Array.not_mem_empty thread)
    · exact found
  · rintro ⟨rests, thread, member, reaches⟩
    rcases closed_followAll threads (closed_initial program before after []) with ⟨closed, keeps⟩
    have known := keeps _ (.inr ⟨thread, member, rfl⟩)
    rcases closed.rests (closed.knows_of_reaches known reaches) rests with ⟨other, ready, same⟩
    exact ⟨other, Array.mem_toList_iff.2 ready, same⟩

/-! ## One position of a search -/

/-- A match that has been found is never lost. -/
theorem isSome_advance {next : Option Char} {position : Nat} {threads : List Thread}
    {found : Option (Nat × Nat)} (known : found.isSome = true) :
    (advance program next position threads found).2.isSome = true := by
  induction threads with
  | nil => exact known
  | cons thread threads ih =>
    simp only [advance]
    split
    next =>
      split
      · exact ih
      · exact ih
    next => rfl

/-- Where no thread finishes, those go on whose instruction takes the character. -/
theorem mem_advance_iff {next : Option Char} {position : Nat} {threads : List Thread}
    {found : Option (Nat × Nat)}
    (waiting : ∀ thread ∈ threads, ∃ set target,
      program.getD thread.instruction .finish = .take set target) {moved : Thread} :
    moved ∈ (advance program next position threads found).1 ↔
      ∃ thread ∈ threads, ∃ set target,
        program.getD thread.instruction .finish = .take set target ∧ next.any set.holds = true ∧
          moved = ⟨target, thread.start⟩ := by
  induction threads with
  | nil => simp [advance]
  | cons thread threads ih =>
    rcases List.forall_mem_cons.1 waiting with ⟨⟨set, target, here⟩, others⟩
    simp only [advance, List.mem_cons, exists_eq_or_imp, here, ← ih others]
    split
    next holds => simp [holds, and_assoc]
    next refuses => simp [refuses, and_assoc]

theorem getD_of_getElem? {instruction : Instruction} (here : program[number]? = some instruction) :
    program.getD number .finish = instruction := by
  rw [Array.getD_eq_getD_getElem?, here, Option.getD_some]

/-- A match is found where some thread, or the start of the program, reaches the finish. -/
theorem isSome_round_iff {entry position : Nat} {threads : List Thread} :
    (round program entry threads none before after position).2.isSome = true ↔
      ∃ thread ∈ threads ++ [⟨entry, position⟩], ∃ target,
        Reaches program before after thread.instruction target ∧
          program[target]? = some .finish := by
  simp only [round, Option.isNone_none, if_true]
  rw [advance_isSome_iff]
  constructor
  · rintro ⟨ready, member, free⟩
    rcases exists_mem_readyThreads_iff.1 ⟨ready, member, rfl⟩ with
      ⟨⟨instruction, here, rests⟩, thread, entered, reaches⟩
    refine ⟨thread, entered, _, reaches, ?_⟩
    cases instruction with
    | fork => cases rests
    | check => cases rests
    | take set target => exact absurd (getD_of_getElem? here) (free set target)
    | finish => exact here
  · rintro ⟨thread, entered, target, reaches, here⟩
    rcases exists_mem_readyThreads_iff.2 ⟨⟨.finish, here, rfl⟩, thread, entered, reaches⟩ with
      ⟨ready, member, rfl⟩
    refine ⟨ready, member, ?_⟩
    intro set next
    rw [getD_of_getElem? here]
    rintro ⟨⟩

/-- If no match is found, the threads go on past the character by whatever takes it. -/
theorem exists_mem_round_iff {entry position : Nat} {threads : List Thread}
    (unfound : ¬ (round program entry threads none before after position).2.isSome = true) :
    (∃ moved ∈ (round program entry threads none before after position).1,
        moved.instruction = number) ↔
      ∃ thread ∈ threads ++ [⟨entry, position⟩], ∃ target set,
        Reaches program before after thread.instruction target ∧
          program[target]? = some (.take set number) ∧ after.any set.holds = true := by
  simp only [round, Option.isNone_none, if_true] at unfound ⊢
  have waiting : ∀ ready ∈ readyThreads program before after (threads ++ [⟨entry, position⟩]),
      ∃ set target, program.getD ready.instruction .finish = .take set target := by
    intro ready member
    by_cases waits : ∃ set target, program.getD ready.instruction .finish = .take set target
    · exact waits
    · have free : ∀ set target, program.getD ready.instruction .finish ≠ .take set target :=
        fun set target here => waits ⟨set, target, here⟩
      exact absurd (advance_isSome_iff.2 ⟨ready, member, free⟩) unfound
  constructor
  · rintro ⟨moved, member, rfl⟩
    rcases (mem_advance_iff waiting).1 member with ⟨ready, listed, set, target, here, holds, rfl⟩
    rcases exists_mem_readyThreads_iff.1 ⟨ready, listed, rfl⟩ with
      ⟨⟨instruction, there, -⟩, thread, entered, reaches⟩
    rw [getD_of_getElem? there] at here
    exact ⟨thread, entered, _, set, reaches, here ▸ there, holds⟩
  · rintro ⟨thread, entered, target, set, reaches, here, holds⟩
    rcases exists_mem_readyThreads_iff.2 ⟨⟨_, here, rfl⟩, thread, entered, reaches⟩ with
      ⟨ready, listed, rfl⟩
    refine ⟨⟨number, ready.start⟩, ?_, rfl⟩
    rw [mem_advance_iff waiting]
    exact ⟨ready, listed, set, number, getD_of_getElem? here, holds, rfl⟩

/-! ## A whole search -/

theorem isSome_run {entry position : Nat} {threads : List Thread} {found : Option (Nat × Nat)}
    (known : found.isSome = true) :
    (run program entry threads found before position text).isSome = true := by
  induction text generalizing threads found before position with
  | nil => exact isSome_advance known
  | cons c rest ih =>
    rw [run_cons]
    dsimp only
    split
    · exact isSome_advance known
    · exact ih (isSome_advance known)

/-- Somewhere in the text the program can finish from its start. -/
def FinishesWithin (program : Program) (entry : Nat) (before : Option Char) (text : List Char) :
    Prop :=
  ∃ gap rest, text = gap ++ rest ∧ Finishes program (lastOr before gap) entry rest

theorem finishesWithin_nil_iff {entry : Nat} :
    FinishesWithin program entry before [] ↔ Finishes program before entry [] := by
  constructor
  · rintro ⟨gap, rest, whole, finishes⟩
    rcases List.append_eq_nil_iff.1 whole.symm with ⟨rfl, rfl⟩
    exact finishes
  · intro finishes
    exact ⟨[], [], rfl, finishes⟩

theorem finishesWithin_cons_iff {entry : Nat} {c : Char} {rest : List Char} :
    FinishesWithin program entry before (c :: rest) ↔
      Finishes program before entry (c :: rest) ∨ FinishesWithin program entry (some c) rest := by
  constructor
  · rintro ⟨gap, left, whole, finishes⟩
    cases gap with
    | nil =>
      rw [List.nil_append] at whole
      exact .inl (whole ▸ finishes)
    | cons d gap =>
      rcases List.cons.inj whole with ⟨rfl, rfl⟩
      rw [lastOr_cons] at finishes
      exact .inr ⟨gap, left, rfl, finishes⟩
  · rintro (finishes | ⟨gap, left, rfl, finishes⟩)
    · exact ⟨[], _, rfl, finishes⟩
    · exact ⟨c :: gap, left, rfl, (lastOr_cons before c gap).symm ▸ finishes⟩

theorem exists_entered_finishes_iff {entry : Nat} (position : Nat) {threads : List Thread} :
    (∃ thread ∈ threads ++ [⟨entry, position⟩], Finishes program before thread.instruction text) ↔
      (∃ thread ∈ threads, Finishes program before thread.instruction text) ∨
        Finishes program before entry text := by
  simp [or_and_right, exists_or]

/-- A run finds a match if one of its threads can finish, or a new one from here on. -/
theorem isSome_run_iff {entry position : Nat} {threads : List Thread} :
    (run program entry threads none before position text).isSome = true ↔
      (∃ thread ∈ threads, Finishes program before thread.instruction text) ∨
        FinishesWithin program entry before text := by
  induction text generalizing threads before position with
  | nil =>
    rw [finishesWithin_nil_iff, ← exists_entered_finishes_iff position, run_nil, isSome_round_iff]
    apply exists_congr
    intro thread
    apply and_congr_right
    intro _
    rw [finishes_iff]
    simp
  | cons c rest ih =>
    rw [finishesWithin_cons_iff, ← or_assoc, ← exists_entered_finishes_iff position, run_cons]
    dsimp only
    by_cases found : (round program entry threads none before (some c) position).2.isSome = true
    · constructor
      · intro _
        rcases isSome_round_iff.1 found with ⟨thread, entered, target, reaches, here⟩
        exact .inl ⟨thread, entered, .of_reaches reaches (.finish here)⟩
      · intro _
        split
        · exact found
        · exact isSome_run found
    · have unfound := Option.not_isSome_iff_eq_none.1 found
      rw [if_neg (by simp [unfound]), unfound, ih]
      apply or_congr_left
      constructor
      · rintro ⟨moved, member, onward⟩
        rcases (exists_mem_round_iff found).1 ⟨moved, member, rfl⟩ with
          ⟨thread, entered, target, set, reaches, here, holds⟩
        exact ⟨thread, entered, .of_reaches reaches (.takes here holds onward)⟩
      · rintro ⟨thread, entered, finishes⟩
        rcases finishes_iff.1 finishes with
          ⟨target, reaches, here | ⟨set, next, d, left, here, same, holds, onward⟩⟩
        · exact absurd (isSome_round_iff.2 ⟨thread, entered, target, reaches, here⟩) found
        · rcases List.cons.inj same with ⟨rfl, rfl⟩
          rcases (exists_mem_round_iff found).2
            ⟨thread, entered, target, set, reaches, here, holds⟩ with ⟨moved, member, rfl⟩
          exact ⟨moved, member, onward⟩

end Acceptance

/-- A pattern is found in a text exactly if its program can finish there from its start. -/
theorem search_isSome_iff {pattern : Pattern} {before : Option Char} {text : List Char} :
    (pattern.search before text).isSome = true ↔
      FinishesWithin pattern.program pattern.entry before text := by
  rw [search, isSome_run_iff]
  simp

end Pattern

end SpokenFeedback
