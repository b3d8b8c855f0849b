import Mathlib.Logic.Relation
import SpokenFeedback.Pattern.Search

/-!
# Following instructions between characters

Between two characters a thread moves on through forks and through assertions that hold there.
`Pattern.Reaches` says where it can come to in this way.  `Pattern.mem_readyThreads_singleton` says
that following an instruction finds just what it reaches and what rests there, that is, waits for a
character or finishes.

No instruction is followed twice.  Each costs at most two steps, one for itself and one for the
other branch of a fork, so that the stack and twice the unseen instructions bound the steps.
-/

namespace SpokenFeedback

namespace Pattern

namespace Instruction

/-- The instructions that an instruction leads to without taking a character. -/
def nexts (before after : Option Char) : Instruction → List Nat
  | .fork preferred other => [preferred, other]
  | .check assertion next => if assertion.holds before after then [next] else []
  | .take _ _ | .finish => []

/-- Whether an instruction waits for a character or finishes. -/
def rests : Instruction → Bool
  | .take _ _ | .finish => true
  | .fork _ _ | .check _ _ => false

theorem length_nexts_le (before after : Option Char) (instruction : Instruction) :
    (instruction.nexts before after).length ≤ 2 := by
  cases instruction with
  | fork => simp [nexts]
  | check assertion =>
    rw [nexts]
    split <;> simp
  | take => simp [nexts]
  | finish => simp [nexts]

end Instruction

/-- A step from one instruction to another that takes no character. -/
def Leads (program : Program) (before after : Option Char) (number next : Nat) : Prop :=
  ∃ instruction, program[number]? = some instruction ∧ next ∈ instruction.nexts before after

/-- Steps from one instruction to another that take no character. -/
def Reaches (program : Program) (before after : Option Char) : Nat → Nat → Prop :=
  Relation.ReflTransGen (Leads program before after)

/-- There is an instruction of this number, and it rests. -/
def Rests (program : Program) (number : Nat) : Prop :=
  ∃ instruction, program[number]? = some instruction ∧ instruction.rests = true

/-! ## What has been seen -/

/-- The number of instructions that have not been followed. -/
def unseen (seen : Array Bool) : Nat := seen.toList.count false

namespace Frontier

/-- The instruction has been followed, or there is none of this number. -/
def Knows (frontier : Frontier) (number : Nat) : Prop := frontier.seen.getD number true = true

/-- The frontier with an instruction marked, and with a thread at it if it rests. -/
def visit (program : Program) (start : Nat) (frontier : Frontier) (number : Nat) : Frontier where
  seen := frontier.seen.setIfInBounds number true
  ready :=
    if (program.getD number .finish).rests then frontier.ready.push ⟨number, start⟩
    else frontier.ready

variable {program : Program} {start number : Nat} {frontier : Frontier}

theorem knows_visit_iff {other : Nat} :
    (frontier.visit program start number).Knows other ↔
      other = number ∨ frontier.Knows other := by
  simp only [Knows, visit, Array.getD_eq_getD_getElem?, Array.getElem?_setIfInBounds]
  by_cases same : number = other
  · subst same
    by_cases bound : number < frontier.seen.size
    · simp [bound]
    · simp [bound]
  · simp [same, Ne.symm same]

theorem mem_ready_visit_iff {thread : Thread} :
    thread ∈ (frontier.visit program start number).ready ↔
      thread ∈ frontier.ready ∨
        thread = ⟨number, start⟩ ∧ (program.getD number .finish).rests = true := by
  rw [visit]
  split
  next rests => rw [Array.mem_push, and_iff_left rests]
  next moves => rw [or_iff_left fun added => moves added.2]

theorem size_seen_visit : (frontier.visit program start number).seen.size = frontier.seen.size := by
  rw [visit, Array.size_setIfInBounds]

theorem lt_size_of_fresh (fresh : ¬ frontier.Knows number) : number < frontier.seen.size := by
  refine Nat.lt_of_not_le fun outside => fresh ?_
  rw [Knows, Array.getD_eq_getD_getElem?, Array.getElem?_eq_none outside, Option.getD_none]

theorem unseen_visit (fresh : ¬ frontier.Knows number) :
    unseen (frontier.visit program start number).seen + 1 = unseen frontier.seen := by
  have bound := lt_size_of_fresh fresh
  have unmarked : frontier.seen[number] = false := by
    simpa [Knows, Array.getD_eq_getD_getElem?, bound] using fresh
  have counted : 0 < frontier.seen.toList.count false :=
    List.count_pos_iff.2 (by simpa [unmarked] using Array.getElem_mem bound)
  have marked : unseen (frontier.visit program start number).seen =
      frontier.seen.toList.count false - 1 := by
    rw [unseen, visit, Array.toList_setIfInBounds, List.count_set (by simpa using bound)]
    simp [unmarked]
  rw [marked, unseen]
  omega

end Frontier

section Following

variable {program : Program} {before after : Option Char} {start : Nat} {frontier : Frontier}
  {number : Nat} {stack : List Nat}

/-- An instruction that has been seen is not followed again. -/
theorem follow_known (known : frontier.Knows number) (fuel : Nat) :
    follow program before after start (fuel + 1) (number :: stack) frontier =
      follow program before after start fuel stack frontier := by
  rw [follow]
  exact if_pos known

/-- An instruction that has not been seen is visited, and those it leads to are followed next. -/
theorem follow_fresh (fresh : ¬ frontier.Knows number) (fuel : Nat) :
    follow program before after start (fuel + 1) (number :: stack) frontier =
      follow program before after start fuel
        ((program.getD number .finish).nexts before after ++ stack)
        (frontier.visit program start number) := by
  have unmarked : ¬ frontier.seen.getD number true = true := fresh
  rw [follow, if_neg unmarked, Frontier.visit]
  cases program.getD number .finish with
  | fork => rfl
  | check assertion next =>
    by_cases holds : assertion.holds before after = true
    · simp [holds, Instruction.nexts, Instruction.rests]
    · simp [holds, Instruction.nexts, Instruction.rests]
  | take => rfl
  | finish => rfl

theorem getElem?_of_fresh (sized : frontier.seen.size = program.size)
    (fresh : ¬ frontier.Knows number) :
    program[number]? = some (program.getD number .finish) := by
  have bound : number < program.size := sized ▸ Frontier.lt_size_of_fresh fresh
  rw [Array.getD_eq_getD_getElem?, Array.getElem?_eq_getElem bound, Option.getD_some]

/-! ## Nothing else is found -/

/-- A thread that following adds rests at an instruction that the stack reaches. -/
theorem mem_ready_follow {fuel : Nat} {thread : Thread}
    (sized : frontier.seen.size = program.size)
    (member : thread ∈ (follow program before after start fuel stack frontier).ready) :
    thread ∈ frontier.ready ∨
      thread.start = start ∧ Rests program thread.instruction ∧
        ∃ number ∈ stack, Reaches program before after number thread.instruction := by
  induction fuel generalizing stack frontier with
  | zero => exact .inl member
  | succ fuel ih =>
    cases stack with
    | nil => exact .inl member
    | cons number stack =>
      by_cases known : frontier.Knows number
      · rw [follow_known known] at member
        rcases ih sized member with old | ⟨started, rests, other, onStack, reaches⟩
        · exact .inl old
        · exact .inr ⟨started, rests, other, .tail _ onStack, reaches⟩
      · rw [follow_fresh known] at member
        have here := getElem?_of_fresh sized known
        rcases ih (Frontier.size_seen_visit.trans sized) member with
          ready | ⟨started, rests, other, onStack, reaches⟩
        · rcases Frontier.mem_ready_visit_iff.1 ready with old | ⟨rfl, rests⟩
          · exact .inl old
          · exact .inr ⟨rfl, ⟨_, here, rests⟩, number, .head _, .refl⟩
        · rcases List.mem_append.1 onStack with next | below
          · exact .inr ⟨started, rests, number, .head _, .head ⟨_, here, next⟩ reaches⟩
          · exact .inr ⟨started, rests, other, .tail _ below, reaches⟩

/-! ## Nothing is missed -/

/-- What instructions seen lead to is seen or on the stack, and those that rest have a thread. -/
structure Closed (program : Program) (before after : Option Char) (stack : List Nat)
    (frontier : Frontier) : Prop where
  sized : frontier.seen.size = program.size
  leads : ∀ {number next : Nat}, frontier.Knows number → Leads program before after number next →
    frontier.Knows next ∨ next ∈ stack
  rests : ∀ {number : Nat}, frontier.Knows number → Rests program number →
    ∃ thread ∈ frontier.ready, thread.instruction = number

theorem Closed.of_known (closed : Closed program before after (number :: stack) frontier)
    (known : frontier.Knows number) : Closed program before after stack frontier where
  sized := closed.sized
  rests := closed.rests
  leads := by
    intro other next seen leads
    rcases closed.leads seen leads with nextKnown | onStack
    · exact .inl nextKnown
    · rcases List.mem_cons.1 onStack with rfl | below
      · exact .inl known
      · exact .inr below

theorem Closed.visit (start : Nat)
    (closed : Closed program before after (number :: stack) frontier)
    (fresh : ¬ frontier.Knows number) :
    Closed program before after ((program.getD number .finish).nexts before after ++ stack)
      (frontier.visit program start number) where
  sized := Frontier.size_seen_visit.trans closed.sized
  leads := by
    intro other next seen leads
    rcases Frontier.knows_visit_iff.1 seen with rfl | known
    · rcases leads with ⟨instruction, here, member⟩
      rw [getElem?_of_fresh closed.sized fresh, Option.some.injEq] at here
      exact .inr (List.mem_append_left stack (here ▸ member))
    · rcases closed.leads known leads with nextKnown | onStack
      · exact .inl (Frontier.knows_visit_iff.2 (.inr nextKnown))
      · rcases List.mem_cons.1 onStack with rfl | below
        · exact .inl (Frontier.knows_visit_iff.2 (.inl rfl))
        · exact .inr (List.mem_append_right _ below)
  rests := by
    intro other seen resting
    rcases Frontier.knows_visit_iff.1 seen with rfl | known
    · rcases resting with ⟨instruction, here, rests⟩
      rw [getElem?_of_fresh closed.sized fresh, Option.some.injEq] at here
      exact ⟨⟨other, start⟩, Frontier.mem_ready_visit_iff.2 (.inr ⟨rfl, here ▸ rests⟩), rfl⟩
    · rcases closed.rests known resting with ⟨thread, member, same⟩
      exact ⟨thread, Frontier.mem_ready_visit_iff.2 (.inl member), same⟩

/-- With enough fuel all of the stack is followed, and all that it leads to. -/
theorem closed_follow (start : Nat) {fuel : Nat}
    (closed : Closed program before after stack frontier)
    (enough : stack.length + 2 * unseen frontier.seen < fuel) :
    Closed program before after [] (follow program before after start fuel stack frontier) ∧
      ∀ number, frontier.Knows number ∨ number ∈ stack →
        (follow program before after start fuel stack frontier).Knows number := by
  induction fuel generalizing stack frontier with
  | zero => exact absurd enough (Nat.not_lt_zero _)
  | succ fuel ih =>
    cases stack with
    | nil => exact ⟨closed, fun number seen => seen.resolve_right List.not_mem_nil⟩
    | cons number stack =>
      rw [List.length_cons] at enough
      by_cases known : frontier.Knows number
      · rw [follow_known known]
        rcases ih (closed.of_known known) (by omega) with ⟨onward, keeps⟩
        refine ⟨onward, fun other seen => keeps other ?_⟩
        rcases seen with seen | onStack
        · exact .inl seen
        · rcases List.mem_cons.1 onStack with rfl | below
          · exact .inl known
          · exact .inr below
      · rw [follow_fresh known]
        have branches := (program.getD number .finish).length_nexts_le before after
        have fewer : unseen (frontier.visit program start number).seen + 1 =
            unseen frontier.seen := Frontier.unseen_visit known
        have lasts : ((program.getD number .finish).nexts before after ++ stack).length +
            2 * unseen (frontier.visit program start number).seen < fuel := by
          rw [List.length_append]
          omega
        rcases ih (closed.visit start known) lasts with ⟨onward, keeps⟩
        refine ⟨onward, fun other seen => keeps other ?_⟩
        rcases seen with seen | onStack
        · exact .inl (Frontier.knows_visit_iff.2 (.inr seen))
        · rcases List.mem_cons.1 onStack with rfl | below
          · exact .inl (Frontier.knows_visit_iff.2 (.inl rfl))
          · exact .inr (List.mem_append_right _ below)

theorem Closed.knows_of_reaches {target : Nat} (closed : Closed program before after [] frontier)
    (known : frontier.Knows number) (reaches : Reaches program before after number target) :
    frontier.Knows target := by
  induction reaches with
  | refl => exact known
  | tail _ leads ih => exact (closed.leads ih leads).resolve_right List.not_mem_nil

/-! ## The threads of a position -/

/-- Before any instruction has been followed, only numbers without an instruction are known. -/
theorem closed_initial (program : Program) (before after : Option Char) (stack : List Nat) :
    Closed program before after stack ⟨Array.replicate program.size false, #[]⟩ := by
  have vacant : ∀ {number : Nat},
      Frontier.Knows ⟨Array.replicate program.size false, #[]⟩ number →
        program[number]? = none := by
    intro number known
    rcases Nat.lt_or_ge number program.size with bound | outside
    · simp [Frontier.Knows, Array.getD_eq_getD_getElem?, bound] at known
    · exact Array.getElem?_eq_none outside
  refine ⟨Array.size_replicate, ?_, ?_⟩
  · rintro number next known ⟨instruction, here, -⟩
    rw [vacant known] at here
    cases here
  · rintro number known ⟨instruction, here, -⟩
    rw [vacant known] at here
    cases here

theorem of_mem_readyThreads_singleton {entry : Nat} {thread : Thread}
    (member : thread ∈ readyThreads program before after [⟨entry, start⟩]) :
    thread.start = start ∧ Rests program thread.instruction ∧
      Reaches program before after entry thread.instruction := by
  rcases mem_ready_follow Array.size_replicate (Array.mem_toList_iff.1 member) with
    old | ⟨started, rests, number, onStack, reaches⟩
  · exact absurd old (Array.not_mem_empty thread)
  · rw [List.mem_singleton.1 onStack] at reaches
    exact ⟨started, rests, reaches⟩

/-- The threads of one instruction are at those that it reaches and that rest. -/
theorem mem_readyThreads_singleton {entry : Nat} {thread : Thread} :
    thread ∈ readyThreads program before after [⟨entry, start⟩] ↔
      thread.start = start ∧ Rests program thread.instruction ∧
        Reaches program before after entry thread.instruction := by
  constructor
  · exact of_mem_readyThreads_singleton
  · rintro ⟨started, rests, reaches⟩
    have enough : [entry].length + 2 * unseen (Array.replicate program.size false) <
        2 * program.size + 2 := by
      simp [unseen]
      omega
    rcases closed_follow start (closed_initial program before after [entry]) enough with
      ⟨closed, keeps⟩
    have known := keeps entry (.inr (List.mem_singleton_self entry))
    rcases closed.rests (closed.knows_of_reaches known reaches) rests with ⟨other, member, same⟩
    have listed := Array.mem_toList_iff.2 member
    have equal : other = thread := by
      rcases of_mem_readyThreads_singleton listed with ⟨otherStarted, -, -⟩
      cases other
      cases thread
      simp_all
    exact equal ▸ listed

end Following

end Pattern

end SpokenFeedback
