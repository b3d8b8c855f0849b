import Mathlib.Algebra.GroupWithZero.Nat
import SpokenFeedback.Pattern.Footprint.Measure

/-!
# Bounds of footprints

A footprint depends on which states are remembered, and so on the slots that their hashes fall
into.  A bound does not: a remembered state only saves one, so that each byte range of a set adds at
most one state with a step (`Pattern.addsAtMost_setCost`), and every other part of an expression
adds what its definition says.

`Expression.AddsAtMost` puts the bounds of the parts together, and an expression whose bound is
within the limit fits (`Expression.fits_of_addsAtMost`).  No automaton has to be built for that.
-/

namespace SpokenFeedback

namespace Pattern

/-- Whatever has been built before, the cost adds no more than these bytes. -/
def AddsAtMost (cost : Cost) (bytes : Nat) : Prop :=
  ∀ footprint, (cost footprint).bytes ≤ footprint.bytes + bytes

namespace Footprint

variable (footprint : Footprint) (count : Nat)

@[simp]
theorem bytes_addState : footprint.addState.bytes = footprint.bytes + 32 := rfl

@[simp]
theorem bytes_addRanges :
    (footprint.addRanges count).bytes = footprint.bytes + 32 + 8 * count := rfl

@[simp]
theorem bytes_addBranches :
    (footprint.addBranches count).bytes = footprint.bytes + 4 * count := rfl

end Footprint

/-! ## Sets forwards -/

theorem settle_le (reversed : List ByteStep) (sharing : Sharing (List ByteStep)) :
    (settle reversed sharing).2.footprint.bytes ≤
      sharing.footprint.bytes + (32 + 8 * reversed.length) := by
  simp only [settle]
  split
  next => exact Nat.le_add_right _ _
  next =>
    rw [Footprint.bytes_addRanges, List.length_reverse]
    omega

/-- What an open state adds at most when it is settled, with the step to come. -/
def OpenState.owed (state : OpenState) : Nat := 40 + 8 * state.steps.length

theorem OpenState.length_finish_le (state : OpenState) (next : Nat) :
    (state.finish next).length ≤ state.steps.length + 1 := by
  rw [finish]
  split
  next => exact Nat.le_refl _
  next => exact Nat.le_succ _

theorem settleAll_le (target : Nat) (states : List OpenState)
    (sharing : Sharing (List ByteStep)) :
    (settleAll target states sharing).2.footprint.bytes ≤
      sharing.footprint.bytes + (states.map OpenState.owed).sum := by
  induction states with
  | nil => exact Nat.le_refl _
  | cons state deeper ih =>
    have settled := settle_le (state.finish (settleAll target deeper sharing).1)
      (settleAll target deeper sharing).2
    have finished := state.length_finish_le (settleAll target deeper sharing).1
    rw [settleAll, List.map_cons, List.sum_cons, OpenState.owed]
    dsimp only
    omega

/-- Each byte range of a sequence adds at most one state with one step. -/
theorem putSequence_le (target : Nat) (states : List OpenState) (sequence : List ByteRange)
    (sharing : Sharing (List ByteStep)) :
    (putSequence target states sequence sharing).2.footprint.bytes +
        ((putSequence target states sequence sharing).1.map OpenState.owed).sum ≤
      sharing.footprint.bytes + (states.map OpenState.owed).sum + 40 * sequence.length := by
  induction states generalizing sequence with
  | nil => simp [putSequence]
  | cons state deeper ih =>
    cases sequence with
    | nil => simp [putSequence]
    | cons bytes rest =>
      rw [putSequence]
      split
      next =>
        have further := ih rest
        simp only [List.map_cons, List.sum_cons, List.length_cons]
        omega
      next =>
        have settled := settleAll_le target deeper sharing
        have finished := state.length_finish_le (settleAll target deeper sharing).1
        have opened : ((rest.map fun bytes => (⟨[], some bytes⟩ : OpenState)).map
            OpenState.owed).sum = 40 * rest.length := by
          simp only [List.map_map, Function.comp_def, OpenState.owed, List.length_nil,
            List.map_const', List.sum_replicate_nat, Nat.mul_comm]
        simp only [List.map_cons, List.sum_cons, List.length_cons, opened, OpenState.owed]
          at settled ⊢
        omega

/-- The number of byte ranges in sequences. -/
def rangeCount (sequences : List (List ByteRange)) : Nat := (sequences.map List.length).sum

theorem addsAtMost_forwardSetCost (sequences : List (List ByteRange)) :
    AddsAtMost (forwardSetCost sequences) (72 + 40 * rangeCount sequences) := by
  intro footprint
  -- The states that are open owe what they add once they are settled.
  have folded : ∀ states : List OpenState × Sharing (List ByteStep),
      let last := sequences.foldl
        (fun states sequence => putSequence footprint.states states.1 sequence states.2) states
      last.2.footprint.bytes + (last.1.map OpenState.owed).sum ≤
        states.2.footprint.bytes + (states.1.map OpenState.owed).sum +
          40 * rangeCount sequences := by
    induction sequences with
    | nil => exact fun states => Nat.le_refl _
    | cons sequence sequences ih =>
      intro states
      have first := putSequence_le footprint.states states.1 sequence states.2
      have others := ih (putSequence footprint.states states.1 sequence states.2)
      rw [rangeCount, List.map_cons, List.sum_cons, ← rangeCount]
      dsimp only [List.foldl_cons] at others ⊢
      omega
  have bound := folded ([⟨[], none⟩], ⟨footprint.addState, .empty _⟩)
  dsimp only at bound
  rw [forwardSetCost]
  refine Nat.le_trans (settleAll_le _ _ _) (Nat.le_trans bound ?_)
  simp [OpenState.owed]
  omega

/-! ## Sets backwards -/

/-- A step backwards takes the state that is remembered in its slot, or builds a new one. -/
theorem stepBack_eq :
    stepBack = fun state bytes sharing =>
      let slot := slotOf 1000 (mixIn (mixIn (mixIn hashStart state) bytes.1) bytes.2)
      match sharing.table.find? slot (state, bytes) with
      | some known => (known, sharing)
      | none =>
        let added := sharing.footprint.states
        (added, ⟨sharing.footprint.addState, sharing.table.insert slot (state, bytes) added⟩) := rfl

theorem stepBack_le (state : Nat) (bytes : ByteRange) (sharing : Sharing (Nat × ByteRange)) :
    (stepBack state bytes sharing).2.footprint.bytes ≤ sharing.footprint.bytes + 32 := by
  -- The look-up is named before the step is opened, so that the hash is never computed.
  cases found : sharing.table.find?
      (slotOf 1000 (mixIn (mixIn (mixIn hashStart state) bytes.1) bytes.2)) (state, bytes) with
  | some known =>
    rw [stepBack_eq]
    simp only [found]
    exact Nat.le_add_right _ _
  | none =>
    rw [stepBack_eq]
    simp only [found]
    exact Nat.le_refl _

theorem stepBackAll_le (sequence : List ByteRange)
    (reached : Nat × Sharing (Nat × ByteRange)) :
    (sequence.foldl (fun reached bytes => stepBack reached.1 bytes reached.2)
        reached).2.footprint.bytes ≤ reached.2.footprint.bytes + 32 * sequence.length := by
  induction sequence generalizing reached with
  | nil => exact Nat.le_refl _
  | cons bytes sequence ih =>
    have first := stepBack_le reached.1 bytes reached.2
    have others := ih (stepBack reached.1 bytes reached.2)
    rw [List.foldl_cons, List.length_cons]
    omega

theorem addsAtMost_backwardSetCost (sequences : List (List ByteRange)) :
    AddsAtMost (backwardSetCost sequences)
      (64 + 32 * rangeCount sequences + 4 * sequences.length) := by
  intro footprint
  have folded : ∀ sharing : Sharing (Nat × ByteRange),
      (sequences.foldl
        (fun sharing sequence =>
          (sequence.foldl (fun reached bytes => stepBack reached.1 bytes reached.2)
            (footprint.states + 1, sharing)).2)
        sharing).footprint.bytes ≤ sharing.footprint.bytes + 32 * rangeCount sequences := by
    induction sequences with
    | nil => exact fun sharing => Nat.le_refl _
    | cons sequence sequences ih =>
      intro sharing
      have first := stepBackAll_le sequence (footprint.states + 1, sharing)
      have others := ih (sequence.foldl (fun reached bytes => stepBack reached.1 bytes reached.2)
        (footprint.states + 1, sharing)).2
      rw [rangeCount, List.map_cons, List.sum_cons, ← rangeCount, List.foldl_cons]
      dsimp only at first
      omega
  have bound := folded ⟨footprint.addState.addState, .empty _⟩
  rw [backwardSetCost, Footprint.bytes_addBranches]
  simp only [Footprint.bytes_addState] at bound
  dsimp only
  omega

/-- The byte sequences of the characters of a set. -/
def sequencesOf (set : CharClass) : List (List ByteRange) :=
  set.flatMap fun range => byteSequences range.1 range.2

/-- A bound of what a set adds, forwards or backwards. -/
def setBound (set : CharClass) : Nat :=
  72 + 8 * set.length + 40 * rangeCount (sequencesOf set) + 4 * (sequencesOf set).length

theorem addsAtMost_setCost (backward : Bool) (set : CharClass) :
    AddsAtMost (setCost backward set) (setBound set) := by
  intro footprint
  rw [setCost, setBound]
  split
  next =>
    rw [Footprint.bytes_addRanges, Footprint.bytes_addState]
    omega
  next =>
    cases backward with
    | false =>
      have bound := addsAtMost_forwardSetCost (sequencesOf set) footprint
      refine Nat.le_trans bound ?_
      omega
    | true =>
      have bound := addsAtMost_backwardSetCost (sequencesOf set) footprint
      refine Nat.le_trans bound ?_
      omega

/-! ## Expressions -/

namespace Expression

/-- What an expression adds, all its branches together. -/
def cost (backward : Bool) (expression : Expression) : Cost :=
  Branch.choiceCost backward (expression.branchesWithCost backward)

section Costs

variable (backward greedy : Bool) (place : Nat) (body first rest : Expression)

theorem cost_group :
    cost backward (.group place body) =
      if backward then body.cost backward
      else fun footprint => (body.cost backward footprint.addState).addState := rfl

theorem cost_sequence :
    cost backward (.sequence first rest) =
      if backward then first.cost backward ∘ rest.cost backward
      else rest.cost backward ∘ first.cost backward := rfl

theorem cost_optional :
    cost backward (.repetition 0 (some 1) greedy body) = fun footprint =>
      (forkedCost (body.cost backward) footprint).addState := rfl

theorem cost_loop :
    cost backward (.repetition 1 none greedy body) = fun footprint =>
      (body.cost backward footprint).addState.addBranches 2 := rfl

/-- A choice between sequences builds both, whatever texts they consist of. -/
theorem cost_choice (items others : Expression) :
    cost backward (.choice (.sequence first items) (.sequence rest others)) = fun footprint =>
      (cost backward (.sequence rest others)
        (cost backward (.sequence first items) footprint)).addState.addState.addBranches 2 := rfl

end Costs

/-- Whatever has been built before, the expression adds no more than these bytes. -/
def AddsAtMost (expression : Expression) (bytes : Nat) : Prop :=
  ∀ backward, Pattern.AddsAtMost (expression.cost backward) bytes

namespace AddsAtMost

variable {body first rest : Expression} {bytes more : Nat}

theorem assert (assertion : Assertion) : (Expression.assert assertion).AddsAtMost 32 :=
  fun _ _ => Nat.le_refl _

theorem literal (text : List Char) :
    (Expression.literal text).AddsAtMost (32 * (bytesOf text).length) :=
  fun _ _ => Nat.le_refl _

theorem one (set : CharClass) : (Expression.one set).AddsAtMost (setBound set) :=
  fun backward => addsAtMost_setCost backward set

theorem group (place : Nat) (bound : body.AddsAtMost bytes) :
    (Expression.group place body).AddsAtMost (bytes + 64) := by
  intro backward footprint
  rw [cost_group]
  split
  · have inside := bound backward footprint
    omega
  · have inside := bound backward footprint.addState
    simp only [Footprint.bytes_addState] at inside ⊢
    omega

theorem sequence (bound : first.AddsAtMost bytes) (boundRest : rest.AddsAtMost more) :
    (Expression.sequence first rest).AddsAtMost (bytes + more) := by
  intro backward footprint
  rw [cost_sequence]
  split
  · have inner := boundRest backward footprint
    have outer := bound backward (rest.cost backward footprint)
    rw [Function.comp_apply]
    omega
  · have inner := bound backward footprint
    have outer := boundRest backward (first.cost backward footprint)
    rw [Function.comp_apply]
    omega

theorem optional (greedy : Bool) (bound : body.AddsAtMost bytes) :
    (Expression.repetition 0 (some 1) greedy body).AddsAtMost (bytes + 72) := by
  intro backward footprint
  have inside := bound backward footprint.addState
  rw [cost_optional]
  simp only [forkedCost, Footprint.bytes_addState, Footprint.bytes_addBranches] at inside ⊢
  omega

/-- A loop of one round and more builds its body once. -/
theorem loop (greedy : Bool) (bound : body.AddsAtMost bytes) :
    (Expression.repetition 1 none greedy body).AddsAtMost (bytes + 40) := by
  intro backward footprint
  have inside := bound backward footprint
  rw [cost_loop]
  simp only [Footprint.bytes_addState, Footprint.bytes_addBranches]
  omega

theorem choice {items others : Expression}
    (bound : (Expression.sequence first items).AddsAtMost bytes)
    (boundRest : (Expression.sequence rest others).AddsAtMost more) :
    (Expression.choice (.sequence first items) (.sequence rest others)).AddsAtMost
      (bytes + more + 72) := by
  intro backward footprint
  have inner := bound backward footprint
  have outer := boundRest backward ((Expression.sequence first items).cost backward footprint)
  rw [cost_choice]
  simp only [Footprint.bytes_addState, Footprint.bytes_addBranches]
  omega

end AddsAtMost

/-- An expression whose bound is within the limit may be compiled. -/
theorem fits_of_addsAtMost {expression : Expression} {bytes : Nat}
    (bound : expression.AddsAtMost bytes) (small : bytes + 208 ≤ Footprint.maxBytes) :
    expression.fits = true := by
  have within : ∀ backward, (expression.footprint backward).isTooLarge = false := by
    intro backward
    rw [Footprint.isTooLarge, decide_eq_false_iff_not, Nat.not_lt]
    refine Nat.le_trans ?_ small
    rw [footprint]
    generalize before : (if (if backward then expression.isHeldAtEnd else expression.isHeldAtStart)
      then Footprint.zero.addState
      else ((Footprint.zero.addState.addBranches 2).addState).addRanges 1) = start
    have started : start.bytes ≤ 112 := by
      have either : ∀ held : Bool, (if held then Footprint.zero.addState
          else ((Footprint.zero.addState.addBranches 2).addState).addRanges 1).bytes ≤ 112 := by
        decide
      exact before ▸ either _
    cases backward with
    | false =>
      have inside := bound false start.addState
      simp only [Bool.false_eq_true, if_false, Footprint.bytes_addState] at inside ⊢
      rw [← cost]
      omega
    | true =>
      have inside := bound true start
      simp only [if_true, Footprint.bytes_addState]
      rw [← cost]
      omega
  rw [fits, within, within]
  simp

end Expression

end Pattern

end SpokenFeedback
