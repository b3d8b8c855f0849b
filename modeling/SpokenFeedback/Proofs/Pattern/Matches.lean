import SpokenFeedback.Proofs.Pattern.Following

/-!
# Successive matches

A thread starts at the position that the search has reached, so that a match lies within the text
(`Pattern.search_le`).  Directly after a match the next one takes a character or leaves one out
(`Pattern.nextMatch_bounds`).

`Pattern.Successive` says what the successive matches of a text are: each is the first one in what
the match before it has left, and there is none in what the last one leaves.  Cutting a text finds
exactly these (`Pattern.successive_iff`); its fuel never ends the search too early.
-/

namespace SpokenFeedback

namespace Pattern

/-! ## Matches lie within the text -/

/-- Every thread started at the position or before it. -/
def StartedBy (position : Nat) (threads : List Thread) : Prop :=
  ∀ thread ∈ threads, thread.start ≤ position

/-- A match that has been found ends at the position or before it. -/
def EndsBy (position : Nat) (found : Option (Nat × Nat)) : Prop :=
  ∀ skip length, found = some (skip, length) → skip + length ≤ position

section Search

variable {program : Program} {before after : Option Char} {position : Nat}

theorem size_seen_follow {start fuel : Nat} {stack : List Nat} {frontier : Frontier} :
    (follow program before after start fuel stack frontier).seen.size = frontier.seen.size := by
  induction fuel generalizing stack frontier with
  | zero => rfl
  | succ fuel ih =>
    cases stack with
    | nil => rfl
    | cons number stack =>
      by_cases known : frontier.Knows number
      · rw [follow_known known, ih]
      · rw [follow_fresh known, ih, Frontier.size_seen_visit]

theorem StartedBy.readyThreads {threads : List Thread} (started : StartedBy position threads) :
    StartedBy position (readyThreads program before after threads) := by
  -- The marks keep their number while one thread after another is followed.
  have folded : ∀ frontier : Frontier, frontier.seen.size = program.size →
      (∀ thread ∈ frontier.ready, thread.start ≤ position) →
        ∀ thread ∈ (threads.foldl
            (fun frontier thread =>
              follow program before after thread.start (2 * program.size + 2)
                [thread.instruction] frontier)
            frontier).ready,
          thread.start ≤ position := by
    induction threads with
    | nil => exact fun frontier _ ready => ready
    | cons first threads ih =>
      intro frontier sized ready
      rcases List.forall_mem_cons.1 started with ⟨here, others⟩
      refine ih others _ (size_seen_follow.trans sized) fun thread member => ?_
      rcases mem_ready_follow sized member with old | ⟨same, -⟩
      · exact ready thread old
      · exact same ▸ here
  intro thread member
  exact folded _ Array.size_replicate (by simp) thread (Array.mem_toList_iff.1 member)

theorem StartedBy.advance {next : Option Char} {threads : List Thread} {found : Option (Nat × Nat)}
    (started : StartedBy position threads) (ends : EndsBy position found) :
    StartedBy position (advance program next position threads found).1 ∧
      EndsBy position (advance program next position threads found).2 := by
  induction threads with
  | nil => exact ⟨started, ends⟩
  | cons thread threads ih =>
    rcases List.forall_mem_cons.1 started with ⟨here, others⟩
    have finished : StartedBy position [] ∧
        EndsBy position (some (thread.start, position - thread.start)) := by
      refine ⟨nofun, ?_⟩
      rintro _ _ ⟨⟩
      omega
    simp only [Pattern.advance]
    split
    next set target _ =>
      rcases ih others with ⟨moved, endsOn⟩
      split
      · exact ⟨List.forall_mem_cons.2 ⟨here, moved⟩, endsOn⟩
      · exact ⟨moved, endsOn⟩
    next => exact finished

theorem StartedBy.mono {threads : List Thread} {later : Nat} (started : StartedBy position threads)
    (follows : position ≤ later) : StartedBy later threads :=
  fun thread member => Nat.le_trans (started thread member) follows

theorem EndsBy.mono {found : Option (Nat × Nat)} {later : Nat} (ends : EndsBy position found)
    (follows : position ≤ later) : EndsBy later found :=
  fun skip length here => Nat.le_trans (ends skip length here) follows

/-- What a run does at one position, before it goes on to the next. -/
def round (program : Program) (entry : Nat) (threads : List Thread) (found : Option (Nat × Nat))
    (before next : Option Char) (position : Nat) : List Thread × Option (Nat × Nat) :=
  let entered := if found.isNone then threads ++ [⟨entry, position⟩] else threads
  advance program next position (readyThreads program before next entered) found

theorem run_nil (entry : Nat) (threads : List Thread) (found : Option (Nat × Nat)) :
    run program entry threads found before position [] =
      (round program entry threads found before none position).2 := rfl

theorem run_cons (entry : Nat) (threads : List Thread) (found : Option (Nat × Nat)) (c : Char)
    (rest : List Char) :
    run program entry threads found before position (c :: rest) =
      let here := round program entry threads found before (some c) position
      if here.1.isEmpty && here.2.isSome then here.2
      else run program entry here.1 here.2 (some c) (position + 1) rest := rfl

theorem StartedBy.round {threads : List Thread} {found : Option (Nat × Nat)}
    (started : StartedBy position threads) (ends : EndsBy position found) (entry : Nat)
    (next : Option Char) :
    StartedBy position (round program entry threads found before next position).1 ∧
      EndsBy position (round program entry threads found before next position).2 := by
  refine (StartedBy.readyThreads ?_).advance ends
  split
  · exact List.forall_mem_append.2
      ⟨started, List.forall_mem_singleton.2 (Nat.le_refl position)⟩
  · exact started

/-- A run finds no match that goes beyond the end of the text. -/
theorem EndsBy.run {entry : Nat} {threads : List Thread} {found : Option (Nat × Nat)}
    {rest : List Char} (started : StartedBy position threads) (ends : EndsBy position found) :
    EndsBy (position + rest.length) (run program entry threads found before position rest) := by
  induction rest generalizing threads found before position with
  | nil => exact (started.round ends entry none).2
  | cons c rest ih =>
    rcases started.round ends entry (some c) with ⟨moved, ended⟩
    rw [run_cons, List.length_cons]
    dsimp only
    split
    · exact ended.mono (Nat.le_add_right position _)
    · refine EndsBy.mono (ih (moved.mono (Nat.le_succ position))
        (ended.mono (Nat.le_succ position))) ?_
      omega

end Search

variable {pattern : Pattern} {before : Option Char} {afterMatch : Bool} {text : List Char}

/-- A match lies within the text. -/
theorem search_le {skip length : Nat} (found : pattern.search before text = some (skip, length)) :
    skip + length ≤ text.length := by
  have started : StartedBy 0 [] := by
    rintro _ ⟨⟩
  have ends : EndsBy 0 none := by
    rintro _ _ ⟨⟩
  have bound := ends.run started skip length found
  rwa [Nat.zero_add] at bound

/-- A match lies within what is left of the text; directly after a match it is not empty there. -/
theorem nextMatch_bounds {skip length : Nat}
    (found : pattern.nextMatch before afterMatch text = some (skip, length)) :
    skip + length ≤ text.length ∧ (afterMatch = true → 0 < skip + length) := by
  unfold nextMatch at found
  split at found
  next here =>
    split at found
    next =>
      -- The empty match directly after a match does not count: what is found starts further on.
      split at found
      next => cases found
      next c rest _ =>
        rcases Option.map_eq_some_iff.1 found with ⟨⟨onward, taken⟩, further, shifted⟩
        cases shifted
        have bound := search_le further
        rw [List.length_cons]
        omega
    next apart =>
      cases found
      exact ⟨Nat.zero_le _, fun directly => absurd directly apart⟩
  next elsewhere =>
    refine ⟨search_le found, fun _ => Nat.pos_of_ne_zero fun nothing => elsewhere ?_⟩
    rcases Nat.add_eq_zero_iff.1 nothing with ⟨rfl, rfl⟩
    exact found

/-! ## Cutting a text at its matches -/

/--
The successive matches of a text with the gaps before them, and the rest of the text.  Each match is
the first one in what is left after the match before it; in the rest there is none.
-/
inductive Successive (pattern : Pattern) :
    Option Char → Bool → List Char → List Segment → List Char → Prop where
  | last {before : Option Char} {afterMatch : Bool} {text : List Char}
    (unmatched : pattern.nextMatch before afterMatch text = none) :
    Successive pattern before afterMatch text [] text
  | next {before : Option Char} {afterMatch : Bool} {text gap matched left rest : List Char}
    {segments : List Segment} (cut : text = gap ++ matched ++ left)
    (found : pattern.nextMatch before afterMatch text = some (gap.length, matched.length))
    (onward : Successive pattern (lastOr before (gap ++ matched)) true left segments rest) :
    Successive pattern before afterMatch text (⟨gap, matched⟩ :: segments) rest

/-- A text has its successive matches in one way only. -/
theorem Successive.unique {segments others : List Segment} {rest left : List Char}
    (first : Successive pattern before afterMatch text segments rest)
    (second : Successive pattern before afterMatch text others left) :
    others = segments ∧ left = rest := by
  induction first generalizing others left with
  | last unmatched =>
    cases second with
    | last => exact ⟨rfl, rfl⟩
    | next _ found =>
      rw [unmatched] at found
      cases found
  | @next before afterMatch text gap matched remaining rest segments cut found onward ih =>
    cases second with
    | last unmatched =>
      rw [unmatched] at found
      cases found
    | @next _ _ _ otherGap otherMatched otherLeft _ others otherCut otherFound otherOnward =>
      rw [found, Option.some.injEq, Prod.mk.injEq] at otherFound
      rcases otherFound with ⟨gapLength, matchedLength⟩
      rw [cut] at otherCut
      have front : (gap ++ matched).length = (otherGap ++ otherMatched).length := by
        rw [List.length_append, List.length_append, gapLength, matchedLength]
      rcases List.append_inj otherCut front with ⟨same, rfl⟩
      rcases List.append_inj same gapLength with ⟨rfl, rfl⟩
      rcases ih otherOnward with ⟨rfl, rfl⟩
      exact ⟨rfl, rfl⟩

/-- With more fuel than characters the cutting ends only where there is no match. -/
theorem successive_segmentsFrom {fuel : Nat}
    (enough : text.length + (if afterMatch then 0 else 1) < fuel) :
    Successive pattern before afterMatch text (pattern.segmentsFrom fuel before afterMatch text).1
      (pattern.segmentsFrom fuel before afterMatch text).2 := by
  induction fuel generalizing before afterMatch text with
  | zero => exact absurd enough (Nat.not_lt_zero _)
  | succ fuel ih =>
    rw [segmentsFrom]
    split
    next unmatched => exact .last unmatched
    next skip length found =>
      rcases nextMatch_bounds found with ⟨within, progress⟩
      have gapLength : (text.take skip).length = skip := by
        rw [List.length_take]
        omega
      have matchedLength : ((text.drop skip).take length).length = length := by
        rw [List.length_take, List.length_drop]
        omega
      refine .next ?_ ?_ (ih ?_)
      · rw [List.append_assoc, List.take_append_drop, List.take_append_drop]
      · rw [found, gapLength, matchedLength]
      · -- The first match may be empty; each later one takes a character or leaves one out.
        rw [List.length_drop, List.length_drop]
        cases afterMatch with
        | false =>
          simp only [Bool.false_eq_true, if_false, if_true] at enough ⊢
          omega
        | true =>
          have onward : 0 < skip + length := progress rfl
          simp only [if_true] at enough ⊢
          omega

/-- Cutting a text finds its successive matches. -/
theorem successive_iff {segments : List Segment} {rest : List Char} :
    Successive pattern none false text segments rest ↔
      segments = (pattern.segments text).1 ∧ rest = (pattern.segments text).2 := by
  have cut : Successive pattern none false text (pattern.segments text).1
      (pattern.segments text).2 := successive_segmentsFrom (Nat.lt_succ_self _)
  constructor
  · intro other
    exact cut.unique other
  · rintro ⟨rfl, rfl⟩
    exact cut

end Pattern

end SpokenFeedback
