import Mathlib.Data.List.Infix
import Mathlib.Data.List.TakeWhile
import SpokenFeedback.Text.Alternatives
import SpokenFeedback.Text.Blank

/-!
# Trimmed pieces

A text is cut at double bars, scanned from the left, and blanks are dropped from both ends of a
piece.  This module says what the pieces and what the trimmed text are without the scans:
`Padded` puts blanks around a core, and `Separated` takes the leftmost double bar each time.

`trimChars_eq_iff` and `separated_iff` say that the scans compute these relations.
-/

namespace SpokenFeedback.Text

/-! ## Longest beginnings -/

/-- The longest beginning of a text that a test admits ends before a character that it refuses. -/
theorem takeWhile_dropWhile_append_cons {test : Char → Bool} {admitted : List Char} {stop : Char}
    (admits : ∀ c ∈ admitted, test c = true) (refuses : test stop = false) (rest : List Char) :
    (admitted ++ stop :: rest).takeWhile test = admitted ∧
      (admitted ++ stop :: rest).dropWhile test = stop :: rest := by
  have refused : ¬ test stop = true := by simp [refuses]
  rw [List.takeWhile_append_of_pos admits, List.dropWhile_append_of_pos admits,
    List.takeWhile_cons_of_neg refused, List.dropWhile_cons_of_neg refused, List.append_nil]
  exact ⟨rfl, rfl⟩

/-! ## Blanks at the ends -/

/-- The text is the core with blanks around it. -/
def Padded (core text : List Char) : Prop :=
  ∃ before after, (∀ c ∈ before, isBlank c = true) ∧ (∀ c ∈ after, isBlank c = true) ∧
    text = before ++ core ++ after

/-- Neither end of the text is blank. -/
structure Tight (text : List Char) : Prop where
  first : ∀ c ∈ text.head?, isBlank c = false
  last : ∀ c ∈ text.getLast?, isBlank c = false

variable {text core : List Char}

theorem tight_of_forall (filled : ∀ c ∈ text, isBlank c = false) : Tight text where
  first c isFirst := filled c (List.mem_of_mem_head? isFirst)
  last c isLast := filled c (List.mem_of_getLast? isLast)

theorem trimStart_decompose (text : List Char) :
    ∃ before, (∀ c ∈ before, isBlank c = true) ∧ text = before ++ trimStart text := by
  refine ⟨text.takeWhile isBlank, ?_, List.takeWhile_append_dropWhile.symm⟩
  intro c member
  exact List.mem_takeWhile_imp member

theorem isBlank_of_head?_trimStart (text : List Char) {c : Char}
    (isFirst : c ∈ (trimStart text).head?) : isBlank c = false := by
  have filled := List.head?_dropWhile_not isBlank text
  rw [trimStart, Option.mem_def] at isFirst
  rw [isFirst] at filled
  simpa using filled

theorem trimStart_append {before rest : List Char} (blank : ∀ c ∈ before, isBlank c = true)
    (filled : ∀ c ∈ rest.head?, isBlank c = false) : trimStart (before ++ rest) = rest := by
  rw [trimStart, List.dropWhile_append_of_pos blank]
  cases rest with
  | nil => rfl
  | cons c others => rw [List.dropWhile_cons_of_neg (by simp [filled c rfl])]

theorem trimEnd_decompose (text : List Char) :
    ∃ after, (∀ c ∈ after, isBlank c = true) ∧ text = trimEnd text ++ after := by
  rcases trimStart_decompose text.reverse with ⟨before, blank, extended⟩
  refine ⟨before.reverse, fun c member => blank c (List.mem_reverse.1 member), ?_⟩
  change text = (trimStart text.reverse).reverse ++ before.reverse
  rw [← List.reverse_append, ← extended, List.reverse_reverse]

theorem trimEnd_append {rest after : List Char} (filled : ∀ c ∈ rest.getLast?, isBlank c = false)
    (blank : ∀ c ∈ after, isBlank c = true) : trimEnd (rest ++ after) = rest := by
  have mirrored : trimStart (after.reverse ++ rest.reverse) = rest.reverse := by
    apply trimStart_append
    · intro c member
      exact blank c (List.mem_reverse.1 member)
    · intro c isFirst
      rw [List.head?_reverse] at isFirst
      exact filled c isFirst
  change (trimStart (rest ++ after).reverse).reverse = rest
  rw [List.reverse_append, mirrored, List.reverse_reverse]

theorem padded_trimChars (text : List Char) : Padded (trimChars text) text := by
  rcases trimStart_decompose text with ⟨before, blankBefore, started⟩
  rcases trimEnd_decompose (trimStart text) with ⟨after, blankAfter, ended⟩
  refine ⟨before, after, blankBefore, blankAfter, ?_⟩
  rw [List.append_assoc, trimChars, ← ended]
  exact started

theorem tight_trimChars (text : List Char) : Tight (trimChars text) where
  first c isFirst := by
    rcases trimEnd_decompose (trimStart text) with ⟨after, -, ended⟩
    apply isBlank_of_head?_trimStart text
    rw [ended, List.head?_append, ← trimChars, Option.mem_def.1 isFirst]
    rfl
  last c isLast := by
    apply isBlank_of_head?_trimStart (trimStart text).reverse
    rw [← List.getLast?_reverse]
    exact isLast

theorem trimChars_of_padded (padded : Padded core text) (tight : Tight core) :
    trimChars text = core := by
  rcases padded with ⟨before, after, blankBefore, blankAfter, rfl⟩
  cases core with
  | nil =>
    -- Between nothing but blanks the core has no end of its own.
    have blank : trimStart (before ++ [] ++ after) = [] := by
      rw [trimStart_eq_nil_iff]
      intro c member
      rcases List.mem_append.1 (List.append_nil before ▸ member) with early | late
      · exact blankBefore c early
      · exact blankAfter c late
    rw [trimChars, blank]
    rfl
  | cons first others =>
    have started : trimStart (before ++ (first :: others) ++ after) =
        first :: others ++ after := by
      rw [List.append_assoc]
      exact trimStart_append blankBefore tight.first
    rw [trimChars, started]
    exact trimEnd_append tight.last blankAfter

/-- Trimming gives the one core without blanks at its ends. -/
theorem trimChars_eq_iff : trimChars text = core ↔ Padded core text ∧ Tight core := by
  constructor
  · rintro rfl
    exact ⟨padded_trimChars text, tight_trimChars text⟩
  · rintro ⟨padded, tight⟩
    exact trimChars_of_padded padded tight

theorem trimChars_infix (text : List Char) : trimChars text <:+: text := by
  rcases padded_trimChars text with ⟨before, after, -, -, padded⟩
  exact ⟨before, after, padded.symm⟩

theorem padded_self (text : List Char) : Padded text text :=
  ⟨[], [], by simp, by simp, by simp⟩

@[simp]
theorem trimChars_trimChars (text : List Char) : trimChars (trimChars text) = trimChars text :=
  trimChars_of_padded (padded_self _) (tight_trimChars text)

theorem toList_trim (text : String) : (trim text).toList = trimChars text.toList := by
  rw [trim, String.toList_ofList]

/-! ## Double bars -/

/-- The text that separates alternatives. -/
def doubleBar : List Char := ['|', '|']

/-- The pieces of a text between double bars, of which the leftmost is taken each time. -/
inductive Separated : List Char → List (List Char) → Prop where
  | last {piece : List Char} (unbarred : ¬ doubleBar <:+: piece) : Separated piece [piece]
  | bar {piece rest : List Char} {pieces : List (List Char)}
    (leftmost : ¬ doubleBar <:+: piece ++ ['|']) (onwards : Separated rest pieces) :
    Separated (piece ++ doubleBar ++ rest) (piece :: pieces)

theorem not_infix_cons {c : Char} {rest : List Char} (unbarred : ¬ doubleBar <:+: rest)
    (apart : c = '|' → rest.head? ≠ some '|') : ¬ doubleBar <:+: c :: rest := by
  rw [List.infix_cons_iff, not_or]
  refine ⟨?_, unbarred⟩
  rintro ⟨tail, same⟩
  rcases List.cons.inj same with ⟨rfl, rfl⟩
  exact apart rfl rfl

theorem head?_ne_of_single {c : Char} {rest : List Char}
    (single : ∀ others, c = '|' → rest = '|' :: others → False) :
    c = '|' → rest.head? ≠ some '|' := by
  intro isBar doubled
  rcases List.head?_eq_some_iff.1 doubled with ⟨others, shape⟩
  exact single others isBar shape

theorem hasBars_iff : hasBars text = true ↔ doubleBar <:+: text := by
  fun_induction hasBars text with
  | case1 rest => exact iff_of_true rfl (List.IsPrefix.isInfix ⟨rest, rfl⟩)
  | case2 => exact iff_of_false nofun (by simp [doubleBar])
  | case3 c rest single ih =>
    rw [ih]
    constructor
    · exact List.infix_cons
    · intro within
      by_contra unbarred
      exact not_infix_cons unbarred (head?_ne_of_single single) within

theorem separated_cutBars (text : List Char) : Separated text (cutBars text) := by
  fun_induction cutBars text with
  | case1 => exact .last (by simp [doubleBar])
  | case2 rest ih =>
    have cut : Separated ([] ++ doubleBar ++ rest) ([] :: cutBars rest) := .bar (by decide) ih
    exact cut
  | case3 c rest _ empty => exact absurd empty (cutBars_ne_nil rest)
  | case4 c rest single piece pieces cut ih =>
    rw [cut] at ih
    have apart := head?_ne_of_single single
    cases ih with
    | last unbarred => exact .last (not_infix_cons unbarred apart)
    | @bar _ rest _ leftmost onwards =>
      have longer : Separated (c :: piece ++ doubleBar ++ rest) ((c :: piece) :: pieces) := by
        apply Separated.bar _ onwards
        apply not_infix_cons leftmost
        intro isBar doubled
        apply apart isBar
        cases piece with
        | nil => rfl
        | cons first others => exact doubled
      exact longer

theorem cutBars_of_unbarred (unbarred : ¬ doubleBar <:+: text) : cutBars text = [text] := by
  fun_induction cutBars text with
  | case1 => rfl
  | case2 rest ih => exact absurd (List.IsPrefix.isInfix ⟨rest, rfl⟩) unbarred
  | case3 c rest _ empty => exact absurd empty (cutBars_ne_nil rest)
  | case4 c rest _ piece pieces cut ih =>
    have whole := cut.symm.trans (ih fun within => unbarred (List.infix_cons within))
    rcases List.cons.inj whole with ⟨rfl, rfl⟩
    rfl

theorem cutBars_append_bar {piece rest : List Char}
    (leftmost : ¬ doubleBar <:+: piece ++ ['|']) :
    cutBars (piece ++ doubleBar ++ rest) = piece :: cutBars rest := by
  induction piece with
  | nil => rfl
  | cons c piece ih =>
    have onwards := ih fun within => leftmost (List.infix_cons within)
    have single : ∀ others, c = '|' → piece ++ doubleBar ++ rest = '|' :: others → False := by
      rintro others rfl shape
      apply leftmost
      cases piece with
      | nil => exact List.infix_rfl
      | cons next piece =>
        rcases (List.cons.inj shape).1 with rfl
        exact List.IsPrefix.isInfix ⟨piece ++ ['|'], rfl⟩
    rw [List.cons_append, List.cons_append, cutBars, onwards]
    exact single

/-- The scan takes the leftmost double bar each time. -/
theorem separated_iff {pieces : List (List Char)} :
    Separated text pieces ↔ cutBars text = pieces := by
  constructor
  · intro separated
    induction separated with
    | last unbarred => exact cutBars_of_unbarred unbarred
    | bar leftmost onwards ih => rw [cutBars_append_bar leftmost, ih]
  · rintro rfl
    exact separated_cutBars text

theorem Separated.unbarred {pieces : List (List Char)} (separated : Separated text pieces) :
    ∀ piece ∈ pieces, ¬ doubleBar <:+: piece := by
  induction separated with
  | last unbarred =>
    intro piece member
    rw [List.mem_singleton.1 member]
    exact unbarred
  | bar leftmost onwards ih =>
    intro piece member within
    rcases List.mem_cons.1 member with rfl | later
    · exact leftmost (within.trans (List.prefix_append _ _).isInfix)
    · exact ih piece later within

end SpokenFeedback.Text
