import SpokenFeedback.Proofs.Numeral.PlainLiteral
import SpokenFeedback.Proofs.Pattern.Acceptance
import SpokenFeedback.Proofs.Pattern.Footprint

/-!
# The pattern of plain literals

Plain literals can also be given by a pattern.  Its digits are those of all scripts, as everywhere
in patterns, so that it is found in the literals of `PlainLiteral` with these digits, and nowhere
else (`search_plainPattern_iff`).  The texts that the pattern admits and that are texts of floats
are the literals with ASCII digits (`isSome_readPlain_iff_pattern`).
-/

namespace SpokenFeedback.Numeral

open Pattern

/-- The text of the pattern. -/
def plainSource : String := "^[+-]?(\\d+(\\.\\d+)?|\\.\\d+)$"

/-- One or more digits of any script. -/
def someDigits : Expression := .repetition 1 none true (.one (CharClass.digit true))

/-- A point and digits. -/
def somePlaces : Expression := .sequence (.literal ['.']) someDigits

/-- The tree of the pattern. -/
def plainExpression : Expression :=
  .sequence (.assert .textStart)
    (.sequence (.repetition 0 (some 1) true (.one [(0x2B, 0x2B), (0x2D, 0x2D)]))
      (.sequence
        (.group 19
          (.choice
            (.sequence someDigits (.repetition 0 (some 1) true (.group 15 somePlaces)))
            somePlaces))
        (.assert .textEnd)))

/-- The pattern, compiled. -/
def plainPattern : Pattern :=
  ⟨plainSource, (Program.ofExpression plainExpression).2, (Program.ofExpression plainExpression).1⟩

theorem fits_plainExpression : plainExpression.fits = true := by
  have digits : someDigits.AddsAtMost (setBound (CharClass.digit true) + 40) :=
    .loop true (.one _)
  have places : somePlaces.AddsAtMost (32 + (setBound (CharClass.digit true) + 40)) :=
    .sequence (.literal ['.']) digits
  refine Expression.fits_of_addsAtMost
    (.sequence (.assert _) (.sequence (.optional true (.one _)) (.sequence
      (.group 19 (.choice (.sequence digits (.optional true (.group 15 places))) places))
      (.assert _)))) ?_
  decide +kernel

/-! ## The tree and the program -/

theorem readBranches_plainSource :
    ((readBranches (2 * plainSource.toList.length + 4) .initial plainSource.toList).toOption.map
      fun read => ((Part.ofBranches read.1).expression, (Part.ofBranches read.1).depth,
        (Part.ofBranches read.1).names, read.2.2)) = some (plainExpression, 8, [], []) := by
  decide +kernel

theorem readExpression_plainSource : readExpression plainSource = .ok plainExpression := by
  cases read : readBranches (2 * plainSource.toList.length + 4) .initial plainSource.toList with
  | error flaw =>
    have none := readBranches_plainSource
    rw [read] at none
    cases none
  | ok parts =>
    have parsed := readBranches_plainSource
    rw [read] at parsed
    have same := Option.some.inj parsed
    simp only [Prod.mk.injEq] at same
    rcases same with ⟨tree, depth, names, rest⟩
    rw [readExpression]
    dsimp only
    rw [read]
    simp [bind, Except.bind, tree, depth, names, rest, fits_plainExpression, maxDepth]

theorem compile_plainSource : compile plainSource = .ok plainPattern := by
  rw [compile, readExpression_plainSource]
  rfl

/-!
## What the pattern finds

The program starts at instruction 14, which checks that the text starts here.  From 13 on it reads a
literal, from 11 on a magnitude: digits at 7, with places from 4 on if there are any, or places
alone from 10 on.  Instruction 1 checks that the text ends.
-/

section Finding

variable {before : Option Char} {text : List Char} {number next : Nat}

theorem finishes_end_iff : Finishes plainPattern.program before 1 text ↔ text = [] := by
  have checking : plainPattern.program[1]? = some (.check .textEnd 0) := rfl
  have finishing : plainPattern.program[0]? = some .finish := rfl
  rw [finishes_check_iff checking, and_iff_left (.finish finishing), Assertion.holds,
    Option.isNone_iff_eq_none, List.head?_eq_none_iff]

/-- Digits up to the end of the text. -/
theorem finishes_run_iff
    (taking : plainPattern.program[number]? = some (.take (CharClass.digit true) next))
    (forking : plainPattern.program[next]? = some (.fork number 1)) :
    Finishes plainPattern.program before number text ↔ Run (CharClass.digit true).holds text := by
  rw [finishes_loop_iff taking forking]
  constructor
  · rintro ⟨taken, rest, rfl, filled, counted, ends⟩
    rw [finishes_end_iff.1 ends, List.append_nil]
    exact ⟨filled, counted⟩
  · rintro ⟨filled, counted⟩
    exact ⟨text, [], (List.append_nil text).symm, filled, counted, finishes_end_iff.2 rfl⟩

/-- A point and digits up to the end of the text. -/
theorem finishes_places_iff {fork : Nat}
    (pointed : plainPattern.program[number]? = some (.take (.one '.') next))
    (taking : plainPattern.program[next]? = some (.take (CharClass.digit true) fork))
    (forking : plainPattern.program[fork]? = some (.fork next 1)) :
    Finishes plainPattern.program before number text ↔
      ∃ places, text = '.' :: places ∧ Run (CharClass.digit true).holds places := by
  have point : ∀ c, Text.Ranges.holds (.one '.') c = true ↔ c = '.' := by
    intro c
    rw [← Char.toNat_inj]
    simp [Text.Ranges.holds, Text.Ranges.one, Text.Ranges.covers]
    omega
  rw [finishes_take_iff pointed]
  simp only [point, finishes_run_iff taking forking]
  constructor
  · rintro ⟨c, rest, rfl, rfl, run⟩
    exact ⟨rest, rfl, run⟩
  · rintro ⟨places, rfl, run⟩
    exact ⟨'.', places, rfl, rfl, run⟩

theorem finishes_magnitude_iff :
    Finishes plainPattern.program before 11 text ↔ Magnitude (CharClass.digit true).holds text := by
  have forking : plainPattern.program[11]? = some (.fork 7 10) := rfl
  have taking : plainPattern.program[7]? = some (.take (CharClass.digit true) 6) := rfl
  have again : plainPattern.program[6]? = some (.fork 7 5) := rfl
  have leaving : plainPattern.program[5]? = some (.fork 4 1) := rfl
  have pointed : plainPattern.program[4]? = some (.take (.one '.') 3) := rfl
  have pointedFirst : plainPattern.program[10]? = some (.take (.one '.') 9) := rfl
  rw [finishes_fork_iff forking, finishes_loop_iff taking again,
    finishes_places_iff pointedFirst rfl rfl]
  simp only [finishes_fork_iff leaving, finishes_places_iff pointed rfl rfl, finishes_end_iff]
  constructor
  · rintro (⟨whole, rest, rfl, filled, counted, ⟨decimals, rfl, run⟩ | rfl⟩ |
      ⟨decimals, rfl, run⟩)
    · exact .pointed ⟨filled, counted⟩ run
    · rw [List.append_nil]
      exact .whole ⟨filled, counted⟩
    · exact .fraction run
  · intro magnitude
    cases magnitude with
    | whole run =>
      exact .inl ⟨text, [], (List.append_nil text).symm, run.1, run.2, .inr rfl⟩
    | @pointed whole decimals run runPlaces =>
      exact .inl ⟨whole, _, rfl, run.1, run.2, .inl ⟨decimals, rfl, runPlaces⟩⟩
    | @fraction decimals runPlaces => exact .inr ⟨decimals, rfl, runPlaces⟩

theorem finishes_literal_iff :
    Finishes plainPattern.program before 13 text ↔
      PlainLiteral (CharClass.digit true).holds text := by
  have forking : plainPattern.program[13]? = some (.fork 12 11) := rfl
  have signing : plainPattern.program[12]? =
    some (.take [(0x2B, 0x2B), (0x2D, 0x2D)] 11) := rfl
  have sign : ∀ c, Text.Ranges.holds [(0x2B, 0x2B), (0x2D, 0x2D)] c = true ↔
      c = '+' ∨ c = '-' := by
    intro c
    rw [← Char.toNat_inj, ← Char.toNat_inj]
    simp [Text.Ranges.holds, Text.Ranges.covers]
    omega
  rw [finishes_fork_iff forking, finishes_take_iff signing]
  simp only [sign, finishes_magnitude_iff]
  constructor
  · rintro (⟨c, rest, rfl, rfl | rfl, magnitude⟩ | magnitude)
    · exact .plus magnitude
    · exact .minus magnitude
    · exact .bare magnitude
  · intro literal
    cases literal with
    | bare magnitude => exact .inr magnitude
    | plus magnitude => exact .inl ⟨_, _, rfl, .inl rfl, magnitude⟩
    | minus magnitude => exact .inl ⟨_, _, rfl, .inr rfl, magnitude⟩

/-- The pattern is found in the literals with digits of any script. -/
theorem search_plainPattern_iff :
    (plainPattern.search none text).isSome = true ↔
      PlainLiteral (CharClass.digit true).holds text := by
  have checking : plainPattern.program[plainPattern.entry]? = some (.check .textStart 13) := rfl
  rw [search_isSome_iff]
  constructor
  · rintro ⟨gap, rest, rfl, finishes⟩
    rcases (finishes_check_iff checking).1 finishes with ⟨starts, onward⟩
    cases gap with
    | nil => exact finishes_literal_iff.1 onward
    | cons c gap => simp [Assertion.holds, lastOr, List.getLast?_cons] at starts
  · intro literal
    exact ⟨[], text, rfl, (finishes_check_iff checking).2 ⟨rfl, finishes_literal_iff.2 literal⟩⟩

end Finding

/-! ## The pattern and the texts of floats -/

theorem agreesOnAscii_digit : AgreesOnAscii (CharClass.digit true).holds := by
  have listed : ∀ code < 0x80,
      Text.Ranges.covers (CharClass.digit true) code = decide (48 ≤ code ∧ code ≤ 57) := by
    decide
  intro c ascii
  rw [Text.Ranges.holds, listed c.toNat ascii]
  simp [Char.isDigit, UInt32.le_iff_toNat_le]

/-- A text is read exactly if the pattern admits it and it is the text of a float. -/
theorem isSome_readPlain_iff_pattern {literal : String} :
    (readPlain literal.toList).isSome = true ↔
      (plainPattern.search none literal.toList).isSome = true ∧
        (FloatText.read literal).isSome = true := by
  rw [isSome_readPlain_iff, search_plainPattern_iff]
  exact plainLiteral_isDigit_iff agreesOnAscii_digit

end SpokenFeedback.Numeral
