import SpokenFeedback.Proofs.Condition.Reading
import SpokenFeedback.Proofs.Numeral.PlainPattern
import SpokenFeedback.Proofs.Traversal

/-!
# Float literals in specifications

The float literals of the event time follow one grammar wherever they stand: alone, after the sign
of an order relation, and between double bars.  Nothing is wrong with a condition exactly if its
literals, without the blanks around them, are plain literals with ASCII digits
(`Condition.diagnostic?_eventTime_iff`).

The reader of these literals does what a pattern with digits of all scripts and the reader of float
texts do together (`Literal.readFloat_eq_of_pattern`).
-/

namespace SpokenFeedback

open Numeral (PlainLiteral)

/-! ## One literal -/

namespace Literal

variable {property : Property}

/-- A literal is read as the float that its text gives, if the pattern admits the text. -/
theorem readFloat_eq_of_pattern (property : Property) (literal : String) :
    readFloat property literal =
      if (Numeral.plainPattern.search none literal.toList).isSome then
        match Numeral.FloatText.read literal with
        | some text => .ok (.float text.toFloat)
        | none => .error (malformed property literal)
      else .error (malformed property literal) := by
  have together := @Numeral.isSome_readPlain_iff_pattern literal
  rw [readFloat]
  cases plain : Numeral.readPlain literal.toList with
  | some decimal =>
    rw [plain] at together
    rw [if_pos (together.1 rfl).1, Numeral.FloatText.read_of_readPlain plain]
    rfl
  | none =>
    rw [plain] at together
    dsimp only
    split
    next found =>
      cases read : Numeral.FloatText.read literal with
      | none => rfl
      | some text => cases together.2 ⟨found, by rw [read]; rfl⟩
    next => rfl

theorem exists_read_float_iff (float : property.kind = .float) {text : String} :
    (∃ value, read property text = .ok value) ↔
      PlainLiteral Char.isDigit (Text.trimChars text.toList) := by
  rw [← Numeral.isSome_readPlain_iff, read, float]
  dsimp only
  rw [readFloat, Text.toList_trim]
  cases Numeral.readPlain (Text.trimChars text.toList) with
  | some decimal => simp
  | none => simp

end Literal

namespace Specification

variable {property : Property} {specification : String}

/-! ## The sign of an order relation -/

/-- After blanks the text starts with the sign of the relation, and with no longer sign. -/
def Leads (text : List Char) (relation : OrderRelation) (rest : List Char) : Prop :=
  ∃ before, (∀ c ∈ before, Text.isBlank c = true) ∧
    text = before ++ relation.sign.toList ++ rest ∧
    ('=' ∉ relation.sign.toList → rest.head? ≠ some '=')

/-- After blanks the text starts with no sign. -/
def Unsigned (text : List Char) : Prop :=
  ∀ c ∈ (Text.trimStart text).head?, c ≠ '<' ∧ c ≠ '>'

theorem relation?_of_leads {text rest : List Char} {relation : OrderRelation}
    (leads : Leads text relation rest) :
    relation? (Text.trimStart text) = some (relation, rest) := by
  rcases leads with ⟨before, blank, rfl, longest⟩
  have filled : ∀ c ∈ (relation.sign.toList ++ rest).head?, Text.isBlank c = false := by
    cases relation <;> rintro c ⟨⟩ <;> decide
  rw [List.append_assoc, Text.trimStart_append blank filled]
  cases relation with
  | atMost => rfl
  | atLeast => rfl
  | below => exact relation?_sign_append .below (longest (by decide))
  | above => exact relation?_sign_append .above (longest (by decide))

theorem relation?_of_unsigned {text : List Char} (unsigned : Unsigned text) :
    relation? (Text.trimStart text) = none := by
  rw [Unsigned] at unsigned
  cases started : Text.trimStart text with
  | nil => rfl
  | cons c rest =>
    rw [started] at unsigned
    exact relation?_cons_of_ne (unsigned c rfl).1 (unsigned c rfl).2

/-! ## The three forms -/

theorem diagnostic?_demandOf_iff {α : Type} {mode : Mode} {demand : α → Demand}
    (formed : ∀ read, Condition.diagnostic? ⟨property, demand read⟩ = none)
    {reading : Except ValidationFault α} :
    Condition.diagnostic? ⟨property, demandOf mode demand reading⟩ = none ↔
      ∃ read, reading = .ok read := by
  cases reading with
  | ok read => exact iff_of_true (formed read) ⟨read, rfl⟩
  | error fault =>
    constructor
    · rintro ⟨⟩
    · rintro ⟨read, ⟨⟩⟩

theorem exists_readAlternative_iff (float : property.kind = .float) {piece : List Char} :
    (∃ value, readAlternative property specification piece = .ok value) ↔
      PlainLiteral Char.isDigit (Text.trimChars piece) := by
  rw [readAlternative_eq]
  split
  next blank =>
    rw [trimmed_eq_empty_iff.1 blank]
    constructor
    · rintro ⟨value, ⟨⟩⟩
    · intro literal
      rcases literal.characters.2 with ⟨c, ⟨⟩, -⟩
  next =>
    rw [Literal.exists_read_float_iff float, trimmed, String.toList_ofList,
      Text.trimChars_trimChars]

theorem exists_readAlternatives_iff (float : property.kind = .float)
    {pieces : List (List Char)} :
    (∃ values, readAlternatives property specification pieces = .ok values) ↔
      ∀ piece ∈ pieces, PlainLiteral Char.isDigit (Text.trimChars piece) := by
  simp only [readAlternatives_eq_ok_iff]
  rw [List.exists_forall₂_iff]
  simp only [exists_readAlternative_iff float]

end Specification

namespace Condition

open Specification

variable {property : Property} {specification : String}

theorem diagnostic?_of_leads (float : property.kind = .float) {relation : OrderRelation}
    {rest : List Char} (leads : Leads specification.toList relation rest) :
    (ofSpecification property specification).diagnostic? = none ↔
      PlainLiteral Char.isDigit (Text.trimChars rest) := by
  have numeric : property.kind.isNumeric = true := by
    rw [float]
    rfl
  have stated : relationFor? property specification = some (relation, rest) := by
    rw [relationFor?, if_pos numeric, relation?_of_leads leads]
  rw [ofSpecification, Specification.demand, stated]
  dsimp only
  rw [diagnostic?_demandOf_iff fun _ => rfl, Literal.exists_read_float_iff float, Text.toList_trim,
    String.toList_ofList, Text.trimChars_trimChars]

theorem relationFor?_of_unsigned (property : Property)
    (unsigned : Unsigned specification.toList) :
    relationFor? property specification = none := by
  rw [relationFor?, relation?_of_unsigned unsigned, ite_self]

theorem diagnostic?_of_unbarred (float : property.kind = .float)
    (unsigned : Unsigned specification.toList)
    (unbarred : ¬ Text.doubleBar <:+: specification.toList) :
    (ofSpecification property specification).diagnostic? = none ↔
      PlainLiteral Char.isDigit (Text.trimChars specification.toList) := by
  rw [ofSpecification, Specification.demand, relationFor?_of_unsigned property unsigned]
  dsimp only
  rw [if_neg (fun barred => unbarred (Text.hasBars_iff.1 barred)),
    diagnostic?_demandOf_iff fun _ => rfl, Literal.exists_read_float_iff float]

theorem diagnostic?_of_barred (float : property.kind = .float)
    (unsigned : Unsigned specification.toList) {pieces : List (List Char)}
    (barred : Text.doubleBar <:+: specification.toList)
    (separated : Text.Separated specification.toList pieces) :
    (ofSpecification property specification).diagnostic? = none ↔
      ∀ piece ∈ pieces, PlainLiteral Char.isDigit (Text.trimChars piece) := by
  rw [ofSpecification, Specification.demand, relationFor?_of_unsigned property unsigned]
  dsimp only
  rw [if_pos (Text.hasBars_iff.2 barred), Text.separated_iff.1 separated,
    diagnostic?_demandOf_iff fun _ => rfl, exists_readAlternatives_iff float]

/--
Nothing is wrong with a condition on the event time exactly if its literals, without the blanks
around them, are an optional sign before digits with an optional point and more digits or before a
point and digits, all digits being those of ASCII.  This holds of a single literal, of the bound
after a sign, and of each alternative between double bars.

Such a literal has no other characters and ends with a digit.  The literals are those that the
pattern, for which the digits of all scripts count, admits and that are texts of floats.
-/
theorem diagnostic?_eventTime_iff (specification : String) :
    let text := specification.toList
    let Sound := (ofSpecification .eventTime specification).diagnostic? = none
    let Plain := fun literal => PlainLiteral Char.isDigit (Text.trimChars literal)
    (Unsigned text → ¬ Text.doubleBar <:+: text → (Sound ↔ Plain text)) ∧
    (∀ relation rest, Leads text relation rest → (Sound ↔ Plain rest)) ∧
    (Unsigned text → Text.doubleBar <:+: text → ∀ pieces, Text.Separated text pieces →
      (Sound ↔ ∀ piece ∈ pieces, Plain piece)) ∧
    (∀ literal, PlainLiteral Char.isDigit literal →
      (∀ c ∈ literal, c.isDigit = true ∨ c = '.' ∨ c = '+' ∨ c = '-') ∧
        ∃ c, literal.getLast? = some c ∧ c.isDigit = true) ∧
    Pattern.compile Numeral.plainSource = .ok Numeral.plainPattern ∧
    ∀ literal : String,
      ((Numeral.plainPattern.search none literal.toList).isSome = true ↔
        PlainLiteral (CharClass.digit true).holds literal.toList) ∧
      (PlainLiteral Char.isDigit literal.toList ↔
        (Numeral.plainPattern.search none literal.toList).isSome = true ∧
          (Numeral.FloatText.read literal).isSome = true) := by
  intro text Sound Plain
  have float : Property.eventTime.kind = .float := rfl
  refine ⟨?_, ?_, ?_, ?_, Numeral.compile_plainSource, ?_⟩
  · exact fun unsigned unbarred => diagnostic?_of_unbarred float unsigned unbarred
  · exact fun relation rest leads => diagnostic?_of_leads float leads
  · exact fun unsigned barred pieces separated =>
      diagnostic?_of_barred float unsigned barred separated
  · exact fun literal plain => plain.characters
  · intro literal
    refine ⟨Numeral.search_plainPattern_iff, ?_⟩
    rw [← Numeral.isSome_readPlain_iff]
    exact Numeral.isSome_readPlain_iff_pattern

/-- The pattern admits an Arabic digit, but it is no literal; a bound may have blanks around it. -/
theorem diagnostic?_at_arabic_digit :
    (Numeral.plainPattern.search none ['\u0663']).isSome = true ∧
      (ofSpecification .eventTime "\u0663").diagnostic? ≠ none ∧
      (ofSpecification .eventTime " <= -.5\n").diagnostic? = none := by
  rcases diagnostic?_eventTime_iff "\u0663" with ⟨single, -, -, characters, -, both⟩
  rcases diagnostic?_eventTime_iff " <= -.5\n" with ⟨-, bound, -⟩
  have three : PlainLiteral (CharClass.digit true).holds ['\u0663'] :=
    .bare (.whole ⟨List.cons_ne_nil _ _, List.all_eq_true.1 (by decide)⟩)
  have unsigned : Unsigned "\u0663".toList := by
    rintro c ⟨⟩
    decide
  have unbarred : ¬ Text.doubleBar <:+: "\u0663".toList :=
    fun barred => absurd (Text.hasBars_iff.2 barred) (by decide)
  have leads : Leads " <= -.5\n".toList .atMost " -.5\n".toList :=
    ⟨[' '], List.all_eq_true.1 (by decide), by decide, fun short => absurd (by decide) short⟩
  refine ⟨(both "\u0663").1.2 three, ?_, (bound _ _ leads).2 ?_⟩
  · rw [Ne, single unsigned unbarred]
    intro plain
    rcases (characters _ plain).2 with ⟨c, last, ascii⟩
    have same : c = '\u0663' := Option.some.inj (last.symm.trans (by decide))
    rw [same] at ascii
    exact absurd ascii (by decide)
  · have trimmed : Text.trimChars " -.5\n".toList = ['-', '.', '5'] := by decide
    dsimp only
    rw [trimmed]
    exact .minus (.fraction ⟨List.cons_ne_nil _ _, List.all_eq_true.1 (by decide)⟩)

end Condition

end SpokenFeedback
