import Mathlib.Data.List.Basic
import SpokenFeedback.Proofs.Condition.NumericLiteral
import SpokenFeedback.Proofs.Traversal
import SpokenFeedback.Template

/-!
# The grammar of templates

A template is spelled by tokens one after another: a character other than the percent sign, a
doubled percent sign, or a placeholder, which may give the number of its argument in decimal digits.
`Template.Spells` says how each token is spelled, without the places that the reader goes through,
and a `Lexeme` is a token with one of its spellings.

`Template.readTokens_eq_ok_iff` says that the reader takes exactly what lexemes spell, and
`Template.Lexeme.write_injective` that no text is spelled in two ways.
-/

namespace SpokenFeedback

/-- The letter that asks for a conversion. -/
def Conversion.letter : Conversion → Char
  | .text => 's'
  | .decimal => 'd'

namespace Template

theorem conversion?_eq_some_iff {c : Char} {conversion : Conversion} :
    conversion? c = some conversion ↔ c = conversion.letter := by
  constructor
  · intro found
    unfold conversion? at found
    split at found
    next => cases found; rfl
    next => cases found; rfl
    next => cases found
  · rintro rfl
    cases conversion <;> rfl

@[simp]
theorem conversion?_letter (conversion : Conversion) :
    conversion? conversion.letter = some conversion :=
  conversion?_eq_some_iff.2 rfl

/-! ## Lexemes -/

/-- The characters spell the token. -/
inductive Spells : List Char → Token → Prop where
  | character {c : Char} (ordinary : c ≠ '%') : Spells [c] (.character c)
  | percent : Spells ['%', '%'] .percent
  | next (conversion : Conversion) : Spells ['%', conversion.letter] (.next conversion)
  | numbered {digits : List Char} {number : Nat} (written : Numeral.Digits digits number)
    (positive : 0 < number) (bounded : number < Numeral.wordCount) (conversion : Conversion) :
    Spells ('%' :: digits ++ ['$', conversion.letter]) (.numbered number conversion)

/-- A token with one of its spellings. -/
structure Lexeme where
  spelling : List Char
  token : Token
  spells : Spells spelling token

/-- The text that lexemes spell. -/
def Lexeme.write (lexemes : List Lexeme) : List Char := lexemes.flatMap Lexeme.spelling

/-- The text is spelled by lexemes of the tokens. -/
def Spelled (text : List Char) (tokens : List Token) : Prop :=
  ∃ lexemes : List Lexeme, Lexeme.write lexemes = text ∧ lexemes.map Lexeme.token = tokens

theorem spelled_nil : Spelled [] [] := ⟨[], rfl, rfl⟩

theorem Spelled.cons {spelling rest : List Char} {token : Token} {tokens : List Token}
    (spells : Spells spelling token) (spelled : Spelled rest tokens) :
    Spelled (spelling ++ rest) (token :: tokens) := by
  rcases spelled with ⟨lexemes, rfl, rfl⟩
  exact ⟨⟨spelling, token, spells⟩ :: lexemes, rfl, rfl⟩

namespace Token

/-- Whether the token takes the next argument. -/
def isNext : Token → Bool
  | .next _ => true
  | _ => false

/-- The number of the argument that the token gives. -/
def number? : Token → Option Nat
  | .numbered number _ => some number
  | _ => none

end Token

/-! ## Reading lexemes -/

/-- Digits are gathered up to the dollar sign, which ends the number. -/
theorem readTokens_digits {digits : List Char} (decimal : ∀ c ∈ digits, c.isDigit = true)
    (gathered rest : List Char) :
    readTokens (.digits gathered) (digits ++ '$' :: rest) =
      readTokens (.digits (gathered ++ digits)) ('$' :: rest) := by
  induction digits generalizing gathered with
  | nil => rw [List.nil_append, List.append_nil]
  | cons c digits ih =>
    rcases List.forall_mem_cons.1 decimal with ⟨digit, decimal⟩
    rw [List.cons_append, readTokens, if_pos digit, ih decimal, List.append_assoc]
    rfl

theorem readTokens_number {digits : List Char} {number : Nat}
    (written : Numeral.Digits digits number) (positive : 0 < number)
    (bounded : number < Numeral.wordCount) (rest : List Char) :
    readTokens .percent (digits ++ '$' :: rest) = readTokens (.number number) rest := by
  have decimal := written.isDigit
  obtain ⟨first, others, rfl⟩ := List.exists_cons_of_ne_nil written.ne_nil
  rcases List.forall_mem_cons.1 decimal with ⟨digit, decimal⟩
  have notPercent : first ≠ '%' := by
    rintro rfl
    cases digit
  rw [List.cons_append, readTokens, if_neg notPercent, if_pos digit, readTokens_digits decimal,
    List.singleton_append, readTokens]
  simp only [← written.eq_ofDigitChars]
  have dollar : ¬ '$'.isDigit = true := by decide
  rw [if_neg dollar, if_pos trivial]
  exact if_pos ⟨positive, bounded⟩

/-- A spelling in front of a text is read as its token. -/
theorem readTokens_spelling {spelling : List Char} {token : Token} (spells : Spells spelling token)
    (rest : List Char) :
    readTokens .start (spelling ++ rest) = (readTokens .start rest).map (token :: ·) := by
  cases spells with
  | character ordinary => rw [List.singleton_append, readTokens, if_neg ordinary]
  | percent => rfl
  | next conversion => cases conversion <;> rfl
  | @numbered digits number written positive bounded conversion =>
    have shape : '%' :: digits ++ ['$', conversion.letter] ++ rest =
        '%' :: (digits ++ '$' :: conversion.letter :: rest) := by simp
    rw [shape, readTokens, if_pos rfl, readTokens_number written positive bounded, readTokens,
      conversion?_letter]

theorem readTokens_write (lexemes : List Lexeme) :
    readTokens .start (Lexeme.write lexemes) = .ok (lexemes.map Lexeme.token) := by
  induction lexemes with
  | nil => rfl
  | cons lexeme lexemes ih =>
    change readTokens .start (lexeme.spelling ++ Lexeme.write lexemes) = _
    rw [readTokens_spelling lexeme.spells, ih]
    rfl

/-! ## What the reader has taken in -/

/-- The characters of a token that the reader has taken in when it is at a place. -/
inductive Place.Follows : Place → List Char → Prop where
  | start : Follows .start []
  | percent : Follows .percent ['%']
  | digits {digits : List Char} (filled : digits ≠ []) (decimal : ∀ c ∈ digits, c.isDigit = true) :
    Follows (.digits digits) ('%' :: digits)
  | number {digits : List Char} {number : Nat} (written : Numeral.Digits digits number)
    (positive : 0 < number) (bounded : number < Numeral.wordCount) :
    Follows (.number number) ('%' :: digits ++ ['$'])

/-- What the reader takes from a place on is spelled together with what it has taken in before. -/
theorem spelled_of_readTokens {place : Place} {taken text : List Char} {tokens : List Token}
    (follows : place.Follows taken) (read : readTokens place text = .ok tokens) :
    Spelled (taken ++ text) tokens := by
  fun_induction readTokens place text generalizing taken tokens with
  | case1 =>
    cases follows
    cases read
    exact spelled_nil
  | case2 rest ih =>
    cases follows
    exact ih .percent read
  | case3 c rest ordinary ih =>
    cases follows
    rcases Except.map_eq_ok_iff.1 read with ⟨later, onward, rfl⟩
    have spelled : Spelled rest later := ih .start onward
    have longer := spelled.cons (.character ordinary)
    exact longer
  | case5 rest ih =>
    cases follows
    rcases Except.map_eq_ok_iff.1 read with ⟨later, onward, rfl⟩
    have spelled : Spelled rest later := ih .start onward
    have longer := spelled.cons .percent
    exact longer
  | case6 c rest _ digit ih =>
    cases follows
    exact ih (.digits (List.cons_ne_nil c []) (List.forall_mem_singleton.2 digit)) read
  | case7 c rest _ _ conversion letter ih =>
    cases follows
    rcases conversion?_eq_some_iff.1 letter with rfl
    rcases Except.map_eq_ok_iff.1 read with ⟨later, onward, rfl⟩
    have spelled : Spelled rest later := ih .start onward
    have longer := spelled.cons (.next conversion)
    exact longer
  | case10 digits c rest digit ih =>
    cases follows with
    | digits filled decimal =>
      have longer : ∀ d ∈ digits ++ [c], d.isDigit = true :=
        List.forall_mem_append.2 ⟨decimal, List.forall_mem_singleton.2 digit⟩
      have spelled := ih (.digits (List.append_ne_nil_of_left_ne_nil filled [c]) longer) read
      rwa [List.cons_append, List.append_assoc] at spelled
  | case11 digits rest number inRange =>
    rename_i ih
    cases follows with
    | digits filled decimal =>
      have written : Numeral.Digits digits number := Numeral.digits_ofDigitChars filled decimal
      have spelled := ih (.number written inRange.1 inRange.2) read
      simpa using spelled
  | case15 number c rest conversion letter ih =>
    cases follows with
    | number written positive bounded =>
      rcases conversion?_eq_some_iff.1 letter with rfl
      rcases Except.map_eq_ok_iff.1 read with ⟨later, onward, rfl⟩
      have spelled : Spelled rest later := ih .start onward
      have longer := spelled.cons (.numbered written positive bounded conversion)
      simpa using longer
  | case4 | case8 | case9 | case12 | case13 | case14 | case16 => cases read

/-- The reader takes exactly what lexemes spell. -/
theorem readTokens_eq_ok_iff {text : List Char} {tokens : List Token} :
    readTokens .start text = .ok tokens ↔ Spelled text tokens := by
  constructor
  · intro read
    exact spelled_of_readTokens .start read
  · rintro ⟨lexemes, rfl, rfl⟩
    exact readTokens_write lexemes

/-! ## One spelling -/

/-- Of two texts that begin with spellings of one token, the spellings and the rests agree. -/
theorem Spells.append_inj {first second rest others : List Char} {token : Token}
    (spells : Spells first token) (alsoSpells : Spells second token)
    (same : first ++ rest = second ++ others) : first = second ∧ rest = others := by
  cases spells with
  | character =>
    cases alsoSpells
    exact ⟨rfl, (List.cons.inj same).2⟩
  | percent =>
    cases alsoSpells
    exact ⟨rfl, List.append_cancel_left same⟩
  | next conversion =>
    cases alsoSpells
    exact ⟨rfl, List.append_cancel_left same⟩
  | @numbered digits number written positive bounded conversion =>
    cases alsoSpells with
    | @numbered otherDigits _ otherWritten =>
      -- The dollar sign is no digit, so that both numbers end at it.
      have digitsOf : ∀ digits after : List Char, (∀ c ∈ digits, c.isDigit = true) →
          (digits ++ '$' :: after).takeWhile Char.isDigit = digits := by
        intro digits after decimal
        rw [List.takeWhile_append_of_pos decimal, List.takeWhile_cons_of_neg (by decide),
          List.append_nil]
      have sameTail : digits ++ '$' :: conversion.letter :: rest =
          otherDigits ++ '$' :: conversion.letter :: others := by simpa using same
      have sameDigits : digits = otherDigits := by
        rw [← digitsOf digits _ written.isDigit, sameTail, digitsOf _ _ otherWritten.isDigit]
      rcases sameDigits with rfl
      exact ⟨rfl, List.append_cancel_left same⟩

/-- No text is spelled in two ways. -/
theorem Lexeme.write_injective : Function.Injective Lexeme.write := by
  intro lexemes others same
  have sameTokens : lexemes.map Lexeme.token = others.map Lexeme.token := by
    have read := readTokens_write lexemes
    rw [same, readTokens_write] at read
    exact (Except.ok.inj read).symm
  -- With the tokens known to agree, only spellings of the same token have to be compared.
  induction lexemes generalizing others with
  | nil => exact (List.map_eq_nil_iff.1 sameTokens.symm).symm
  | cons lexeme lexemes ih =>
    cases others with
    | nil => cases sameTokens
    | cons other others =>
      rcases List.cons.inj sameTokens with ⟨sameToken, sameRest⟩
      rcases lexeme with ⟨spelling, token, spells⟩
      rcases other with ⟨otherSpelling, otherToken, alsoSpells⟩
      obtain rfl : token = otherToken := sameToken
      rcases spells.append_inj alsoSpells same with ⟨rfl, rest⟩
      rw [ih rest sameRest]

/-! ## The number of arguments -/

theorem nextCount_eq_countP (tokens : List Token) :
    nextCount tokens = tokens.countP Token.isNext := by
  induction tokens with
  | nil => rfl
  | cons token tokens ih => cases token <;> simp [nextCount, Token.isNext, List.countP_cons, ih]

theorem greatestNumber_eq_max (tokens : List Token) :
    greatestNumber tokens = (tokens.filterMap Token.number?).max?.getD 0 := by
  induction tokens with
  | nil => rfl
  | cons token tokens ih =>
    cases token with
    | character | percent | next => exact ih
    | numbered number conversion =>
      have numbers : (Token.numbered number conversion :: tokens).filterMap Token.number? =
          number :: tokens.filterMap Token.number? := rfl
      rw [greatestNumber, ih, numbers, List.max?_cons]
      cases (tokens.filterMap Token.number?).max? with
      | none => exact Nat.max_zero number
      | some greatest => rfl

/-! ## Reading a template -/

theorem read_eq_ok_iff {source : String} {template : Template} :
    read source = .ok template ↔
      template.source = source ∧ Spelled source.toList template.tokens := by
  rcases template with ⟨text, tokens⟩
  rw [read, ← readTokens_eq_ok_iff]
  cases readTokens .start source.toList with
  | ok found => simp [eq_comm]
  | error flaw => simp

theorem read_of_write {source : String} {lexemes : List Lexeme}
    (spelled : Lexeme.write lexemes = source.toList) :
    read source = .ok ⟨source, lexemes.map Lexeme.token⟩ :=
  read_eq_ok_iff.2 ⟨rfl, lexemes, spelled, rfl⟩

/--
A text is read as a template exactly if lexemes spell it.  These lexemes are the only ones that do,
and the template has their tokens and as many places for arguments as there are placeholders for the
next one, or as the greatest number says if that is more.  Any other text is refused as a malformed
template.
-/
theorem read_iff_spelled (source : String) :
    ((∃ template, read source = .ok template) ↔
      ∃ lexemes, Lexeme.write lexemes = source.toList) ∧
    (∀ lexemes, Lexeme.write lexemes = source.toList →
      (∀ others, Lexeme.write others = source.toList → others = lexemes) ∧
      ∃ template, read source = .ok template ∧ template.source = source ∧
        template.tokens = lexemes.map Lexeme.token ∧
        template.arity =
          max (lexemes.countP fun lexeme => lexeme.token.isNext)
            ((lexemes.filterMap fun lexeme => lexeme.token.number?).max?.getD 0)) ∧
    ((¬ ∃ lexemes, Lexeme.write lexemes = source.toList) →
      ∃ reason, read source = .error (.invalidTemplate source reason)) := by
  refine ⟨⟨?_, ?_⟩, ?_, ?_⟩
  · rintro ⟨template, reading⟩
    rcases (read_eq_ok_iff.1 reading).2 with ⟨lexemes, spelled, -⟩
    exact ⟨lexemes, spelled⟩
  · rintro ⟨lexemes, spelled⟩
    exact ⟨_, read_of_write spelled⟩
  · intro lexemes spelled
    refine ⟨fun others alsoSpelled => ?_, _, read_of_write spelled, rfl, rfl, ?_⟩
    · exact Lexeme.write_injective (alsoSpelled.trans spelled.symm)
    · rw [arity, nextCount_eq_countP, greatestNumber_eq_max, List.countP_map, List.filterMap_map]
      rfl
  · intro unspelled
    cases reading : readTokens .start source.toList with
    | ok tokens =>
      rcases readTokens_eq_ok_iff.1 reading with ⟨lexemes, spelled, -⟩
      exact absurd ⟨lexemes, spelled⟩ unspelled
    | error flaw =>
      rw [read, reading]
      exact ⟨flaw.reason, rfl⟩

-- The number two stands with a leading zero, and asks for one argument more than `%s` does.
example : (read "%%%s %02$d").map arity = .ok 2 := by decide

end Template

end SpokenFeedback
