import SpokenFeedback.Json.Reader

/-!
# Written numbers

A number that keeps to the grammar of numbers is read back from its text, up to whatever may follow
it (`Json.readNumber_write`).  The token of an integer keeps to the grammar and stands for the
integer (`NumberToken.wellFormed_ofInt` and `NumberToken.int?_ofInt`).
-/

namespace SpokenFeedback

namespace NumberToken

/-! ## Grammar -/

/-- One or more digits. -/
def DigitRun (digits : List Char) : Prop := digits ≠ [] ∧ ∀ c ∈ digits, c.isDigit = true

/-- What may stand as the exponent of a number. -/
inductive Exponent : List Char → Prop where
  | absent : Exponent []
  | bare {digits : List Char} (run : DigitRun digits) : Exponent digits
  | plus {digits : List Char} (run : DigitRun digits) : Exponent ('+' :: digits)
  | minus {digits : List Char} (run : DigitRun digits) : Exponent ('-' :: digits)

/-- The grammar of numbers: no leading zeros, and digits on both sides of a point. -/
structure WellFormed (token : NumberToken) : Prop where
  whole : DigitRun token.whole
  leading : token.whole.head? = some '0' → token.whole.length = 1
  places : ∀ c ∈ token.places, c.isDigit = true
  exponent : Exponent token.exponent

theorem WellFormed.begins {token : NumberToken} (wellFormed : token.WellFormed) :
    ∃ first tail, token.write = first :: tail ∧ (first = '-' ∨ first.isDigit = true) := by
  rcases token with ⟨negative | negative, - | ⟨first, digits⟩, places, exponent⟩
  · exact absurd rfl wellFormed.whole.1
  · exact ⟨first, _, rfl, .inr (wellFormed.whole.2 first List.mem_cons_self)⟩
  · exact absurd rfl wellFormed.whole.1
  · exact ⟨'-', _, rfl, .inl rfl⟩

/-! ## Integers -/

theorem digitRun_toDigits (value : Nat) : DigitRun (Nat.toDigits 10 value) :=
  ⟨Nat.toDigits_ne_nil, fun _ => Nat.isDigit_of_mem_toDigits (by decide) (by decide)⟩

theorem digitChar_ne_zero : ∀ digit < 10, 0 < digit → Nat.digitChar digit ≠ '0' := by
  decide

theorem head?_toDigits {value : Nat} (positive : 0 < value) :
    (Nat.toDigits 10 value).head? ≠ some '0' := by
  induction value using Nat.strongRecOn with
  | ind value ih =>
    by_cases single : value < 10
    · rw [Nat.toDigits_of_lt_base single]
      exact fun zero => digitChar_ne_zero value single positive (Option.some.inj zero)
    · have front := ih (value / 10) (Nat.div_lt_self positive (by decide))
        (Nat.div_pos (Nat.not_lt.1 single) (by decide))
      rw [Nat.toDigits_of_base_le (by decide) (Nat.not_lt.1 single)]
      rcases shape : Nat.toDigits 10 (value / 10) with - | ⟨first, digits⟩
      · exact absurd shape Nat.toDigits_ne_nil
      · rw [shape] at front
        exact front

theorem wellFormed_ofInt (value : Int) : (ofInt value).WellFormed where
  whole := digitRun_toDigits value.natAbs
  leading := by
    intro zero
    rcases Nat.eq_zero_or_pos value.natAbs with none | positive
    · rw [ofInt, none]
      rfl
    · exact absurd zero (head?_toDigits positive)
  places := nofun
  exponent := .absent

theorem int?_ofInt (value : Int) : (ofInt value).int? = some value := by
  simp only [int?, ofInt, and_self, ↓reduceIte, Nat.ofDigitChars_ten_toDigits, decide_eq_true_eq]
  by_cases negative : value < 0
  · have magnitude : value.natAbs ≠ 0 := by omega
    rw [if_pos negative, if_neg magnitude]
    congr 1
    omega
  · rw [if_neg negative]
    congr 1
    omega

theorem word?_ofInt (word : Int64) : (ofInt word.toInt).word? = some word := by
  rw [word?, int?_ofInt, Option.bind_some, Numeral.toWord?_toInt]

end NumberToken

/-! ## Reading -/

namespace Json

/-- What may follow a tree in a text: nothing, or the punctuation after an item or a member. -/
def Closes (rest : List Char) : Prop := ∀ c ∈ rest.head?, c = ',' ∨ c = ']' ∨ c = '}'

/-- A part of a number with its mark, or nothing if the part is absent. -/
def marked (mark : Char) (part : List Char) : List Char := if part = [] then [] else mark :: part

variable {rest : List Char}

theorem Closes.unmarked (closes : Closes rest) :
    ∀ c ∈ rest.head?, (c.isDigit = false ∧ c ≠ '.') ∧ ¬ (c = 'e' ∨ c = 'E') := by
  intro c first
  rcases closes c first with rfl | rfl | rfl <;> decide

theorem head_marked {holds : Char → Prop} {mark : Char} (atMark : holds mark) (part : List Char)
    (atRest : ∀ c ∈ rest.head?, holds c) : ∀ c ∈ (marked mark part ++ rest).head?, holds c := by
  rw [marked]
  split
  next => exact atRest
  next =>
    rintro c ⟨⟩
    exact atMark

theorem readDigits_run {digits : List Char} (run : NumberToken.DigitRun digits)
    (stop : ∀ c ∈ rest.head?, c.isDigit = false) :
    readDigits (digits ++ rest) = some (digits, rest) := by
  have noneTaken : rest.takeWhile Char.isDigit = [] := by
    cases rest with
    | nil => rfl
    | cons c tail => exact List.takeWhile_cons_of_neg (by simp [stop c rfl])
  have noneDropped : rest.dropWhile Char.isDigit = rest := by
    cases rest with
    | nil => rfl
    | cons c tail => exact List.dropWhile_cons_of_neg (by simp [stop c rfl])
  simp only [readDigits, List.takeWhile_append_of_pos run.2, List.dropWhile_append_of_pos run.2,
    noneTaken, noneDropped, List.append_nil, if_neg run.1]

theorem readPlaces_marked {places : List Char} (digits : ∀ c ∈ places, c.isDigit = true)
    (stop : ∀ c ∈ rest.head?, c.isDigit = false ∧ c ≠ '.') :
    readPlaces (marked '.' places ++ rest) = some (places, rest) := by
  rw [marked]
  split
  next absent =>
    rw [absent, List.nil_append, readPlaces]
    rintro tail rfl
    exact (stop '.' rfl).2 rfl
  next absent => exact readDigits_run ⟨absent, digits⟩ fun c first => (stop c first).1

theorem readPower_marked {exponent : List Char} (written : NumberToken.Exponent exponent)
    (closes : Closes rest) :
    readPower (marked 'e' exponent ++ rest) = some (exponent, rest) := by
  have stop : ∀ c ∈ rest.head?, c.isDigit = false := fun c first => (closes.unmarked c first).1.1
  rw [marked]
  cases written with
  | absent =>
    rw [if_pos rfl, List.nil_append]
    cases rest with
    | nil => rfl
    | cons mark tail => exact if_neg (closes.unmarked mark rfl).2
  | bare run =>
    rcases exponent with - | ⟨first, digits⟩
    · exact absurd rfl run.1
    · have unsigned {sign : Char} (noDigit : sign.isDigit = false) (tail : List Char) :
          first :: digits ++ rest ≠ sign :: tail := by
        rintro ⟨⟩
        exact absurd (run.2 _ List.mem_cons_self) (by simp [noDigit])
      rw [if_neg run.1, List.cons_append, readPower, if_pos (.inl rfl)]
      · exact readDigits_run run stop
      · exact unsigned rfl
      · exact unsigned rfl
  | plus run => simp [readPower, readDigits_run run stop]
  | minus run => simp [readPower, readDigits_run run stop]

theorem readMagnitude_write {token : NumberToken} (wellFormed : token.WellFormed)
    (closes : Closes rest) :
    readMagnitude token.negative
      (token.whole ++ (marked '.' token.places ++ (marked 'e' token.exponent ++ rest))) =
        some (token, rest) := by
  have powerStop : ∀ c ∈ (marked 'e' token.exponent ++ rest).head?, c.isDigit = false ∧ c ≠ '.' :=
    head_marked (by decide) _ fun c first => (closes.unmarked c first).1
  have pointStop : ∀ c ∈ (marked '.' token.places ++ (marked 'e' token.exponent ++ rest)).head?,
      c.isDigit = false :=
    head_marked (by decide) _ fun c first => (powerStop c first).1
  have unpadded : ¬ (token.whole.head? = some '0' ∧ token.whole.length > 1) :=
    fun padded => Nat.ne_of_gt padded.2 (wellFormed.leading padded.1)
  simp only [readMagnitude, readDigits_run wellFormed.whole pointStop, Option.bind_eq_bind,
    Option.bind_some, if_neg unpadded, readPlaces_marked wellFormed.places powerStop,
    readPower_marked wellFormed.exponent closes]

/-- A number that keeps to the grammar is read back up to what follows it. -/
theorem readNumber_write {token : NumberToken} (wellFormed : token.WellFormed)
    (closes : Closes rest) : readNumber (token.write ++ rest) = some (token, rest) := by
  have read := readMagnitude_write wellFormed closes
  have parts : token.write ++ rest = (if token.negative then ['-'] else []) ++
      (token.whole ++ (marked '.' token.places ++ (marked 'e' token.exponent ++ rest))) := by
    simp [NumberToken.write, marked]
  rw [parts]
  cases sign : token.negative with
  | true =>
    rw [sign] at read
    exact read
  | false =>
    rw [sign] at read
    rw [if_neg (by decide), List.nil_append, readNumber]
    · exact read
    · intro tail signed
      rcases whole : token.whole with - | ⟨first, digits⟩
      · exact wellFormed.whole.1 whole
      · rw [whole] at signed
        cases signed
        cases wellFormed.whole.2 '-' (whole ▸ List.mem_cons_self)

end Json

end SpokenFeedback
