import SpokenFeedback.Numeral.Decimal
import SpokenFeedback.Proofs.Text.Pieces

/-!
# Plain literals

The grammar of the float literals of conditions: an optional sign, then digits with an optional
point and more digits, or a point and digits.  `PlainLiteral` leaves open what a digit is, since a
pattern may count the digits of all scripts.

`readPlain` reads exactly the literals with ASCII digits (`isSome_readPlain_iff`), and what it reads
is what the wider grammar of float texts reads there (`FloatText.read_of_readPlain`).  A literal
with digits of any script is a float text only if its digits are ASCII
(`plainLiteral_isDigit_iff`), so that the two grammars together come to this one.
-/

namespace SpokenFeedback.Numeral

/-- One or more digits. -/
def Run (digit : Char → Bool) (text : List Char) : Prop :=
  text ≠ [] ∧ ∀ c ∈ text, digit c = true

/-- Digits with an optional point and more digits, or a point and digits. -/
inductive Magnitude (digit : Char → Bool) : List Char → Prop where
  | whole {whole : List Char} (run : Run digit whole) : Magnitude digit whole
  | pointed {whole places : List Char} (run : Run digit whole) (runPlaces : Run digit places) :
    Magnitude digit (whole ++ '.' :: places)
  | fraction {places : List Char} (runPlaces : Run digit places) : Magnitude digit ('.' :: places)

/-- A magnitude after an optional sign. -/
inductive PlainLiteral (digit : Char → Bool) : List Char → Prop where
  | bare {text : List Char} (magnitude : Magnitude digit text) : PlainLiteral digit text
  | plus {text : List Char} (magnitude : Magnitude digit text) : PlainLiteral digit ('+' :: text)
  | minus {text : List Char} (magnitude : Magnitude digit text) : PlainLiteral digit ('-' :: text)

variable {digit other : Char → Bool} {text : List Char}

/-! ## The characters of a literal -/

theorem Run.mono (run : Run digit text)
    (counted : ∀ c ∈ text, digit c = true → other c = true) : Run other text :=
  ⟨run.1, fun c member => counted c member (run.2 c member)⟩

theorem Magnitude.mono (magnitude : Magnitude digit text)
    (counted : ∀ c ∈ text, digit c = true → other c = true) : Magnitude other text := by
  cases magnitude with
  | whole run => exact .whole (run.mono counted)
  | pointed run runPlaces =>
    refine .pointed (run.mono ?_) (runPlaces.mono ?_)
    · exact fun c member => counted c (List.mem_append_left _ member)
    · exact fun c member => counted c (List.mem_append_right _ (.tail _ member))
  | fraction runPlaces =>
    exact .fraction (runPlaces.mono fun c member => counted c (.tail _ member))

/-- A literal stays one when more characters count as digits, or as many as it has. -/
theorem PlainLiteral.mono (literal : PlainLiteral digit text)
    (counted : ∀ c ∈ text, digit c = true → other c = true) : PlainLiteral other text := by
  cases literal with
  | bare magnitude => exact .bare (magnitude.mono counted)
  | plus magnitude => exact .plus (magnitude.mono fun c member => counted c (.tail _ member))
  | minus magnitude => exact .minus (magnitude.mono fun c member => counted c (.tail _ member))

theorem Magnitude.digit_or_point (magnitude : Magnitude digit text) :
    ∀ c ∈ text, digit c = true ∨ c = '.' := by
  cases magnitude with
  | whole run => exact fun c member => .inl (run.2 c member)
  | pointed run runPlaces =>
    intro c member
    rcases List.mem_append.1 member with early | late
    · exact .inl (run.2 c early)
    · rcases List.mem_cons.1 late with rfl | place
      · exact .inr rfl
      · exact .inl (runPlaces.2 c place)
  | fraction runPlaces =>
    intro c member
    rcases List.mem_cons.1 member with rfl | place
    · exact .inr rfl
    · exact .inl (runPlaces.2 c place)

theorem Run.getLast? (run : Run digit text) : ∃ c, text.getLast? = some c ∧ digit c = true :=
  ⟨_, List.getLast?_eq_some_getLast run.1, run.2 _ (List.getLast_mem run.1)⟩

theorem Magnitude.getLast? (magnitude : Magnitude digit text) :
    ∃ c, text.getLast? = some c ∧ digit c = true := by
  cases magnitude with
  | whole run => exact run.getLast?
  | pointed run runPlaces =>
    rcases runPlaces.getLast? with ⟨c, last, counted⟩
    exact ⟨c, by simp [List.getLast?_append, List.getLast?_cons, last], counted⟩
  | fraction runPlaces =>
    rcases runPlaces.getLast? with ⟨c, last, counted⟩
    exact ⟨c, by simp [List.getLast?_cons, last], counted⟩

/-- A literal has nothing but digits, signs and points, and it ends with a digit. -/
theorem PlainLiteral.characters (literal : PlainLiteral digit text) :
    (∀ c ∈ text, digit c = true ∨ c = '.' ∨ c = '+' ∨ c = '-') ∧
      ∃ c, text.getLast? = some c ∧ digit c = true := by
  have unsigned : ∀ {rest : List Char}, Magnitude digit rest →
      ∀ c ∈ rest, digit c = true ∨ c = '.' ∨ c = '+' ∨ c = '-' := by
    intro rest magnitude c member
    exact (magnitude.digit_or_point c member).imp_right .inl
  have signed : ∀ {sign : Char} {rest : List Char}, Magnitude digit rest →
      ∃ c, (sign :: rest).getLast? = some c ∧ digit c = true := by
    intro sign rest magnitude
    rcases magnitude.getLast? with ⟨c, last, counted⟩
    exact ⟨c, by simp [List.getLast?_cons, last], counted⟩
  cases literal with
  | bare magnitude => exact ⟨unsigned magnitude, magnitude.getLast?⟩
  | plus magnitude =>
    exact ⟨List.forall_mem_cons.2 ⟨by simp, unsigned magnitude⟩, signed magnitude⟩
  | minus magnitude =>
    exact ⟨List.forall_mem_cons.2 ⟨by simp, unsigned magnitude⟩, signed magnitude⟩

/-! ## Reading literals -/

theorem isSome_readUnsigned_iff :
    (readUnsigned text).isSome = true ↔ Magnitude Char.isDigit text := by
  have whole : text.takeWhile Char.isDigit ++ text.dropWhile Char.isDigit = text :=
    List.takeWhile_append_dropWhile
  have digits : ∀ c ∈ text.takeWhile Char.isDigit, c.isDigit = true :=
    fun c member => List.mem_takeWhile_imp member
  constructor
  · intro read
    rw [readUnsigned] at read
    split at read
    next ended =>
      rw [ended, List.append_nil] at whole
      rw [whole] at read digits
      split at read
      next => cases read
      next filled => exact .whole ⟨filled, digits⟩
    next places pointed =>
      rw [pointed] at whole
      split at read
      next run =>
        have runPlaces : Run Char.isDigit places := ⟨run.1, List.all_eq_true.1 run.2⟩
        rw [← whole]
        by_cases filled : text.takeWhile Char.isDigit = []
        · rw [filled]
          exact .fraction runPlaces
        · exact .pointed ⟨filled, digits⟩ runPlaces
      next => cases read
    next => cases read
  · have pointed : ∀ {front places : List Char}, (∀ c ∈ front, c.isDigit = true) →
        Run Char.isDigit places → (readUnsigned (front ++ '.' :: places)).isSome = true := by
      intro front places digits run
      have point : Char.isDigit '.' = false := by decide
      rcases Text.takeWhile_dropWhile_append_cons digits point places with ⟨taken, left⟩
      have counted : places ≠ [] ∧ places.all Char.isDigit = true :=
        ⟨run.1, List.all_eq_true.2 run.2⟩
      simp only [readUnsigned, taken, left, if_pos counted, Option.isSome_some]
    intro magnitude
    cases magnitude with
    | whole run =>
      rw [readUnsigned, List.takeWhile_eq_self_iff.2 run.2, List.dropWhile_eq_nil_iff.2 run.2,
        if_neg run.1]
      rfl
    | pointed run runPlaces => exact pointed run.2 runPlaces
    | fraction runPlaces => exact pointed (List.forall_mem_nil _) runPlaces

/-- The test counts just the ASCII digits among the characters of ASCII. -/
def AgreesOnAscii (digit : Char → Bool) : Prop := ∀ c, c.toNat < 0x80 → digit c = c.isDigit

theorem agreesOnAscii_isDigit : AgreesOnAscii Char.isDigit := fun _ _ => rfl

/-- No sign counts as a digit, so that a sign in front belongs to no magnitude. -/
theorem plainLiteral_iff_magnitude (agrees : AgreesOnAscii digit) :
    PlainLiteral digit text ↔ Magnitude digit (readSign text).2 := by
  have unsigned : ∀ {sign : Char} {rest : List Char}, sign.toNat < 0x80 → sign.isDigit = false →
      sign ≠ '.' → ¬ Magnitude digit (sign :: rest) := by
    intro sign rest ascii noDigit noPoint magnitude
    rcases magnitude.digit_or_point sign List.mem_cons_self with counted | point
    · rw [agrees sign ascii, noDigit] at counted
      cases counted
    · exact noPoint point
  constructor
  · intro literal
    cases literal with
    | bare magnitude =>
      unfold readSign
      split
      next => exact absurd magnitude (unsigned (by decide) (by decide) (by decide))
      next => exact absurd magnitude (unsigned (by decide) (by decide) (by decide))
      next => exact magnitude
    | plus magnitude => exact magnitude
    | minus magnitude => exact magnitude
  · intro magnitude
    unfold readSign at magnitude
    split at magnitude
    next => exact .minus magnitude
    next => exact .plus magnitude
    next => exact .bare magnitude

theorem readPlain_eq_map (text : List Char) :
    readPlain text =
      (readUnsigned (readSign text).2).map fun (mantissa, places) =>
        ⟨(readSign text).1, mantissa, -(places : Int)⟩ := rfl

/-- A text is read exactly if it is a literal with ASCII digits. -/
theorem isSome_readPlain_iff :
    (readPlain text).isSome = true ↔ PlainLiteral Char.isDigit text := by
  rw [plainLiteral_iff_magnitude agreesOnAscii_isDigit, ← isSome_readUnsigned_iff,
    readPlain_eq_map, Option.isSome_map]

/-! ## The wider grammar of float texts -/

theorem readScientific_of_readUnsigned {negative : Bool} {mantissa places : Nat}
    (read : readUnsigned text = some (mantissa, places)) :
    readScientific negative text = some ⟨negative, mantissa, -(places : Int)⟩ := by
  rw [readUnsigned] at read
  rw [readScientific]
  split at read
  next ended =>
    rw [ended]
    split at read
    next => cases read
    next filled =>
      cases read
      simp only [List.append_nil, if_neg filled]
      rfl
  next decimals pointed =>
    rw [pointed]
    dsimp only
    split at read
    next run =>
      cases read
      have digits := List.all_eq_true.1 run.2
      have filled : text.takeWhile Char.isDigit ++ decimals ≠ [] :=
        List.append_ne_nil_of_right_ne_nil _ run.1
      simp only [List.takeWhile_eq_self_iff.2 digits, List.dropWhile_eq_nil_iff.2 digits,
        if_neg filled, readExponent, Option.map_some, Int.zero_sub]
    next => cases read
  next => cases read

theorem isAlpha_eq_false_iff {c : Char} :
    c.isAlpha = false ↔
      (c.toNat < 65 ∨ 90 < c.toNat) ∧ (c.toNat < 97 ∨ 122 < c.toNat) := by
  change (decide (65 ≤ c.val ∧ c.val ≤ 90) || (decide (97 ≤ c.val) && decide (c.val ≤ 122))) = false
    ↔ _
  simp [UInt32.le_iff_toNat_le]
  omega

theorem toLower_of_not_isAlpha {c : Char} (letterless : c.isAlpha = false) : c.toLower = c := by
  have range := (isAlpha_eq_false_iff.1 letterless).1
  apply dif_neg
  rintro ⟨low, high⟩
  rw [ge_iff_le, UInt32.le_iff_toNat_le] at low
  rw [UInt32.le_iff_toNat_le] at high
  change 65 ≤ c.toNat at low
  change c.toNat ≤ 90 at high
  omega

/-- A text without letters is neither infinity nor NaN. -/
theorem FloatText.read_of_letterless {text : String}
    (letterless : ∀ c ∈ (readSign text.toList).2, c.isAlpha = false) :
    read text =
      (readScientific (readSign text.toList).1 (readSign text.toList).2).map .decimal := by
  have unchanged : (readSign text.toList).2.map Char.toLower = (readSign text.toList).2 := by
    rw [List.map_congr_left fun c member => toLower_of_not_isAlpha (letterless c member)]
    exact List.map_id _
  have noWord : ∀ {c : Char} {word : List Char}, c.isAlpha = true →
      String.ofList ((readSign text.toList).2.map Char.toLower) ≠ String.ofList (c :: word) := by
    intro c word letter same
    rw [unchanged] at same
    have member : c ∈ (readSign text.toList).2 := by
      rw [String.ofList_injective same]
      exact List.mem_cons_self
    rw [letterless c member] at letter
    cases letter
  have noInfinity : ¬ (String.ofList ((readSign text.toList).2.map Char.toLower) = "inf" ∨
      String.ofList ((readSign text.toList).2.map Char.toLower) = "infinity") :=
    not_or.2 ⟨noWord (by decide : Char.isAlpha 'i' = true), noWord (by decide)⟩
  have noNaN : String.ofList ((readSign text.toList).2.map Char.toLower) ≠ "nan" :=
    noWord (by decide : Char.isAlpha 'n' = true)
  rw [read]
  dsimp only
  rw [if_neg noInfinity, if_neg noNaN]

theorem eq_nil_of_readExponent {tail : List Char} (letterless : ∀ c ∈ tail, c.isAlpha = false)
    (read : (readExponent tail).isSome = true) : tail = [] := by
  rw [readExponent.eq_def] at read
  split at read
  next => rfl
  next => cases letterless 'e' List.mem_cons_self
  next => cases letterless 'E' List.mem_cons_self
  next => cases read

/-- Without letters there is no exponent. -/
theorem isDigit_or_point_of_readScientific {negative : Bool}
    (letterless : ∀ c ∈ text, c.isAlpha = false)
    (read : (readScientific negative text).isSome = true) :
    ∀ c ∈ text, c.isDigit = true ∨ c = '.' := by
  have whole : text.takeWhile Char.isDigit ++ text.dropWhile Char.isDigit = text :=
    List.takeWhile_append_dropWhile
  rw [readScientific] at read
  split at read
  next places tail cut =>
    have exponent : (readExponent tail).isSome = true := by
      split at read
      next => cases read
      next => simpa using read
    have remaining : ∀ c ∈ text.dropWhile Char.isDigit, c.isAlpha = false :=
      fun c member => letterless c (List.dropWhile_subset _ member)
    intro c member
    rw [← whole] at member
    rcases List.mem_append.1 member with early | late
    · exact .inl (List.mem_takeWhile_imp early)
    · split at cut
      next rest pointed =>
        cases cut
        rw [pointed] at remaining late
        have ended : rest.dropWhile Char.isDigit = [] := by
          apply eq_nil_of_readExponent _ exponent
          exact fun d inside => remaining d (.tail _ (List.dropWhile_subset _ inside))
        rcases List.mem_cons.1 late with rfl | place
        · exact .inr rfl
        · exact .inl (List.dropWhile_eq_nil_iff.1 ended c place)
      next =>
        cases cut
        rw [eq_nil_of_readExponent remaining exponent] at late
        exact absurd late List.not_mem_nil

/-! ## Both grammars together -/

theorem bounds_of_isDigit {c : Char} (ascii : c.isDigit = true) :
    48 ≤ c.toNat ∧ c.toNat ≤ 57 := by
  simpa [Char.isDigit, UInt32.le_iff_toNat_le] using ascii

/-- A character that counts as a digit is no letter, nor is a point. -/
theorem AgreesOnAscii.isAlpha_eq_false (agrees : AgreesOnAscii digit) {c : Char}
    (counted : digit c = true ∨ c = '.') : c.isAlpha = false := by
  rcases counted with counted | rfl
  · rw [isAlpha_eq_false_iff]
    rcases Nat.lt_or_ge c.toNat 0x80 with ascii | beyond
    · rw [agrees c ascii] at counted
      have bounds := bounds_of_isDigit counted
      omega
    · omega
  · decide

/-- What is read as a literal is the decimal that the text of a float gives. -/
theorem FloatText.read_of_readPlain {text : String} {decimal : Decimal}
    (plain : readPlain text.toList = some decimal) : read text = some (.decimal decimal) := by
  have literal : PlainLiteral Char.isDigit text.toList :=
    isSome_readPlain_iff.1 (by rw [plain]; rfl)
  have magnitude := (plainLiteral_iff_magnitude agreesOnAscii_isDigit).1 literal
  rw [readPlain_eq_map] at plain
  rcases Option.map_eq_some_iff.1 plain with ⟨⟨mantissa, places⟩, unsigned, rfl⟩
  rw [FloatText.read_of_letterless, readScientific_of_readUnsigned unsigned]
  · rfl
  · intro c member
    exact agreesOnAscii_isDigit.isAlpha_eq_false (magnitude.digit_or_point c member)

/-- A literal with digits of any script is the text of a float only if its digits are ASCII. -/
theorem plainLiteral_isDigit_iff (agrees : AgreesOnAscii digit) {text : String} :
    PlainLiteral Char.isDigit text.toList ↔
      PlainLiteral digit text.toList ∧ (FloatText.read text).isSome = true := by
  constructor
  · intro literal
    constructor
    · refine literal.mono fun c _ ascii => ?_
      have bounds := bounds_of_isDigit ascii
      rw [agrees c (by omega), ascii]
    · rcases Option.isSome_iff_exists.1 (isSome_readPlain_iff.2 literal) with ⟨decimal, plain⟩
      rw [FloatText.read_of_readPlain plain]
      rfl
  · rintro ⟨literal, read⟩
    have magnitude := (plainLiteral_iff_magnitude agrees).1 literal
    have letterless : ∀ c ∈ (readSign text.toList).2, c.isAlpha = false :=
      fun c member => agrees.isAlpha_eq_false (magnitude.digit_or_point c member)
    rw [FloatText.read_of_letterless letterless, Option.isSome_map] at read
    rw [plainLiteral_iff_magnitude agreesOnAscii_isDigit]
    apply magnitude.mono
    intro c member counted
    rcases isDigit_or_point_of_readScientific letterless read c member with ascii | rfl
    · exact ascii
    · exact (agrees '.' (by decide)).symm.trans counted

end SpokenFeedback.Numeral
