import SpokenFeedback.Condition.Specification
import SpokenFeedback.Proofs.Text.Pieces

/-!
# Numeric literals

A literal of an integer property is an optional sign and decimal digits, as long as the number fits
a word of 64 bits; for the event type it may also be a name.  `Numeral.SignedDigits` and
`Literal.Denotes` are this grammar, each text together with what it denotes.

`Literal.read_integer_iff` says that exactly these literals are read, with blanks around them.  A
numeric literal never begins with the sign of an order relation (`Literal.head_of_read`), so that no
specification has two readings.
-/

namespace SpokenFeedback

/-! ## Digits -/

namespace Numeral

/-- One or more decimal digits and the number that they denote. -/
inductive Digits : List Char → Nat → Prop where
  | one {c : Char} (digit : c.isDigit = true) : Digits [c] (c.toNat - '0'.toNat)
  | more {digits : List Char} {number : Nat} {c : Char} (front : Digits digits number)
    (digit : c.isDigit = true) : Digits (digits ++ [c]) (10 * number + (c.toNat - '0'.toNat))

/-- Digits after an optional sign and the integer that they denote. -/
inductive SignedDigits : List Char → Int → Prop where
  | bare {digits : List Char} {number : Nat} (magnitude : Digits digits number) :
    SignedDigits digits number
  | plus {digits : List Char} {number : Nat} (magnitude : Digits digits number) :
    SignedDigits ('+' :: digits) number
  | minus {digits : List Char} {number : Nat} (magnitude : Digits digits number) :
    SignedDigits ('-' :: digits) (-number)

variable {text : List Char}

theorem Digits.isDigit {number : Nat} (digits : Digits text number) :
    ∀ c ∈ text, c.isDigit = true := by
  induction digits with
  | one digit =>
    intro c member
    rw [List.mem_singleton.1 member]
    exact digit
  | more front digit ih =>
    intro c member
    rcases List.mem_append.1 member with early | last
    · exact ih c early
    · rw [List.mem_singleton.1 last]
      exact digit

theorem Digits.ne_nil {number : Nat} (digits : Digits text number) : text ≠ [] := by
  cases digits with
  | one digit => exact List.cons_ne_nil _ _
  | more front digit => exact List.append_ne_nil_of_right_ne_nil _ (List.cons_ne_nil _ _)

theorem Digits.eq_ofDigitChars {number : Nat} (digits : Digits text number) :
    number = Nat.ofDigitChars 10 text 0 := by
  induction digits with
  | one digit => simp [Nat.ofDigitChars]
  | more front digit ih =>
    rw [Nat.ofDigitChars_append, ← ih]
    rfl

theorem digits_ofDigitChars (filled : text ≠ []) (digits : ∀ c ∈ text, c.isDigit = true) :
    Digits text (Nat.ofDigitChars 10 text 0) := by
  induction text using List.reverseRecOn with
  | nil => exact absurd rfl filled
  | append_singleton front c ih =>
    have last : c.isDigit = true := digits c (by simp)
    cases front with
    | nil =>
      have single := Digits.one last
      rw [single.eq_ofDigitChars] at single
      exact single
    | cons first others =>
      rw [Nat.ofDigitChars_append]
      apply Digits.more _ last
      apply ih (List.cons_ne_nil first others)
      intro d member
      exact digits d (List.mem_append_left _ member)

theorem readNat_eq_some_iff {number : Nat} : readNat text = some number ↔ Digits text number := by
  rw [readNat]
  split
  next digits =>
    rw [Option.some_inj]
    constructor
    · rintro rfl
      exact digits_ofDigitChars digits.1 (List.all_eq_true.1 digits.2)
    · intro read
      exact read.eq_ofDigitChars.symm
  next other =>
    constructor
    · rintro ⟨⟩
    · intro read
      exact absurd ⟨read.ne_nil, List.all_eq_true.2 read.isDigit⟩ other

theorem readInt_eq_some_iff {value : Int} :
    readInt text = some value ↔ SignedDigits text value := by
  have unsigned : ∀ c digits number, text = c :: digits → c.isDigit = false →
      ¬ Digits text number := by
    rintro c digits number rfl sign read
    have digit := read.isDigit c List.mem_cons_self
    rw [sign] at digit
    cases digit
  constructor
  · intro read
    unfold readInt at read
    split at read
    next digits =>
      rcases Option.map_eq_some_iff.1 read with ⟨number, magnitude, rfl⟩
      exact .minus (readNat_eq_some_iff.1 magnitude)
    next digits =>
      rcases Option.map_eq_some_iff.1 read with ⟨number, magnitude, rfl⟩
      exact .plus (readNat_eq_some_iff.1 magnitude)
    next =>
      rcases Option.map_eq_some_iff.1 read with ⟨number, magnitude, rfl⟩
      exact .bare (readNat_eq_some_iff.1 magnitude)
  · intro signed
    cases signed with
    | minus magnitude => rw [readInt, readNat_eq_some_iff.2 magnitude, Option.map_some]
    | plus magnitude => rw [readInt, readNat_eq_some_iff.2 magnitude, Option.map_some]
    | bare magnitude =>
      rw [readInt, readNat_eq_some_iff.2 magnitude, Option.map_some]
      · intro digits shape
        exact unsigned '-' digits _ shape rfl magnitude
      · intro digits shape
        exact unsigned '+' digits _ shape rfl magnitude

theorem SignedDigits.ne_nil {value : Int} (signed : SignedDigits text value) : text ≠ [] := by
  cases signed with
  | bare magnitude => exact magnitude.ne_nil
  | plus magnitude => exact List.cons_ne_nil _ _
  | minus magnitude => exact List.cons_ne_nil _ _

theorem toWord?_eq_some_iff {value : Int} {word : Int64} :
    toWord? value = some word ↔ word.toInt = value := by
  constructor
  · intro fits
    rw [toWord?] at fits
    split at fits
    next bounds =>
      rcases Option.some.inj fits with rfl
      exact Int64.toInt_ofInt_of_le bounds.1 (Int.lt_of_le_sub_one bounds.2)
    next => cases fits
  · rintro rfl
    exact toWord?_toInt word

theorem readWord_eq_some_iff {word : Int64} :
    readWord text = some word ↔ SignedDigits text word.toInt := by
  rw [readWord, Option.bind_eq_some_iff]
  constructor
  · rintro ⟨value, read, fits⟩
    rw [toWord?_eq_some_iff.1 fits]
    exact readInt_eq_some_iff.1 read
  · intro signed
    exact ⟨word.toInt, readInt_eq_some_iff.2 signed, toWord?_toInt word⟩

end Numeral

/-! ## Names of event types -/

namespace EventType

theorem ofName?_eq_some_iff {name : String} {eventType : EventType} :
    ofName? name = some eventType ↔ eventType.name = Text.trim name := by
  constructor
  · intro found
    simpa using List.find?_some found
  · intro named
    rw [ofName?, ← named]
    cases eventType <;> decide

theorem readWord_name (eventType : EventType) :
    Numeral.readWord eventType.name.toList = none := by
  cases eventType <;> rw [name, String.toList_ofList] <;> decide

end EventType

/-! ## Integer literals -/

namespace Literal

/-- A literal of an integer property and the word that it denotes. -/
inductive Denotes : Property → List Char → Int64 → Prop where
  | number {property : Property} {text : List Char} {word : Int64}
    (signed : Numeral.SignedDigits text word.toInt) : Denotes property text word
  | name (eventType : EventType) : Denotes .eventType eventType.name.toList eventType.code

/-- The characters of integer literals: signs, digits, capitals and low lines. -/
def isPlain (c : Char) : Bool :=
  c.isDigit || c == '+' || c == '-' || c.isUpper || c == '_'

theorem isPlain_of_signed {text : List Char} {value : Int}
    (signed : Numeral.SignedDigits text value) : ∀ c ∈ text, isPlain c = true := by
  have plainDigits : ∀ digits number, Numeral.Digits digits number →
      ∀ c ∈ digits, isPlain c = true := by
    intro digits number magnitude c member
    simp only [isPlain, magnitude.isDigit c member, Bool.true_or]
  cases signed with
  | bare magnitude => exact plainDigits _ _ magnitude
  | plus magnitude => exact List.forall_mem_cons.2 ⟨rfl, plainDigits _ _ magnitude⟩
  | minus magnitude => exact List.forall_mem_cons.2 ⟨rfl, plainDigits _ _ magnitude⟩

theorem isPlain_of_name (eventType : EventType) :
    ∀ c ∈ eventType.name.toList, isPlain c = true := by
  apply List.all_eq_true.1
  cases eventType <;> rw [EventType.name, String.toList_ofList] <;> decide

theorem range_of_isPlain {c : Char} (plain : isPlain c = true) :
    0x2B ≤ c.toNat ∧ c.toNat ≤ 0x5F ∧ (c.toNat < 0x3C ∨ 0x3E < c.toNat) := by
  simp only [isPlain, Bool.or_eq_true, beq_iff_eq] at plain
  rcases plain with (((digit | rfl) | rfl) | upper) | rfl
  · have bounds : 48 ≤ c.toNat ∧ c.toNat ≤ 57 := by
      simpa [Char.isDigit, UInt32.le_iff_toNat_le] using digit
    omega
  · decide
  · decide
  · have bounds : 65 ≤ c.toNat ∧ c.toNat ≤ 90 := of_decide_eq_true upper
    omega
  · decide

theorem isBlank_of_isPlain {c : Char} (plain : isPlain c = true) : Text.isBlank c = false := by
  have range := range_of_isPlain plain
  simp [Text.isBlank, Text.Ranges.holds, Text.blankRanges, Text.Ranges.covers]
  omega

namespace Denotes

variable {property : Property} {text : List Char} {word : Int64}

theorem plain (literal : Denotes property text word) : ∀ c ∈ text, isPlain c = true := by
  cases literal with
  | number signed => exact isPlain_of_signed signed
  | name eventType => exact isPlain_of_name eventType

theorem ne_nil (literal : Denotes property text word) : text ≠ [] := by
  cases literal with
  | number signed => exact signed.ne_nil
  | name eventType =>
    cases eventType <;> rw [EventType.name, String.toList_ofList] <;> decide

theorem tight (literal : Denotes property text word) : Text.Tight text :=
  Text.tight_of_forall fun c member => isBlank_of_isPlain (literal.plain c member)

end Denotes

variable {property : Property}

theorem readInteger_eq_ok_iff {literal : String} (trimmed : Text.trim literal = literal)
    {value : Value} :
    readInteger property literal = .ok value ↔
      ∃ word, Denotes property literal.toList word ∧ value = .int word := by
  constructor
  · intro read
    rw [readInteger] at read
    cases number : Numeral.readWord literal.toList with
    | some word =>
      rw [number] at read
      exact ⟨word, .number (Numeral.readWord_eq_some_iff.1 number), (Except.ok.inj read).symm⟩
    | none =>
      rw [number] at read
      dsimp only at read
      split at read
      next ofEventType =>
        cases named : EventType.ofName? literal with
        | none =>
          rw [named] at read
          cases read
        | some eventType =>
          rw [named] at read
          have same : eventType.name = literal :=
            (EventType.ofName?_eq_some_iff.1 named).trans trimmed
          rw [ofEventType, ← same]
          exact ⟨eventType.code, .name eventType, (Except.ok.inj read).symm⟩
      next => cases read
  · rintro ⟨word, denoted, rfl⟩
    rw [readInteger]
    generalize shown : literal.toList = text at denoted
    cases denoted with
    | number signed => rw [Numeral.readWord_eq_some_iff.2 signed]
    | name eventType =>
      have named : EventType.ofName? literal = some eventType := by
        rw [EventType.ofName?_eq_some_iff, trimmed]
        exact (String.toList_injective shown).symm
      rw [eventType.readWord_name, named]
      rfl

/-- A literal of the word, with any blanks around it, makes up the text. -/
def Spells (property : Property) (text : List Char) (word : Int64) : Prop :=
  ∃ literal, Text.Padded literal text ∧ Denotes property literal word

theorem spells_iff_trimChars {text : List Char} {word : Int64} :
    Spells property text word ↔ Denotes property (Text.trimChars text) word := by
  constructor
  · rintro ⟨literal, padded, denoted⟩
    rw [Text.trimChars_of_padded padded denoted.tight]
    exact denoted
  · intro denoted
    exact ⟨_, Text.padded_trimChars text, denoted⟩

theorem spells_trimChars {text : List Char} {word : Int64} :
    Spells property (Text.trimChars text) word ↔ Spells property text word := by
  rw [spells_iff_trimChars, spells_iff_trimChars, Text.trimChars_trimChars]

theorem Spells.blank_or_plain {text : List Char} {word : Int64}
    (spelled : Spells property text word) :
    ∀ c ∈ text, Text.isBlank c = true ∨ isPlain c = true := by
  rcases spelled with ⟨literal, ⟨before, after, blankBefore, blankAfter, rfl⟩, denoted⟩
  intro c member
  rcases List.mem_append.1 member with early | late
  · rcases List.mem_append.1 early with first | inside
    · exact .inl (blankBefore c first)
    · exact .inr (denoted.plain c inside)
  · exact .inl (blankAfter c late)

theorem Spells.not_mem {text : List Char} {word : Int64} (spelled : Spells property text word)
    {c : Char} (filled : Text.isBlank c = false) (strange : isPlain c = false) : c ∉ text := by
  intro member
  rcases spelled.blank_or_plain c member with blank | plain
  · rw [filled] at blank
    cases blank
  · rw [strange] at plain
    cases plain

/-- The texts that spell a word are read as this word by an integer property, and no others are. -/
theorem read_integer_iff (integer : property.kind = .integer) {text : String} {value : Value} :
    read property text = .ok value ↔
      ∃ word, Spells property text.toList word ∧ value = .int word := by
  have trimmed : Text.trim (Text.trim text) = Text.trim text := by
    rw [Text.trim, Text.toList_trim, Text.trimChars_trimChars, ← Text.trim]
  have reading : read property text = readInteger property (Text.trim text) := by
    rw [read, integer]
  rw [reading, readInteger_eq_ok_iff trimmed, Text.toList_trim]
  simp only [spells_iff_trimChars]

/-! ## How numeric literals begin -/

theorem head_of_readUnsigned {text : List Char} {parts : Nat × Nat}
    (read : Numeral.readUnsigned text = some parts) :
    ∃ c rest, text = c :: rest ∧ (c.isDigit = true ∨ c = '.') := by
  cases text with
  | nil => cases read
  | cons c rest =>
    refine ⟨c, rest, rfl, ?_⟩
    by_contra neither
    rcases not_or.1 neither with ⟨noDigit, noPoint⟩
    rw [Numeral.readUnsigned, List.dropWhile_cons_of_neg noDigit] at read
    split at read
    next ended => cases ended
    next places shape => exact noPoint (List.cons.inj shape).1
    next => cases read

theorem head_of_readPlain {text : List Char} {decimal : Numeral.Decimal}
    (read : Numeral.readPlain text = some decimal) :
    ∃ c rest, text = c :: rest ∧ c ≠ '<' ∧ c ≠ '>' := by
  rw [Numeral.readPlain] at read
  rcases Option.map_eq_some_iff.1 read with ⟨parts, unsigned, -⟩
  split at unsigned
  next rest => exact ⟨'-', rest, rfl, by decide⟩
  next rest => exact ⟨'+', rest, rfl, by decide⟩
  next =>
    rcases head_of_readUnsigned unsigned with ⟨c, rest, shape, digit | rfl⟩
    · refine ⟨c, rest, shape, ?_, ?_⟩
      · rintro rfl
        cases digit
      · rintro rfl
        cases digit
    · exact ⟨'.', rest, shape, by decide⟩

/-- A numeric literal does not begin with the sign of an order relation. -/
theorem head_of_read {text : String} {value : Value} (numeric : property.kind.isNumeric = true)
    (reading : read property text = .ok value) :
    ∃ c rest, Text.trimChars text.toList = c :: rest ∧ c ≠ '<' ∧ c ≠ '>' := by
  cases kind : property.kind with
  | integer =>
    rcases (read_integer_iff kind).1 reading with ⟨word, spelled, -⟩
    have denoted := spells_iff_trimChars.1 spelled
    rcases List.exists_cons_of_ne_nil denoted.ne_nil with ⟨c, rest, shape⟩
    have plain : isPlain c = true := denoted.plain c (by simp [shape])
    refine ⟨c, rest, shape, ?_, ?_⟩
    · rintro rfl
      cases plain
    · rintro rfl
      cases plain
  | float =>
    rw [read, kind] at reading
    dsimp only at reading
    rw [readFloat, Text.toList_trim] at reading
    cases plain : Numeral.readPlain (Text.trimChars text.toList) with
    | some decimal => exact head_of_readPlain plain
    | none =>
      rw [plain] at reading
      cases reading
  | boolean | string | typeName | capability =>
    rw [kind] at numeric
    cases numeric

end Literal

end SpokenFeedback
