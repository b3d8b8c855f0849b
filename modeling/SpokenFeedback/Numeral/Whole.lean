/-!
# Whole numbers

Integer literals and integer texts.  A literal is an optional sign and one or more ASCII digits,
and it counts only if its value fits a signed word of 64 bits.  `readWord_writeInt` says that the
text written for a word reads back as that word.
-/

namespace SpokenFeedback.Numeral

/-- The value of a hexadecimal digit. -/
def hexDigit? (c : Char) : Option Nat :=
  if c.isDigit then some (c.toNat - '0'.toNat)
  else if 'a' ≤ c ∧ c ≤ 'f' then some (c.toNat - 'a'.toNat + 10)
  else if 'A' ≤ c ∧ c ≤ 'F' then some (c.toNat - 'A'.toNat + 10)
  else none

/-- Reads one or more ASCII digits. -/
def readNat (digits : List Char) : Option Nat :=
  if digits ≠ [] ∧ digits.all Char.isDigit then some (Nat.ofDigitChars 10 digits 0) else none

/-- Reads an optional sign and one or more ASCII digits. -/
def readInt : List Char → Option Int
  | '-' :: digits => (readNat digits).map fun (magnitude : Nat) => -(magnitude : Int)
  | '+' :: digits => (readNat digits).map fun (magnitude : Nat) => (magnitude : Int)
  | digits => (readNat digits).map fun (magnitude : Nat) => (magnitude : Int)

/-- The number of values of 64 bits. -/
def wordCount : Nat := 18446744073709551616

/-- The word of 64 bits with this value, if there is one. -/
def toWord? (value : Int) : Option Int64 :=
  if -9223372036854775808 ≤ value ∧ value ≤ 9223372036854775807 then some (Int64.ofInt value)
  else none

/-- Reads an integer literal. -/
def readWord (literal : List Char) : Option Int64 := (readInt literal).bind toWord?

/-- The decimal digits of an integer, after a minus sign if it is negative. -/
def writeInt (value : Int) : List Char :=
  if value < 0 then '-' :: Nat.toDigits 10 value.natAbs else Nat.toDigits 10 value.natAbs

/-- The canonical text of a word. -/
def writeWord (word : Int64) : String := String.ofList (writeInt word.toInt)

theorem readNat_toDigits (value : Nat) : readNat (Nat.toDigits 10 value) = some value := by
  have digits : (Nat.toDigits 10 value).all Char.isDigit = true :=
    List.all_eq_true.2 fun _ member => Nat.isDigit_of_mem_toDigits (by decide) (by decide) member
  simp only [readNat, digits, Nat.toDigits_ne_nil, ne_eq, not_false_eq_true, and_self, ↓reduceIte,
    Nat.ofDigitChars_ten_toDigits]

theorem readInt_toDigits (value : Nat) : readInt (Nat.toDigits 10 value) = some (value : Int) := by
  have plain := readNat_toDigits value
  unfold readInt
  split
  next digits shape =>
    have := Nat.isDigit_of_mem_toDigits (b := 10) (n := value) (c := '-') (by decide) (by decide)
      (by simp [shape])
    exact absurd this (by decide)
  next digits shape =>
    have := Nat.isDigit_of_mem_toDigits (b := 10) (n := value) (c := '+') (by decide) (by decide)
      (by simp [shape])
    exact absurd this (by decide)
  next => simp [plain]

theorem readInt_writeInt (value : Int) : readInt (writeInt value) = some value := by
  by_cases negative : value < 0
  · have magnitude : -(value.natAbs : Int) = value := by omega
    simp only [writeInt, negative, ↓reduceIte, readInt, readNat_toDigits, Option.map_some,
      magnitude]
  · simp only [writeInt, negative, ↓reduceIte, readInt_toDigits]
    congr 1
    omega

theorem toWord?_toInt (word : Int64) : toWord? word.toInt = some word := by
  have low := word.le_toInt
  have high := word.toInt_lt
  have inRange : -9223372036854775808 ≤ word.toInt ∧ word.toInt ≤ 9223372036854775807 := by
    omega
  simp only [toWord?, inRange, and_self, ↓reduceIte, Int64.ofInt_toInt]

/-- The text written for a word reads back as that word. -/
theorem readWord_writeInt (word : Int64) : readWord (writeInt word.toInt) = some word := by
  simp [readWord, readInt_writeInt, toWord?_toInt]

end SpokenFeedback.Numeral
