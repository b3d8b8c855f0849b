import Mathlib.Data.List.Forall2
import SpokenFeedback.Json.Reader
import SpokenFeedback.Json.Writer

/-!
# Quoted texts

What is written between quotation marks is read back as it was.  Each character is read as one piece
(`readPieces_escape`), which is the character itself or, for a control character without a letter of
its own, a unit below all surrogates; pieces of both forms are joined one by one
(`joinPieces_of_stands`).  `readText_escaped` puts them together for a whole text.
-/

namespace SpokenFeedback

namespace Json

/-- A piece that stands for a character without regard to the pieces next to it. -/
inductive TextPiece.Stands : TextPiece → Char → Prop where
  | char (c : Char) : Stands (.char c) c
  | unit {c : Char} (lone : c.toNat < 0xD800) : Stands (.unit c.toNat) c

/-! ## Joining -/

theorem joinPieces_unit {code : Nat} (lone : code < 0xD800) (pieces : List TextPiece) :
    joinPieces (.unit code :: pieces) = (joinPieces pieces).map (Char.ofNat code :: ·) := by
  have notHigh : ¬ 0xD800 ≤ code := Nat.not_le.2 lone
  have notLow : ¬ 0xDC00 ≤ code := fun high => notHigh (Nat.le_trans (by decide) high)
  rcases pieces with - | ⟨c | low, pieces⟩
  · simp [joinPieces, notHigh]
  · simp [joinPieces, notHigh]
  · rw [joinPieces, if_neg (notHigh ·.1), if_neg (notLow ·.1)]

theorem joinPieces_of_stands {pieces : List TextPiece} {content : List Char}
    (stand : List.Forall₂ TextPiece.Stands pieces content) :
    joinPieces pieces = some content := by
  induction stand with
  | nil => rfl
  | cons first _ ih =>
    cases first with
    | char c => simp [joinPieces, ih]
    | unit lone => rw [joinPieces_unit lone, ih, Option.map_some, Char.ofNat_toNat]

/-! ## Reading -/

theorem hexNumber?_control {code : Nat} (control : code < 0x20) :
    hexNumber? ['0', '0', hexDigit (code / 16), hexDigit (code % 16)] = some code := by
  revert code
  decide

theorem readPieces_letter {letter meant : Char} (named : unescape? letter = some meant)
    (rest : List Char) :
    readPieces ('\\' :: letter :: rest) =
      (readPieces rest).map fun (pieces, rest) => (.char meant :: pieces, rest) := by
  have notUnit : letter ≠ 'u' := by
    rintro rfl
    cases named
  rw [readPieces]
  · rw [named, Option.bind_some]
  · intro a b c d tail unit
    exact absurd unit notUnit

/-- What is written for a character is read as one piece, which stands for the character. -/
theorem readPieces_escape (c : Char) :
    ∃ piece : TextPiece, piece.Stands c ∧ ∀ rest,
      readPieces (escape c ++ rest) =
        (readPieces rest).map fun (pieces, rest) => (piece :: pieces, rest) := by
  have named {meant : Char} (same : c.toNat = meant.toNat) : some meant = some c :=
    congrArg some (Char.toNat_inj.1 same.symm)
  rw [escape]
  split
  next quote => exact ⟨.char c, .char c, readPieces_letter (congrArg some quote.symm)⟩
  split
  next backslash => exact ⟨.char c, .char c, readPieces_letter (congrArg some backslash.symm)⟩
  split
  next backspace => exact ⟨.char c, .char c, readPieces_letter (named backspace)⟩
  split
  next tab => exact ⟨.char c, .char c, readPieces_letter (named tab)⟩
  split
  next newline => exact ⟨.char c, .char c, readPieces_letter (named newline)⟩
  split
  next formfeed => exact ⟨.char c, .char c, readPieces_letter (named formfeed)⟩
  split
  next enter => exact ⟨.char c, .char c, readPieces_letter (named enter)⟩
  split
  next control =>
    refine ⟨.unit c.toNat, .unit (Nat.lt_trans control (by decide)), fun rest => ?_⟩
    simp [readPieces, hexNumber?_control control]
  next noQuote noBackslash _ _ _ _ _ noControl =>
    refine ⟨.char c, .char c, fun rest => ?_⟩
    simp [readPieces, noBackslash, noControl]

theorem readPieces_escaped (content rest : List Char) :
    ∃ pieces : List TextPiece, List.Forall₂ TextPiece.Stands pieces content ∧
      readPieces (content.flatMap escape ++ '"' :: rest) = some (pieces, rest) := by
  induction content with
  | nil => exact ⟨[], .nil, by simp [readPieces]⟩
  | cons c content ih =>
    rcases ih with ⟨pieces, stand, read⟩
    rcases readPieces_escape c with ⟨piece, stands, step⟩
    refine ⟨piece :: pieces, .cons stands stand, ?_⟩
    rw [List.flatMap_cons, List.append_assoc, step, read, Option.map_some]

/-- What is written between quotation marks is read as the text that it was written for. -/
theorem readText_escaped (content : String) (rest : List Char) :
    readText (content.toList.flatMap escape ++ '"' :: rest) = some (some content, rest) := by
  rcases readPieces_escaped content.toList rest with ⟨pieces, stand, read⟩
  simp only [readText, read, Option.map_some, joinPieces_of_stands stand, String.ofList_toList]

end Json

end SpokenFeedback
