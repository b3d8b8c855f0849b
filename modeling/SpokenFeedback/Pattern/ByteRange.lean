/-!
# Byte ranges of characters

The characters of a range are encoded in UTF-8 with one to four bytes.  `byteSequences` splits the
range so that the encodings of each part are all the sequences with one byte from each of a few
byte ranges; the parts are in order and do not overlap.
-/

namespace SpokenFeedback

namespace Pattern

/-- Bytes from the first to the second, both included. -/
abbrev ByteRange := Nat × Nat

/-- The bytes that follow the first one of a character. -/
def anyContinuation : ByteRange := (0x80, 0xBF)

/--
The parts of the codes from `low` to `high` with `count` bytes after the first one.  The first byte
holds `mark` and the leading bits of the code, and every other byte six bits more.
-/
def partsFrom (mark : Nat) : Nat → Nat → Nat → List (List ByteRange)
  | 0, low, high => [[(mark + low, mark + high)]]
  | count + 1, low, high =>
    let unit := Nat.pow 64 (count + 1)
    let under (lead low high : Nat) : List (List ByteRange) :=
      (partsFrom 0x80 count low high).map ((mark + lead, mark + lead) :: ·)
    if low / unit = high / unit then under (low / unit) (low % unit) (high % unit)
    else
      let (start, before) :=
        if low % unit = 0 then (low / unit, [])
        else (low / unit + 1, under (low / unit) (low % unit) (unit - 1))
      let (stop, after) :=
        if high % unit = unit - 1 then (high / unit + 1, [])
        else (high / unit, under (high / unit) 0 (high % unit))
      let between :=
        if start < stop then
          [(mark + start, mark + (stop - 1)) :: List.replicate (count + 1) anyContinuation]
        else []
      before ++ between ++ after

/-- Codes that are encoded alike: the lowest, the highest, the mark and the number of bytes. -/
structure Encoding where
  low : Nat
  high : Nat
  mark : Nat
  continuations : Nat
deriving DecidableEq, Repr

/-- The encodings of all characters, the shortest first. -/
def Encoding.all : List Encoding :=
  [⟨0, 0x7F, 0, 0⟩, ⟨0x80, 0x7FF, 0xC0, 1⟩, ⟨0x800, 0xD7FF, 0xE0, 2⟩, ⟨0xE000, 0xFFFF, 0xE0, 2⟩,
   ⟨0x10000, 0x10FFFF, 0xF0, 3⟩]

/-- The parts of a range of codes as sequences of byte ranges. -/
def byteSequences (low high : Nat) : List (List ByteRange) :=
  Encoding.all.flatMap fun encoding =>
    let first := max low encoding.low
    let last := min high encoding.high
    if first ≤ last then partsFrom encoding.mark encoding.continuations first last else []

end Pattern

end SpokenFeedback
