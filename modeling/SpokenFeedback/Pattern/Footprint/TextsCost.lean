import SpokenFeedback.Pattern.Footprint.Basic

/-!
# Footprints of choices between texts

A choice between texts is built as a tree in which texts share states from their starts, as far as
this keeps the order of preference.
-/

namespace SpokenFeedback

namespace Pattern

/-- The bytes of characters in UTF-8. -/
def bytesOf (text : List Char) : List UInt8 := text.flatMap String.utf8EncodeChar

/-- Cuts texts at the empty ones, which are left out. -/
def cutAtEmpty : List (List UInt8) → List (List (List UInt8))
  | [] => [[]]
  | [] :: rest => [] :: cutAtEmpty rest
  | text :: rest =>
    match cutAtEmpty rest with
    | [] => [[text]]
    | chunk :: chunks => (text :: chunk) :: chunks

/--
The cost of a choice between texts.  Texts share states from their starts as far as this keeps
their order: where a text ends, what comes after it starts anew.
-/
def textsCost : Nat → List (List UInt8) → Cost
  | 0, _, footprint => footprint
  | fuel + 1, texts, footprint =>
    let chunks :=
      match cutAtEmpty texts with
      | [] :: chunks => [] :: chunks.dropWhile List.isEmpty
      | chunks => chunks
    let footprint := chunks.foldl
      (fun footprint chunk =>
        let starts := (chunk.filterMap List.head?).eraseDups
        let footprint := starts.foldl
          (fun footprint start =>
            let rests := (chunk.filter fun text => text.head? = some start).map List.tail
            if rests.all List.isEmpty then footprint else textsCost fuel rests footprint)
          footprint
        match starts with
        | [] => footprint
        | [_] => footprint.addState.addBranches 1
        | _ => (footprint.addRanges starts.length).addBranches 1)
      footprint
    footprint.addState.addBranches (chunks.length - 1)

end Pattern

end SpokenFeedback
