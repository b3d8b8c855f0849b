import SpokenFeedback.Proofs.Json.QuotedText
import SpokenFeedback.Proofs.Json.WrittenNumber

/-!
# Written trees

The compact text of a tree is read back as the tree.  This holds of every tree that a text denotes:
its numbers keep to the grammar of numbers, and no text in it is half a surrogate pair.

A tree is read from the beginning of a text up to what may follow it (`Json.Closes`), so that
`Json.Recovered` can be shown of a tree from the same of its parts: `readItems_writeItems` and
`readMembers_writeMembers` for the parts, `Writable.recovered` by induction on the tree.  The
length of what is written is fuel enough.
-/

namespace SpokenFeedback

namespace Json

/-! ## Trees -/

/-- A tree that a text denotes. -/
inductive Writable : Json → Prop where
  | null : Writable .null
  | bool (truth : Bool) : Writable (.bool truth)
  | number {token : NumberToken} (wellFormed : token.WellFormed) : Writable (.number token)
  | text (content : String) : Writable (.text content)
  | list {items : List Json} (writable : ∀ item ∈ items, Writable item) : Writable (.list items)
  | object {members : List (String × Json)} (writable : ∀ member ∈ members, Writable member.2) :
    Writable (.object members)

/-- A tree is recovered if it is read from its text, whatever may follow. -/
def Recovered (tree : Json) : Prop :=
  ∀ ⦃fuel : Nat⦄ ⦃rest : List Char⦄, Closes rest → tree.writeChars.length ≤ fuel →
    readTree fuel (tree.writeChars ++ rest) = some (tree, rest)

theorem writeChars_list (items : List Json) :
    writeChars (.list items) = '[' :: (writeItems items ++ [']']) := rfl

theorem writeChars_object (members : List (String × Json)) :
    writeChars (.object members) = '{' :: (writeMembers members ++ ['}']) := rfl

theorem writeChars_number (token : NumberToken) : writeChars (.number token) = token.write := rfl

theorem writeChars_text (content : String) : writeChars (.text content) = writeText content := rfl

theorem skipSpace_cons {c : Char} (filled : isSpace c = false) (rest : List Char) :
    skipSpace (c :: rest) = c :: rest :=
  List.dropWhile_cons_of_neg (by simp [filled])

theorem readTree_bracket (fuel : Nat) (rest : List Char) :
    readTree (fuel + 1) ('[' :: rest) =
      match skipSpace rest with
      | ']' :: rest => some (.list [], rest)
      | _ => (readItems fuel rest).map fun (items, rest) => (.list items, rest) := by
  rfl

theorem readTree_brace (fuel : Nat) (rest : List Char) :
    readTree (fuel + 1) ('{' :: rest) =
      match skipSpace rest with
      | '}' :: rest => some (.object [], rest)
      | _ => (readMembers fuel rest).map fun (members, rest) => (ofMembers members, rest) := by
  rfl

theorem readTree_quote (fuel : Nat) (rest : List Char) :
    readTree (fuel + 1) ('"' :: rest) =
      (readText rest).map fun (content, rest) => (content.elim .unpaired .text, rest) := by
  rfl

theorem isSpace_of_isDigit {c : Char} (digit : c.isDigit = true) : isSpace c = false := by
  by_contra space
  simp only [isSpace, Bool.not_eq_false, Bool.or_eq_true, beq_iff_eq] at space
  rcases space with ((rfl | rfl) | rfl) | rfl <;> cases digit

theorem readTree_number {c : Char} (begins : c = '-' ∨ c.isDigit = true) (fuel : Nat)
    (rest : List Char) :
    readTree (fuel + 1) (c :: rest) =
      (readNumber (c :: rest)).map fun (token, rest) => (.number token, rest) := by
  have filled : isSpace c = false := by
    rcases begins with rfl | digit
    · rfl
    · exact isSpace_of_isDigit digit
  unfold readTree
  rw [skipSpace_cons filled]
  split <;> simp_all

/-- The text of a tree begins with something else than white space or a closing bracket. -/
theorem Writable.begins {tree : Json} (writable : Writable tree) :
    ∃ first tail, tree.writeChars = first :: tail ∧ isSpace first = false ∧ first ≠ ']' := by
  cases writable with
  | null => exact ⟨'n', _, rfl, rfl, by decide⟩
  | bool truth =>
    cases truth with
    | false => exact ⟨'f', _, rfl, rfl, by decide⟩
    | true => exact ⟨'t', _, rfl, rfl, by decide⟩
  | number wellFormed =>
    rcases wellFormed.begins with ⟨first, tail, written, rfl | digit⟩
    · exact ⟨'-', tail, written, rfl, by decide⟩
    · refine ⟨first, tail, written, isSpace_of_isDigit digit, ?_⟩
      rintro rfl
      cases digit
  | text content => exact ⟨'"', _, rfl, rfl, by decide⟩
  | list _ => exact ⟨'[', _, rfl, rfl, by decide⟩
  | object _ => exact ⟨'{', _, rfl, rfl, by decide⟩

theorem closes_cons {c : Char} (closing : c = ',' ∨ c = ']' ∨ c = '}') (rest : List Char) :
    Closes (c :: rest) := by
  rintro first ⟨⟩
  exact closing

section Items

variable {fuel : Nat} {characters rest after : List Char} {item : Json} {items : List Json}

theorem readItems_last (first : readTree fuel characters = some (item, ']' :: rest)) :
    readItems (fuel + 1) characters = some ([item], rest) := by
  unfold readItems
  simp [first, skipSpace_cons, isSpace]

theorem readItems_more (first : readTree fuel characters = some (item, ',' :: rest))
    (others : readItems fuel rest = some (items, after)) :
    readItems (fuel + 1) characters = some (item :: items, after) := by
  unfold readItems
  simp [first, others, skipSpace_cons, isSpace]

theorem readItems_writeItems (filled : items ≠ []) (recovered : ∀ item ∈ items, item.Recovered)
    (enough : (writeItems items).length < fuel) (rest : List Char) :
    readItems fuel (writeItems items ++ ']' :: rest) = some (items, rest) := by
  induction items generalizing fuel with
  | nil => exact absurd rfl filled
  | cons item items ih =>
    have first := recovered item List.mem_cons_self
    cases fuel with
    | zero => exact absurd enough (Nat.not_lt_zero _)
    | succ fuel =>
      cases items with
      | nil =>
        exact readItems_last
          (first (closes_cons (.inr (.inl rfl)) rest) (Nat.le_of_lt_succ enough))
      | cons next others =>
        have written : writeItems (item :: next :: others) =
            item.writeChars ++ ',' :: writeItems (next :: others) := rfl
        rw [written, List.length_append, List.length_cons] at enough
        rw [written, List.append_assoc, List.cons_append]
        -- The comma pays for the unit of fuel that the item costs the others.
        apply readItems_more
        · exact first (closes_cons (.inl rfl) _) (by omega)
        · apply ih (List.cons_ne_nil next others)
          · intro other member
            exact recovered other (List.mem_cons_of_mem item member)
          · omega

end Items

section Members

variable {fuel : Nat} {characters rest after : List Char} {value : Json}

theorem writeText_append (content : String) (rest : List Char) :
    writeText content ++ rest = '"' :: (content.toList.flatMap escape ++ '"' :: rest) := by
  simp [writeText]

theorem readMembers_last (key : String)
    (first : readTree fuel characters = some (value, '}' :: rest)) :
    readMembers (fuel + 1) (writeText key ++ ':' :: characters) =
      some ([(some key, value)], rest) := by
  unfold readMembers
  simp [writeText_append, readText_escaped, first, skipSpace_cons, isSpace]

theorem readMembers_more (key : String) {members : List (Option String × Json)}
    (first : readTree fuel characters = some (value, ',' :: rest))
    (others : readMembers fuel rest = some (members, after)) :
    readMembers (fuel + 1) (writeText key ++ ':' :: characters) =
      some ((some key, value) :: members, after) := by
  unfold readMembers
  simp [writeText_append, readText_escaped, first, others, skipSpace_cons, isSpace]

theorem readMembers_writeMembers {members : List (String × Json)} (filled : members ≠ [])
    (recovered : ∀ member ∈ members, member.2.Recovered)
    (enough : (writeMembers members).length < fuel) (rest : List Char) :
    readMembers fuel (writeMembers members ++ '}' :: rest) =
      some (members.map fun (key, value) => (some key, value), rest) := by
  induction members generalizing fuel with
  | nil => exact absurd rfl filled
  | cons member members ih =>
    have first := recovered member List.mem_cons_self
    cases fuel with
    | zero => exact absurd enough (Nat.not_lt_zero _)
    | succ fuel =>
      cases members with
      | nil =>
        have written : writeMembers [member] =
            writeText member.1 ++ ':' :: member.2.writeChars := rfl
        rw [written, List.length_append, List.length_cons] at enough
        rw [written, List.append_assoc, List.cons_append]
        apply readMembers_last
        exact first (closes_cons (.inr (.inr rfl)) rest) (by omega)
      | cons next others =>
        have written : writeMembers (member :: next :: others) =
            writeText member.1 ++
              ':' :: (member.2.writeChars ++ ',' :: writeMembers (next :: others)) := by
          simp [writeMembers]
        simp only [written, List.length_append, List.length_cons] at enough
        rw [written, List.append_assoc, List.cons_append, List.append_assoc, List.cons_append]
        apply readMembers_more
        · exact first (closes_cons (.inl rfl) _) (by omega)
        · apply ih (List.cons_ne_nil next others)
          · intro other later
            exact recovered other (List.mem_cons_of_mem member later)
          · omega

theorem ofMembers_some (members : List (String × Json)) :
    ofMembers (members.map fun (key, value) => (some key, value)) = .object members := by
  have keys : (members.map fun (key, value) => (some key, value)).mapM
      (fun entry => entry.1.map (·, entry.2)) = some members := by
    induction members with
    | nil => rfl
    | cons member members ih => simp [ih]
  unfold ofMembers
  split
  next found read => rw [Option.some.inj (read.symm.trans keys)]
  next unread => cases unread.symm.trans keys

end Members

namespace Writable

variable {tree : Json}

/-- The length of what is written is never zero, so that there is fuel for the tree itself. -/
theorem recovered_of_succ (writable : Writable tree)
    (read : ∀ fuel rest, Closes rest → tree.writeChars.length ≤ fuel + 1 →
      readTree (fuel + 1) (tree.writeChars ++ rest) = some (tree, rest)) :
    tree.Recovered := by
  rintro (- | fuel) rest closes enough
  · rcases writable.begins with ⟨first, tail, written, -⟩
    simp [written] at enough
  · exact read fuel rest closes enough

theorem begins_items {item : Json} (writable : Writable item) (items : List Json) :
    ∃ first tail, writeItems (item :: items) = first :: tail ∧
      isSpace first = false ∧ first ≠ ']' := by
  rcases writable.begins with ⟨first, tail, written, opening⟩
  cases items with
  | nil => exact ⟨first, tail, written, opening⟩
  | cons next others =>
    refine ⟨first, tail ++ ',' :: writeItems (next :: others), ?_, opening⟩
    rw [writeItems, written, List.cons_append]
    exact List.cons_ne_nil next others

theorem recovered_list {items : List Json} (writable : ∀ item ∈ items, Writable item)
    (recovered : ∀ item ∈ items, item.Recovered) : Recovered (.list items) := by
  apply recovered_of_succ (.list writable)
  intro fuel rest _ enough
  cases items with
  | nil => rfl
  | cons item items =>
    rcases begins_items (writable item List.mem_cons_self) items with
      ⟨first, tail, written, filled, opening⟩
    have enoughInside : (writeItems (item :: items)).length < fuel := by
      simp only [writeChars_list, List.length_cons, List.length_append] at enough
      omega
    have content :=
      readItems_writeItems (List.cons_ne_nil item items) recovered enoughInside rest
    rw [writeChars_list, List.cons_append, List.append_assoc, List.singleton_append,
      readTree_bracket]
    rw [written, List.cons_append] at content ⊢
    rw [skipSpace_cons filled]
    -- No item begins like the end of the list, so it is not mistaken for an empty one.
    split
    next same => exact absurd (List.cons.inj same).1 opening
    next => rw [content, Option.map_some]

theorem recovered_object {members : List (String × Json)}
    (writable : ∀ member ∈ members, Writable member.2)
    (recovered : ∀ member ∈ members, member.2.Recovered) : Recovered (.object members) := by
  apply recovered_of_succ (.object writable)
  intro fuel rest _ enough
  cases members with
  | nil => rfl
  | cons member members =>
    have enoughInside : (writeMembers (member :: members)).length < fuel := by
      simp only [writeChars_object, List.length_cons, List.length_append] at enough
      omega
    have content :=
      readMembers_writeMembers (List.cons_ne_nil member members) recovered enoughInside rest
    have opening : ∃ tail, writeMembers (member :: members) = '"' :: tail := by
      cases members <;> exact ⟨_, rfl⟩
    rcases opening with ⟨tail, written⟩
    rw [writeChars_object, List.cons_append, List.append_assoc, List.singleton_append,
      readTree_brace]
    rw [written, List.cons_append] at content ⊢
    rw [skipSpace_cons rfl]
    split
    next same => cases same
    next => simp only [content, Option.map_some, ofMembers_some]

/-- Every tree that a text denotes is recovered. -/
theorem recovered (writable : Writable tree) : tree.Recovered := by
  induction writable with
  | null => exact recovered_of_succ .null fun _ _ _ _ => rfl
  | bool truth =>
    apply recovered_of_succ (.bool truth)
    intro fuel rest _ _
    cases truth <;> rfl
  | number wellFormed =>
    apply recovered_of_succ (.number wellFormed)
    intro fuel rest closes _
    rcases wellFormed.begins with ⟨first, tail, written, begins⟩
    have read := readNumber_write wellFormed closes
    rw [written, List.cons_append] at read
    rw [writeChars_number, written, List.cons_append, readTree_number begins, read, Option.map_some]
  | text content =>
    apply recovered_of_succ (.text content)
    intro fuel rest _ _
    rw [writeChars_text, writeText_append, readTree_quote, readText_escaped, Option.map_some]
    rfl
  | list writable ih => exact recovered_list writable ih
  | object writable ih => exact recovered_object writable ih

end Writable

/-- The text of a tree that a text denotes is read as the tree. -/
theorem read?_write {tree : Json} (writable : Writable tree) : read? tree.write = some tree := by
  have closes : Closes [] := by
    rintro c ⟨⟩
  have read : readTree (2 * tree.writeChars.length + 2) (tree.writeChars ++ []) = some (tree, []) :=
    writable.recovered closes (by omega)
  rw [List.append_nil] at read
  rw [read?, write, String.toList_ofList]
  simp [read, skipSpace]

end Json

end SpokenFeedback
