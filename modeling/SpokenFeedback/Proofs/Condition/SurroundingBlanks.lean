import SpokenFeedback.Proofs.Condition.LiteralKinds

/-!
# Blanks around a specification

Blanks before and after a specification of a numeric or boolean property change nothing of what it
demands.  Each place where a specification is taken apart drops its own blanks: before the sign of
an order relation and after the bound (`Specification.relation?_surrounded`), around each
alternative (`Text.separated_surrounded`) and around a literal.

A blank alternative is a fault that shows the whole specification.  `ValidationFault.restated` puts
another specification in its place, and this is all that distinguishes the two conditions
(`Condition.ofSpecification_surrounded`).
-/

namespace SpokenFeedback

/-! ## Blanks around a text -/

namespace Text

/-- The characters are blanks. -/
def Blank (characters : List Char) : Prop := ∀ c ∈ characters, isBlank c = true

variable {before text after : List Char}

theorem Padded.surrounded {core : List Char} (padded : Padded core text)
    (blankBefore : Blank before) (blankAfter : Blank after) :
    Padded core (before ++ text ++ after) := by
  rcases padded with ⟨first, last, blankFirst, blankLast, rfl⟩
  refine ⟨before ++ first, last ++ after, ?_, ?_, by simp⟩
  · exact List.forall_mem_append.2 ⟨blankBefore, blankFirst⟩
  · exact List.forall_mem_append.2 ⟨blankLast, blankAfter⟩

theorem trimChars_surrounded (blankBefore : Blank before) (blankAfter : Blank after) :
    trimChars (before ++ text ++ after) = trimChars text :=
  trimChars_of_padded ((padded_trimChars text).surrounded blankBefore blankAfter)
    (tight_trimChars text)

theorem trimChars_blank_append (blankBefore : Blank before) :
    trimChars (before ++ text) = trimChars text := by
  have surrounded : trimChars (before ++ text ++ []) = trimChars text :=
    trimChars_surrounded blankBefore (List.forall_mem_nil _)
  rwa [List.append_nil] at surrounded

theorem trimChars_append_blank (blankAfter : Blank after) :
    trimChars (text ++ after) = trimChars text :=
  trimChars_surrounded (List.forall_mem_nil _) blankAfter

/-- Without leading blanks a text either is empty, as all was blank, or is continued. -/
theorem trimStart_surrounded (blankBefore : Blank before) (blankAfter : Blank after) :
    trimStart (before ++ text ++ after) =
      if trimStart text = [] then [] else trimStart text ++ after := by
  split
  next blank =>
    rw [trimStart_eq_nil_iff] at blank ⊢
    exact List.forall_mem_append.2 ⟨List.forall_mem_append.2 ⟨blankBefore, blank⟩, blankAfter⟩
  next filled =>
    rcases trimStart_decompose text with ⟨first, blankFirst, decomposed⟩
    have shape : before ++ text ++ after = (before ++ first) ++ (trimStart text ++ after) := by
      rw [List.append_assoc before first, ← List.append_assoc first, ← decomposed,
        List.append_assoc]
    rw [shape]
    apply trimStart_append (List.forall_mem_append.2 ⟨blankBefore, blankFirst⟩)
    intro c isFirst
    rw [List.head?_append_of_ne_nil _ filled] at isFirst
    exact isBlank_of_head?_trimStart text isFirst

/-! ## Bars between blanks -/

theorem ne_bar_of_blank {characters : List Char} (blank : Blank characters) :
    ∀ c ∈ characters, c ≠ '|' := by
  rintro c member rfl
  exact absurd (blank '|' member) (by decide)

theorem doubleBar_infix_blank_append (blankBefore : Blank before) :
    doubleBar <:+: before ++ text ↔ doubleBar <:+: text := by
  have noBar := ne_bar_of_blank blankBefore
  clear blankBefore
  constructor
  · intro within
    by_contra unbarred
    induction before with
    | nil => exact unbarred within
    | cons c before ih =>
      rcases List.forall_mem_cons.1 noBar with ⟨noFirst, noOther⟩
      exact not_infix_cons (ih noOther) (fun isBar => absurd isBar noFirst) within
  · exact fun within => within.trans (List.suffix_append before text).isInfix

theorem doubleBar_infix_append_blank (blankAfter : Blank after) :
    doubleBar <:+: text ++ after ↔ doubleBar <:+: text := by
  have mirrored : Blank after.reverse := fun c member => blankAfter c (List.mem_reverse.1 member)
  have turned : ∀ characters : List Char,
      doubleBar <:+: characters ↔ doubleBar <:+: characters.reverse :=
    fun characters => List.reverse_infix.symm
  rw [turned, List.reverse_append, doubleBar_infix_blank_append mirrored, ← turned]

theorem hasBars_surrounded (blankBefore : Blank before) (blankAfter : Blank after) :
    hasBars (before ++ text ++ after) = hasBars text := by
  rw [Bool.eq_iff_iff, hasBars_iff, hasBars_iff, doubleBar_infix_append_blank blankAfter,
    doubleBar_infix_blank_append blankBefore]

/-- Blanks in front of a text belong to its first piece. -/
theorem Separated.blank_append {pieces : List (List Char)} (separated : Separated text pieces)
    (blankBefore : Blank before) :
    ∃ others, Separated (before ++ text) others ∧
      others.map trimChars = pieces.map trimChars := by
  cases separated with
  | last unbarred =>
    refine ⟨[before ++ text], .last ?_, ?_⟩
    · rwa [doubleBar_infix_blank_append blankBefore]
    · rw [List.map_singleton, List.map_singleton, trimChars_blank_append blankBefore]
  | @bar piece rest pieces leftmost onwards =>
    refine ⟨(before ++ piece) :: pieces, ?_, ?_⟩
    · rw [← List.append_assoc, ← List.append_assoc]
      apply Separated.bar _ onwards
      rwa [List.append_assoc, doubleBar_infix_blank_append blankBefore]
    · rw [List.map_cons, List.map_cons, trimChars_blank_append blankBefore]

/-- Blanks after a text belong to its last piece. -/
theorem Separated.append_blank {pieces : List (List Char)} (separated : Separated text pieces)
    (blankAfter : Blank after) :
    ∃ others, Separated (text ++ after) others ∧
      others.map trimChars = pieces.map trimChars := by
  induction separated with
  | @last piece unbarred =>
    refine ⟨[piece ++ after], .last ?_, ?_⟩
    · rwa [doubleBar_infix_append_blank blankAfter]
    · rw [List.map_singleton, List.map_singleton, trimChars_append_blank blankAfter]
  | @bar piece rest pieces leftmost onwards ih =>
    rcases ih with ⟨others, separatedRest, same⟩
    refine ⟨piece :: others, ?_, ?_⟩
    · rw [List.append_assoc]
      exact .bar leftmost separatedRest
    · rw [List.map_cons, List.map_cons, same]

theorem separated_surrounded {pieces : List (List Char)} (blankBefore : Blank before)
    (blankAfter : Blank after) (separated : Separated text pieces) :
    ∃ others, Separated (before ++ text ++ after) others ∧
      others.map trimChars = pieces.map trimChars := by
  rcases separated.blank_append blankBefore with ⟨started, separatedStarted, sameStarted⟩
  rcases separatedStarted.append_blank blankAfter with ⟨others, separatedOthers, same⟩
  exact ⟨others, separatedOthers, same.trans sameStarted⟩

end Text

/-! ## Faults that show the specification -/

/-- The fault with another specification to show, which a blank alternative alone does. -/
def ValidationFault.restated (specification : String) : ValidationFault → ValidationFault
  | .emptyAlternative property _ => .emptyAlternative property specification
  | fault => fault

/-- The demand with another specification for its fault to show. -/
def Demand.restated (specification : String) : Demand → Demand
  | .malformed mode fault => .malformed mode (fault.restated specification)
  | demand => demand

/-- The fault of a literal shows the literal alone. -/
theorem Literal.mapError_read (property : Property) (text specification : String) :
    (read property text).mapError (·.restated specification) = read property text := by
  cases reading : read property text with
  | ok value => rfl
  | error fault =>
    rw [eq_refusal_of_read reading, refusal]
    split
    next => rfl
    next => rfl

namespace Condition

variable {property : Property} {demand : Demand} {stated : String}

theorem mode_restated : mode ⟨property, demand.restated stated⟩ = mode ⟨property, demand⟩ := by
  cases demand <;> rfl

theorem values_restated :
    values ⟨property, demand.restated stated⟩ = values ⟨property, demand⟩ := by
  cases demand <;> rfl

theorem diagnostic?_restated :
    diagnostic? ⟨property, demand.restated stated⟩ =
      (diagnostic? ⟨property, demand⟩).map (·.restated stated) := by
  cases demand <;> rfl

end Condition

/-! ## The three forms between blanks -/

namespace Specification

variable {property : Property} {before after : List Char}

/-- Blanks after a sign belong to the bound, as none of them makes the sign longer. -/
theorem relation?_append_blank {text : List Char} (filled : text ≠ [])
    (blankAfter : Text.Blank after) :
    relation? (text ++ after) =
      (relation? text).map fun stated => (stated.1, stated.2 ++ after) := by
  have apart : ∀ rest, after ≠ '=' :: rest := by
    rintro rest rfl
    exact absurd (blankAfter '=' List.mem_cons_self) (by decide)
  have longest {rest : List Char} (single : ∀ others, rest = '=' :: others → False)
      (others : List Char) : rest ++ after ≠ '=' :: others := by
    cases rest with
    | nil => exact apart others
    | cons c rest =>
      intro shape
      exact single rest (by rw [(List.cons.inj shape).1])
  fun_cases relation? text with
  | case1 rest => rfl
  | case2 rest => rfl
  | case3 rest single =>
    rw [List.cons_append, relation?]
    · rfl
    · exact longest single
  | case4 rest single =>
    rw [List.cons_append, relation?]
    · rfl
    · exact longest single
  | case5 _ _ _ notBelow notAbove =>
    rcases List.exists_cons_of_ne_nil filled with ⟨c, rest, rfl⟩
    rw [List.cons_append, relation?_cons_of_ne]
    · rfl
    · rintro rfl
      exact notBelow rest rfl
    · rintro rfl
      exact notAbove rest rfl

/-- Blanks in front of a sign do not count, and blanks after the text belong to the bound. -/
theorem relation?_surrounded {text : List Char} (blankBefore : Text.Blank before)
    (blankAfter : Text.Blank after) :
    relation? (Text.trimStart (before ++ text ++ after)) =
      (relation? (Text.trimStart text)).map fun stated => (stated.1, stated.2 ++ after) := by
  rw [Text.trimStart_surrounded blankBefore blankAfter]
  split
  next blank =>
    rw [blank]
    rfl
  next filled => exact relation?_append_blank filled blankAfter

theorem relationFor?_surrounded (property : Property) {specification surrounded : String}
    (blankBefore : Text.Blank before) (blankAfter : Text.Blank after)
    (shown : surrounded.toList = before ++ specification.toList ++ after) :
    relationFor? property surrounded =
      (relationFor? property specification).map fun stated => (stated.1, stated.2 ++ after) := by
  rw [relationFor?, relationFor?, shown, relation?_surrounded blankBefore blankAfter]
  split
  next => rfl
  next => rfl

/-- Pieces that are the same but for the blanks around them are read alike. -/
theorem readAlternatives_of_map_trimChars_eq {pieces others : List (List Char)}
    (same : others.map Text.trimChars = pieces.map Text.trimChars)
    (specification stated : String) :
    readAlternatives property stated others =
      (readAlternatives property specification pieces).mapError (·.restated stated) := by
  induction pieces generalizing others with
  | nil =>
    rw [List.map_eq_nil_iff.1 same]
    rfl
  | cons piece pieces ih =>
    rcases List.map_eq_cons_iff.1 same with ⟨other, others, rfl, first, rest⟩
    have alike : readAlternative property stated other =
        (readAlternative property specification piece).mapError (·.restated stated) := by
      rw [readAlternative_eq, readAlternative_eq, trimmed, trimmed, first]
      split
      next => rfl
      next => exact (Literal.mapError_read _ _ _).symm
    rw [readAlternatives, readAlternatives, alike, ih rest]
    cases readAlternative property specification piece with
    | error fault => rfl
    | ok value => cases readAlternatives property specification pieces <;> rfl

theorem demandOf_mapError {mode : Mode} {demand : α → Demand} {stated : String}
    (formed : ∀ read, (demand read).restated stated = demand read)
    (reading : Except ValidationFault α) :
    demandOf mode demand (reading.mapError (·.restated stated)) =
      (demandOf mode demand reading).restated stated := by
  cases reading with
  | ok read => exact (formed read).symm
  | error fault => rfl

/-- Blanks around a specification show in a fault alone. -/
theorem demand_surrounded (trims : property.kind.isTextual = false) {before after : String}
    (blankBefore : Text.Blank before.toList) (blankAfter : Text.Blank after.toList)
    (specification : String) :
    demand property (before ++ specification ++ after) =
      (demand property specification).restated (before ++ specification ++ after) := by
  have shown : (before ++ specification ++ after).toList =
      before.toList ++ specification.toList ++ after.toList := by
    rw [String.toList_append, String.toList_append]
  -- A blank alternative shows the specification as a whole, so that it is kept as one text.
  generalize before ++ specification ++ after = surrounded at shown
  rw [demand, demand, relationFor?_surrounded property blankBefore blankAfter shown]
  cases relationFor? property specification with
  | some stated =>
    have bound : Text.trim (String.ofList (stated.2 ++ after.toList)) =
        Text.trim (String.ofList stated.2) := by
      rw [Text.trim, Text.trim, String.toList_ofList, String.toList_ofList,
        Text.trimChars_append_blank blankAfter]
    change demandOf _ _ _ = (demandOf _ _ _).restated _
    rw [bound, ← demandOf_mapError (fun _ => rfl), Literal.mapError_read]
  | none =>
    rcases Text.separated_surrounded blankBefore blankAfter
      (Text.separated_cutBars specification.toList) with ⟨others, separated, same⟩
    have barred : Text.hasBars surrounded.toList = Text.hasBars specification.toList := by
      rw [shown, Text.hasBars_surrounded blankBefore blankAfter]
    rw [← shown, Text.separated_iff] at separated
    have single : Literal.read property surrounded = Literal.read property specification := by
      apply Literal.read_eq_of_trim_eq trims
      rw [Text.trim, Text.trim, shown, Text.trimChars_surrounded blankBefore blankAfter]
    change ite _ _ _ = (ite _ _ _ : Demand).restated _
    rw [barred, separated, single]
    split
    next =>
      rw [← demandOf_mapError (fun _ => rfl),
        readAlternatives_of_map_trimChars_eq same specification surrounded]
    next => rw [← demandOf_mapError (fun _ => rfl), Literal.mapError_read]

end Specification

namespace Condition

variable {property : Property}

/--
Blanks around the specification of a numeric or boolean property change neither the form of the
condition nor its values, and the condition has the same fault, if any; where the fault shows the
specification, it shows it with these blanks.
-/
theorem ofSpecification_surrounded (trims : property.kind.isTextual = false)
    {before after : String} (blankBefore : Text.isBlankText before = true)
    (blankAfter : Text.isBlankText after = true) (specification : String) :
    let plain := ofSpecification property specification
    let surrounded := ofSpecification property (before ++ specification ++ after)
    surrounded.mode = plain.mode ∧ surrounded.values = plain.values ∧
      surrounded.diagnostic?.isSome = plain.diagnostic?.isSome ∧
      surrounded.diagnostic? =
        plain.diagnostic?.map (·.restated (before ++ specification ++ after)) := by
  intro plain surrounded
  have demanded := Specification.demand_surrounded trims (List.all_eq_true.1 blankBefore)
    (List.all_eq_true.1 blankAfter) specification
  have restated : surrounded = ⟨property,
      (Specification.demand property specification).restated
        (before ++ specification ++ after)⟩ :=
    congrArg (Condition.mk property) demanded
  have diagnosed := (congrArg diagnostic? restated).trans diagnostic?_restated
  refine ⟨?_, ?_, ?_, diagnosed⟩
  · exact (congrArg mode restated).trans mode_restated
  · exact (congrArg values restated).trans values_restated
  · rw [diagnosed, Option.isSome_map]
    rfl

/-- Blanks after a double bar are a blank alternative, whose fault shows all blanks of the text. -/
theorem ofSpecification_surrounded_at_blank_alternative :
    Property.itemCount.kind.isTextual = false ∧ Text.isBlankText "\n " = true ∧
      Text.isBlankText "\u00a0" = true ∧
      let surrounded := ofSpecification .itemCount ("\n " ++ "1||" ++ "\u00a0")
      surrounded.mode = .oneOf ∧ surrounded.values = [] ∧
        surrounded.diagnostic? = some (.emptyAlternative "itemCount" "\n 1||\u00a0") := by
  have trims : Property.itemCount.kind.isTextual = false := rfl
  have blankBefore : Text.isBlankText "\n " = true := by decide
  have blankAfter : Text.isBlankText "\u00a0" = true := by decide
  rcases ofSpecification_surrounded trims blankBefore blankAfter "1||" with
    ⟨mode, values, -, diagnosed⟩
  refine ⟨trims, blankBefore, blankAfter, ?_, ?_, ?_⟩
  · exact mode.trans (by decide)
  · exact values.trans (by decide)
  · exact diagnosed.trans (by decide)

end Condition

end SpokenFeedback
