import SpokenFeedback.Proofs.Condition.IntegerDenotation
import SpokenFeedback.Proofs.Condition.LiteralKinds

/-!
# Descriptions read back

The description of a condition is its property, an equals sign unless the demand has a sign of its
own, and the text of the demand (`Demand.spelling`).  This text is a specification of the same
condition (`Condition.ofSpecification_describe`): an integer is written in digits whatever spelled
it, a boolean as one of two words, and a text as it stands.

Floats are left out, as they are written in a layout of their own.  A text that ends in a bar cannot
stand before a double bar, which would then be found one character early.
-/

namespace SpokenFeedback

/-! ## Joined pieces -/

namespace Text

theorem not_infix_append_bar {piece : List Char} (unbarred : ¬ doubleBar <:+: piece)
    (apart : piece.getLast? ≠ some '|') : ¬ doubleBar <:+: piece ++ ['|'] := by
  rw [List.infix_concat_iff, not_or]
  refine ⟨?_, unbarred⟩
  intro ends
  rcases List.suffix_concat_iff.1 ends with empty | ⟨front, shape, start, rfl⟩
  · cases empty
  · have single : ['|'] = front := List.append_cancel_right shape
    apply apart
    rw [← single, List.getLast?_concat]

/-- Joined pieces are cut where they were joined, if no bar stands before a joint. -/
theorem separated_intercalate {pieces : List (List Char)} (filled : pieces ≠ [])
    (unbarred : ∀ piece ∈ pieces, ¬ doubleBar <:+: piece)
    (apart : ∀ piece ∈ pieces.dropLast, piece.getLast? ≠ some '|') :
    Separated (doubleBar.intercalate pieces) pieces := by
  induction pieces with
  | nil => exact absurd rfl filled
  | cons piece pieces ih =>
    rcases List.forall_mem_cons.1 unbarred with ⟨unbarredFirst, unbarredOthers⟩
    cases pieces with
    | nil =>
      rw [List.intercalate_singleton]
      exact .last unbarredFirst
    | cons next later =>
      rw [List.dropLast_cons_cons] at apart
      rcases List.forall_mem_cons.1 apart with ⟨apartFirst, apartOthers⟩
      rw [List.intercalate_cons_cons]
      exact .bar (not_infix_append_bar unbarredFirst apartFirst)
        (ih (List.cons_ne_nil _ _) unbarredOthers apartOthers)

/-- A double bar leaves at least two pieces. -/
theorem Separated.several {text : List Char} {pieces : List (List Char)}
    (separated : Separated text pieces) (barred : doubleBar <:+: text) :
    ∃ first second others, pieces = first :: second :: others := by
  cases separated with
  | last unbarred => exact absurd barred unbarred
  | bar leftmost onwards =>
    cases onwards with
    | last => exact ⟨_, _, [], rfl⟩
    | bar => exact ⟨_, _, _, rfl⟩

end Text

/-! ## Values as literals -/

namespace Literal

variable {property : Property} {text : String} {value : Value}

theorem denotes_display (property : Property) (word : Int64) :
    Denotes property (Value.int word).display.toList word := by
  apply Denotes.number
  rw [← Numeral.readWord_eq_some_iff, Value.display, Numeral.writeWord, String.toList_ofList]
  exact Numeral.readWord_writeInt word

theorem isTrue_display (truth : Bool) : isTrue (Text.trim (Value.bool truth).display) = truth := by
  cases truth with
  | true => decide
  | false => decide

theorem display_of_textual (textual : property.kind.isTextual = true)
    (reading : read property text = .ok value) : value.display = text := by
  rw [read] at reading
  cases kind : property.kind with
  | integer | float | boolean =>
    rw [kind] at textual
    cases textual
  | string | typeName | capability =>
    rw [kind] at reading
    rcases Except.ok.inj reading with rfl
    rfl

theorem display_bool_plain (truth : Bool) :
    ∀ c ∈ (Value.bool truth).display.toList, Text.isBlank c = false ∧ c ≠ '|' := by
  have plain : (Value.bool truth).display.toList.all
      (fun c => !Text.isBlank c && c != '|') = true := by
    cases truth with
    | true => decide
    | false => decide
  intro c member
  simpa using List.all_eq_true.1 plain c member

/-- The text of an integer or a boolean is not empty and has neither blanks nor bars. -/
theorem display_of_trims (discrete : property.kind ≠ .float)
    (trims : property.kind.isTextual = false) (reading : read property text = .ok value) :
    value.display ≠ "" ∧ ∀ c ∈ value.display.toList, Text.isBlank c = false ∧ c ≠ '|' := by
  cases kind : property.kind with
  | integer =>
    rcases (read_integer_iff kind).1 reading with ⟨word, -, rfl⟩
    have denoted := denotes_display property word
    refine ⟨fun empty => denoted.ne_nil (String.toList_eq_nil_iff.2 empty), ?_⟩
    intro c member
    have plain := denoted.plain c member
    refine ⟨isBlank_of_isPlain plain, ?_⟩
    rintro rfl
    cases plain
  | boolean =>
    rw [read, kind] at reading
    rcases Except.ok.inj reading with rfl
    refine ⟨?_, display_bool_plain _⟩
    cases isTrue (Text.trim text) with
    | true => decide
    | false => decide
  | float => exact absurd kind discrete
  | string | typeName | capability =>
    rw [kind] at trims
    cases trims

/-- The text of a value that a literal was read as is a literal that is read so. -/
theorem read_display (discrete : property.kind ≠ .float)
    (reading : read property text = .ok value) : read property value.display = .ok value := by
  cases kind : property.kind with
  | integer =>
    rcases (read_integer_iff kind).1 reading with ⟨word, -, rfl⟩
    rw [read_integer_iff kind]
    exact ⟨word, ⟨_, Text.padded_self _, denotes_display property word⟩, rfl⟩
  | boolean =>
    rw [read, kind] at reading ⊢
    rcases Except.ok.inj reading with rfl
    exact congrArg (Except.ok ∘ Value.bool) (isTrue_display _)
  | float => exact absurd kind discrete
  | string | typeName | capability =>
    have textual : property.kind.isTextual = true := by
      rw [kind]
      rfl
    rw [display_of_textual textual reading]
    exact reading

theorem unbarred_display (discrete : property.kind ≠ .float)
    (reading : read property text = .ok value) (unbarred : ¬ Text.doubleBar <:+: text.toList) :
    ¬ Text.doubleBar <:+: value.display.toList := by
  cases textual : property.kind.isTextual with
  | true =>
    rw [display_of_textual textual reading]
    exact unbarred
  | false =>
    intro within
    rcases display_of_trims discrete textual reading with ⟨-, plain⟩
    exact (plain '|' (within.subset List.mem_cons_self)).2 rfl

end Literal

/-! ## Demands as specifications -/

/--
The text of the demand in a description, where it follows the property and, unless an order relation
starts it, an equals sign.
-/
def Demand.spelling : Demand → String
  | .anything => "*"
  | .equals value => value.display
  | .ordered relation bound => relation.sign ++ bound.display
  | .oneOf values => "||".intercalate (values.map Value.display)
  | .malformed _ _ => "!"

namespace Specification

variable {property : Property} {specification : String}

theorem demand_sign_append (discrete : property.kind ≠ .float)
    (numeric : property.kind.isNumeric = true) (relation : OrderRelation) {text : String}
    {bound : Value} (reading : Literal.read property text = .ok bound) :
    demand property (relation.sign ++ bound.display) = .ordered relation bound := by
  have integer : property.kind = .integer := by
    cases kind : property.kind with
    | integer => rfl
    | float => exact absurd kind discrete
    | boolean | string | typeName | capability =>
      rw [kind] at numeric
      cases numeric
  rcases (Literal.read_integer_iff integer).1 reading with ⟨word, -, rfl⟩
  have spelled : Literal.Spells property (Value.int word).display.toList word :=
    ⟨_, Text.padded_self _, Literal.denotes_display property word⟩
  have stated : relationFor? property (relation.sign ++ (Value.int word).display) =
      some (relation, (Value.int word).display.toList) :=
    relationFor?_of_spells integer (List.forall_mem_nil _) spelled String.toList_append
  have read := (read_trim_iff integer).2 ⟨word, spelled, rfl⟩
  rw [demand, stated]
  dsimp only
  rw [read]
  rfl

section Alternatives

variable {pieces : List (List Char)} {values : List Value}

/-- An alternative is read back from the text of its value. -/
theorem readAlternative_display (discrete : property.kind ≠ .float) {piece : List Char}
    {value : Value} (reading : readAlternative property specification piece = .ok value)
    (stated : String) : readAlternative property stated value.display.toList = .ok value := by
  rcases readAlternative_eq_ok_iff.1 reading with ⟨filled, read⟩
  have same : trimmed value.display.toList = value.display ∧ value.display ≠ "" := by
    cases textual : property.kind.isTextual with
    | true =>
      rw [Literal.display_of_textual textual read, trimmed, trimmed, String.toList_ofList,
        Text.trimChars_trimChars]
      exact ⟨rfl, filled⟩
    | false =>
      rcases Literal.display_of_trims discrete textual read with ⟨someText, plain⟩
      have tight := Text.tight_of_forall fun c member => (plain c member).1
      rw [trimmed, Text.trimChars_of_padded (Text.padded_self _) tight, String.ofList_toList]
      exact ⟨rfl, someText⟩
  rw [readAlternative_eq_ok_iff, same.1]
  exact ⟨same.2, Literal.read_display discrete read⟩

theorem exists_piece_of_mem
    (reading : readAlternatives property specification pieces = .ok values) :
    ∀ value ∈ values, ∃ piece ∈ pieces,
      readAlternative property specification piece = .ok value := by
  have each := readAlternatives_eq_ok_iff.1 reading
  clear reading
  induction each with
  | nil => exact List.forall_mem_nil _
  | cons first _ ih =>
    rw [List.forall_mem_cons]
    refine ⟨⟨_, List.mem_cons_self, first⟩, ?_⟩
    intro value member
    rcases ih value member with ⟨piece, listed, read⟩
    exact ⟨piece, List.mem_cons_of_mem _ listed, read⟩

theorem readAlternatives_displays (discrete : property.kind ≠ .float)
    (reading : readAlternatives property specification pieces = .ok values) (stated : String) :
    readAlternatives property stated (values.map (·.display.toList)) = .ok values := by
  rw [readAlternatives_eq_ok_iff, List.forall₂_map_left_iff, List.forall₂_same]
  intro value member
  rcases exists_piece_of_mem reading value member with ⟨piece, -, read⟩
  exact readAlternative_display discrete read stated

theorem map_trimChars_of_textual (textual : property.kind.isTextual = true)
    (reading : readAlternatives property specification pieces = .ok values) :
    pieces.map Text.trimChars = values.map (·.display.toList) := by
  rw [← List.forall₂_eq_eq_eq, List.forall₂_map_left_iff, List.forall₂_map_right_iff]
  apply (readAlternatives_eq_ok_iff.1 reading).imp
  intro piece value read
  rw [Literal.display_of_textual textual (readAlternative_eq_ok_iff.1 read).2, trimmed,
    String.toList_ofList]

/-- The texts of the values are the pieces between the double bars that join them. -/
theorem separated_displays (discrete : property.kind ≠ .float) (filled : values ≠ [])
    (unbarred : ∀ piece ∈ pieces, ¬ Text.doubleBar <:+: piece)
    (reading : readAlternatives property specification pieces = .ok values)
    (apart : property.kind.isTextual = true →
      ∀ piece ∈ pieces.dropLast, (Text.trimChars piece).getLast? ≠ some '|') :
    Text.Separated (Text.doubleBar.intercalate (values.map (·.display.toList)))
      (values.map (·.display.toList)) := by
  apply Text.separated_intercalate (mt List.map_eq_nil_iff.1 filled)
  · rw [List.forall_mem_map]
    intro value member
    rcases exists_piece_of_mem reading value member with ⟨piece, listed, read⟩
    apply Literal.unbarred_display discrete (readAlternative_eq_ok_iff.1 read).2
    rw [trimmed, String.toList_ofList]
    exact fun within => unbarred piece listed (within.trans (Text.trimChars_infix piece))
  · -- Texts stand as they were given, and the text of any other value has no bar at all.
    cases textual : property.kind.isTextual with
    | true =>
      rw [← map_trimChars_of_textual textual reading, ← List.map_dropLast, List.forall_mem_map]
      exact apart textual
    | false =>
      rw [← List.map_dropLast, List.forall_mem_map]
      intro value member isLast
      rcases exists_piece_of_mem reading value (List.mem_of_mem_dropLast member) with
        ⟨piece, -, read⟩
      rcases Literal.display_of_trims discrete textual (readAlternative_eq_ok_iff.1 read).2 with
        ⟨-, plain⟩
      exact (plain '|' (List.mem_of_getLast? isLast)).2 rfl

theorem toList_intercalate_display (values : List Value) :
    ("||".intercalate (values.map Value.display)).toList =
      Text.doubleBar.intercalate (values.map (·.display.toList)) := by
  rw [String.toList_intercalate, List.map_map]
  rfl

theorem demand_intercalate (discrete : property.kind ≠ .float)
    (barred : Text.doubleBar <:+: specification.toList)
    (separated : Text.Separated specification.toList pieces)
    (reading : readAlternatives property specification pieces = .ok values)
    (apart : property.kind.isTextual = true →
      ∀ piece ∈ pieces.dropLast, (Text.trimChars piece).getLast? ≠ some '|') :
    demand property ("||".intercalate (values.map Value.display)) = .oneOf values := by
  have several : ∃ first second others, values = first :: second :: others := by
    rcases separated.several barred with ⟨left, right, more, rfl⟩
    rcases readAlternatives_eq_ok_iff.1 reading with _ | ⟨-, _ | ⟨-, -⟩⟩
    exact ⟨_, _, _, rfl⟩
  rcases several with ⟨first, second, others, rfl⟩
  have cut := separated_displays discrete (List.cons_ne_nil _ _) separated.unbarred reading apart
  have shown := toList_intercalate_display (first :: second :: others)
  have joined : Text.doubleBar.intercalate ((first :: second :: others).map (·.display.toList)) =
      first.display.toList ++ (Text.doubleBar ++
        Text.doubleBar.intercalate ((second :: others).map (·.display.toList))) := by
    rw [List.map_cons, List.map_cons, List.intercalate_cons_cons, List.append_assoc]
  generalize "||".intercalate ((first :: second :: others).map Value.display) = spelled at shown ⊢
  -- A literal comes first, so that no order relation is stated.
  have unrelated : relationFor? property spelled = none := by
    rcases exists_piece_of_mem reading first List.mem_cons_self with ⟨piece, -, read⟩
    apply relationFor?_of_read (shown.trans joined)
    rw [String.ofList_toList]
    exact Literal.read_display discrete (readAlternative_eq_ok_iff.1 read).2
  have barredAgain : Text.hasBars spelled.toList = true := by
    rw [Text.hasBars_iff, shown, joined]
    exact ⟨_, _, List.append_assoc _ _ _⟩
  rw [← shown] at cut
  rw [demand, unrelated]
  dsimp only
  rw [if_pos barredAgain, Text.separated_iff.1 cut, readAlternatives_displays discrete reading]
  rfl

end Alternatives

/-- The text of a sound demand states this demand, in each of the three forms. -/
theorem demand_spelling (discrete : property.kind ≠ .float)
    (sound : (Condition.ofSpecification property specification).diagnostic? = none)
    (apart : (Condition.ofSpecification property specification).mode = .oneOf →
      property.kind.isTextual = true → ∀ piece ∈ (Text.cutBars specification.toList).dropLast,
        (Text.trimChars piece).getLast? ≠ some '|') :
    demand property (demand property specification).spelling = demand property specification := by
  rw [Condition.ofSpecification] at sound apart
  rcases demand_cases property specification with
    ⟨relation, bound, stated, demanded⟩ | ⟨barred, demanded⟩ | ⟨unbarred, demanded⟩
  · rw [demanded, diagnostic?_demandOf_iff fun _ => rfl] at sound
    rcases sound with ⟨value, read⟩
    have numeric : property.kind.isNumeric = true := by
      rw [relationFor?, Option.ite_none_right_eq_some] at stated
      exact stated.1
    rw [demanded, read]
    exact demand_sign_append discrete numeric relation read
  · rw [demanded, diagnostic?_demandOf_iff fun _ => rfl] at sound
    rcases sound with ⟨values, read⟩
    rw [demanded, read] at apart ⊢
    exact demand_intercalate discrete barred (Text.separated_cutBars _) read (apart rfl)
  · rw [demanded, diagnostic?_demandOf_iff fun _ => rfl] at sound
    rcases sound with ⟨value, read⟩
    rw [demanded, read]
    exact demand_of_read (Literal.unbarred_display discrete read unbarred)
      (Literal.read_display discrete read)

end Specification

namespace Condition

variable {property : Property} {specification : String}

theorem describe_eq {condition : Condition} (sound : condition.diagnostic? = none) :
    condition.describe =
      condition.property.name ++ (if condition.mode.isOrdered then "" else "=") ++
        condition.demand.spelling := by
  rcases condition with ⟨property, demand⟩
  rw [String.append_assoc]
  cases demand with
  | malformed mode fault => cases sound
  | ordered relation bound =>
    change _ = property.name ++ ("" ++ _)
    rw [String.empty_append]
    rfl
  | anything | equals value | oneOf values => rfl

/--
What a condition's description says after the property and, unless the condition compares by order,
an equals sign is a specification of the same condition.  The specification that the condition came
from must be sound and its property not a float; and if it lists texts, names of types or
capabilities, then none before the last ends in a bar.
-/
theorem ofSpecification_describe (discrete : property.kind ≠ .float)
    (sound : (ofSpecification property specification).diagnostic? = none)
    (apart : (ofSpecification property specification).mode = .oneOf →
      property.kind.isTextual = true → ∀ piece ∈ (Text.cutBars specification.toList).dropLast,
        (Text.trimChars piece).getLast? ≠ some '|') :
    let condition := ofSpecification property specification
    let start := property.name ++ if condition.mode.isOrdered then "" else "="
    (∃ bare, condition.describe = start ++ bare) ∧
      ∀ bare, condition.describe = start ++ bare → ofSpecification property bare = condition := by
  intro condition start
  have described : condition.describe = start ++ condition.demand.spelling := describe_eq sound
  refine ⟨⟨_, described⟩, ?_⟩
  intro bare describes
  rw [described, String.append_right_inj] at describes
  rw [← describes]
  exact congrArg (Condition.mk property)
    (Specification.demand_spelling discrete sound apart)

/-- A bar that starts an alternative and one that ends the last alternative are read back. -/
theorem ofSpecification_describe_at_three_bars :
    Property.className.kind ≠ .float ∧
      (ofSpecification .className " View ||| Dial|").diagnostic? = none ∧
      ((ofSpecification .className " View ||| Dial|").mode = .oneOf →
        Property.className.kind.isTextual = true →
        ∀ piece ∈ (Text.cutBars " View ||| Dial|".toList).dropLast,
          (Text.trimChars piece).getLast? ≠ some '|') ∧
      ofSpecification .className "View||| Dial|" =
        ofSpecification .className " View ||| Dial|" := by
  have discrete : Property.className.kind ≠ .float := by decide
  have sound : (ofSpecification .className " View ||| Dial|").diagnostic? = none := by decide
  have apart : (ofSpecification .className " View ||| Dial|").mode = .oneOf →
      Property.className.kind.isTextual = true →
      ∀ piece ∈ (Text.cutBars " View ||| Dial|".toList).dropLast,
        (Text.trimChars piece).getLast? ≠ some '|' := by
    decide
  refine ⟨discrete, sound, apart, ?_⟩
  exact (ofSpecification_describe discrete sound apart).2 "View||| Dial|" (by decide)

-- Before a double bar, a bar of the text itself is taken for the first of the two.
example :
    (ofSpecification .className "View| || Dial").describe = "className=View|||Dial" ∧
      (ofSpecification .className "View| || Dial").names = ["View|", "Dial"] ∧
      (ofSpecification .className "View|||Dial").names = ["View", "|Dial"] := by
  decide

end Condition

end SpokenFeedback
