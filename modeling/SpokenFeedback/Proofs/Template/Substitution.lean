import SpokenFeedback.Proofs.Template.Grammar

/-!
# Substitution

A rendered template is its tokens one after another, with arguments in the place of placeholders.  A
placeholder for the next argument takes the one whose index is the number of such placeholders
before it; `Template.counted` gives each token together with this number, and `Template.Token.Shows`
says which text then stands for the token.

`Template.renderTokens_eq_ok_iff` says that the renderer puts these texts together, provided that
every placeholder finds an argument, and `Template.index_lt_of_takes` that each of them does if
there are as many arguments as the template has places for.
-/

namespace SpokenFeedback

/-- The canonical text of a word is that of the integer. -/
theorem Numeral.writeWord_eq_toString (word : Int64) :
    Numeral.writeWord word = toString word.toInt := by
  rw [Numeral.writeWord, Numeral.writeInt]
  cases word.toInt with
  | ofNat magnitude => rfl
  | negSucc magnitude =>
    rw [if_pos (Int.negSucc_lt_zero magnitude), ← List.singleton_append, String.ofList_append]
    rfl

namespace Template

/-! ## Conversions -/

/-- The integer that an argument is, or whose literal its text is without the blanks around it. -/
inductive Denotes : Value → Int64 → Prop where
  | int (number : Int64) : Denotes (.int number) number
  | text {content : String} {number : Int64}
    (literal : Numeral.SignedDigits (Text.trimChars content.toList) number.toInt) :
    Denotes (.text content) number

/-- What a conversion makes of an argument: its text, or the decimal digits of its integer. -/
inductive Converts : Conversion → Value → String → Prop where
  | text (argument : Value) : Converts .text argument argument.display
  | decimal {argument : Value} {number : Int64} (denotes : Denotes argument number) :
    Converts .decimal argument (toString number.toInt)

theorem decimalOf_eq_ok_iff {argument : Value} {number : Int64} :
    decimalOf argument = .ok number ↔ Denotes argument number := by
  constructor
  · intro found
    unfold decimalOf at found
    split at found
    next =>
      cases found
      exact .int number
    next content =>
      split at found
      next literal =>
        cases found
        exact .text (Numeral.readWord_eq_some_iff.1 literal)
      next => cases found
    next => cases found
  · intro denotes
    cases denotes with
    | int => rfl
    | text literal => rw [decimalOf, Numeral.readWord_eq_some_iff.2 literal]

theorem convert_eq_ok_iff {conversion : Conversion} {argument : Value} {piece : String} :
    convert conversion argument = .ok piece ↔ Converts conversion argument piece := by
  cases conversion with
  | text =>
    constructor
    · intro converted
      cases converted
      exact .text argument
    · rintro ⟨⟩
      rfl
  | decimal =>
    rw [convert, Except.map_eq_ok_iff]
    constructor
    · rintro ⟨number, found, rfl⟩
      rw [Numeral.writeWord_eq_toString]
      exact .decimal (decimalOf_eq_ok_iff.1 found)
    · intro converts
      rcases converts with _ | denotes
      exact ⟨_, decimalOf_eq_ok_iff.2 denotes, Numeral.writeWord_eq_toString _⟩

/-- An argument without decimal digits is a fault of the formatter. -/
theorem decimalOf_eq_error {argument : Value} {fault : EvaluationFault}
    (failed : decimalOf argument = .error fault) : ∃ shown, fault = notDecimal shown := by
  unfold decimalOf at failed
  split at failed
  next => cases failed
  next =>
    split at failed
    next => cases failed
    next =>
      cases failed
      exact ⟨_, rfl⟩
  next =>
    cases failed
    exact ⟨_, rfl⟩

theorem convert_eq_error {conversion : Conversion} {argument : Value} {fault : EvaluationFault}
    (failed : convert conversion argument = .error fault) :
    ∃ shown, fault = notDecimal shown := by
  cases conversion with
  | text => cases failed
  | decimal =>
    rw [convert] at failed
    cases found : decimalOf argument with
    | ok number =>
      rw [found] at failed
      cases failed
    | error other =>
      rw [found] at failed
      rcases Except.error.inj failed with rfl
      exact decimalOf_eq_error found

/-! ## What stands for a token -/

namespace Token

/-- The token takes the argument at an index if `taken` arguments have been taken before in turn. -/
inductive Takes (taken : Nat) : Token → Nat → Conversion → Prop where
  | next (conversion : Conversion) : Takes taken (.next conversion) taken conversion
  | numbered (number : Nat) (conversion : Conversion) :
    Takes taken (.numbered number conversion) (number - 1) conversion

/-- The text stands for the token if `taken` arguments have been taken before in turn. -/
inductive Shows (arguments : List Value) (taken : Nat) : Token → String → Prop where
  | character (c : Char) : Shows arguments taken (.character c) (String.singleton c)
  | percent : Shows arguments taken .percent "%"
  | argument {token : Token} {index : Nat} {conversion : Conversion} {argument : Value}
    {piece : String} (takes : Takes taken token index conversion)
    (given : arguments[index]? = some argument) (converts : Converts conversion argument piece) :
    Shows arguments taken token piece

/-- What the renderer puts in for the token. -/
def insertion (arguments : List Value) (taken : Nat) : Token → Except EvaluationFault String
  | .character c => .ok (String.singleton c)
  | .percent => .ok "%"
  | .next conversion => convert conversion (arguments.getD taken default)
  | .numbered number conversion => convert conversion (arguments.getD (number - 1) default)

/-- How many arguments have been taken in turn after the token. -/
def after (token : Token) (taken : Nat) : Nat := if token.isNext then taken + 1 else taken

variable {arguments : List Value} {taken : Nat} {token : Token}

theorem Takes.unique {index other : Nat} {conversion : Conversion} {otherConversion : Conversion}
    (takes : token.Takes taken index conversion)
    (alsoTakes : token.Takes taken other otherConversion) :
    index = other ∧ conversion = otherConversion := by
  cases takes <;> cases alsoTakes <;> exact ⟨rfl, rfl⟩

/-- A placeholder that finds its argument puts in what the conversion makes of it. -/
theorem insertion_of_takes {index : Nat} {conversion : Conversion} {argument : Value}
    (takes : token.Takes taken index conversion) (given : arguments[index]? = some argument) :
    token.insertion arguments taken = convert conversion argument := by
  have found : arguments.getD index default = argument := by
    rw [List.getD_eq_getElem?_getD, given, Option.getD_some]
  cases takes with
  | next => rw [insertion, found]
  | numbered => rw [insertion, found]

/-- What stands for a placeholder that finds its argument is what the conversion makes of it. -/
theorem shows_iff_converts {index : Nat} {conversion : Conversion} {argument : Value}
    (takes : token.Takes taken index conversion) (given : arguments[index]? = some argument)
    {piece : String} :
    token.Shows arguments taken piece ↔ Converts conversion argument piece := by
  constructor
  · intro shows
    cases shows with
    | character => cases takes
    | percent => cases takes
    | argument alsoTakes alsoGiven converts =>
      rcases takes.unique alsoTakes with ⟨rfl, rfl⟩
      rcases Option.some.inj (given.symm.trans alsoGiven) with rfl
      exact converts
  · intro converts
    exact .argument takes given converts

/-- A token takes an argument, or the same text stands for it whatever the arguments are. -/
theorem takes_or_constant (taken : Nat) (token : Token) :
    (∃ index conversion, token.Takes taken index conversion) ∨
      ∃ constant, ∀ arguments, token.insertion arguments taken = .ok constant ∧
        ∀ piece, token.Shows arguments taken piece ↔ constant = piece := by
  cases token with
  | next conversion => exact .inl ⟨_, _, .next conversion⟩
  | numbered number conversion => exact .inl ⟨_, _, .numbered number conversion⟩
  | character c =>
    refine .inr ⟨String.singleton c, fun arguments => ⟨rfl, fun piece => ⟨?_, ?_⟩⟩⟩
    · rintro (_ | _ | ⟨⟨⟩⟩)
      rfl
    · rintro rfl
      exact .character c
  | percent =>
    refine .inr ⟨"%", fun arguments => ⟨rfl, fun piece => ⟨?_, ?_⟩⟩⟩
    · rintro (_ | _ | ⟨⟨⟩⟩)
      rfl
    · rintro rfl
      exact .percent

theorem insertion_eq_ok_iff
    (inRange : ∀ index conversion, token.Takes taken index conversion → index < arguments.length)
    {piece : String} :
    token.insertion arguments taken = .ok piece ↔ token.Shows arguments taken piece := by
  rcases token.takes_or_constant taken with ⟨index, conversion, takes⟩ | ⟨constant, same⟩
  · have given := List.getElem?_eq_getElem (inRange index conversion takes)
    rw [insertion_of_takes takes given, convert_eq_ok_iff, shows_iff_converts takes given]
  · rcases same arguments with ⟨inserted, shown⟩
    rw [inserted, shown, Except.ok.injEq]

/-- A text stands for the token unless it asks for the digits of an argument that has none. -/
theorem exists_shows_iff
    (inRange : ∀ index conversion, token.Takes taken index conversion → index < arguments.length) :
    (∃ piece, token.Shows arguments taken piece) ↔
      ∀ index argument, token.Takes taken index .decimal → arguments[index]? = some argument →
        ∃ number, Denotes argument number := by
  constructor
  · rintro ⟨piece, shows⟩ index argument takes given
    rcases (shows_iff_converts takes given).1 shows with _ | denotes
    exact ⟨_, denotes⟩
  · intro digits
    rcases token.takes_or_constant taken with ⟨index, conversion, takes⟩ | ⟨constant, same⟩
    · have given := List.getElem?_eq_getElem (inRange index conversion takes)
      cases conversion with
      | text => exact ⟨_, .argument takes given (.text _)⟩
      | decimal =>
        rcases digits index _ takes given with ⟨number, denotes⟩
        exact ⟨_, .argument takes given (.decimal denotes)⟩
    · exact ⟨constant, ((same arguments).2 constant).2 rfl⟩

end Token

/-! ## All tokens -/

/-- The tokens, each with the number of arguments that have been taken before it in turn. -/
def counted (taken : Nat) (tokens : List Token) : List (Nat × Token) :=
  tokens.mapIdx fun place token => (taken + (tokens.take place).countP Token.isNext, token)

theorem counted_cons (taken : Nat) (token : Token) (tokens : List Token) :
    counted taken (token :: tokens) = (taken, token) :: counted (token.after taken) tokens := by
  rw [counted, List.mapIdx_cons, counted]
  congr 1
  apply List.mapIdx_eq_mapIdx_iff.2
  intro place _
  have shifted : taken + ((token :: tokens).take (place + 1)).countP Token.isNext =
      token.after taken + (tokens.take place).countP Token.isNext := by
    rw [List.take_succ_cons, List.countP_cons, Token.after]
    split <;> omega
  rw [shifted]

variable {arguments : List Value} {taken : Nat} {tokens : List Token}

theorem renderTokens_cons (token : Token) :
    renderTokens arguments taken (token :: tokens) =
      (token.insertion arguments taken).bind fun piece =>
        (renderTokens arguments (token.after taken) tokens).map (piece ++ ·) := by
  cases token <;> rfl

/-- Every placeholder finds an argument. -/
def Supplied (arguments : List Value) (taken : Nat) (tokens : List Token) : Prop :=
  ∀ entry ∈ counted taken tokens, ∀ index conversion,
    entry.2.Takes entry.1 index conversion → index < arguments.length

/-- The renderer puts together what stands for the tokens. -/
theorem renderTokens_eq_ok_iff (supplied : Supplied arguments taken tokens) {text : String} :
    renderTokens arguments taken tokens = .ok text ↔
      ∃ pieces, List.Forall₂ (fun entry piece => entry.2.Shows arguments entry.1 piece)
        (counted taken tokens) pieces ∧ text = String.join pieces := by
  induction tokens generalizing taken text with
  | nil =>
    constructor
    · intro rendered
      cases rendered
      exact ⟨[], .nil, rfl⟩
    · rintro ⟨pieces, shown, rfl⟩
      cases shown
      rfl
  | cons token tokens ih =>
    rw [Supplied, counted_cons, List.forall_mem_cons] at supplied
    rw [renderTokens_cons, Except.bind_eq_ok_iff, counted_cons]
    constructor
    · rintro ⟨piece, inserted, rendered⟩
      rcases Except.map_eq_ok_iff.1 rendered with ⟨rest, onward, rfl⟩
      rcases (ih supplied.2).1 onward with ⟨pieces, shown, rfl⟩
      have shows := (Token.insertion_eq_ok_iff supplied.1).1 inserted
      exact ⟨piece :: pieces, .cons shows shown, String.join_cons.symm⟩
    · rintro ⟨pieces, shown, rfl⟩
      rcases shown with _ | @⟨_, piece, _, pieces, shows, shown⟩
      have inserted := (Token.insertion_eq_ok_iff supplied.1).2 shows
      have onward := (ih supplied.2).2 ⟨pieces, shown, rfl⟩
      exact ⟨piece, inserted, Except.map_eq_ok_iff.2 ⟨_, onward, String.join_cons.symm⟩⟩

theorem renderTokens_eq_error {fault : EvaluationFault}
    (failed : renderTokens arguments taken tokens = .error fault) :
    ∃ shown, fault = notDecimal shown := by
  induction tokens generalizing taken with
  | nil => cases failed
  | cons token tokens ih =>
    rw [renderTokens_cons] at failed
    cases inserted : token.insertion arguments taken with
    | error other =>
      rw [inserted] at failed
      rcases Except.error.inj failed with rfl
      cases token with
      | character => cases inserted
      | percent => cases inserted
      | next => exact convert_eq_error inserted
      | numbered => exact convert_eq_error inserted
    | ok piece =>
      cases onward : renderTokens arguments (token.after taken) tokens with
      | ok rest =>
        rw [inserted, Except.bind, onward] at failed
        cases failed
      | error other =>
        rw [inserted, Except.bind, onward] at failed
        rcases Except.error.inj failed with rfl
        exact ih onward

/-- Rendering succeeds unless a placeholder asks for the digits of an argument that has none. -/
theorem exists_renderTokens_iff (supplied : Supplied arguments taken tokens) :
    (∃ text, renderTokens arguments taken tokens = .ok text) ↔
      ∀ entry ∈ counted taken tokens, ∀ index argument, entry.2.Takes entry.1 index .decimal →
        arguments[index]? = some argument → ∃ number, Denotes argument number := by
  have shown : (∃ text, renderTokens arguments taken tokens = .ok text) ↔
      ∃ pieces, List.Forall₂ (fun entry piece => entry.2.Shows arguments entry.1 piece)
        (counted taken tokens) pieces := by
    simp only [renderTokens_eq_ok_iff supplied]
    constructor
    · rintro ⟨_, pieces, shown, -⟩
      exact ⟨pieces, shown⟩
    · rintro ⟨pieces, shown⟩
      exact ⟨_, pieces, shown, rfl⟩
  rw [shown, List.exists_forall₂_iff]
  apply forall₂_congr
  intro entry member
  exact Token.exists_shows_iff (supplied entry member)

/-! ## Enough arguments -/

theorem Spelled.positive {text : List Char} (spelled : Spelled text tokens) {number : Nat}
    {conversion : Conversion} (member : .numbered number conversion ∈ tokens) : 0 < number := by
  rcases spelled with ⟨lexemes, -, rfl⟩
  rcases List.mem_map.1 member with ⟨⟨spelling, token, spells⟩, -, same⟩
  cases spells with
  | character => cases same
  | percent => cases same
  | next => cases same
  | numbered _ positive =>
    cases same
    exact positive

theorem after_add_nextCount (token : Token) :
    token.after taken + nextCount tokens = taken + nextCount (token :: tokens) := by
  cases token with
  | next => exact Nat.succ_add_eq_add_succ taken (nextCount tokens)
  | character | percent | numbered => rfl

theorem greatestNumber_le_cons (token : Token) :
    greatestNumber tokens ≤ greatestNumber (token :: tokens) := by
  cases token with
  | numbered => exact Nat.le_max_right _ _
  | character | percent | next => exact Nat.le_refl _

/-- A placeholder takes an argument for which the template has a place. -/
theorem index_lt_of_takes
    (positive : ∀ number conversion, .numbered number conversion ∈ tokens → 0 < number)
    {entry : Nat × Token} (member : entry ∈ counted taken tokens) {index : Nat}
    {conversion : Conversion} (takes : entry.2.Takes entry.1 index conversion) :
    index < max (taken + nextCount tokens) (greatestNumber tokens) := by
  induction tokens generalizing taken with
  | nil => cases member
  | cons token tokens ih =>
    rw [counted_cons] at member
    rcases List.mem_cons.1 member with rfl | later
    · cases takes with
      | next =>
        simp only [nextCount]
        omega
      | numbered number =>
        have first := positive number conversion List.mem_cons_self
        simp only [greatestNumber]
        omega
    · have below := ih (fun number conversion member =>
        positive number conversion (List.mem_cons_of_mem token member)) later
      rw [after_add_nextCount] at below
      have longer : greatestNumber tokens ≤ greatestNumber (token :: tokens) :=
        greatestNumber_le_cons token
      omega

theorem index_lt_arity {source : String} {template : Template}
    (reading : read source = .ok template) {entry : Nat × Token}
    (member : entry ∈ counted 0 template.tokens) {index : Nat} {conversion : Conversion}
    (takes : entry.2.Takes entry.1 index conversion) : index < template.arity := by
  have positive : ∀ number conversion, .numbered number conversion ∈ template.tokens → 0 < number :=
    fun number conversion member => (read_eq_ok_iff.1 reading).2.positive member
  have below := index_lt_of_takes positive member takes
  rwa [Nat.zero_add] at below

/-! ## Doubled percent signs -/

/-- The text with every percent sign doubled. -/
def doublePercents (text : String) : String :=
  String.ofList (text.toList.flatMap fun c => if c = '%' then ['%', '%'] else [c])

/-- The lexeme that puts one character into the text. -/
def Lexeme.ofChar (c : Char) : Lexeme :=
  if percent : c = '%' then ⟨['%', '%'], .percent, .percent⟩
  else ⟨[c], .character c, .character percent⟩

theorem write_map_ofChar (text : String) :
    Lexeme.write (text.toList.map Lexeme.ofChar) = (doublePercents text).toList := by
  rw [doublePercents, String.toList_ofList, Lexeme.write, List.flatMap_map]
  congr 1
  funext c
  rw [Lexeme.ofChar]
  split <;> rfl

/-- A lexeme of one character takes no argument and puts this character in. -/
theorem renderTokens_ofChar (c : Char) :
    renderTokens arguments taken ((Lexeme.ofChar c).token :: tokens) =
      (renderTokens arguments taken tokens).map (String.singleton c ++ ·) := by
  rw [Lexeme.ofChar]
  split
  next percent =>
    rw [percent]
    rfl
  next => rfl

theorem arity_ofChar (source : String) (c : Char) :
    arity ⟨source, (Lexeme.ofChar c).token :: tokens⟩ = arity ⟨source, tokens⟩ := by
  rw [Lexeme.ofChar]
  split <;> rfl

theorem arity_map_ofChar (source : String) (text : List Char) :
    arity ⟨source, (text.map Lexeme.ofChar).map Lexeme.token⟩ = 0 := by
  induction text with
  | nil => rfl
  | cons c text ih => rw [List.map_cons, List.map_cons, arity_ofChar, ih]

theorem renderTokens_map_ofChar (text : List Char) :
    renderTokens arguments taken ((text.map Lexeme.ofChar).map Lexeme.token) =
      .ok (String.ofList text) := by
  induction text with
  | nil => rfl
  | cons c text ih =>
    rw [List.map_cons, List.map_cons, renderTokens_ofChar, ih, Except.map,
      String.singleton_eq_ofList, ← String.ofList_append, List.singleton_append]

/-- A text whose percent signs are doubled is a template that renders as the text itself. -/
theorem render_of_doublePercents (text : String) :
    ∃ template, read (doublePercents text) = .ok template ∧ template.render [] = .ok text := by
  refine ⟨_, read_of_write (write_map_ofChar text), ?_⟩
  rw [render, arity_map_ofChar]
  exact (renderTokens_map_ofChar text.toList).trans (congrArg Except.ok String.ofList_toList)

/-! ## Rendering a template -/

theorem render_eq_mismatch_iff (template : Template) {expected actual : Nat} :
    template.render arguments = .error (.argumentMismatch expected actual) ↔
      arguments.length ≠ template.arity ∧ expected = template.arity ∧
        actual = arguments.length := by
  rw [render]
  split
  next enough =>
    constructor
    · intro failed
      rcases renderTokens_eq_error failed with ⟨shown, ⟨⟩⟩
    · rintro ⟨other, -⟩
      exact absurd enough other
  next other =>
    constructor
    · rintro ⟨⟩
      exact ⟨other, rfl, rfl⟩
    · rintro ⟨-, rfl, rfl⟩
      rfl

/--
A template asks for as many arguments as it has places for.  Given these it renders unless a
placeholder asks for the digits of an argument that has none, and the text is what stands for the
tokens that spell the source, one after another.  No placeholder takes an argument beyond those
places, and a text whose percent signs are doubled renders as itself.
-/
theorem render_substitutes {source : String} {template : Template}
    (reading : read source = .ok template) (arguments : List Value) :
    let entries := counted 0 template.tokens
    Spelled source.toList template.tokens ∧
    (∀ expected actual, template.render arguments = .error (.argumentMismatch expected actual) ↔
      arguments.length ≠ template.arity ∧ expected = template.arity ∧
        actual = arguments.length) ∧
    (arguments.length = template.arity →
      ((∃ text, template.render arguments = .ok text) ↔
        ∀ entry ∈ entries, ∀ index argument, entry.2.Takes entry.1 index .decimal →
          arguments[index]? = some argument → ∃ number, Denotes argument number) ∧
      ∀ text, template.render arguments = .ok text ↔
        ∃ pieces, List.Forall₂ (fun entry piece => entry.2.Shows arguments entry.1 piece)
          entries pieces ∧ text = String.join pieces) ∧
    (∀ entry ∈ entries, ∀ index conversion, entry.2.Takes entry.1 index conversion →
      index < template.arity) ∧
    ∀ text, ∃ doubled, read (doublePercents text) = .ok doubled ∧ doubled.render [] = .ok text := by
  intro entries
  have below : ∀ entry ∈ entries, ∀ index conversion, entry.2.Takes entry.1 index conversion →
      index < template.arity :=
    fun entry member index conversion takes => index_lt_arity reading member takes
  refine ⟨(read_eq_ok_iff.1 reading).2, fun expected actual => render_eq_mismatch_iff template, ?_,
    below, render_of_doublePercents⟩
  intro enough
  have supplied : Supplied arguments 0 template.tokens := by
    rw [Supplied, enough]
    exact below
  have rendered : template.render arguments = renderTokens arguments 0 template.tokens :=
    if_pos enough
  rw [rendered]
  exact ⟨exists_renderTokens_iff supplied, fun text => renderTokens_eq_ok_iff supplied⟩

/-- The second argument may come first, and a text is spoken as the integer that it denotes. -/
theorem render_reordered :
    let template : Template :=
      ⟨"%2$s: %d%%", [.numbered 2 .text, .character ':', .character ' ', .next .decimal, .percent]⟩
    read "%2$s: %d%%" = .ok template ∧
      template.render [.text " +07", .text "Page"] = .ok "Page: 7%" := by
  intro template
  have reading : read "%2$s: %d%%" = .ok template := by decide
  have entries : counted 0 template.tokens =
      [(0, .numbered 2 .text), (0, .character ':'), (0, .character ' '), (0, .next .decimal),
        (1, .percent)] := by decide
  have literal : Numeral.SignedDigits (Text.trimChars " +07".toList) (7 : Int64).toInt :=
    Numeral.readWord_eq_some_iff.1 (by decide)
  refine ⟨reading, ?_⟩
  rcases render_substitutes reading [.text " +07", .text "Page"] with ⟨-, -, given, -⟩
  apply ((given rfl).2 _).2
  rw [entries]
  refine ⟨["Page", ":", " ", "7", "%"], ?_, rfl⟩
  exact .cons (.argument (.numbered 2 .text) rfl (.text _)) (.cons (.character ':')
    (.cons (.character ' ') (.cons (.argument (.next .decimal) rfl (.decimal (.text literal)))
      (.cons .percent .nil))))

end Template

end SpokenFeedback
