import SpokenFeedback.Proofs.Phrase.Speaking

/-!
# Templates behind references

A template is read when its phrase is made, or each time that the phrase is rendered if a reference
stands for it.  Both ways come to the same: a phrase with a reference renders as one with the text
behind it, and a text that is no template is refused with the same fault, only later
(`Phrase.render_referred_template`).

A reference with nothing behind it stands for itself.  `Referring` is the grammar of references; no
text of this grammar has a percent sign, so that the reference is a template without places for
arguments (`Template.read_of_no_percent`).
-/

namespace SpokenFeedback

/-! ## The grammar of references -/

/-- The characters are a word: one or more word characters. -/
def Text.Word (characters : List Char) : Prop :=
  characters ≠ [] ∧ ∀ c ∈ characters, isWord c = true

/-- An at sign, perhaps the name of a package and a colon, a kind, a slash and a name. -/
inductive Referring : List Char → Prop where
  | bare {kind name : List Char} (kindWord : Text.Word kind) (nameWord : Text.Word name) :
    Referring ('@' :: (kind ++ '/' :: name))
  | packaged {package kind name : List Char} (filled : package ≠ [])
    (packageName : ∀ c ∈ package, Reference.inPackage c = true) (kindWord : Text.Word kind)
    (nameWord : Text.Word name) : Referring ('@' :: (package ++ ':' :: (kind ++ '/' :: name)))

namespace Reference

theorem isPath_iff {path : List Char} :
    isPath path = true ↔
      ∃ kind name, Text.Word kind ∧ Text.Word name ∧ path = kind ++ '/' :: name := by
  constructor
  · intro shaped
    have whole : path.takeWhile Text.isWord ++ path.dropWhile Text.isWord = path :=
      List.takeWhile_append_dropWhile
    have words : ∀ c ∈ path.takeWhile Text.isWord, Text.isWord c = true :=
      fun c member => List.mem_takeWhile_imp member
    rw [isPath] at shaped
    split at shaped
    next first kind name kindShape rest =>
      rw [Bool.and_eq_true, decide_eq_true_iff, List.all_eq_true] at shaped
      rw [kindShape] at whole words
      rw [rest] at whole
      exact ⟨_, _, ⟨List.cons_ne_nil first kind, words⟩, shaped, whole.symm⟩
    next => cases shaped
  · rintro ⟨kind, name, ⟨kindFilled, kindWord⟩, ⟨nameFilled, nameWord⟩, rfl⟩
    have slash : Text.isWord '/' = false := by decide
    rcases Text.takeWhile_dropWhile_append_cons kindWord slash name with ⟨taken, left⟩
    rw [isPath, taken, left]
    rcases List.exists_cons_of_ne_nil kindFilled with ⟨first, others, rfl⟩
    simpa [nameFilled] using nameWord

theorem inPackage_of_isWord {c : Char} (word : Text.isWord c = true) : inPackage c = true := by
  rw [inPackage, word, Bool.true_or]

/-- Without a colon after its first characters a text has no package. -/
theorem afterPackage_of_word {kind : List Char} (word : Text.Word kind) (rest : List Char) :
    afterPackage (kind ++ '/' :: rest) = kind ++ '/' :: rest := by
  have slash : inPackage '/' = false := by decide
  have admits : ∀ c ∈ kind, inPackage c = true :=
    fun c member => inPackage_of_isWord (word.2 c member)
  rcases Text.takeWhile_dropWhile_append_cons admits slash rest with ⟨taken, left⟩
  rw [afterPackage, taken, left]
  split
  next colon => cases colon
  next => rfl

theorem afterPackage_of_package {package : List Char} (filled : package ≠ [])
    (packageName : ∀ c ∈ package, inPackage c = true) (path : List Char) :
    afterPackage (package ++ ':' :: path) = path := by
  have colon : inPackage ':' = false := by decide
  rcases Text.takeWhile_dropWhile_append_cons packageName colon path with ⟨taken, left⟩
  rw [afterPackage, taken, left]
  rcases List.exists_cons_of_ne_nil filled with ⟨first, others, rfl⟩
  rfl

theorem afterPackage_cases (body : List Char) :
    afterPackage body = body ∨
      ∃ package, package ≠ [] ∧ (∀ c ∈ package, inPackage c = true) ∧
        body = package ++ ':' :: afterPackage body := by
  have whole : body.takeWhile inPackage ++ body.dropWhile inPackage = body :=
    List.takeWhile_append_dropWhile
  have names : ∀ c ∈ body.takeWhile inPackage, inPackage c = true :=
    fun c member => List.mem_takeWhile_imp member
  rw [afterPackage]
  split
  next first package path shape rest =>
    rw [shape] at whole names
    rw [rest] at whole
    exact .inr ⟨_, List.cons_ne_nil first package, names, whole.symm⟩
  next => exact .inl rfl

end Reference

/-- The texts of the grammar are the references. -/
theorem isReference_iff {text : String} : isReference text = true ↔ Referring text.toList := by
  rw [isReference]
  generalize text.toList = characters
  constructor
  · intro shaped
    split at shaped
    next body =>
      rcases Reference.isPath_iff.1 shaped with ⟨kind, name, kindWord, nameWord, path⟩
      rcases Reference.afterPackage_cases body with unpackaged | ⟨package, filled, names, whole⟩
      · rw [← unpackaged, path]
        exact .bare kindWord nameWord
      · rw [whole, path]
        exact .packaged filled names kindWord nameWord
    next => cases shaped
  · intro refers
    cases refers with
    | @bare kind name kindWord nameWord =>
      have path := Reference.afterPackage_of_word kindWord name
      exact Reference.isPath_iff.2 ⟨kind, name, kindWord, nameWord, path⟩
    | @packaged package kind name filled names kindWord nameWord =>
      have path := Reference.afterPackage_of_package filled names (kind ++ '/' :: name)
      exact Reference.isPath_iff.2 ⟨kind, name, kindWord, nameWord, path⟩

/-- A reference has no percent sign. -/
theorem percent_not_mem_of_isReference {text : String} (refers : isReference text = true) :
    '%' ∉ text.toList := by
  have noWord : ∀ {characters : List Char}, Text.Word characters → '%' ∉ characters := by
    intro characters word member
    exact absurd (word.2 '%' member) (by decide)
  have shape := isReference_iff.1 refers
  generalize text.toList = characters at shape
  cases shape with
  | bare kindWord nameWord => simp [noWord kindWord, noWord nameWord]
  | @packaged package _ _ _ names kindWord nameWord =>
    have noPackage : '%' ∉ package := fun member => absurd (names '%' member) (by decide)
    simp [noPackage, noWord kindWord, noWord nameWord]

/-! ## Templates without percent signs -/

namespace Template

theorem doublePercents_of_no_percent {text : String} (plain : '%' ∉ text.toList) :
    doublePercents text = text := by
  have unchanged : ∀ c ∈ text.toList, (if c = '%' then ['%', '%'] else [c]) = [c] := by
    intro c member
    rw [if_neg]
    rintro rfl
    exact plain member
  rw [doublePercents, List.flatMap_congr unchanged, List.flatMap_singleton', String.ofList_toList]

theorem read_eq_error_of_unread {text : String} (unread : ¬ ∃ template, read text = .ok template) :
    ∃ reason, read text = .error (.invalidTemplate text reason) := by
  cases scanned : readTokens .start text.toList with
  | ok tokens =>
    refine absurd ⟨⟨text, tokens⟩, ?_⟩ unread
    rw [read, scanned]
  | error flaw =>
    refine ⟨flaw.reason, ?_⟩
    rw [read, scanned]

/-- A text without percent signs is a template that has no places and renders as the text. -/
theorem read_of_no_percent {text : String} (plain : '%' ∉ text.toList) :
    ∃ template, read text = .ok template ∧ template.arity = 0 ∧ template.render [] = .ok text := by
  rcases render_of_doublePercents text with ⟨template, reading, rendered⟩
  rw [doublePercents_of_no_percent plain] at reading
  refine ⟨template, reading, ?_, rendered⟩
  rw [render] at rendered
  split at rendered
  next enough => exact enough.symm
  next => cases rendered

end Template

/-! ## Rendering by reference -/

theorem Surroundings.localize_eq_of_resource? {surroundings : Surroundings}
    {reference text : String}
    (refers : isReference reference = true)
    (known : surroundings.resource? reference = some text) :
    surroundings.localize reference = text := by
  rw [localize, if_pos refers, known, Option.getD_some]

theorem Surroundings.localize_eq_self {surroundings : Surroundings} {reference : String}
    (unknown : surroundings.resource? reference = none) :
    surroundings.localize reference = reference := by
  rw [localize, unknown, Option.getD_none, ite_self]

namespace TemplateSource

theorem read_of_isReference {text : String} (refers : isReference text = true) :
    read text = .ok (.resource text) := if_pos refers

theorem eq_resource_of_read {text : String} {source : TemplateSource}
    (refers : isReference text = true) (reading : read text = .ok source) :
    source = .resource text := by
  rw [read_of_isReference refers] at reading
  exact (Except.ok.inj reading).symm

theorem read_of_template {text : String} {template : Template} (literal : isReference text = false)
    (reading : Template.read text = .ok template) : read text = .ok (.compiled template) := by
  rw [read, literal, reading]
  rfl

end TemplateSource

namespace Phrase

variable {selectors : List Selector} {event : Event} {surroundings : Surroundings}
  {values : List Value} {reference : String}

theorem resolveTemplate_resource (surroundings : Surroundings) (reference : String) :
    resolveTemplate surroundings (.resource reference) =
      (Template.read (surroundings.localize reference)).mapError .validation := by
  rw [resolveTemplate]
  cases Template.read (surroundings.localize reference) <;> rfl

/-- The arguments are those of the selectors, whatever the template is. -/
theorem arguments_eq (template : Option TemplateSource) :
    arguments ⟨template, selectors⟩ event surroundings =
      arguments ⟨none, selectors⟩ event surroundings := rfl

/-- A reference renders as the template that the localized text is. -/
theorem render_resource_of_read {template : Template}
    (given : arguments ⟨none, selectors⟩ event surroundings = .ok values)
    (reading : Template.read (surroundings.localize reference) = .ok template) :
    render ⟨some (.resource reference), selectors⟩ event surroundings =
      (template.render values).mapError .evaluation := by
  refine render_of_resolved ((arguments_eq _).trans given) rfl ?_
  rw [resolveTemplate_resource, reading]
  rfl

theorem render_compiled {template : Template}
    (given : arguments ⟨none, selectors⟩ event surroundings = .ok values) :
    render ⟨some (.compiled template), selectors⟩ event surroundings =
      (template.render values).mapError .evaluation :=
  render_of_resolved ((arguments_eq _).trans given) rfl rfl

/-- A reference is refused if the localized text is no template. -/
theorem render_resource_of_malformed {fault : ValidationFault}
    (given : arguments ⟨none, selectors⟩ event surroundings = .ok values)
    (malformed : Template.read (surroundings.localize reference) = .error fault) :
    render ⟨some (.resource reference), selectors⟩ event surroundings =
      .error (.validation fault) := by
  refine render_of_unresolved ((arguments_eq _).trans given) rfl ?_
  rw [resolveTemplate_resource, malformed]
  rfl

/--
A phrase whose template is a reference renders, whenever its arguments are given, as the phrase with
the text behind the reference, and if that text is no template it is refused as one.  With nothing
behind it the reference, which has no percent sign, stands for itself: without arguments it is
spoken as it is, and any arguments are too many.
-/
theorem render_referred_template (refers : isReference reference = true)
    (given : arguments ⟨none, selectors⟩ event surroundings = .ok values) :
    ∃ source, TemplateSource.read reference = .ok source ∧
      let rendered := render ⟨some source, selectors⟩ event surroundings
      (∀ text, surroundings.resource? reference = some text → isReference text = false →
        (∀ template, Template.read text = .ok template →
          ∃ literal, TemplateSource.read text = .ok literal ∧
            rendered = render ⟨some literal, selectors⟩ event surroundings) ∧
        ((¬ ∃ template, Template.read text = .ok template) →
          ∃ reason, rendered = .error (.validation (.invalidTemplate text reason)))) ∧
      (surroundings.resource? reference = none →
        '%' ∉ reference.toList ∧
        (values = [] → rendered = .ok reference) ∧
        (values ≠ [] →
          rendered = .error (.evaluation (.argumentMismatch 0 values.length)))) := by
  refine ⟨_, TemplateSource.read_of_isReference refers, ?_, ?_⟩
  · intro text known literal
    have localized := Surroundings.localize_eq_of_resource? refers known
    constructor
    · intro template reading
      refine ⟨_, TemplateSource.read_of_template literal reading, ?_⟩
      rw [← localized] at reading
      rw [render_resource_of_read given reading, render_compiled given]
    · intro unread
      rcases Template.read_eq_error_of_unread unread with ⟨reason, malformed⟩
      rw [← localized] at malformed
      exact ⟨reason, localized ▸ render_resource_of_malformed given malformed⟩
  · intro unknown
    have plain := percent_not_mem_of_isReference refers
    rcases Template.read_of_no_percent plain with ⟨template, reading, noPlaces, rendered⟩
    rw [← Surroundings.localize_eq_self unknown] at reading
    have rendering := render_resource_of_read given reading
    refine ⟨plain, ?_, ?_⟩
    · rintro rfl
      rw [rendering, rendered]
      rfl
    · intro some
      have tooMany : values.length ≠ template.arity := by
        rw [noPlaces]
        exact fun empty => some (List.eq_nil_of_length_eq_zero empty)
      rw [rendering, Template.render, if_neg tooMany, noPlaces]
      rfl

/-- Surroundings with a template behind one reference and a malformed text behind another. -/
def twoResources : Surroundings :=
  { Surroundings.empty with
    resource? := fun
      | "@string/sent" => some "Sent: %s"
      | "@string/full" => some "100% full"
      | _ => none }

/--
References with a template behind them, with a malformed text and with nothing.  The first renders
as its template does and the second is refused.  The third, which has a package, is spoken as it is,
but takes no argument.
-/
theorem render_known_and_unknown_references :
    let event := Event.empty.set .text (.text "Hi")
    (isReference "@string/sent" = true ∧
      arguments ⟨none, [.property .text]⟩ event twoResources = .ok [.text "Hi"] ∧
      (∃ literal, TemplateSource.read "Sent: %s" = .ok literal ∧
        render ⟨some (.resource "@string/sent"), [.property .text]⟩ event twoResources =
          render ⟨some literal, [.property .text]⟩ event twoResources) ∧
      render ⟨some (.resource "@string/sent"), [.property .text]⟩ event twoResources =
        .ok "Sent: Hi") ∧
    (isReference "@string/full" = true ∧
      (¬ ∃ template, Template.read "100% full" = .ok template) ∧
      ∃ reason,
        render ⟨some (.resource "@string/full"), [.property .text]⟩ event twoResources =
          .error (.validation (.invalidTemplate "100% full" reason))) ∧
    isReference "@android:string/ok" = true ∧
      arguments ⟨none, []⟩ .empty .empty = .ok [] ∧
      render ⟨some (.resource "@android:string/ok"), []⟩ .empty .empty =
        .ok "@android:string/ok" ∧
      arguments ⟨none, [.property .text]⟩ .empty .empty = .ok [.text ""] ∧
      render ⟨some (.resource "@android:string/ok"), [.property .text]⟩ .empty .empty =
        .error (.evaluation (.argumentMismatch 0 1)) := by
  intro event
  have given : arguments ⟨none, [.property .text]⟩ event twoResources = .ok [.text "Hi"] := rfl
  refine ⟨?wellFormed, ?malformed, ?unknown⟩
  case wellFormed =>
    have refers : isReference "@string/sent" = true := by decide
    rcases render_referred_template refers given with ⟨source, read, known, -⟩
    rcases TemplateSource.eq_resource_of_read refers read with rfl
    have kept : twoResources.resource? "@string/sent" = some "Sent: %s" := rfl
    have literal : isReference "Sent: %s" = false := by decide
    have alike := (known _ kept literal).1 _ rfl
    exact ⟨refers, given, alike, rfl⟩
  case malformed =>
    have refers : isReference "@string/full" = true := by decide
    rcases render_referred_template refers given with ⟨source, read, known, -⟩
    rcases TemplateSource.eq_resource_of_read refers read with rfl
    have kept : twoResources.resource? "@string/full" = some "100% full" := rfl
    have literal : isReference "100% full" = false := by decide
    have unread : ¬ ∃ template, Template.read "100% full" = .ok template := by
      rintro ⟨template, ⟨⟩⟩
    have refused := (known _ kept literal).2 unread
    exact ⟨refers, unread, refused⟩
  case unknown =>
    have refers : isReference "@android:string/ok" = true := by decide
    have silent : arguments ⟨none, []⟩ .empty .empty = .ok [] := rfl
    have blank : arguments ⟨none, [.property .text]⟩ .empty .empty = .ok [.text ""] := rfl
    rcases render_referred_template refers silent with ⟨source, read, -, unknown⟩
    rcases render_referred_template refers blank with ⟨other, readAgain, -, unknownAgain⟩
    rcases TemplateSource.eq_resource_of_read refers read with rfl
    rcases TemplateSource.eq_resource_of_read refers readAgain with rfl
    exact ⟨refers, silent, (unknown rfl).2.1 rfl, blank, (unknownAgain rfl).2.2 (by simp)⟩

end Phrase

end SpokenFeedback
