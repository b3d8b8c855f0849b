import SpokenFeedback.Event
import SpokenFeedback.Naming
import SpokenFeedback.Pattern.Search
import SpokenFeedback.Template
import SpokenFeedback.Utterance.Basic
import SpokenFeedback.Vocabulary.EventType

/-!
# Phrases

A phrase says how an event is spoken: selectors take arguments from the event and a template joins
them.  The template may be a resource, which is then read each time.  A phrase that cannot be
rendered adds nothing to an utterance.

For an event that moves the focus or selection to a disabled control, the state is spoken too.
-/

namespace SpokenFeedback

/-- How arguments are taken from an event. -/
inductive Selector where
  | property (property : Property)
  | split (pattern : String)
  | search (pattern : String)
deriving DecidableEq, Repr

namespace Selector

/-- The name of the selector's kind. -/
def kind : Selector → String
  | .property _ => "property"
  | .split _ => "split"
  | .search _ => "regex"

/-- Reads a selector of a kind; patterns are compiled only when they are used. -/
def read (kind value : String) : Except ValidationFault Selector :=
  match Text.trim kind with
  | "property" => (Property.read value).map .property
  | "split" => .ok (.split value)
  | "regex" => .ok (.search value)
  | other => .error (.unknownSelector other)

end Selector

/-- The pattern that a selector uses, or the fault of a text that is none. -/
def compilePattern (source : String) : Except EvaluationFault Pattern :=
  match Pattern.compile source with
  | .ok pattern => .ok pattern
  | .error flaw => .error (.invalidPattern source flaw.reason)

/-- What stands where a phrase needs a template. -/
inductive TemplateSource where
  | compiled (template : Template)
  | resource (reference : String)
deriving DecidableEq, Repr

namespace TemplateSource

/-- Reads a template or the reference to one. -/
def read (text : String) : Except ValidationFault TemplateSource :=
  if isReference text then .ok (.resource text) else (Template.read text).map .compiled

/-- The text that the template was read from. -/
def text : TemplateSource → String
  | .compiled template => template.source
  | .resource reference => reference

end TemplateSource

/-- Selectors and the template for what they select. -/
structure Phrase where
  template : Option TemplateSource
  selectors : List Selector
deriving DecidableEq, Repr

namespace Phrase

/-- The phrase without template and selectors. -/
def empty : Phrase := ⟨none, []⟩

instance : Inhabited Phrase := ⟨empty⟩

/-- The text of what an event says of itself. -/
def eventText (event : Event) : String := (event.spokenText.map Value.display).getD ""

/-- Drops the empty pieces at the end. -/
def dropTrailingEmpty (pieces : List (List Char)) : List (List Char) :=
  (pieces.reverse.dropWhile List.isEmpty).reverse

/-- The pieces of a text between the matches of a pattern, without empty ones at the end. -/
def splitText (pattern : Pattern) (text : String) : List Value :=
  let pieces := pattern.pieces text.toList
  let kept := if text = "" then pieces else dropTrailingEmpty pieces
  kept.map fun piece => .text (String.ofList piece)

/-- The argument that a property gives; a missing value is the empty text. -/
def propertyArgument (event : Event) (surroundings : Surroundings) (property : Property) : Value :=
  let value := if property = .text then event.spokenText else event.resolve property
  match value with
  | some (.text text) => .text (surroundings.localize text)
  | some other => other
  | none => .text ""

/-- The arguments that selectors give after those already given; a split replaces all of them. -/
def select (event : Event) (surroundings : Surroundings) :
    List Value → List Selector → Except EvaluationFault (List Value)
  | given, [] => .ok given
  | given, .property property :: selectors =>
    select event surroundings (given ++ [propertyArgument event surroundings property]) selectors
  | _, .split source :: _ =>
    (compilePattern source).map fun pattern => splitText pattern (eventText event)
  | given, .search source :: selectors =>
    match compilePattern source with
    | .error fault => .error fault
    | .ok pattern =>
      select event surroundings
        (given ++ [.text ((pattern.find? (eventText event)).getD "")]) selectors

/-- The arguments that an event gives to the template. -/
def arguments (phrase : Phrase) (event : Event) (surroundings : Surroundings) :
    Except EvaluationFault (List Value) :=
  select event surroundings [] phrase.selectors

/-- The arguments that are not empty, with spaces between them. -/
def joinArguments (arguments : List Value) : String :=
  " ".intercalate ((arguments.map Value.display).filter (· ≠ ""))

/-- The template to be rendered, after a reference has been looked up. -/
def resolveTemplate (surroundings : Surroundings) : TemplateSource → Except Fault Template
  | .compiled template => .ok template
  | .resource reference =>
    match Template.read (surroundings.localize reference) with
    | .ok template => .ok template
    | .error cause => .error (.validation cause)

/-- The text of the phrase for an event. -/
def render (phrase : Phrase) (event : Event) (surroundings : Surroundings) :
    Except Fault String :=
  match phrase.arguments event surroundings with
  | .error cause => .error (.evaluation cause)
  | .ok arguments =>
    match phrase.template with
    | none => .ok (joinArguments arguments)
    | some source => do
      let template ← resolveTemplate surroundings source
      match template.render arguments with
      | .ok text => .ok text
      | .error cause => .error (.evaluation cause)

/-- The reference of the text that says that a control is disabled. -/
def disabledReference : String := "@string/value_disabled"

/-- What is said of a disabled control if the resources have no text for it. -/
def disabledText : String := "disabled"

/-- The event types that tell the state of a control. -/
def stateEventTypes : List EventType :=
  [.viewAccessibilityFocused, .viewHoverEnter, .viewFocused, .viewSelected]

/-- The codes of these event types in one mask. -/
def stateMask : Int64 := stateEventTypes.foldl (fun mask eventType => mask ||| eventType.code) 0

/-- Whether an event tells that a control is disabled. -/
def speaksDisabled (event : Event) : Bool :=
  event.resolve .enabled = some (.bool false)
    && ((event.resolve .eventType).bind Value.int?).any fun code => code &&& stateMask ≠ 0

/-- Speaks an event: appends the phrase's text and, if due, the disabled state. -/
def speak (phrase : Phrase) (event : Event) (surroundings : Surroundings)
    (utterance : Utterance) : Utterance :=
  match phrase.render event surroundings with
  | .error _ => utterance
  | .ok text =>
    let spoken := utterance.append text
    if spoken.text ≠ "" ∧ speaksDisabled event then
      spoken.append ((surroundings.resource? disabledReference).getD disabledText)
    else spoken

end Phrase

end SpokenFeedback
