import SpokenFeedback.Proofs.Phrase.Selection
import SpokenFeedback.Proofs.Template.Substitution
import SpokenFeedback.Proofs.Utterance.Succession
import SpokenFeedback.Rule.Basic

/-!
# Speaking a phrase

Speaking a phrase adds text after that of the utterance and leaves everything else of it alone
(`Phrase.speak_prolongs`), and it never fails.

There are exactly four reasons for which a phrase cannot be rendered (`Phrase.render_eq_error_iff`).
For each of them the utterance stays as it is (`RuleFormatter.format_phrase_prolongs`).
-/

namespace SpokenFeedback

/-! ## Prolonged utterances -/

/-- The later utterance is the earlier one with more text after it. -/
structure Utterance.Prolongs (later earlier : Utterance) : Prop where
  text : ∃ added, later.text = earlier.text ++ added
  metadata : later.metadata = earlier.metadata
  auditory : later.auditory = earlier.auditory
  haptic : later.haptic = earlier.haptic

namespace Utterance

theorem Prolongs.refl (utterance : Utterance) : utterance.Prolongs utterance where
  text := ⟨"", String.append_empty.symm⟩
  metadata := rfl
  auditory := rfl
  haptic := rfl

theorem Prolongs.trans {last later earlier : Utterance} (second : last.Prolongs later)
    (first : later.Prolongs earlier) : last.Prolongs earlier where
  text := by
    rcases first.text with ⟨added, early⟩
    rcases second.text with ⟨more, late⟩
    exact ⟨added ++ more, by rw [late, early, String.append_assoc]⟩
  metadata := second.metadata.trans first.metadata
  auditory := second.auditory.trans first.auditory
  haptic := second.haptic.trans first.haptic

theorem prolongs_append (utterance : Utterance) (segment : String) :
    (utterance.append segment).Prolongs utterance where
  text := exists_assemble_eq_append utterance.text segment
  metadata := rfl
  auditory := rfl
  haptic := rfl

end Utterance

/-- A template is at fault for the number of its arguments or for one that has no digits. -/
theorem Template.render_eq_error {template : Template} {arguments : List Value}
    {cause : EvaluationFault} (failed : template.render arguments = .error cause) :
    arguments.length ≠ template.arity ∧
        cause = .argumentMismatch template.arity arguments.length ∨
      ∃ shown, cause = notDecimal shown := by
  rw [render] at failed
  split at failed
  next => exact .inr (renderTokens_eq_error failed)
  next counted => exact .inl ⟨counted, (Except.error.inj failed).symm⟩

namespace Phrase

variable {phrase : Phrase} {event : Event} {surroundings : Surroundings}

/-! ## Reasons against rendering -/

/-- The selector uses the text as a pattern. -/
def UsesPattern (selectors : List Selector) (source : String) : Prop :=
  .split source ∈ selectors ∨ .search source ∈ selectors

/--
Why a phrase cannot be rendered for an event, with the fault that says so: a pattern does not
compile, the text behind a reference is no template, the template has places for another number of
arguments, or it asks for the digits of an argument that has none.
-/
inductive Unrendered (phrase : Phrase) (event : Event) (surroundings : Surroundings) :
    Fault → Prop where
  | pattern {source reason : String} (used : UsesPattern phrase.selectors source)
    (unsound : ¬ Compiles source)
    (refused : phrase.arguments event surroundings = .error (.invalidPattern source reason)) :
    Unrendered phrase event surroundings (.evaluation (.invalidPattern source reason))
  | localized {values : List Value} {reference reason : String}
    (given : phrase.arguments event surroundings = .ok values)
    (stands : phrase.template = some (.resource reference))
    (malformed : Template.read (surroundings.localize reference) =
      .error (.invalidTemplate (surroundings.localize reference) reason)) :
    Unrendered phrase event surroundings
      (.validation (.invalidTemplate (surroundings.localize reference) reason))
  | mismatch {values : List Value} {source : TemplateSource} {template : Template}
    (given : phrase.arguments event surroundings = .ok values)
    (stands : phrase.template = some source)
    (resolved : resolveTemplate surroundings source = .ok template)
    (counted : values.length ≠ template.arity) :
    Unrendered phrase event surroundings
      (.evaluation (.argumentMismatch template.arity values.length))
  | decimal {values : List Value} {source : TemplateSource} {template : Template}
    {shown : String} (given : phrase.arguments event surroundings = .ok values)
    (stands : phrase.template = some source)
    (resolved : resolveTemplate surroundings source = .ok template)
    (undigested : template.render values = .error (Template.notDecimal shown)) :
    Unrendered phrase event surroundings (.evaluation (Template.notDecimal shown))

/-- Only a pattern that does not compile refuses the arguments. -/
theorem select_eq_error {given : List Value} {selectors : List Selector} {cause : EvaluationFault}
    (failed : select event surroundings given selectors = .error cause) :
    ∃ source reason, UsesPattern selectors source ∧ ¬ Compiles source ∧
      cause = .invalidPattern source reason := by
  induction selectors generalizing given with
  | nil => cases failed
  | cons selector selectors ih =>
    cases selector with
    | property property =>
      rcases ih failed with ⟨source, reason, used, unsound, same⟩
      exact ⟨source, reason, used.imp (.tail _) (.tail _), unsound, same⟩
    | split source =>
      rcases compilePattern_cases source with ⟨pattern, compiled⟩ | ⟨unsound, reason, refused⟩
      · rw [select, compiled] at failed
        cases failed
      · rw [select, refused] at failed
        exact ⟨source, reason, .inl (.head _), unsound, (Except.error.inj failed).symm⟩
    | search source =>
      rcases compilePattern_cases source with ⟨pattern, compiled⟩ | ⟨unsound, reason, refused⟩
      · rw [select, compiled] at failed
        rcases ih failed with ⟨other, reason, used, unsound, same⟩
        exact ⟨other, reason, used.imp (.tail _) (.tail _), unsound, same⟩
      · rw [select, refused] at failed
        exact ⟨source, reason, .inr (.head _), unsound, (Except.error.inj failed).symm⟩

/-- Only the text behind a reference can be no template. -/
theorem resolveTemplate_eq_error {source : TemplateSource} {fault : Fault}
    (failed : resolveTemplate surroundings source = .error fault) :
    ∃ reference reason, source = .resource reference ∧
      Template.read (surroundings.localize reference) =
        .error (.invalidTemplate (surroundings.localize reference) reason) ∧
      fault = .validation (.invalidTemplate (surroundings.localize reference) reason) := by
  cases source with
  | compiled template => cases failed
  | resource reference =>
    cases reading : Template.readTokens .start (surroundings.localize reference).toList with
    | ok tokens =>
      rw [resolveTemplate, Template.read, reading] at failed
      cases failed
    | error flaw =>
      rw [resolveTemplate, Template.read, reading] at failed
      refine ⟨reference, flaw.reason, rfl, ?_, (Except.error.inj failed).symm⟩
      rw [Template.read, reading]

section Rendering

variable {values : List Value} {source : TemplateSource}

theorem render_of_refused {cause : EvaluationFault}
    (refused : phrase.arguments event surroundings = .error cause) :
    phrase.render event surroundings = .error (.evaluation cause) := by
  rw [render, refused]

theorem render_of_plain (given : phrase.arguments event surroundings = .ok values)
    (plain : phrase.template = none) :
    phrase.render event surroundings = .ok (joinArguments values) := by
  rw [render, given, plain]

theorem render_of_unresolved {fault : Fault}
    (given : phrase.arguments event surroundings = .ok values)
    (stands : phrase.template = some source)
    (unresolved : resolveTemplate surroundings source = .error fault) :
    phrase.render event surroundings = .error fault := by
  rw [render, given, stands]
  simp only [unresolved, bind, Except.bind]

theorem render_of_resolved {template : Template}
    (given : phrase.arguments event surroundings = .ok values)
    (stands : phrase.template = some source)
    (resolved : resolveTemplate surroundings source = .ok template) :
    phrase.render event surroundings = (template.render values).mapError .evaluation := by
  rw [render, given, stands]
  simp only [resolved, bind, Except.bind]
  cases template.render values <;> rfl

end Rendering

/-- A phrase that cannot be rendered fails for one of four reasons, each with a fault of its own. -/
theorem render_eq_error_iff {fault : Fault} :
    phrase.render event surroundings = .error fault ↔
      Unrendered phrase event surroundings fault := by
  constructor
  · intro failed
    cases given : phrase.arguments event surroundings with
    | error cause =>
      rw [render_of_refused given] at failed
      rcases Except.error.inj failed with rfl
      rcases select_eq_error given with ⟨source, reason, used, unsound, rfl⟩
      exact .pattern used unsound given
    | ok values =>
      cases stands : phrase.template with
      | none =>
        rw [render_of_plain given stands] at failed
        cases failed
      | some source =>
        cases resolved : resolveTemplate surroundings source with
        | error cause =>
          rw [render_of_unresolved given stands resolved] at failed
          rcases Except.error.inj failed with rfl
          rcases resolveTemplate_eq_error resolved with ⟨reference, reason, rfl, malformed, rfl⟩
          exact .localized given stands malformed
        | ok template =>
          rw [render_of_resolved given stands resolved] at failed
          cases rendered : template.render values with
          | ok text =>
            rw [rendered] at failed
            cases failed
          | error cause =>
            rw [rendered] at failed
            rcases Except.error.inj failed with rfl
            rcases Template.render_eq_error rendered with ⟨counted, rfl⟩ | ⟨shown, rfl⟩
            · exact .mismatch given stands resolved counted
            · exact .decimal given stands resolved rendered
  · intro unrendered
    cases unrendered with
    | pattern _ _ refused => exact render_of_refused refused
    | localized given stands malformed =>
      exact render_of_unresolved given stands (by rw [resolveTemplate, malformed])
    | mismatch given stands resolved counted =>
      rw [render_of_resolved given stands resolved, Template.render, if_neg counted]
      rfl
    | decimal given stands resolved undigested =>
      rw [render_of_resolved given stands resolved, undigested]
      rfl

/-! ## Speaking -/

theorem speak_of_error {fault : Fault} (failed : phrase.render event surroundings = .error fault)
    (utterance : Utterance) : phrase.speak event surroundings utterance = utterance := by
  rw [speak, failed]

/-- What a phrase speaks comes after the text of the utterance. -/
theorem speak_prolongs (phrase : Phrase) (event : Event) (surroundings : Surroundings)
    (utterance : Utterance) : (phrase.speak event surroundings utterance).Prolongs utterance := by
  rw [speak]
  split
  next => exact .refl utterance
  next text _ =>
    have spoken := utterance.prolongs_append text
    dsimp only
    split
    next => exact (Utterance.prolongs_append _ _).trans spoken
    next => exact spoken

end Phrase

/--
Formatting by a phrase is done without a fault and only adds text.  If the phrase cannot be
rendered, for whichever of the four reasons, the utterance stays as it is.
-/
theorem RuleFormatter.format_phrase_prolongs (phrase : Phrase) (event : Event) (context : Context)
    (utterance : Utterance) :
    let formatted := (RuleFormatter.phrase phrase).format event context utterance
    formatted.2 = .done () ∧ formatted.1.Prolongs utterance ∧
      ∀ fault, (phrase.render event context.surroundings = .error fault ↔
          phrase.Unrendered event context.surroundings fault) ∧
        (phrase.Unrendered event context.surroundings fault → formatted.1 = utterance) := by
  refine ⟨rfl, phrase.speak_prolongs event context.surroundings utterance, fun fault => ?_⟩
  exact ⟨Phrase.render_eq_error_iff, fun unrendered =>
    Phrase.speak_of_error (Phrase.render_eq_error_iff.2 unrendered) utterance⟩

end SpokenFeedback
