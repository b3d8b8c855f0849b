import Mathlib.Data.List.Forall2
import SpokenFeedback.Phrase

/-!
# Selection of arguments

Selectors give their arguments one after another, until a split replaces all of them and ends the
selection.  A pattern is compiled when its selector is reached, so that one that does not compile
refuses the arguments even if a split later on would have dropped them.

`Phrase.select_append_cases` says what selectors without a split do, whatever comes after them: each
adds the one argument that it gives on its own, or the first pattern that does not compile refuses
the arguments.
-/

namespace SpokenFeedback

/-- Whether the selector splits what the event says of itself. -/
def Selector.isSplit : Selector → Bool
  | .split _ => true
  | _ => false

namespace Phrase

/-- The text is that of a pattern. -/
def Compiles (source : String) : Prop := ∃ pattern, compilePattern source = .ok pattern

/-- Every pattern that the selectors search for compiles. -/
def Searchable (selectors : List Selector) : Prop :=
  ∀ source, .search source ∈ selectors → Compiles source

/-- The text is the first one that the selectors search for and that is no pattern. -/
def FirstRefused (selectors : List Selector) (source : String) : Prop :=
  ∃ before after, selectors = before ++ .search source :: after ∧ Searchable before ∧
    ¬ Compiles source

theorem compilePattern_cases (source : String) :
    (∃ pattern, compilePattern source = .ok pattern) ∨
      ¬ Compiles source ∧
        ∃ reason, compilePattern source = .error (.invalidPattern source reason) := by
  rw [Compiles, compilePattern]
  cases Pattern.compile source with
  | ok pattern => exact .inl ⟨pattern, rfl⟩
  | error flaw => exact .inr ⟨nofun, flaw.reason, rfl⟩

theorem searchable_nil : Searchable [] := nofun

theorem searchable_cons_iff {selector : Selector} {selectors : List Selector} :
    Searchable (selector :: selectors) ↔
      (∀ source, selector = .search source → Compiles source) ∧ Searchable selectors := by
  simp only [Searchable, List.mem_cons, or_imp, forall_and, eq_comm]

theorem FirstRefused.cons {selector : Selector} {selectors : List Selector} {source : String}
    (compiles : ∀ source, selector = .search source → Compiles source)
    (refused : FirstRefused selectors source) : FirstRefused (selector :: selectors) source := by
  rcases refused with ⟨before, after, rfl, searchable, unsound⟩
  exact ⟨selector :: before, after, rfl, searchable_cons_iff.2 ⟨compiles, searchable⟩, unsound⟩

theorem FirstRefused.not_searchable {selectors : List Selector} {source : String}
    (refused : FirstRefused selectors source) : ¬ Searchable selectors := by
  rcases refused with ⟨before, after, rfl, -, unsound⟩
  intro searchable
  exact unsound (searchable source (List.mem_append_right before List.mem_cons_self))

section Selection

variable {event : Event} {surroundings : Surroundings}

/-- The argument is what the selector gives on its own. -/
def Yields (event : Event) (surroundings : Surroundings) (selector : Selector)
    (argument : Value) : Prop :=
  select event surroundings [] [selector] = .ok [argument]

/-- A selector other than a split adds the argument that it gives on its own, or is refused. -/
theorem select_cons_cases {selector : Selector} (unsplit : selector.isSplit = false) :
    (∃ argument, Yields event surroundings selector argument ∧
      (∀ source, selector = .search source → Compiles source) ∧
        ∀ given rest, select event surroundings given (selector :: rest) =
          select event surroundings (given ++ [argument]) rest) ∨
      ∃ source reason, selector = .search source ∧ ¬ Compiles source ∧
        ∀ given rest, select event surroundings given (selector :: rest) =
          .error (.invalidPattern source reason) := by
  cases selector with
  | split => cases unsplit
  | property property => exact .inl ⟨_, rfl, nofun, fun given rest => rfl⟩
  | search source =>
    rcases compilePattern_cases source with ⟨pattern, compiled⟩ | ⟨unsound, reason, refused⟩
    · have added : ∀ given rest, select event surroundings given (.search source :: rest) =
          select event surroundings
            (given ++ [.text ((pattern.find? (eventText event)).getD "")]) rest := by
        intro given rest
        rw [select, compiled]
      refine .inl ⟨_, added [] [], ?_, added⟩
      rintro _ ⟨⟩
      exact ⟨pattern, compiled⟩
    · refine .inr ⟨source, reason, rfl, unsound, fun given rest => ?_⟩
      rw [select, refused]

/--
Selectors without a split add the arguments that they give on their own, or the first pattern that
does not compile refuses the arguments, whatever selectors come after.
-/
theorem select_append_cases {before : List Selector}
    (unsplit : ∀ selector ∈ before, selector.isSplit = false) :
    (Searchable before ∧ ∃ own, List.Forall₂ (Yields event surroundings) before own ∧
      ∀ given rest, select event surroundings given (before ++ rest) =
        select event surroundings (given ++ own) rest) ∨
      ∃ source reason, FirstRefused before source ∧
        ∀ given rest, select event surroundings given (before ++ rest) =
          .error (.invalidPattern source reason) := by
  -- What has been given stays arbitrary on both sides, since each selector adds to it.
  induction before with
  | nil =>
    refine .inl ⟨searchable_nil, [], .nil, fun given rest => ?_⟩
    rw [List.append_nil, List.nil_append]
  | cons selector before ih =>
    rcases List.forall_mem_cons.1 unsplit with ⟨first, others⟩
    rcases select_cons_cases first with
      ⟨argument, yields, compiles, added⟩ | ⟨source, reason, rfl, unsound, refused⟩
    · rcases ih others with ⟨searchable, own, yielded, onward⟩ | ⟨source, reason, first, refused⟩
      · refine .inl ⟨searchable_cons_iff.2 ⟨compiles, searchable⟩, argument :: own,
          .cons yields yielded, fun given rest => ?_⟩
        rw [List.cons_append, added, onward, List.append_assoc, List.singleton_append]
      · refine .inr ⟨source, reason, first.cons compiles, fun given rest => ?_⟩
        rw [List.cons_append, added, refused]
    · refine .inr ⟨source, reason, ⟨[], before, rfl, searchable_nil, unsound⟩, fun given rest => ?_⟩
      rw [List.cons_append, refused]

variable {selectors : List Selector}

theorem exists_select_iff (unsplit : ∀ selector ∈ selectors, selector.isSplit = false) :
    (∃ values, select event surroundings [] selectors = .ok values) ↔ Searchable selectors := by
  rw [← List.append_nil selectors]
  rcases select_append_cases unsplit with
    ⟨searchable, own, -, selected⟩ | ⟨source, reason, first, refused⟩
  · rw [selected, List.append_nil]
    exact iff_of_true ⟨own, rfl⟩ searchable
  · rw [refused, List.append_nil]
    exact iff_of_false nofun first.not_searchable

theorem forall₂_of_select (unsplit : ∀ selector ∈ selectors, selector.isSplit = false)
    {values : List Value} (given : select event surroundings [] selectors = .ok values) :
    List.Forall₂ (Yields event surroundings) selectors values := by
  rw [← List.append_nil selectors] at given
  rcases select_append_cases unsplit with
    ⟨-, own, yielded, selected⟩ | ⟨source, reason, -, refused⟩
  · rw [selected] at given
    rcases Except.ok.inj given with rfl
    exact yielded
  · rw [refused] at given
    cases given

/--
Without a split the arguments are given exactly if all patterns compile, and then each selector
gives the one that it gives on its own.  With a split, the selectors after the first one do not
count; those before it do so only by a pattern that does not compile, and then the first of these is
at fault.
-/
theorem arguments_end_at_split (event : Event) (surroundings : Surroundings)
    (template : Option TemplateSource) :
    let given := fun selectors => arguments ⟨template, selectors⟩ event surroundings
    (∀ selectors : List Selector, (∀ selector ∈ selectors, selector.isSplit = false) →
      ((∃ values, given selectors = .ok values) ↔
        ∀ source, .search source ∈ selectors → Compiles source) ∧
      ∀ values, given selectors = .ok values →
        List.Forall₂ (fun selector value => given [selector] = .ok [value]) selectors values) ∧
    ∀ before source after, (∀ selector ∈ before, selector.isSplit = false) →
      (∀ others, given (before ++ .split source :: others) =
        given (before ++ .split source :: after)) ∧
      ((∀ pattern, .search pattern ∈ before → Compiles pattern) →
        given (before ++ .split source :: after) = given [.split source]) ∧
      ((∃ pattern, .search pattern ∈ before ∧ ¬ Compiles pattern) →
        ∃ pattern reason, FirstRefused before pattern ∧
          given (before ++ .split source :: after) =
            .error (.invalidPattern pattern reason)) := by
  intro given
  constructor
  · intro selectors unsplit
    exact ⟨exists_select_iff unsplit, fun values selected => forall₂_of_select unsplit selected⟩
  · intro before source after unsplit
    rcases select_append_cases unsplit with
      ⟨searchable, own, -, selected⟩ | ⟨pattern, reason, first, refused⟩
    · have replaced : ∀ others, given (before ++ .split source :: others) =
          given [.split source] := fun others => selected [] _
      refine ⟨fun others => (replaced others).trans (replaced after).symm,
        fun _ => replaced after, ?_⟩
      rintro ⟨pattern, member, unsound⟩
      exact absurd (searchable pattern member) unsound
    · have failed : ∀ others, given (before ++ .split source :: others) =
          .error (.invalidPattern pattern reason) := fun others => refused [] _
      refine ⟨fun others => (failed others).trans (failed after).symm, ?_, fun _ => ?_⟩
      · intro searchable
        exact absurd searchable first.not_searchable
      · exact ⟨pattern, reason, first, failed after⟩

end Selection

end Phrase

end SpokenFeedback
