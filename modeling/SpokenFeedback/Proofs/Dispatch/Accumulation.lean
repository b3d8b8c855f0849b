import SpokenFeedback.Proofs.Dispatch.ScopeIndex
import SpokenFeedback.Proofs.Utterance.Succession

/-!
# Speaking into a given utterance

A caller may have events spoken into an utterance of its own, with whatever is in it.  As long as no
part of the host speaks and no disabled state is due, what is there makes no difference: the same
rule is applied, and it adds after the given utterance what it makes of an empty one.

`Rule.HostFree.accumulates_contribution` says so of one rule; the rule itself is the same because a
rule without parts of the host never fails to speak.  `Dispatcher.processInto_followedBy` joins
both, and `Dispatcher.processInto_accumulates` spells it out for each part of the utterance.
-/

namespace SpokenFeedback

/-! ## Phrases -/

theorem Phrase.speak_of_enabled {event : Event} (enabled : speaksDisabled event = false)
    (phrase : Phrase) (surroundings : Surroundings) (utterance : Utterance) :
    phrase.speak event surroundings utterance =
      match phrase.render event surroundings with
      | .error _ => utterance
      | .ok text => utterance.append text := by
  rw [speak]
  cases phrase.render event surroundings with
  | error fault => rfl
  | ok text => simp [enabled]

/-- A phrase whose text cannot be rendered adds nothing, and any other adds its text. -/
theorem Phrase.accumulates_speak {event : Event} (enabled : speaksDisabled event = false)
    (phrase : Phrase) (surroundings : Surroundings) :
    Utterance.Accumulates (phrase.speak event surroundings) := by
  intro utterance
  rw [speak_of_enabled enabled, speak_of_enabled enabled]
  cases phrase.render event surroundings with
  | error fault => exact Utterance.accumulates_id utterance
  | ok text => exact Utterance.accumulates_append text utterance

/-! ## Rules -/

namespace Rule

variable {rule : Rule} {event : Event} {context : Context} {utterance : Utterance}

theorem accumulates_applyMetadata (rule : Rule) : Utterance.Accumulates rule.applyMetadata := by
  intro utterance
  simp [applyMetadata, Utterance.mergeMetadata, Utterance.followedBy, Utterance.empty,
    utterance.auditory.addAll_eq_merge rule.auditory, utterance.haptic.addAll_eq_merge rule.haptic]

/-- What a rule without parts of the host makes of an utterance it adds to the utterance. -/
theorem HostFree.accumulates_contribution (hostFree : rule.HostFree)
    (enabled : Phrase.speaksDisabled event = false) (context : Context) :
    Utterance.Accumulates (rule.contribution event context) := by
  cases given : rule.formatter with
  | none =>
    intro utterance
    simp only [contribution, given]
    exact rule.accumulates_applyMetadata utterance
  | some formatter =>
    rcases hostFree.formatter_eq_phrase given with ⟨phrase, rfl⟩
    intro utterance
    simp only [contribution, given]
    exact (phrase.accumulates_speak enabled context.surroundings).comp
      rule.accumulates_applyMetadata utterance

end Rule

/-! ## Dispatch -/

theorem accumulates_contributionOf {event : Event} (enabled : Phrase.speaksDisabled event = false)
    (context : Context) {matched : Option RuleEntry}
    (hostFree : ∀ entry ∈ matched, entry.rule.HostFree) :
    Utterance.Accumulates (contributionOf event context · matched) := by
  cases matched with
  | none => exact Utterance.accumulates_id
  | some entry => exact (hostFree entry rfl).accumulates_contribution enabled context

theorem speaksDisabled_of_enabled {event : Event}
    (enabled : event.raw .enabled ≠ some (.bool false)) : Phrase.speaksDisabled event = false := by
  have plain : event.resolve .enabled = event.raw .enabled := rfl
  simp [Phrase.speaksDisabled, plain, enabled]

namespace Dispatcher

variable {dispatcher : Dispatcher}

theorem mem_candidates {event : Event} {occasion : Occasion} {entry : RuleEntry}
    (member : entry ∈ dispatcher.candidates event occasion) :
    ∃ scope, entry ∈ dispatcher.book.bucket scope := by
  rw [candidates] at member
  split at member
  next name _ =>
    rcases List.mem_append.1 member with own | shared
    · exact ⟨.named name, own⟩
    · exact ⟨.fallback, shared⟩
  next => exact ⟨.fallback, member⟩

/-- Dispatch finds the same rule for every utterance, and adds after it what the rule says. -/
theorem processInto_followedBy
    (hostFree : ∀ scope, ∀ entry ∈ dispatcher.book.bucket scope, entry.rule.HostFree)
    {event : Event} (enabled : event.raw .enabled ≠ some (.bool false)) (occasion : Occasion)
    (utterance : Utterance) :
    dispatcher.processInto event occasion utterance =
      ((dispatcher.processInto event occasion .empty).1,
        utterance.followedBy (dispatcher.processInto event occasion .empty).2) := by
  let context : Context := ⟨dispatcher.surroundings, occasion.values⟩
  have candidatesFree : ∀ entry ∈ dispatcher.candidates event occasion, entry.rule.HostFree := by
    intro entry member
    rcases mem_candidates member with ⟨scope, filed⟩
    exact hostFree scope entry filed
  have sameFirst :
      firstApplicable? event context utterance (dispatcher.candidates event occasion) =
        firstApplicable? event context .empty (dispatcher.candidates event occasion) := by
    rw [firstApplicable?_eq_firstAccepting? candidatesFree,
      firstApplicable?_eq_firstAccepting? candidatesFree]
  have firstFree : ∀ entry ∈ firstApplicable? event context .empty
      (dispatcher.candidates event occasion), entry.rule.HostFree :=
    fun entry found => candidatesFree entry (List.mem_of_find?_eq_some found)
  have spoken := accumulates_contributionOf (speaksDisabled_of_enabled enabled) context firstFree
  rw [processInto_eq, processInto_eq, sameFirst]
  exact Prod.ext rfl (spoken utterance)

/--
An utterance of the caller only grows.  In a book of rules without parts of the host, and for an
event that is not disabled, the rule is the one that is found for an empty utterance.  Its text is
assembled after the given text, its metadata take the place of the given ones under the same keys,
and its sounds and vibrations are added to the given ones.
-/
theorem processInto_accumulates
    (hostFree : ∀ scope, ∀ entry ∈ dispatcher.book.bucket scope, entry.rule.HostFree)
    {event : Event} (enabled : event.raw .enabled ≠ some (.bool false)) (occasion : Occasion)
    (utterance : Utterance) :
    let fresh := dispatcher.processInto event occasion .empty
    let spoken := dispatcher.processInto event occasion utterance
    spoken.1 = fresh.1 ∧
      spoken.2.text = assemble utterance.text fresh.2.text ∧
      (∀ key, spoken.2.metadata.get? key =
        (fresh.2.metadata.get? key).or (utterance.metadata.get? key)) ∧
      (∀ name, spoken.2.auditory.contains name =
        (utterance.auditory.contains name || fresh.2.auditory.contains name)) ∧
      ∀ name, spoken.2.haptic.contains name =
        (utterance.haptic.contains name || fresh.2.haptic.contains name) := by
  intro fresh spoken
  have grown : spoken = (fresh.1, utterance.followedBy fresh.2) :=
    processInto_followedBy hostFree enabled occasion utterance
  rw [grown]
  exact ⟨rfl, rfl, SortedMap.get?_merge utterance.metadata fresh.2.metadata,
    SortedMap.contains_merge utterance.auditory fresh.2.auditory,
    SortedMap.contains_merge utterance.haptic fresh.2.haptic⟩

/-- A caller that has something to say already hears the rule's text after it. -/
theorem processInto_after_given_text :
    ∃ rule : Rule,
      Rule.ofSteps [.template "go", .readMetadata "earcon" "click"] = .ok rule ∧
        let spoken := ((start (Rulebook.empty.load ⟨"plugin"⟩ [rule]).2 .empty
          .standard).processInto .empty .plain (Utterance.empty.append "ready")).2
        spoken.text = "ready, go" ∧ spoken.auditory.contains "click" = true := by
  have free : ∀ rule, Rule.ofSteps [.template "go", .readMetadata "earcon" "click"] = .ok rule →
      ∀ scope, ∀ entry ∈ (Rulebook.empty.load ⟨"plugin"⟩ [rule]).2.bucket scope,
        entry.rule.HostFree := by
    intro rule built scope entry member
    rcases Rulebook.mem_bucket_load member with old | ⟨loaded, -⟩
    · cases old
    · rcases List.mem_singleton.1 loaded with rfl
      exact ⟨_, by simp, by simp, built⟩
  refine ⟨_, rfl, ?_⟩
  have added := @processInto_accumulates (start _ .empty .standard) (free _ rfl) .empty nofun .plain
    (Utterance.empty.append "ready")
  exact ⟨added.2.1, added.2.2.2.1 "click"⟩

end Dispatcher

end SpokenFeedback
