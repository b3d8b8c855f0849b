import SpokenFeedback.Phrase

/-!
# Speaking the disabled state

Whether an event tells the state of a control is tested on the bits of its code: the code has to
share one with that of a type that announces states (`Phrase.and_stateMask_ne_zero_iff`).  Every
type that has a name has a bit of its own, so that for these the test is the same as comparing
codes.  A code of several bits can share one with a type that it is not the code of, and then the
state is spoken for an event of no type that announces it (`Phrase.speaksState_isState_iff`).
-/

namespace SpokenFeedback

theorem Value.int?_eq_some_iff {value : Value} {number : Int64} :
    value.int? = some number ↔ value = .int number := by
  cases value <;> simp [Value.int?]

namespace Phrase

/-! ## Codes and masks -/

/-- The code shares a bit with that of a type that announces states. -/
def MeetsState (code : Int64) : Prop := ∃ eventType ∈ stateEventTypes, code &&& eventType.code ≠ 0

/-- The code is that of a type that announces states. -/
def IsState (code : Int64) : Prop := ∃ eventType ∈ stateEventTypes, code = eventType.code

instance : DecidablePred MeetsState := fun code =>
  inferInstanceAs (Decidable (∃ eventType ∈ stateEventTypes, code &&& eventType.code ≠ 0))

instance : DecidablePred IsState := fun code =>
  inferInstanceAs (Decidable (∃ eventType ∈ stateEventTypes, code = eventType.code))

theorem and_or_ne_zero_iff (code first second : Int64) :
    code &&& (first ||| second) ≠ 0 ↔ code &&& first ≠ 0 ∨ code &&& second ≠ 0 := by
  have distributes : code &&& (first ||| second) = code &&& first ||| code &&& second := by
    apply Int64.toBitVec_inj.1
    rw [Int64.toBitVec_and, Int64.toBitVec_or, BitVec.and_or_distrib_left]
    rfl
  rw [distributes, Ne, Int64.or_eq_zero_iff, Classical.not_and_iff_not_or_not]

/-- A mask is met exactly if one of the codes that it has been put together from is. -/
theorem and_foldl_or_ne_zero_iff (code mask : Int64) (eventTypes : List EventType) :
    code &&& eventTypes.foldl (fun mask eventType => mask ||| eventType.code) mask ≠ 0 ↔
      code &&& mask ≠ 0 ∨ ∃ eventType ∈ eventTypes, code &&& eventType.code ≠ 0 := by
  induction eventTypes generalizing mask with
  | nil => simp
  | cons eventType eventTypes ih =>
    rw [List.foldl_cons, ih, and_or_ne_zero_iff, or_assoc]
    simp only [List.mem_cons, exists_eq_or_imp]

theorem and_stateMask_ne_zero_iff (code : Int64) : code &&& stateMask ≠ 0 ↔ MeetsState code := by
  rw [stateMask, and_foldl_or_ne_zero_iff, Int64.and_zero]
  exact or_iff_right (fun different => different rfl)

theorem IsState.meetsState {code : Int64} (same : IsState code) : MeetsState code := by
  rcases same with ⟨eventType, member, rfl⟩
  refine ⟨eventType, member, ?_⟩
  rw [Int64.and_self]
  cases eventType <;> decide

/-- The codes of the types that have a name share no bits. -/
theorem isState_code_of_meetsState {eventType : EventType} (meets : MeetsState eventType.code) :
    IsState eventType.code := by
  revert meets
  cases eventType <;> decide

/-! ## Speaking -/

/-- The event tells that a control is disabled, its code being one of those that announce states. -/
def TellsDisabled (announces : Int64 → Prop) (event : Event) : Prop :=
  event.resolve .enabled = some (.bool false) ∧
    ∃ code, event.resolve .eventType = some (.int code) ∧ announces code

theorem speaksDisabled_iff (event : Event) :
    speaksDisabled event = true ↔ TellsDisabled MeetsState event := by
  rw [speaksDisabled, Bool.and_eq_true, decide_eq_true_eq, Option.any_eq_true]
  refine and_congr_right fun _ => exists_congr fun code => ?_
  rw [decide_eq_true_eq, and_stateMask_ne_zero_iff, Option.bind_eq_some_iff]
  simp only [Value.int?_eq_some_iff, exists_eq_right]

/-- After its text a phrase speaks the disabled state exactly if the event tells it. -/
def SpeaksState (announces : Int64 → Prop) (event : Event) : Prop :=
  ∀ (phrase : Phrase) (surroundings : Surroundings) (utterance : Utterance) (text : String),
    phrase.render event surroundings = .ok text →
      let spoken := utterance.append text
      let state := (surroundings.resource? disabledReference).getD disabledText
      (spoken.text ≠ "" ∧ TellsDisabled announces event →
        phrase.speak event surroundings utterance = spoken.append state) ∧
      (¬ (spoken.text ≠ "" ∧ TellsDisabled announces event) →
        phrase.speak event surroundings utterance = spoken)

theorem speaksState_meetsState (event : Event) : SpeaksState MeetsState event := by
  intro phrase surroundings utterance text rendered spoken state
  rw [← speaksDisabled_iff, speak, rendered]
  exact ⟨fun due => if_pos due, fun undue => if_neg undue⟩

theorem TellsDisabled.mono {announces others : Int64 → Prop} {event : Event}
    (implies : ∀ code, announces code → others code) (tells : TellsDisabled announces event) :
    TellsDisabled others event := by
  rcases tells with ⟨disabled, code, given, announced⟩
  exact ⟨disabled, code, given, implies code announced⟩

/--
The state is spoken for every code that shares a bit with one that announces states.  So it is
spoken for exactly the codes that announce states unless the event has another code that shares a
bit, which no type with a name has.
-/
theorem speaksState_isState_iff (event : Event) :
    SpeaksState MeetsState event ∧
      (SpeaksState IsState event ↔
        (TellsDisabled MeetsState event → TellsDisabled IsState event)) ∧
      ∀ eventType : EventType, MeetsState eventType.code → IsState eventType.code := by
  refine ⟨speaksState_meetsState event, ⟨?_, ?_⟩, fun eventType => isState_code_of_meetsState⟩
  · intro law tells
    -- Where the phrase adds nothing to a text that is there, only the state can change it.
    let utterance : Utterance := { Utterance.empty with text := "a" }
    have rendered : Phrase.empty.render event .empty = .ok "" := rfl
    have spoken : Phrase.empty.speak event .empty utterance = utterance.append "disabled" :=
      (speaksState_meetsState event .empty .empty utterance "" rendered).1 ⟨by decide, tells⟩
    by_cases told : TellsDisabled IsState event
    · exact told
    have silent := (law .empty .empty utterance "" rendered).2 fun due => told due.2
    rw [spoken] at silent
    exact absurd (congrArg Utterance.text silent) (by decide)
  · intro implied
    have same : TellsDisabled MeetsState event ↔ TellsDisabled IsState event :=
      ⟨implied, TellsDisabled.mono fun _ => IsState.meetsState⟩
    have law := speaksState_meetsState event
    simp only [SpeaksState, same] at law
    exact law

/-- The state is spoken for a code with all bits set, though it is not one that announces states. -/
theorem speak_disabled_of_all_bits :
    let event := Event.ofList
      [(.text, .text "Send"), (.enabled, .bool false), (.eventType, .int (-1))]
    let phrase : Phrase := ⟨none, [.property .text]⟩
    phrase.render event .empty = .ok "Send" ∧ ¬ IsState (-1) ∧
      (phrase.speak event .empty .empty).text = "Send, disabled" ∧
      ¬ SpeaksState IsState event := by
  intro event phrase
  have rendered : phrase.render event .empty = .ok "Send" := rfl
  have unannounced : ¬ IsState (-1) := by decide
  have spoken : (phrase.speak event .empty .empty).text = "Send, disabled" := by decide
  refine ⟨rendered, unannounced, spoken, fun law => ?_⟩
  have silent := (law phrase .empty .empty "Send" rendered).2
  rw [silent] at spoken
  · exact absurd spoken (by decide)
  · rintro ⟨-, -, code, given, announced⟩
    rcases Value.int.inj (Option.some.inj given) with rfl
    exact unannounced announced

end Phrase

end SpokenFeedback
