import Mathlib.Data.List.Forall2

/-!
# Success of a traversal

When a computation that may fail gives a value, stage by stage and for each member of a list.
-/

namespace SpokenFeedback

section Stages

variable {ε α β : Type} {result : Except ε α} {value : β}

theorem Except.map_eq_ok_iff {f : α → β} :
    result.map f = .ok value ↔ ∃ given, result = .ok given ∧ f given = value := by
  cases result with
  | ok given => simp [Except.map]
  | error fault => simp [Except.map]

theorem Except.map_eq_error_iff {fault : ε} {f : α → β} :
    result.map f = .error fault ↔ result = .error fault := by
  cases result with
  | ok given => simp [Except.map]
  | error found => simp [Except.map]

theorem Except.bind_eq_ok_iff {f : α → Except ε β} :
    result.bind f = .ok value ↔ ∃ given, result = .ok given ∧ f given = .ok value := by
  cases result with
  | ok given => simp [Except.bind]
  | error fault => simp [Except.bind]

end Stages

/-- A list has related values, member by member, if each member has one. -/
theorem List.exists_forall₂_iff {α β : Type} {related : α → β → Prop} {entries : List α} :
    (∃ values, List.Forall₂ related entries values) ↔
      ∀ entry ∈ entries, ∃ value, related entry value := by
  induction entries with
  | nil => simp
  | cons entry entries ih =>
    rw [List.forall_mem_cons, ← ih]
    constructor
    · rintro ⟨values, first | ⟨first, others⟩⟩
      exact ⟨⟨_, first⟩, _, others⟩
    · rintro ⟨⟨value, first⟩, values, others⟩
      exact ⟨value :: values, .cons first others⟩

end SpokenFeedback
