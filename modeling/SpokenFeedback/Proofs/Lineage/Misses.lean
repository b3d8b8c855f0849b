import SpokenFeedback.Lineage.TypeDirectory
import SpokenFeedback.Proofs.Lineage.ParentChain

/-!
# Remembered misses

A directory that remembers unanswered questions answers like one that remembers none.  This hangs
on one fact: a remembered question never has an answer.  It would be lost if a declaration forgot
only the question that it names, since a global declaration also answers questions about every
namespace that does not declare the name itself.

`TypeDirectory.MissesUndeclared` states this fact, `TypeDirectory.Sound` adds the bound on what is
remembered, and `TypeDirectory.Sound.declare` and `TypeDirectory.Sound.resolve` say that each call
keeps both.  `TypeDirectory.Alike.callAll` compares two directories over a sequence of calls, and
`TypeDirectory.callAll_misses_invisible` is what follows for directories that start empty.
-/

namespace SpokenFeedback

/-- A call to a directory; a type without namespace is declared globally. -/
inductive DirectoryCall where
  | declare (type : TypeName) (parent : Option String)
  | resolve (name : String) (within : Option String)
deriving DecidableEq, Repr

namespace TypeDirectory

/-- Makes calls in order, and gives the answers to the questions among them. -/
def callAll (directory : TypeDirectory) :
    List DirectoryCall → List (Option Lineage) × TypeDirectory
  | [] => ([], directory)
  | .declare type parent :: calls => (directory.declare type parent).callAll calls
  | .resolve name within :: calls =>
    let (answer, asked) := directory.resolve name within
    let (answers, final) := asked.callAll calls
    (answer :: answers, final)

/-! ## One question -/

@[simp]
theorem table_remember (directory : TypeDirectory) (question : TypeName) :
    (directory.remember question).table = directory.table := by
  rw [remember]
  split <;> rfl

@[simp]
theorem capacity_remember (directory : TypeDirectory) (question : TypeName) :
    (directory.remember question).capacity = directory.capacity := by
  rw [remember]
  split <;> rfl

/-- Either nothing new is remembered, or the question joins earlier ones that leave room for it. -/
theorem misses_remember (directory : TypeDirectory) (question : TypeName) :
    (directory.remember question).misses = directory.misses ∨
      ∃ kept, kept.Sublist directory.misses ∧ kept.length < directory.capacity ∧
        question ∉ kept ∧ (directory.remember question).misses = question :: kept := by
  by_cases noRoom : directory.capacity = 0
  · exact .inl (by simp [remember, noRoom])
  by_cases full : directory.misses.length ≥ directory.capacity
  · right
    refine ⟨[], List.nil_sublist _, Nat.pos_of_ne_zero noRoom, List.not_mem_nil, ?_⟩
    simp [remember, noRoom, full]
  by_cases known : question ∈ directory.misses
  · exact .inl (by simp [remember, noRoom, full, known])
  · right
    refine ⟨directory.misses, List.Sublist.refl _, Nat.lt_of_not_ge full, known, ?_⟩
    simp [remember, noRoom, full, known]

/-- What a question does: it is remembered already, or is answered, or is remembered from now on. -/
theorem resolve_cases (directory : TypeDirectory) (name : String) (within : Option String) :
    (⟨name, within⟩ ∈ directory.misses ∧ directory.resolve name within = (none, directory)) ∨
      (∃ lineage, directory.table.lineage? name within = some lineage ∧
        directory.resolve name within = (some lineage, directory)) ∨
      (directory.table.lineage? name within = none ∧
        directory.resolve name within = (none, directory.remember ⟨name, within⟩)) := by
  rw [resolve]
  split
  next known => exact .inl ⟨known, rfl⟩
  next =>
    cases directory.table.lineage? name within with
    | some lineage => exact .inr (.inl ⟨lineage, rfl, rfl⟩)
    | none => exact .inr (.inr ⟨rfl, rfl⟩)

/-! ## Remembered questions have no answer -/

/-- No remembered question is about a declared name. -/
def MissesUndeclared (directory : TypeDirectory) : Prop :=
  ∀ question ∈ directory.misses, ¬ directory.table.Declares question.name question.within

theorem missesUndeclared_empty (capacity : Nat) : (empty capacity).MissesUndeclared := by
  intro question member
  cases member

theorem missesUndeclared_declare (directory : TypeDirectory) (type : TypeName)
    (parent : Option String) : (directory.declare type parent).MissesUndeclared := by
  intro question member
  cases member

namespace MissesUndeclared

variable {directory : TypeDirectory}

/-- The answer to a question is the one that the table gives. -/
theorem resolve_fst (undeclared : directory.MissesUndeclared) (name : String)
    (within : Option String) :
    (directory.resolve name within).1 = directory.table.lineage? name within := by
  rcases directory.resolve_cases name within with
    ⟨known, resolved⟩ | ⟨lineage, found, resolved⟩ | ⟨missing, resolved⟩
  · rw [resolved]
    exact (TypeTable.lineage?_eq_none_iff.2 (undeclared _ known)).symm
  · rw [resolved, found]
  · rw [resolved, missing]

theorem resolver_eq (undeclared : directory.MissesUndeclared) :
    directory.resolver = directory.table.lineage? := by
  funext name within
  exact undeclared.resolve_fst name within

theorem resolve (undeclared : directory.MissesUndeclared) (name : String)
    (within : Option String) : (directory.resolve name within).2.MissesUndeclared := by
  rcases directory.resolve_cases name within with
    ⟨-, resolved⟩ | ⟨lineage, -, resolved⟩ | ⟨missing, resolved⟩
  · rw [resolved]
    exact undeclared
  · rw [resolved]
    exact undeclared
  · rw [resolved]
    intro question member
    rw [table_remember]
    rcases directory.misses_remember ⟨name, within⟩ with same | ⟨kept, fewer, -, -, joined⟩
    · exact undeclared question (same ▸ member)
    · rw [joined] at member
      rcases List.mem_cons.1 member with rfl | earlier
      · exact TypeTable.lineage?_eq_none_iff.1 missing
      · exact undeclared question (fewer.subset earlier)

end MissesUndeclared

/-- The directories that arise from an empty one by calls and by changes of the capacity. -/
inductive Reachable : TypeDirectory → Prop where
  | empty (capacity : Nat) : Reachable (.empty capacity)
  | declare {directory : TypeDirectory} (reachable : Reachable directory) (type : TypeName)
    (parent : Option String) : Reachable (directory.declare type parent)
  | resolve {directory : TypeDirectory} (reachable : Reachable directory) (name : String)
    (within : Option String) : Reachable (directory.resolve name within).2
  | limit {directory : TypeDirectory} (reachable : Reachable directory) (capacity : Nat) :
    Reachable { directory with capacity }

theorem Reachable.missesUndeclared {directory : TypeDirectory} (reachable : directory.Reachable) :
    directory.MissesUndeclared := by
  induction reachable with
  | empty capacity => exact missesUndeclared_empty capacity
  | declare _ type parent _ => exact missesUndeclared_declare _ type parent
  | resolve _ name within ih => exact ih.resolve name within
  | limit _ capacity ih => exact ih

/-! ## Sequences of calls -/

/-- What a directory remembers is unanswered, without repetition and within the capacity. -/
structure Sound (directory : TypeDirectory) : Prop where
  undeclared : directory.MissesUndeclared
  distinct : directory.misses.Nodup
  bounded : directory.missCount ≤ directory.capacity

theorem sound_empty (capacity : Nat) : (empty capacity).Sound :=
  ⟨missesUndeclared_empty capacity, List.nodup_nil, Nat.zero_le capacity⟩

namespace Sound

variable {directory : TypeDirectory}

theorem declare (type : TypeName) (parent : Option String) :
    (directory.declare type parent).Sound :=
  ⟨missesUndeclared_declare directory type parent, List.nodup_nil, Nat.zero_le _⟩

theorem remember {question : TypeName} (sound : directory.Sound)
    (undeclared : (directory.remember question).MissesUndeclared) :
    (directory.remember question).Sound := by
  rcases directory.misses_remember question with same | ⟨kept, fewer, room, fresh, joined⟩
  · refine ⟨undeclared, same ▸ sound.distinct, ?_⟩
    rw [capacity_remember, missCount, same]
    exact sound.bounded
  · refine ⟨undeclared, ?_, ?_⟩
    · rw [joined]
      exact List.nodup_cons.2 ⟨fresh, fewer.nodup sound.distinct⟩
    · rw [capacity_remember, missCount, joined]
      exact room

theorem resolve (sound : directory.Sound) (name : String) (within : Option String) :
    (directory.resolve name within).2.Sound := by
  have undeclared := sound.undeclared.resolve name within
  rcases directory.resolve_cases name within with
    ⟨-, resolved⟩ | ⟨lineage, -, resolved⟩ | ⟨-, resolved⟩
  · rw [resolved]
    exact sound
  · rw [resolved]
    exact sound
  · rw [resolved] at undeclared ⊢
    exact sound.remember undeclared

end Sound

@[simp]
theorem capacity_resolve (directory : TypeDirectory) (name : String) (within : Option String) :
    (directory.resolve name within).2.capacity = directory.capacity := by
  rcases directory.resolve_cases name within with
    ⟨-, resolved⟩ | ⟨lineage, -, resolved⟩ | ⟨-, resolved⟩ <;> simp [resolved]

theorem capacity_callAll (directory : TypeDirectory) (calls : List DirectoryCall) :
    (directory.callAll calls).2.capacity = directory.capacity := by
  induction calls generalizing directory with
  | nil => rfl
  | cons call calls ih =>
    cases call with
    | declare type parent => exact ih _
    | resolve name within => exact (ih _).trans (capacity_resolve directory name within)

/-- Two sound directories of the same types, which may remember different questions. -/
structure Alike (left right : TypeDirectory) : Prop where
  sameTable : left.table = right.table
  leftSound : left.Sound
  rightSound : right.Sound

/-- Directories of the same types answer all calls alike and stay directories of the same types. -/
theorem Alike.callAll {left right : TypeDirectory} (alike : left.Alike right)
    (calls : List DirectoryCall) :
    (left.callAll calls).1 = (right.callAll calls).1 ∧
      (left.callAll calls).2.Alike (right.callAll calls).2 := by
  induction calls generalizing left right with
  | nil => exact ⟨rfl, alike⟩
  | cons call calls ih =>
    cases call with
    | declare type parent =>
      have declared : (left.declare type parent).Alike (right.declare type parent) :=
        ⟨congrArg (·.declare type parent) alike.sameTable, .declare type parent,
          .declare type parent⟩
      exact ih declared
    | resolve name within =>
      have sameAnswer : (left.resolve name within).1 = (right.resolve name within).1 := by
        rw [alike.leftSound.undeclared.resolve_fst, alike.rightSound.undeclared.resolve_fst,
          alike.sameTable]
      have asked : (left.resolve name within).2.Alike (right.resolve name within).2 := by
        constructor
        · rw [table_resolve, table_resolve]
          exact alike.sameTable
        · exact alike.leftSound.resolve name within
        · exact alike.rightSound.resolve name within
      rcases ih asked with ⟨sameAnswers, final⟩
      exact ⟨congrArg₂ List.cons sameAnswer sameAnswers, final⟩

/--
What a directory remembers is invisible and bounded: over every sequence of declarations and
questions it answers as a directory without capacity, it remembers only questions about names that
are not declared, no more of them than its capacity, and a question changes no declaration.
-/
theorem callAll_misses_invisible (capacity : Nat) (calls : List DirectoryCall) :
    let directory := ((empty capacity).callAll calls).2
    ((empty capacity).callAll calls).1 = ((empty 0).callAll calls).1 ∧
      (∀ question ∈ directory.misses,
        ¬ directory.table.Declares question.name question.within) ∧
      directory.misses.Nodup ∧
      directory.missCount ≤ capacity ∧
      ∀ name within, (directory.resolve name within).2.table = directory.table := by
  intro directory
  have start : (empty capacity).Alike (empty 0) := ⟨rfl, sound_empty capacity, sound_empty 0⟩
  rcases start.callAll calls with ⟨sameAnswers, alike⟩
  have sound : directory.Sound := alike.leftSound
  have sameCapacity : directory.capacity = capacity := capacity_callAll (empty capacity) calls
  exact ⟨sameAnswers, sound.undeclared, sound.distinct, sameCapacity ▸ sound.bounded,
    directory.table_resolve⟩

end TypeDirectory

end SpokenFeedback
