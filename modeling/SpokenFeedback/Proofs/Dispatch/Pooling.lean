import SpokenFeedback.Proofs.Dispatch.FirstMatch
import SpokenFeedback.Proofs.Rulebook.Unloading

/-!
# Pooled utterances

A dispatcher speaks into utterances that have been used before, and a host may recycle any
utterance it holds, with whatever is in it.  Nothing of an earlier event is heard again: results
are those of a dispatcher that makes a new utterance for every event.

`UtterancePool.Clean` is the invariant of the pool, which `UtterancePool.Clean.obtain` and
`UtterancePool.Clean.recycle` keep.  `Dispatcher.freshResults` gives the results without a pool,
`Dispatcher.callAll_of_clean` compares both over a sequence of calls, and
`Dispatcher.callAll_pooling_unobservable` is what a host sees.
-/

namespace SpokenFeedback

theorem Utterance.isEmpty_iff {utterance : Utterance} :
    utterance.isEmpty = true ↔ utterance = empty := by
  constructor
  · rcases utterance with ⟨text, ⟨metadata, _⟩, ⟨auditory, _⟩, ⟨haptic, _⟩⟩
    intro silent
    simp only [isEmpty, SortedMap.isEmpty, Bool.and_eq_true, decide_eq_true_eq,
      List.isEmpty_iff] at silent
    rcases silent with ⟨⟨⟨rfl, rfl⟩, rfl⟩, rfl⟩
    rfl
  · rintro rfl
    rfl

/-! ## The pool -/

namespace UtterancePool

/-- The idle utterances are empty, and there are no more of them than the pool may keep. -/
structure Clean (pool : UtterancePool) : Prop where
  silent : ∀ utterance ∈ pool.idle, utterance = .empty
  bounded : pool.idle.length ≤ pool.capacity

theorem clean_ofCapacity (capacity : Nat) : (ofCapacity capacity).Clean :=
  ⟨fun _ member => (nomatch member), Nat.zero_le capacity⟩

theorem capacity_obtain (pool : UtterancePool) : pool.obtain.2.capacity = pool.capacity := by
  rw [obtain]
  split <;> rfl

theorem capacity_recycle (pool : UtterancePool) (utterance : Utterance) :
    (pool.recycle utterance).capacity = pool.capacity := by
  rw [recycle]
  split <;> rfl

namespace Clean

variable {pool : UtterancePool}

theorem obtain_fst (clean : pool.Clean) : pool.obtain.1 = .empty := by
  rw [UtterancePool.obtain]
  split
  next => rfl
  next utterance idle kept => exact clean.silent utterance (by simp [kept])

theorem obtain (clean : pool.Clean) : pool.obtain.2.Clean := by
  rw [UtterancePool.obtain]
  split
  next => exact clean
  next utterance idle kept =>
    constructor
    · intro other member
      exact clean.silent other (by simp [kept, member])
    · have bounded := clean.bounded
      rw [kept, List.length_cons] at bounded
      exact Nat.le_of_succ_le bounded

/-- Whatever is recycled, it is cleared before it is kept. -/
theorem recycle (clean : pool.Clean) (utterance : Utterance) : (pool.recycle utterance).Clean := by
  rw [UtterancePool.recycle]
  split
  next room =>
    constructor
    · intro other member
      rcases List.mem_cons.1 member with rfl | kept
      · exact utterance.clear_eq_empty
      · exact clean.silent other kept
    · exact room
  next => exact clean

end Clean

end UtterancePool

/-! ## The dispatcher -/

/-- A call of a host to a dispatcher; any utterance may be recycled. -/
inductive DispatcherCall where
  | process (event : Event) (occasion : Occasion)
  | recycle (utterance : Utterance)
  | upkeep (call : Upkeep)

namespace Dispatcher

/-- Makes calls in order, and gives the results of the events among them. -/
def callAll (dispatcher : Dispatcher) : List DispatcherCall → List Result × Dispatcher
  | [] => ([], dispatcher)
  | .process event occasion :: calls =>
    let (result, next) := dispatcher.process event occasion
    let (results, final) := next.callAll calls
    (result :: results, final)
  | .recycle utterance :: calls => (dispatcher.recycle utterance).callAll calls
  | .upkeep call :: calls => (dispatcher.upkeep call).callAll calls

/-- The result of an event that is spoken into a new utterance. -/
def freshResult (dispatcher : Dispatcher) (event : Event) (occasion : Occasion) : Result :=
  let (matched, spoken) := dispatcher.processInto event occasion .empty
  ⟨matched, spoken⟩

/-- The results of the events among calls if each is spoken into a new utterance. -/
def freshResults (dispatcher : Dispatcher) : List DispatcherCall → List Result
  | [] => []
  | .process event occasion :: calls =>
    dispatcher.freshResult event occasion :: dispatcher.freshResults calls
  | .recycle _ :: calls => dispatcher.freshResults calls
  | .upkeep call :: calls => (dispatcher.upkeep call).freshResults calls

variable {dispatcher : Dispatcher}

theorem freshResults_withPool (dispatcher : Dispatcher) (pool : UtterancePool)
    (calls : List DispatcherCall) :
    freshResults { dispatcher with pool } calls = dispatcher.freshResults calls := by
  induction calls generalizing dispatcher with
  | nil => rfl
  | cons call calls ih =>
    cases call with
    | process event occasion => exact congrArg (dispatcher.freshResult event occasion :: ·) (ih _)
    | recycle utterance => exact ih dispatcher
    | upkeep call =>
      have kept : upkeep { dispatcher with pool } call =
          { dispatcher.upkeep call with pool } := by
        cases call <;> rfl
      rw [freshResults, freshResults, kept]
      exact ih _

theorem pool_upkeep (dispatcher : Dispatcher) (call : Upkeep) :
    (dispatcher.upkeep call).pool = dispatcher.pool := by
  cases call <;> rfl

theorem process_fst_of_clean (clean : dispatcher.pool.Clean) (event : Event)
    (occasion : Occasion) :
    (dispatcher.process event occasion).1 = dispatcher.freshResult event occasion := by
  rw [freshResult, ← clean.obtain_fst]
  rfl

theorem utterance_freshResult_of_unmatched {event : Event} {occasion : Occasion}
    (unmatched : (dispatcher.freshResult event occasion).matched = none) :
    (dispatcher.freshResult event occasion).utterance = .empty := by
  have dispatched := processInto_eq dispatcher event occasion .empty
  rw [freshResult, dispatched] at unmatched ⊢
  exact congrArg (contributionOf event _ .empty) unmatched

theorem empty_of_mem_freshResults {calls : List DispatcherCall} {result : Result}
    (member : result ∈ dispatcher.freshResults calls) (unmatched : result.matched = none) :
    result.utterance = .empty := by
  induction calls generalizing dispatcher with
  | nil => cases member
  | cons call calls ih =>
    cases call with
    | process event occasion =>
      rcases List.mem_cons.1 member with rfl | later
      · exact utterance_freshResult_of_unmatched unmatched
      · exact ih later
    | recycle utterance => exact ih member
    | upkeep call => exact ih member

/--
Over a sequence of calls a dispatcher with a clean pool has the results of new utterances, and its
pool stays clean and of the same capacity.
-/
theorem callAll_of_clean (clean : dispatcher.pool.Clean) (calls : List DispatcherCall) :
    (dispatcher.callAll calls).1 = dispatcher.freshResults calls ∧
      (dispatcher.callAll calls).2.pool.Clean ∧
      (dispatcher.callAll calls).2.pool.capacity = dispatcher.pool.capacity := by
  induction calls generalizing dispatcher with
  | nil => exact ⟨rfl, clean, rfl⟩
  | cons call calls ih =>
    cases call with
    | process event occasion =>
      let next : Dispatcher := { dispatcher with pool := dispatcher.pool.obtain.2 }
      have obtained : next.pool.Clean := clean.obtain
      rcases ih obtained with ⟨results, final, sameCapacity⟩
      refine ⟨?_, final, sameCapacity.trans dispatcher.pool.capacity_obtain⟩
      have spoken := process_fst_of_clean clean event occasion
      have onwards := results.trans (dispatcher.freshResults_withPool _ calls)
      exact congrArg₂ List.cons spoken onwards
    | recycle utterance =>
      have recycled : (dispatcher.recycle utterance).pool.Clean := clean.recycle utterance
      rcases ih recycled with ⟨results, final, sameCapacity⟩
      refine ⟨?_, final, sameCapacity.trans (dispatcher.pool.capacity_recycle utterance)⟩
      exact results.trans (dispatcher.freshResults_withPool _ calls)
    | upkeep call =>
      have samePool := dispatcher.pool_upkeep call
      rcases ih (samePool ▸ clean) with ⟨results, final, sameCapacity⟩
      exact ⟨results, final, sameCapacity.trans (congrArg UtterancePool.capacity samePool)⟩

/--
Pooling makes no difference to results.  Whatever a host processes, recycles and changes in the
rules, and whatever the pool may keep, each event has the result that it has with a new utterance,
an event without a rule leaves its utterance empty, and the idle utterances are empty and no more
than the pool may keep.
-/
theorem callAll_pooling_unobservable (book : Rulebook) (surroundings : Surroundings)
    (settings : Settings) (calls : List DispatcherCall) :
    let started := start book surroundings settings
    let dispatcher := (started.callAll calls).2
    (started.callAll calls).1 = started.freshResults calls ∧
      (∀ event occasion,
        (dispatcher.process event occasion).1 =
          ⟨(dispatcher.processInto event occasion .empty).1,
            (dispatcher.processInto event occasion .empty).2⟩) ∧
      (∀ result ∈ (started.callAll calls).1, result.matched = none →
        result.utterance.isEmpty = true) ∧
      (∀ utterance ∈ dispatcher.pool.idle, utterance.isEmpty = true) ∧
      dispatcher.pool.idle.length ≤ settings.poolCapacity := by
  intro started dispatcher
  have startedClean : started.pool.Clean := UtterancePool.clean_ofCapacity settings.poolCapacity
  rcases callAll_of_clean startedClean calls with ⟨results, clean, sameCapacity⟩
  refine ⟨results, ?_, ?_, ?_, clean.bounded.trans_eq sameCapacity⟩
  · intro event occasion
    exact process_fst_of_clean clean event occasion
  · intro result member unmatched
    rw [results] at member
    exact Utterance.isEmpty_iff.2 (empty_of_mem_freshResults member unmatched)
  · intro utterance member
    exact Utterance.isEmpty_iff.2 (clean.silent utterance member)

end Dispatcher

end SpokenFeedback
