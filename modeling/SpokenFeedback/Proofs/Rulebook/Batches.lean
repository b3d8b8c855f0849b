import SpokenFeedback.Proofs.Rule.Given
import SpokenFeedback.Proofs.Rulebook.Loading
import SpokenFeedback.Proofs.Rulebook.Log

/-!
# Batches of rules

A load groups its rules by scope and publishes the groups in the order of the scopes, not in that of
the rules.  Unless it is refused, nothing of this is left to be seen: the book is then the one to
which the rules have been added one at a time, each under its own scope.

`Rulebook.load_cons` takes the first rule out of a load and files it beforehand.  By induction on
the rules it follows that a load is a sequence of single additions (`Rulebook.changeAll_additions`)
and that two loads in a row are one load (`Rulebook.load_append`).  The number that a load reports
is gathered from the groups, which share out the rules between them
(`Rulebook.sum_length_groupByScope`).
-/

namespace SpokenFeedback

namespace Rulebook

/-! ## The number of rules -/

/-- The groups have all of the rules between them, and none of them twice. -/
theorem sum_length_groupByScope (rules : List Rule) :
    ((groupByScope rules).entries.map fun group => group.2.length).sum = rules.length := by
  let log : RuleLog := rules.map fun rule => ⟨rule.scope, ⟨default, rule⟩⟩
  have group_length : ∀ group ∈ (groupByScope rules).entries,
      group.2.length = (RuleLog.under log group.1).length := by
    rintro ⟨scope, grouped⟩ member
    have found : (groupByScope rules).get? scope = some grouped :=
      SortedMap.get?_eq_some_iff.2 member
    rw [get?_groupByScope] at found
    split at found
    next => cases found
    next =>
      rcases Option.some.inj found with rfl
      simp [log, RuleLog.under, List.filter_map, Function.comp_def]
  have distinct : (groupByScope rules).keys.Nodup := by
    apply (groupByScope rules).keys_ascending.imp
    rintro earlier later before rfl
    exact Scope.Before.irrefl _ (Scope.compare_eq_lt_iff.1 before)
  have covered : ∀ filing ∈ log, filing.scope ∈ (groupByScope rules).keys := by
    intro filing member
    rcases List.mem_map.1 member with ⟨rule, grouped, rfl⟩
    exact mem_keys_groupByScope.2 ⟨rule, grouped, rfl⟩
  have shared := RuleLog.sum_under_eq_length distinct covered
  rw [SortedMap.keys, List.map_map] at shared
  rw [List.map_congr_left group_length]
  simpa [log, Function.comp_def] using shared

theorem publish_fst {origin : Origin} (namedOrigin : origin.isBlank = false)
    {groups : List (Scope × List Rule)} (filed : ∀ group ∈ groups, group.1.isBlank = false)
    (book : Rulebook) :
    (publish origin groups book).1 = .ok (groups.map fun group => group.2.length).sum := by
  induction groups generalizing book with
  | nil => rfl
  | cons group groups ih =>
    rcases group with ⟨scope, rules⟩
    have namedScope : scope.isBlank = false := filed _ List.mem_cons_self
    have restFiled : ∀ group ∈ groups, group.1.isBlank = false :=
      fun group member => filed group (List.mem_cons_of_mem _ member)
    rw [publish_of_accepted namedScope namedOrigin, ih restFiled]
    rfl

variable {origin : Origin} {rules : List Rule}

/-- A load that is not refused reports the number of its rules. -/
theorem load_fst (book : Rulebook) (namedOrigin : origin.isBlank = false)
    (filed : ∀ rule ∈ rules, rule.scope.isBlank = false) :
    (book.load origin rules).1 = .ok rules.length := by
  have groupsFiled := (forall_group_iff rules fun scope => scope.isBlank = false).2 filed
  rw [load, publish_fst namedOrigin groupsFiled, sum_length_groupByScope]

/-! ## One rule at a time -/

theorem publishes_iff (namedOrigin : origin.isBlank = false)
    (filed : ∀ rule ∈ rules, rule.scope.isBlank = false) {scope : Scope} :
    Publishes origin rules scope ↔ ∃ rule ∈ rules, rule.scope = scope := by
  constructor
  · exact Publishes.someRule
  · intro someRule
    refine ⟨namedOrigin, someRule, fun rule member blank => ?_⟩
    simp [filed rule member] at blank

theorem bucket_load_of_filed (book : Rulebook) (namedOrigin : origin.isBlank = false)
    (filed : ∀ rule ∈ rules, rule.scope.isBlank = false) (scope : Scope) :
    (book.load origin rules).2.bucket scope =
      book.bucket scope ++ (rules.filter fun rule => rule.scope = scope).map (⟨origin, ·⟩) := by
  rw [bucket_load]
  by_cases someRule : ∃ rule ∈ rules, rule.scope = scope
  · rw [if_pos ((publishes_iff namedOrigin filed).2 someRule)]
  · have noRule := not_not.1 (mt filter_scope_ne_nil_iff.1 someRule)
    rw [if_neg (mt (publishes_iff namedOrigin filed).1 someRule), noRule, List.map_nil]

/-- The first rule of a load may be filed before the others are loaded. -/
theorem load_cons (book : Rulebook) {rule : Rule} (namedOrigin : origin.isBlank = false)
    (filed : ∀ other ∈ rule :: rules, other.scope.isBlank = false) :
    (book.load origin (rule :: rules)).2 =
      ((book.file rule.scope [⟨origin, rule⟩]).load origin rules).2 := by
  have restFiled : ∀ other ∈ rules, other.scope.isBlank = false :=
    fun other member => filed other (List.mem_cons_of_mem rule member)
  apply ext_rulesFor?
  intro scope
  simp only [rulesFor?_load, publishes_iff namedOrigin filed, publishes_iff namedOrigin restFiled]
  rw [rulesFor?_file _ _ _ (List.cons_ne_nil _ _), bucket_file]
  by_cases here : rule.scope = scope
  · subst here
    by_cases more : ∃ other ∈ rules, other.scope = rule.scope
    · simp [more]
    · have noneMore := not_not.1 (mt filter_scope_ne_nil_iff.1 more)
      simp [more, noneMore]
  · simp [here, Ne.symm here]

theorem changeAll_additions (book : Rulebook) (namedOrigin : origin.isBlank = false)
    (filed : ∀ rule ∈ rules, rule.scope.isBlank = false) :
    book.changeAll (rules.map fun rule => .add rule.scope origin [rule]) =
      (List.replicate rules.length (.ok 1), (book.load origin rules).2) := by
  induction rules generalizing book with
  | nil => rfl
  | cons rule rules ih =>
    have namedScope : rule.scope.isBlank = false := filed rule List.mem_cons_self
    have added : book.change (.add rule.scope origin [rule]) =
        (.ok 1, book.file rule.scope [⟨origin, rule⟩]) := by
      simp [change_add, namedScope, namedOrigin]
    have rest := ih (book.file rule.scope [⟨origin, rule⟩])
      fun other member => filed other (List.mem_cons_of_mem rule member)
    simp only [List.map_cons, changeAll, added, rest, load_cons book namedOrigin filed]
    rfl

theorem load_append (book : Rulebook) (namedOrigin : origin.isBlank = false)
    {earlier later : List Rule}
    (filed : ∀ rule ∈ earlier ++ later, rule.scope.isBlank = false) :
    ((book.load origin earlier).2.load origin later).2 =
      (book.load origin (earlier ++ later)).2 := by
  induction earlier generalizing book with
  | nil => rfl
  | cons rule rules ih =>
    have restFiled : ∀ other ∈ rules ++ later, other.scope.isBlank = false :=
      fun other member => filed other (List.mem_cons_of_mem rule member)
    have firstFiled : ∀ other ∈ rule :: rules, other.scope.isBlank = false :=
      fun other member => filed other (List.mem_append_left later member)
    rw [load_cons book namedOrigin firstFiled, ih _ restFiled]
    exact (load_cons book namedOrigin filed).symm

/--
A batch of rules of an origin that is not blank, none under a blank scope, is loaded as if its rules
were added one at a time.  The load reports their number; each of them comes after all rules that
its scope had, in the order of the batch; and the batch may be cut in two and loaded in parts.  A
rule can only have a blank scope if it was given that scope: what is derived is never refused.
-/
theorem load_eq_single_additions (book : Rulebook) {origin : Origin}
    (namedOrigin : origin.isBlank = false) {rules : List Rule}
    (filed : ∀ rule ∈ rules, rule.scope.isBlank = false) :
    (book.load origin rules).1 = .ok rules.length ∧
      book.changeAll (rules.map fun rule => .add rule.scope origin [rule]) =
        (List.replicate rules.length (.ok 1), (book.load origin rules).2) ∧
      (∀ earlier later, rules = earlier ++ later →
        ((book.load origin earlier).2.load origin later).2 = (book.load origin rules).2) ∧
      (∀ scope, (book.load origin rules).2.bucket scope =
        book.bucket scope ++ (rules.filter fun rule => rule.scope = scope).map (⟨origin, ·⟩)) ∧
      ∀ steps rule, Rule.ofSteps steps = .ok rule → rule.scope.isBlank = true →
        .scope rule.scope ∈ steps := by
  refine ⟨book.load_fst namedOrigin filed, book.changeAll_additions namedOrigin filed, ?_, ?_,
    fun steps rule => Rule.mem_of_isBlank_scope⟩
  · rintro earlier later rfl
    exact book.load_append namedOrigin filed
  · intro scope
    exact book.bucket_load_of_filed namedOrigin filed scope

/-- Two rules of one scope keep their order though a rule of the fallback scope is between them. -/
theorem load_of_interleaved_scopes :
    ∃ first second third : Rule,
      Rule.ofSteps [.scope (.named "app")] = .ok first ∧
        Rule.ofSteps [.index 1] = .ok second ∧
        Rule.ofSteps [.scope (.named "app"), .index 2] = .ok third ∧
        (empty.load ⟨"plugin"⟩ [first, second, third]).1 = .ok 3 ∧
        (empty.load ⟨"plugin"⟩ [first, second, third]).2.bucket (.named "app") =
          [⟨⟨"plugin"⟩, first⟩, ⟨⟨"plugin"⟩, third⟩] := by
  have namedOrigin : Origin.isBlank ⟨"plugin"⟩ = false := by decide
  refine ⟨_, _, _, rfl, rfl, rfl, (load_eq_single_additions empty namedOrigin ?_).1,
    (load_eq_single_additions empty namedOrigin ?_).2.2.2.1 (.named "app")⟩ <;> decide

end Rulebook

end SpokenFeedback
