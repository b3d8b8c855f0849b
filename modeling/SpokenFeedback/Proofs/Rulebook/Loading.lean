import Mathlib.Data.List.Basic
import Mathlib.Tactic.ByContra
import SpokenFeedback.Dispatch
import SpokenFeedback.Proofs.Rulebook.Bucket
import SpokenFeedback.Rule.Draft

/-!
# Loading rules

Loading sorts rules into groups by their own scopes and publishes the groups in the order of the
scopes, up to the first that is refused.  `Rulebook.rulesFor?_load` says what a book holds
afterwards: a scope gains its rules, in their order, exactly if it is published, that is, if no
blank scope among those of the rules stands at or before it.

A load that is refused can thus leave rules behind.  `Rulebook.load_allOrNothing_iff` says exactly
when it leaves none.
-/

namespace SpokenFeedback

namespace Rulebook

/-! ## Groups -/

theorem get?_foldl_group (rules : List Rule) (groups : SortedMap Scope (List Rule))
    (scope : Scope) :
    (rules.foldl
        (fun groups rule =>
          groups.insert rule.scope ((groups.get? rule.scope).getD [] ++ [rule]))
        groups).get? scope =
      if rules.filter (fun rule => rule.scope = scope) = [] then groups.get? scope
      else some ((groups.get? scope).getD [] ++ rules.filter fun rule => rule.scope = scope) := by
  induction rules generalizing groups with
  | nil => simp
  | cons rule rules ih =>
    rw [List.foldl_cons, ih, SortedMap.get?_insert]
    by_cases here : rule.scope = scope
    · subst here
      by_cases last : rules.filter (fun other => other.scope = rule.scope) = []
      · simp [last]
      · simp [last]
    · have elsewhere : compare scope rule.scope ≠ .eq := by
        simpa [Std.LawfulEqOrd.compare_eq_iff_eq] using Ne.symm here
      simp [here, elsewhere]

/-- The group of a scope has its rules in their order; a scope without rules has no group. -/
theorem get?_groupByScope (rules : List Rule) (scope : Scope) :
    (groupByScope rules).get? scope =
      if rules.filter (fun rule => rule.scope = scope) = [] then none
      else some (rules.filter fun rule => rule.scope = scope) := by
  simp [groupByScope, get?_foldl_group]

theorem filter_scope_ne_nil_iff {rules : List Rule} {scope : Scope} :
    rules.filter (fun rule => rule.scope = scope) ≠ [] ↔ ∃ rule ∈ rules, rule.scope = scope := by
  simp [List.filter_eq_nil_iff]

/-- The scopes of the groups are those of the rules. -/
theorem mem_keys_groupByScope {rules : List Rule} {scope : Scope} :
    scope ∈ (groupByScope rules).keys ↔ ∃ rule ∈ rules, rule.scope = scope := by
  rw [SortedMap.mem_keys_iff, get?_groupByScope, ← filter_scope_ne_nil_iff]
  split
  next noRule => simp [noRule]
  next someRule => simp [someRule]

theorem forall_group_iff (rules : List Rule) (holds : Scope → Prop) :
    (∀ group ∈ (groupByScope rules).entries, holds group.1) ↔
      ∀ rule ∈ rules, holds rule.scope := by
  constructor
  · intro all rule member
    obtain ⟨group, grouped, sameScope⟩ :=
      List.mem_map.1 (mem_keys_groupByScope.2 ⟨rule, member, rfl⟩)
    exact sameScope ▸ all group grouped
  · intro all group grouped
    obtain ⟨rule, member, sameScope⟩ :=
      mem_keys_groupByScope.1 (List.mem_map_of_mem (f := Prod.fst) grouped)
    exact sameScope ▸ all rule member

theorem group_ne_nil {rules : List Rule} {group : Scope × List Rule}
    (member : group ∈ (groupByScope rules).entries) : group.2 ≠ [] := by
  intro noRule
  have found : (groupByScope rules).get? group.1 = some group.2 :=
    SortedMap.get?_eq_some_iff.2 member
  rw [get?_groupByScope, noRule] at found
  split at found
  next => cases found
  next someRule => exact someRule (Option.some.inj found)

/-! ## Publication -/

/-- No blank scope of the groups stands at or before a scope. -/
def Precedes (scope : Scope) (groups : List (Scope × List Rule)) : Prop :=
  ∀ group ∈ groups, group.1.isBlank = true → scope.Before group.1

instance (scope : Scope) (groups : List (Scope × List Rule)) : Decidable (Precedes scope groups) :=
  inferInstanceAs (Decidable (∀ group ∈ groups, group.1.isBlank = true → scope.Before group.1))

theorem precedes_cons {probe scope : Scope} {rules : List Rule}
    {groups : List (Scope × List Rule)} :
    Precedes probe ((scope, rules) :: groups) ↔
      (scope.isBlank = true → probe.Before scope) ∧ Precedes probe groups := by
  simp [Precedes]

theorem publish_of_refused {origin : Origin} {scope : Scope}
    (refused : scope.isBlank = true ∨ origin.isBlank = true) (rules : List Rule)
    (groups : List (Scope × List Rule)) (book : Rulebook) :
    ∃ fault, publish origin ((scope, rules) :: groups) book = (.error fault, book) := by
  rw [publish, add]
  by_cases blankScope : scope.isBlank = true
  · exact ⟨.blankScope, by simp [blankScope]⟩
  · have blankOrigin : origin.isBlank = true := refused.resolve_left blankScope
    exact ⟨.blankOrigin, by simp [blankScope, blankOrigin]⟩

theorem publish_of_accepted {origin : Origin} {scope : Scope} {rules : List Rule}
    (namedScope : scope.isBlank = false) (namedOrigin : origin.isBlank = false)
    (groups : List (Scope × List Rule)) (book : Rulebook) :
    publish origin ((scope, rules) :: groups) book =
      ((publish origin groups (book.file scope (rules.map (⟨origin, ·⟩)))).1.map
          (rules.length + ·),
        (publish origin groups (book.file scope (rules.map (⟨origin, ·⟩)))).2) := by
  rw [publish, add]
  simp [namedScope, namedOrigin]

/-- Publication fails exactly if the origin or the scope of some group is blank. -/
theorem publish_refused_iff {origin : Origin} {groups : List (Scope × List Rule)}
    {book : Rulebook} :
    (∃ fault, (publish origin groups book).1 = .error fault) ↔
      ∃ group ∈ groups, group.1.isBlank = true ∨ origin.isBlank = true := by
  induction groups generalizing book with
  | nil => simp [publish]
  | cons group groups ih =>
    rcases group with ⟨scope, rules⟩
    by_cases refused : scope.isBlank = true ∨ origin.isBlank = true
    · rcases publish_of_refused refused rules groups book with ⟨fault, stopped⟩
      exact iff_of_true ⟨fault, by rw [stopped]⟩ ⟨_, List.mem_cons_self, refused⟩
    · obtain ⟨namedScope, namedOrigin⟩ : scope.isBlank = false ∧ origin.isBlank = false := by
        simpa using refused
      rw [publish_of_accepted namedScope namedOrigin]
      have tail := @ih (book.file scope (rules.map (⟨origin, ·⟩)))
      rw [List.exists_mem_cons_iff, or_iff_right refused, ← tail]
      cases (publish origin groups (book.file scope (rules.map (⟨origin, ·⟩)))).1 with
      | ok count => simp [Except.map]
      | error fault => simp [Except.map]

/-- Up to the first scope of ascending groups no scope has a later group. -/
theorem find_tail_eq_none {probe scope : Scope} {groups : List (Scope × List Rule)}
    (above : ∀ group ∈ groups, compare scope group.1 = .lt)
    (early : probe = scope ∨ probe.Before scope) : SortedMap.find probe groups = none := by
  apply SortedMap.find_eq_none_of_below
  intro group member
  rcases early with rfl | before
  · exact above group member
  · exact Std.TransCmp.lt_trans (Scope.compare_eq_lt_iff.2 before) (above group member)

/--
Publication adds to a scope the rules of its group, if it has one that precedes all blank scopes.
-/
theorem rulesFor?_publish {origin : Origin} (namedOrigin : origin.isBlank = false)
    {groups : List (Scope × List Rule)}
    (ascending : groups.Pairwise (fun earlier later => compare earlier.1 later.1 = .lt))
    (filled : ∀ group ∈ groups, group.2 ≠ []) (book : Rulebook) (probe : Scope) :
    (publish origin groups book).2.rulesFor? probe =
      match SortedMap.find probe groups with
      | none => book.rulesFor? probe
      | some rules =>
        if Precedes probe groups then some (book.bucket probe ++ rules.map (⟨origin, ·⟩))
        else book.rulesFor? probe := by
  induction groups generalizing book with
  | nil => rfl
  | cons group groups ih =>
    rcases group with ⟨scope, rules⟩
    rcases List.pairwise_cons.1 ascending with ⟨above, restAscending⟩
    have restFilled : ∀ group ∈ groups, group.2 ≠ [] :=
      fun group member => filled group (List.mem_cons_of_mem _ member)
    by_cases blank : scope.isBlank = true
    · -- The first group is refused, and no scope with a group precedes the first scope.
      rcases publish_of_refused (.inl blank) rules groups book with ⟨fault, stopped⟩
      rw [stopped]
      by_cases precedes : Precedes probe ((scope, rules) :: groups)
      · have before := (precedes_cons.1 precedes).1 blank
        have earlier : compare probe scope = .lt := Scope.compare_eq_lt_iff.2 before
        simp [SortedMap.find, earlier, find_tail_eq_none above (.inr before)]
      · simp only [if_neg precedes]
        split <;> rfl
    · have namedScope : scope.isBlank = false := by simpa using blank
      rw [publish_of_accepted namedScope namedOrigin, ih restAscending restFilled]
      by_cases here : probe = scope
      · subst here
        have precedes : Precedes probe ((probe, rules) :: groups) := by
          rw [precedes_cons]
          refine ⟨fun isBlank => absurd isBlank blank, fun group member _ => ?_⟩
          exact Scope.compare_eq_lt_iff.1 (above group member)
        have someRule : rules ≠ [] := filled _ List.mem_cons_self
        rw [find_tail_eq_none above (.inl rfl), rulesFor?_file _ _ _ (by simpa using someRule)]
        simp [SortedMap.find, precedes]
      · have elsewhere : compare probe scope ≠ .eq := by
          simpa [Std.LawfulEqOrd.compare_eq_iff_eq] using here
        have sameLookup :
            (book.file scope (rules.map (⟨origin, ·⟩))).rulesFor? probe = book.rulesFor? probe := by
          have someRule : rules ≠ [] := filled _ List.mem_cons_self
          rw [rulesFor?_file _ _ _ (by simpa using someRule), if_neg here]
        simp [SortedMap.find, elsewhere, precedes_cons, blank, here, sameLookup]

/-! ## Loading -/

/-- A load publishes a scope if it has rules for it and refuses no scope up to it. -/
structure Publishes (origin : Origin) (rules : List Rule) (scope : Scope) : Prop where
  namedOrigin : origin.isBlank = false
  someRule : ∃ rule ∈ rules, rule.scope = scope
  precedes : ∀ refused ∈ rules, refused.scope.isBlank = true → scope.Before refused.scope

instance (origin : Origin) (rules : List Rule) (scope : Scope) :
    Decidable (Publishes origin rules scope) :=
  decidable_of_iff
    (origin.isBlank = false ∧ (∃ rule ∈ rules, rule.scope = scope) ∧
      ∀ refused ∈ rules, refused.scope.isBlank = true → scope.Before refused.scope)
    ⟨fun ⟨namedOrigin, someRule, precedes⟩ => ⟨namedOrigin, someRule, precedes⟩,
      fun ⟨namedOrigin, someRule, precedes⟩ => ⟨namedOrigin, someRule, precedes⟩⟩

theorem not_publishes_of_blankOrigin {origin : Origin} (blankOrigin : origin.isBlank = true)
    {rules : List Rule} {scope : Scope} : ¬ Publishes origin rules scope := by
  intro publishes
  have namedOrigin := publishes.namedOrigin
  simp [blankOrigin] at namedOrigin

/-- A load fails exactly if there is a rule and its scope or the origin is blank. -/
theorem load_refused_iff {book : Rulebook} {origin : Origin} {rules : List Rule} :
    (∃ fault, (book.load origin rules).1 = .error fault) ↔
      ∃ rule ∈ rules, rule.scope.isBlank = true ∨ origin.isBlank = true := by
  rw [load, publish_refused_iff]
  have accepted := forall_group_iff rules
    fun scope => ¬ (scope.isBlank = true ∨ origin.isBlank = true)
  have refused := not_congr accepted
  simpa only [not_forall, not_not, exists_prop] using refused

theorem load_of_blankOrigin {origin : Origin} (blankOrigin : origin.isBlank = true)
    (book : Rulebook) (rules : List Rule) : (book.load origin rules).2 = book := by
  rw [load]
  cases (groupByScope rules).entries with
  | nil => rfl
  | cons group groups =>
    rcases group with ⟨scope, grouped⟩
    have refused : scope.isBlank = true ∨ origin.isBlank = true := .inr blankOrigin
    rcases publish_of_refused refused grouped groups book with ⟨fault, stopped⟩
    rw [stopped]

/-- A load adds to each scope that it publishes the rules of that scope, in their order. -/
theorem rulesFor?_load (book : Rulebook) (origin : Origin) (rules : List Rule) (scope : Scope) :
    (book.load origin rules).2.rulesFor? scope =
      if Publishes origin rules scope then
        some (book.bucket scope ++
          (rules.filter fun rule => rule.scope = scope).map (⟨origin, ·⟩))
      else book.rulesFor? scope := by
  by_cases blankOrigin : origin.isBlank = true
  · rw [load_of_blankOrigin blankOrigin, if_neg (not_publishes_of_blankOrigin blankOrigin)]
  · have namedOrigin : origin.isBlank = false := by simpa using blankOrigin
    have precedes_iff : Precedes scope (groupByScope rules).entries ↔
        ∀ refused ∈ rules, refused.scope.isBlank = true → scope.Before refused.scope :=
      forall_group_iff rules fun other => other.isBlank = true → scope.Before other
    have lookup := get?_groupByScope rules scope
    rw [load, rulesFor?_publish namedOrigin (groupByScope rules).ascending
      (fun group member => group_ne_nil member)]
    change (match (groupByScope rules).get? scope with
      | none => _
      | some _ => _) = _
    rw [lookup]
    by_cases noRule : rules.filter (fun rule => rule.scope = scope) = []
    · have unpublished : ¬ Publishes origin rules scope :=
        fun publishes => filter_scope_ne_nil_iff.2 publishes.someRule noRule
      simp [noRule, unpublished]
    · have publishes_iff : Publishes origin rules scope ↔
          Precedes scope (groupByScope rules).entries :=
        ⟨fun publishes => precedes_iff.2 publishes.precedes,
          fun precedes => ⟨namedOrigin, filter_scope_ne_nil_iff.1 noRule, precedes_iff.1 precedes⟩⟩
      simp [noRule, publishes_iff]

theorem bucket_load (book : Rulebook) (origin : Origin) (rules : List Rule) (scope : Scope) :
    (book.load origin rules).2.bucket scope =
      book.bucket scope ++
        if Publishes origin rules scope then
          (rules.filter fun rule => rule.scope = scope).map (⟨origin, ·⟩)
        else [] := by
  rw [bucket, rulesFor?_load]
  split
  · rfl
  · simp [bucket]

theorem mem_bucket_load {book : Rulebook} {origin : Origin} {rules : List Rule} {scope : Scope}
    {entry : RuleEntry} (member : entry ∈ (book.load origin rules).2.bucket scope) :
    entry ∈ book.bucket scope ∨ entry.rule ∈ rules ∧ entry.rule.scope = scope := by
  rw [bucket_load] at member
  rcases List.mem_append.1 member with old | new
  · exact .inl old
  · split at new
    · rcases List.mem_map.1 new with ⟨rule, grouped, rfl⟩
      rcases List.mem_filter.1 grouped with ⟨loaded, own⟩
      exact .inr ⟨loaded, by simpa using own⟩
    · cases new

theorem Stocked.load {book : Rulebook} (stocked : book.Stocked) (origin : Origin)
    (rules : List Rule) : (book.load origin rules).2.Stocked := by
  intro scope
  rw [rulesFor?_load]
  split
  next publishes =>
    have someRule := filter_scope_ne_nil_iff.2 publishes.someRule
    simp [someRule]
  next => exact stocked scope

/-! ## Loads that leave nothing behind -/

/-- A load leaves a book as it was exactly if it publishes no scope. -/
theorem load_eq_self_iff {book : Rulebook} {origin : Origin} {rules : List Rule} :
    (book.load origin rules).2 = book ↔ ∀ scope, ¬ Publishes origin rules scope := by
  constructor
  · intro unchanged scope publishes
    have grown := bucket_load book origin rules scope
    rw [unchanged, if_pos publishes] at grown
    have added := List.self_eq_append_right.1 grown
    exact filter_scope_ne_nil_iff.2 publishes.someRule (List.map_eq_nil_iff.1 added)
  · intro unpublished
    apply ext_rulesFor?
    intro scope
    rw [rulesFor?_load, if_neg (unpublished scope)]

/-- Two books show the same rules under every scope, the same scopes and as many rules. -/
structure ShowsAlike (left right : Rulebook) : Prop where
  rulesFor?_eq : ∀ scope, left.rulesFor? scope = right.rulesFor? scope
  scopes_eq : left.scopes = right.scopes
  size_eq : left.size = right.size

theorem showsAlike_iff {left right : Rulebook} : left.ShowsAlike right ↔ left = right := by
  constructor
  · intro alike
    exact ext_rulesFor? alike.rulesFor?_eq
  · rintro rfl
    exact ⟨fun _ => rfl, rfl, rfl⟩

/--
That a load which fails leaves the book as it was holds in exactly three cases: the origin is
blank, no scope of the rules is blank, or every rule stands at or after a blank scope of the rules.
Otherwise the scopes before the first blank one keep their new rules.
-/
theorem load_allOrNothing_iff (book : Rulebook) (origin : Origin) (rules : List Rule) :
    ((∃ fault, (book.load origin rules).1 = .error fault) →
        (book.load origin rules).2.ShowsAlike book) ↔
      origin.isBlank = true ∨
        (∀ rule ∈ rules, rule.scope.isBlank = false) ∨
        ∀ rule ∈ rules, ∃ refused ∈ rules,
          refused.scope.isBlank = true ∧ ¬ rule.scope.Before refused.scope := by
  rw [load_refused_iff, showsAlike_iff, load_eq_self_iff]
  constructor
  · intro allOrNothing
    by_cases blankOrigin : origin.isBlank = true
    · exact .inl blankOrigin
    by_cases named : ∀ rule ∈ rules, rule.scope.isBlank = false
    · exact .inr (.inl named)
    · refine .inr (.inr fun rule member => ?_)
      have fails : ∃ rule ∈ rules, rule.scope.isBlank = true ∨ origin.isBlank = true := by
        obtain ⟨refused, blankMember, blank⟩ := by simpa using named
        exact ⟨refused, blankMember, .inl blank⟩
      by_contra early
      refine allOrNothing fails rule.scope ⟨by simpa using blankOrigin, ⟨rule, member, rfl⟩, ?_⟩
      intro refused blankMember blank
      by_contra late
      exact early ⟨refused, blankMember, blank, late⟩
  · rintro (blankOrigin | named | late) fails scope publishes
    · exact not_publishes_of_blankOrigin blankOrigin publishes
    · rcases fails with ⟨rule, member, blankScope | blankOrigin⟩
      · simp [named rule member] at blankScope
      · exact not_publishes_of_blankOrigin blankOrigin publishes
    · rcases publishes.someRule with ⟨rule, member, rfl⟩
      rcases late rule member with ⟨refused, blankMember, blank, notBefore⟩
      exact notBefore (publishes.precedes refused blankMember blank)

/-- A load of a bare rule and of a rule under a blank scope fails and keeps the bare rule. -/
theorem load_refused_keeps_bare_rule :
    ∃ bare blank : Rule,
      Rule.ofSteps [] = .ok bare ∧
        Rule.ofSteps [.scope (.named " ")] = .ok blank ∧
        (empty.load ⟨"plugin"⟩ [bare, blank]).1 = .error .blankScope ∧
        (empty.load ⟨"plugin"⟩ [bare, blank]).2.size = 1 ∧
        ¬ (empty.load ⟨"plugin"⟩ [bare, blank]).2.ShowsAlike empty := by
  refine ⟨_, _, rfl, rfl, ?_, ?_, ?_⟩
  · rfl
  · rfl
  · intro alike
    exact absurd alike.size_eq (by decide)

end Rulebook

end SpokenFeedback
