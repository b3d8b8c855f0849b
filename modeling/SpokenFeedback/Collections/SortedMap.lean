/-!
# Sorted maps

A finite map kept as the list of its entries in strictly ascending key order.  The order is part
of the type, so a map has one representation: `SortedMap.ext_get?` turns equal look-ups into equal
maps.  One equation for each operation says what a look-up finds afterwards.  A set of names is a
map to `Unit`.
-/

namespace SpokenFeedback

/-- A finite map as its entries, in strictly ascending key order. -/
structure SortedMap (κ ν : Type) [Ord κ] where
  entries : List (κ × ν)
  ascending : entries.Pairwise (fun earlier later => compare earlier.1 later.1 = .lt)

namespace SortedMap

variable {κ ν ω : Type} [Ord κ]

instance [DecidableEq κ] [DecidableEq ν] : DecidableEq (SortedMap κ ν) := fun left right =>
  decidable_of_iff (left.entries = right.entries) <| by
    cases left; cases right; simp

/-- The map without entries. -/
def empty : SortedMap κ ν := ⟨[], .nil⟩

instance : Inhabited (SortedMap κ ν) := ⟨empty⟩

instance : EmptyCollection (SortedMap κ ν) := ⟨empty⟩

/-- The keys, in ascending order. -/
def keys (map : SortedMap κ ν) : List κ := map.entries.map Prod.fst

/-- The values, in the order of their keys. -/
def values (map : SortedMap κ ν) : List ν := map.entries.map Prod.snd

/-- The number of entries. -/
def size (map : SortedMap κ ν) : Nat := map.entries.length

/-- Whether there is no entry. -/
def isEmpty (map : SortedMap κ ν) : Bool := map.entries.isEmpty

/-- The value of the first entry of a list that has the key. -/
def find (key : κ) : List (κ × ν) → Option ν
  | [] => none
  | (other, held) :: rest => if compare key other = .eq then some held else find key rest

/-- The value under a key, if the key is there. -/
def get? (map : SortedMap κ ν) (key : κ) : Option ν := find key map.entries

/-- Whether the key has an entry. -/
def contains (map : SortedMap κ ν) (key : κ) : Bool := (map.get? key).isSome

/-- Puts an entry at its place in an ascending list; an entry with the same key gives way. -/
def insertEntry (key : κ) (value : ν) : List (κ × ν) → List (κ × ν)
  | [] => [(key, value)]
  | (other, held) :: rest =>
    match compare key other with
    | .lt => (key, value) :: (other, held) :: rest
    | .eq => (key, value) :: rest
    | .gt => (other, held) :: insertEntry key value rest

theorem mem_insertEntry {key : κ} {value : ν} {entry : κ × ν} {list : List (κ × ν)}
    (member : entry ∈ insertEntry key value list) : entry = (key, value) ∨ entry ∈ list := by
  induction list with
  | nil => simpa [insertEntry] using member
  | cons head rest ih =>
    obtain ⟨other, held⟩ := head
    rw [insertEntry] at member
    split at member <;> grind

theorem insertEntry_ascending [Std.TransOrd κ] [Std.LawfulEqOrd κ] (key : κ) (value : ν)
    {list : List (κ × ν)}
    (ascending : list.Pairwise (fun earlier later => compare earlier.1 later.1 = .lt)) :
    (insertEntry key value list).Pairwise
      (fun earlier later => compare earlier.1 later.1 = .lt) := by
  induction list with
  | nil => simp [insertEntry]
  | cons head rest ih =>
    obtain ⟨other, held⟩ := head
    obtain ⟨above, restAscending⟩ := List.pairwise_cons.1 ascending
    rw [insertEntry]
    split
    next before =>
      refine List.pairwise_cons.2 ⟨?_, ascending⟩
      intro entry member
      rcases List.mem_cons.1 member with rfl | member
      · exact before
      · exact Std.TransCmp.lt_trans before (above entry member)
    next same =>
      obtain rfl := Std.LawfulEqCmp.eq_of_compare same
      exact List.pairwise_cons.2 ⟨above, restAscending⟩
    next after =>
      refine List.pairwise_cons.2 ⟨fun entry member => ?_, ih restAscending⟩
      rcases mem_insertEntry member with rfl | member
      · exact Std.OrientedCmp.gt_iff_lt.1 after
      · exact above entry member

/-- Puts a value under a key, in place of any value the key had. -/
def insert [Std.TransOrd κ] [Std.LawfulEqOrd κ] (map : SortedMap κ ν) (key : κ) (value : ν) :
    SortedMap κ ν :=
  ⟨insertEntry key value map.entries, insertEntry_ascending key value map.ascending⟩

/-- Takes a key out of the map, if it is there. -/
def erase (map : SortedMap κ ν) (key : κ) : SortedMap κ ν :=
  ⟨map.entries.filter (fun entry => compare key entry.1 != .eq), map.ascending.filter _⟩

/-- Replaces each value, and drops the entries for which there is no replacement. -/
def filterMap (map : SortedMap κ ν) (replace : κ → ν → Option ω) : SortedMap κ ω where
  entries := map.entries.filterMap fun entry => (replace entry.1 entry.2).map (entry.1, ·)
  ascending := by
    refine (List.pairwise_filterMap).2 (map.ascending.imp fun {earlier later} before => ?_)
    intro first isFirst second isSecond
    obtain ⟨_, _, rfl⟩ := Option.map_eq_some_iff.1 isFirst
    obtain ⟨_, _, rfl⟩ := Option.map_eq_some_iff.1 isSecond
    exact before

/-- Writes every entry of `overrides` over `base`. -/
def merge [Std.TransOrd κ] [Std.LawfulEqOrd κ] (base overrides : SortedMap κ ν) :
    SortedMap κ ν :=
  overrides.entries.foldl (fun map entry => map.insert entry.1 entry.2) base

/-- The map of a list of entries; of two entries with one key the later one stays. -/
def ofList [Std.TransOrd κ] [Std.LawfulEqOrd κ] (list : List (κ × ν)) : SortedMap κ ν :=
  list.foldl (fun map entry => map.insert entry.1 entry.2) empty

/-! ### Look-ups -/

@[simp]
theorem get?_empty (key : κ) : (empty : SortedMap κ ν).get? key = none := rfl

theorem find_insertEntry [Std.TransOrd κ] [Std.LawfulEqOrd κ] (key probe : κ) (value : ν)
    (list : List (κ × ν)) :
    find probe (insertEntry key value list) =
      if compare probe key = .eq then some value else find probe list := by
  induction list with
  | nil => rfl
  | cons head rest ih =>
    obtain ⟨other, held⟩ := head
    rw [insertEntry]
    split
    next => rfl
    next same =>
      obtain rfl := Std.LawfulEqCmp.eq_of_compare same
      simp only [find]
      split <;> rfl
    next after =>
      simp only [find, ih]
      by_cases hit : compare probe other = .eq
      · obtain rfl := Std.LawfulEqCmp.eq_of_compare hit
        have differs : compare probe key ≠ .eq := by
          rw [Std.OrientedCmp.gt_iff_lt.1 after]
          decide
        simp [differs]
      · simp [hit]

/-- A look-up after an insertion finds the new value under its key and the old map elsewhere. -/
theorem get?_insert [Std.TransOrd κ] [Std.LawfulEqOrd κ] (map : SortedMap κ ν) (key probe : κ)
    (value : ν) :
    (map.insert key value).get? probe =
      if compare probe key = .eq then some value else map.get? probe :=
  find_insertEntry key probe value map.entries

theorem find_filter_ne [Std.TransOrd κ] [Std.LawfulEqOrd κ] (key probe : κ)
    (list : List (κ × ν)) :
    find probe (list.filter fun entry => compare key entry.1 != .eq) =
      if compare probe key = .eq then none else find probe list := by
  induction list with
  | nil => simp [find]
  | cons head rest ih =>
    obtain ⟨other, held⟩ := head
    by_cases gone : compare key other = .eq
    · obtain rfl := Std.LawfulEqCmp.eq_of_compare gone
      simp only [List.filter_cons, gone, bne_self_eq_false, Bool.false_eq_true, ↓reduceIte, ih,
        find]
      split <;> rfl
    · simp only [List.filter_cons, bne_iff_ne, ne_eq, gone, not_false_eq_true, ↓reduceIte, find, ih]
      by_cases hit : compare probe other = .eq
      · obtain rfl := Std.LawfulEqCmp.eq_of_compare hit
        have differs : compare probe key ≠ .eq := fun same =>
          gone (Std.OrientedCmp.eq_comm.1 same)
        simp [differs]
      · simp [hit]

/-- A look-up after a removal finds nothing under the key and the old map elsewhere. -/
theorem get?_erase [Std.TransOrd κ] [Std.LawfulEqOrd κ] (map : SortedMap κ ν) (key probe : κ) :
    (map.erase key).get? probe = if compare probe key = .eq then none else map.get? probe :=
  find_filter_ne key probe map.entries

theorem find_eq_none_of_below [Std.TransOrd κ] {key : κ} {list : List (κ × ν)}
    (above : ∀ entry ∈ list, compare key entry.1 = .lt) : find key list = none := by
  induction list with
  | nil => rfl
  | cons head rest ih =>
    have first := above head (by simp)
    simp only [find, first]
    exact ih fun entry member => above entry (by simp [member])

theorem find_filterMap [Std.TransOrd κ] [Std.LawfulEqOrd κ] (replace : κ → ν → Option ω)
    (probe : κ) {list : List (κ × ν)}
    (ascending : list.Pairwise (fun earlier later => compare earlier.1 later.1 = .lt)) :
    find probe (list.filterMap fun entry => (replace entry.1 entry.2).map (entry.1, ·)) =
      (find probe list).bind (replace probe) := by
  induction list with
  | nil => rfl
  | cons head rest ih =>
    obtain ⟨other, held⟩ := head
    obtain ⟨above, restAscending⟩ := List.pairwise_cons.1 ascending
    have tail := ih restAscending
    by_cases hit : compare probe other = .eq
    · obtain rfl := Std.LawfulEqCmp.eq_of_compare hit
      cases replaced : replace probe held with
      | none =>
        rw [find_eq_none_of_below above] at tail
        simp [find, replaced, tail]
      | some value => simp [find, replaced]
    · cases replaced : replace other held with
      | none => simp [find, replaced, tail, hit]
      | some value => simp [find, replaced, tail, hit]

/-- A look-up after a replacement of the values finds the replacement of the old value. -/
theorem get?_filterMap [Std.TransOrd κ] [Std.LawfulEqOrd κ] (map : SortedMap κ ν)
    (replace : κ → ν → Option ω) (probe : κ) :
    (map.filterMap replace).get? probe = (map.get? probe).bind (replace probe) :=
  find_filterMap replace probe map.ascending

theorem get?_foldl_insert [Std.TransOrd κ] [Std.LawfulEqOrd κ] (base : SortedMap κ ν) (probe : κ)
    {list : List (κ × ν)}
    (ascending : list.Pairwise (fun earlier later => compare earlier.1 later.1 = .lt)) :
    (list.foldl (fun map entry => map.insert entry.1 entry.2) base).get? probe =
      (find probe list).or (base.get? probe) := by
  induction list generalizing base with
  | nil => rfl
  | cons head rest ih =>
    obtain ⟨other, held⟩ := head
    obtain ⟨above, restAscending⟩ := List.pairwise_cons.1 ascending
    rw [List.foldl_cons, ih _ restAscending, get?_insert]
    by_cases hit : compare probe other = .eq
    · obtain rfl := Std.LawfulEqCmp.eq_of_compare hit
      rw [find_eq_none_of_below above]
      simp [find]
    · simp [find, hit]

/-- A look-up after a merge finds the overriding value if there is one, else the base's. -/
theorem get?_merge [Std.TransOrd κ] [Std.LawfulEqOrd κ] (base overrides : SortedMap κ ν)
    (probe : κ) :
    (base.merge overrides).get? probe = (overrides.get? probe).or (base.get? probe) :=
  get?_foldl_insert base probe overrides.ascending

theorem entries_eq_of_find_eq [Std.TransOrd κ] [Std.LawfulEqOrd κ] {left right : List (κ × ν)}
    (leftAscending : left.Pairwise (fun earlier later => compare earlier.1 later.1 = .lt))
    (rightAscending : right.Pairwise (fun earlier later => compare earlier.1 later.1 = .lt))
    (agree : ∀ key, find key left = find key right) : left = right := by
  induction left generalizing right with
  | nil =>
    cases right with
    | nil => rfl
    | cons head rest => simpa [find] using agree head.1
  | cons first rest ih =>
    obtain ⟨key, value⟩ := first
    obtain ⟨leftAbove, leftRest⟩ := List.pairwise_cons.1 leftAscending
    cases right with
    | nil => simpa [find] using agree key
    | cons other tail =>
      obtain ⟨otherKey, otherValue⟩ := other
      obtain ⟨rightAbove, rightRest⟩ := List.pairwise_cons.1 rightAscending
      have sameKey : compare key otherKey = .eq := by
        cases order : compare key otherKey with
        | eq => rfl
        | lt =>
          have missing : find key ((otherKey, otherValue) :: tail) = none := by
            refine find_eq_none_of_below fun entry member => ?_
            rcases List.mem_cons.1 member with rfl | member
            · exact order
            · exact Std.TransCmp.lt_trans order (rightAbove entry member)
          rw [← agree key] at missing
          simp [find] at missing
        | gt =>
          have before := Std.OrientedCmp.gt_iff_lt.1 order
          have missing : find otherKey ((key, value) :: rest) = none := by
            refine find_eq_none_of_below fun entry member => ?_
            rcases List.mem_cons.1 member with rfl | member
            · exact before
            · exact Std.TransCmp.lt_trans before (leftAbove entry member)
          rw [agree otherKey] at missing
          simp [find] at missing
      obtain rfl := Std.LawfulEqCmp.eq_of_compare sameKey
      have sameValue : value = otherValue := by simpa [find] using agree key
      obtain rfl := sameValue
      congr 1
      refine ih leftRest rightRest fun probe => ?_
      by_cases hit : compare probe key = .eq
      · obtain rfl := Std.LawfulEqCmp.eq_of_compare hit
        rw [find_eq_none_of_below leftAbove, find_eq_none_of_below rightAbove]
      · simpa [find, hit] using agree probe

theorem mem_of_find [Std.LawfulEqOrd κ] {key : κ} {value : ν} {list : List (κ × ν)}
    (found : find key list = some value) : (key, value) ∈ list := by
  induction list with
  | nil => cases found
  | cons head rest ih =>
    obtain ⟨other, held⟩ := head
    rw [find] at found
    split at found
    next same =>
      obtain rfl := Std.LawfulEqCmp.eq_of_compare same
      obtain rfl := Option.some.inj found
      exact List.mem_cons_self
    next => exact List.mem_cons_of_mem _ (ih found)

theorem find_of_mem [Std.TransOrd κ] [Std.LawfulEqOrd κ] {key : κ} {value : ν}
    {list : List (κ × ν)}
    (ascending : list.Pairwise (fun earlier later => compare earlier.1 later.1 = .lt))
    (member : (key, value) ∈ list) : find key list = some value := by
  induction list with
  | nil => cases member
  | cons head rest ih =>
    obtain ⟨above, restAscending⟩ := List.pairwise_cons.1 ascending
    rcases List.mem_cons.1 member with rfl | later
    · simp [find]
    · have after : compare key head.1 = .gt :=
        Std.OrientedCmp.gt_iff_lt.2 (above (key, value) later)
      rw [find, after]
      exact ih restAscending later

/-- A look-up finds exactly the entries. -/
theorem get?_eq_some_iff [Std.TransOrd κ] [Std.LawfulEqOrd κ] {map : SortedMap κ ν} {key : κ}
    {value : ν} : map.get? key = some value ↔ (key, value) ∈ map.entries :=
  ⟨mem_of_find, find_of_mem map.ascending⟩

/-- The keys are those under which a look-up finds something. -/
theorem mem_keys_iff [Std.TransOrd κ] [Std.LawfulEqOrd κ] {map : SortedMap κ ν} {key : κ} :
    key ∈ map.keys ↔ ∃ value, map.get? key = some value := by
  simp [keys, get?_eq_some_iff]

/-- The keys are in strictly ascending order. -/
theorem keys_ascending (map : SortedMap κ ν) :
    map.keys.Pairwise (fun earlier later => compare earlier later = .lt) :=
  List.pairwise_map.2 map.ascending

/-- Two maps with the same look-ups are the same map. -/
theorem ext_get? [Std.TransOrd κ] [Std.LawfulEqOrd κ] {left right : SortedMap κ ν}
    (agree : ∀ key, left.get? key = right.get? key) : left = right := by
  obtain ⟨left, leftAscending⟩ := left
  obtain ⟨right, rightAscending⟩ := right
  obtain rfl := entries_eq_of_find_eq leftAscending rightAscending agree
  rfl

/-! ### Merging -/

@[simp]
theorem merge_empty [Std.TransOrd κ] [Std.LawfulEqOrd κ] (map : SortedMap κ ν) :
    map.merge empty = map := rfl

@[simp]
theorem empty_merge [Std.TransOrd κ] [Std.LawfulEqOrd κ] (map : SortedMap κ ν) :
    empty.merge map = map := by
  apply ext_get?
  intro key
  rw [get?_merge, get?_empty, Option.or_none]

theorem merge_assoc [Std.TransOrd κ] [Std.LawfulEqOrd κ] (first second third : SortedMap κ ν) :
    (first.merge second).merge third = first.merge (second.merge third) := by
  apply ext_get?
  intro key
  rw [get?_merge, get?_merge, get?_merge, get?_merge, Option.or_assoc]

/-- The keys of a merge are those of either map. -/
theorem contains_merge [Std.TransOrd κ] [Std.LawfulEqOrd κ] (base overrides : SortedMap κ ν)
    (key : κ) :
    (base.merge overrides).contains key = (base.contains key || overrides.contains key) := by
  rw [contains, get?_merge, Option.isSome_or, Bool.or_comm]
  rfl

end SortedMap

/-- A set of names, listed in ascending order without repetition. -/
abbrev NameSet := SortedMap String Unit

namespace NameSet

/-- The set with one more name. -/
def add (names : NameSet) (name : String) : NameSet := SortedMap.insert names name ()

/-- The set with all names of a list added. -/
def addAll (names : NameSet) (added : List String) : NameSet := added.foldl add names

end NameSet

end SpokenFeedback
