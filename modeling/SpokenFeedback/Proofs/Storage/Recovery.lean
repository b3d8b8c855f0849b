import Mathlib.Data.List.Nodup
import SpokenFeedback.Proofs.Json.WrittenTree
import SpokenFeedback.Storage.Event
import SpokenFeedback.Storage.Name

/-!
# Recovery of what is stored

What is stored as JSON is read back as it was: values and events without floats, type names, scopes,
origins and queue modes.  For each sort of thing, its tree is one that a text denotes
(`writable_toJson`) and stands for the thing (`ofJson?_toJson`); `Json.recovered_thing` joins the
two.  The members of an event's object may have been stored in any order.
-/

namespace SpokenFeedback

theorem Json.recovered_thing {α : Type} {tree : Json} {thing : α} {ofJson? : Json → Option α}
    (writable : tree.Writable) (meant : ofJson? tree = some thing) :
    (Json.read? tree.write).bind ofJson? = some thing := by
  rw [Json.read?_write writable, Option.bind_some, meant]

theorem Json.writable_ofInt (value : Int) : (Json.ofInt value).Writable :=
  .number (NumberToken.wellFormed_ofInt value)

/-! ## Type names -/

namespace TypeName

theorem writable_toJson (type : TypeName) : type.toJson.Writable := by
  rcases type with ⟨name, - | space⟩
  · apply Json.Writable.object
    intro member listed
    rcases List.mem_singleton.1 listed with rfl
    exact .text name
  · apply Json.Writable.object
    simp [Json.Writable.text]

/-- A type name without namespace stays without, and an empty namespace stays empty. -/
theorem ofJson?_toJson (type : TypeName) : ofJson? type.toJson = some type := by
  rcases type with ⟨name, - | space⟩ <;> rfl

end TypeName

/-! ## Values -/

namespace Value

/-- A value of any sort but float. -/
def NoFloat (value : Value) : Prop := ∀ number, value ≠ .float number

variable {value : Value}

theorem writable_contentToJson (noFloat : value.NoFloat) : value.contentToJson.Writable := by
  cases value with
  | bool truth => exact .bool truth
  | int number => exact Json.writable_ofInt number.toInt
  | float number => exact absurd rfl (noFloat number)
  | text content => exact .text content
  | type named => exact named.writable_toJson

theorem writable_toJson (noFloat : value.NoFloat) : value.toJson.Writable := by
  apply Json.Writable.object
  simp [Json.Writable.text, writable_contentToJson noFloat]

theorem ofContent?_contentToJson (noFloat : value.NoFloat) :
    ofContent? value.sortName value.contentToJson = some value := by
  cases value with
  | bool truth => rfl
  | int number =>
    show (NumberToken.ofInt number.toInt).word?.map Value.int = some (.int number)
    rw [NumberToken.word?_ofInt, Option.map_some]
  | float number => exact absurd rfl (noFloat number)
  | text content => rfl
  | type named =>
    show (TypeName.ofJson? named.toJson).map Value.type = some (.type named)
    rw [TypeName.ofJson?_toJson, Option.map_some]

theorem ofJson?_toJson (around : Nat) (noFloat : value.NoFloat) :
    ofJson? around value.toJson = some value :=
  ofContent?_contentToJson noFloat

end Value

/-! ## Events -/

namespace Event

variable {listed : List (Property × Value)}

theorem raw_foldl_set_of_not_mem {property : Property} (absent : property ∉ listed.map Prod.fst)
    (event : Event) :
    (listed.foldl (fun event entry => event.set entry.1 entry.2) event).raw property =
      event.raw property := by
  induction listed generalizing event with
  | nil => rfl
  | cons entry listed ih =>
    rw [List.map_cons, List.mem_cons, not_or] at absent
    rw [List.foldl_cons, ih absent.2, raw_set, if_neg absent.1]

/-- A property that stands in one entry only has the value of the entry. -/
theorem raw_foldl_set_of_mem (distinct : (listed.map Prod.fst).Nodup) {property : Property}
    {value : Value} (member : (property, value) ∈ listed) (event : Event) :
    (listed.foldl (fun event entry => event.set entry.1 entry.2) event).raw property =
      some value := by
  induction listed generalizing event with
  | nil => cases member
  | cons entry listed ih =>
    rw [List.map_cons, List.nodup_cons] at distinct
    rw [List.foldl_cons]
    rcases List.mem_cons.1 member with rfl | later
    · rw [raw_foldl_set_of_not_mem distinct.1, raw_set, if_pos rfl]
    · exact ih distinct.2 later _

theorem mem_toList_iff {event : Event} {property : Property} {value : Value} :
    (property, value) ∈ event.toList ↔ event.raw property = some value := by
  simp [toList, Property.mem_all]

theorem distinct_toList (event : Event) : (event.toList.map Prod.fst).Nodup := by
  have distinct : Property.all.Nodup := by decide
  rw [toList, List.map_filterMap]
  apply List.Nodup.filterMap _ distinct
  intro left right property fromLeft fromRight
  simp only [Option.map_map, Option.mem_def, Option.map_eq_some_iff, Function.comp] at fromLeft
  simp only [Option.map_map, Option.mem_def, Option.map_eq_some_iff, Function.comp] at fromRight
  rcases fromLeft with ⟨_, _, rfl⟩
  rcases fromRight with ⟨_, _, rfl⟩
  rfl

/-- An event is made of its entries in any order. -/
theorem ofList_of_perm {event : Event} (same : listed.Perm event.toList) :
    ofList listed = event := by
  have keys : (listed.map Prod.fst).Perm (event.toList.map Prod.fst) := same.map Prod.fst
  ext1 property
  cases found : event.raw property with
  | none =>
    apply raw_foldl_set_of_not_mem
    rw [keys.mem_iff, List.mem_map]
    rintro ⟨⟨_, value⟩, member, rfl⟩
    rw [mem_toList_iff, found] at member
    cases member
  | some value =>
    exact raw_foldl_set_of_mem (keys.nodup_iff.2 event.distinct_toList)
      (same.mem_iff.2 (mem_toList_iff.2 found)) empty

/-- The member of an event's object for a property. -/
def toMember (entry : Property × Value) : String × Json := (entry.1.name, entry.2.toJson)

theorem ofMembers?_map (noFloat : ∀ entry ∈ listed, entry.2.NoFloat) (event : Event) :
    event.ofMembers? (listed.map toMember) =
      some (listed.foldl (fun event entry => event.set entry.1 entry.2) event) := by
  induction listed generalizing event with
  | nil => rfl
  | cons entry listed ih =>
    have first := noFloat entry List.mem_cons_self
    have others := fun other member => noFloat other (List.mem_cons_of_mem entry member)
    simp only [List.map_cons, toMember, ofMembers?, Property.ofExactName?_name,
      Value.ofJson?_toJson 1 first, List.foldl_cons]
    exact ih others _

/-- The object of an event's entries in any order stands for the event. -/
theorem ofJson?_of_perm {event : Event} (same : listed.Perm event.toList)
    (noFloat : ∀ entry ∈ listed, entry.2.NoFloat) :
    ofJson? (.object (listed.map toMember)) = some event := by
  rw [ofJson?, ofMembers?_map noFloat]
  exact congrArg some (ofList_of_perm same)

theorem writable_members (noFloat : ∀ entry ∈ listed, entry.2.NoFloat) :
    (Json.object (listed.map toMember)).Writable := by
  apply Json.Writable.object
  intro member stored
  rcases List.mem_map.1 stored with ⟨entry, present, rfl⟩
  exact Value.writable_toJson (noFloat entry present)

theorem recovered_of_perm {event : Event}
    (noFloat : ∀ property value, event.raw property = some value → value.NoFloat)
    (same : listed.Perm event.toList) :
    (Json.read? (Json.object (listed.map toMember)).write).bind ofJson? = some event := by
  have listedNoFloat : ∀ entry ∈ listed, entry.2.NoFloat := by
    rintro ⟨property, value⟩ member
    exact noFloat property value (mem_toList_iff.1 (same.mem_iff.1 member))
  exact Json.recovered_thing (writable_members listedNoFloat) (ofJson?_of_perm same listedNoFloat)

end Event

/-! ## Names -/

theorem Scope.writable_toJson (scope : Scope) : scope.toJson.Writable := by
  cases scope with
  | fallback => exact .text "fallback"
  | named name =>
    apply Json.Writable.object
    simp [Json.Writable.text]

theorem Scope.ofJson?_toJson (scope : Scope) : ofJson? scope.toJson = some scope := by
  cases scope <;> rfl

theorem QueueMode.ofJson?_toJson (mode : QueueMode) : ofJson? mode.toJson = some mode := by
  cases mode <;> rfl

/-! ## Recovery -/

/--
Reading undoes storing.  A value that is no float, a type name, an event without floats, a scope, an
origin and a queue mode are read from the text that is written for them as they were.  The members
of the event's object may have been written in any order.
-/
theorem Json.reading_undoes_storing :
    (∀ (value : Value) (around : Nat), (∀ number, value ≠ .float number) →
        (Json.read? value.toJson.write).bind (Value.ofJson? around) = some value) ∧
      (∀ type : TypeName, (Json.read? type.toJson.write).bind TypeName.ofJson? = some type) ∧
      (∀ event : Event, (∀ property number, event.raw property ≠ some (.float number)) →
        (Json.read? event.toJson.write).bind Event.ofJson? = some event ∧
          ∀ listed : List (Property × Value), listed.Perm event.toList →
            (Json.read? (Json.object (listed.map Event.toMember)).write).bind Event.ofJson? =
              some event) ∧
      (∀ scope : Scope, (Json.read? scope.toJson.write).bind Scope.ofJson? = some scope) ∧
      (∀ origin : Origin, (Json.read? origin.toJson.write).bind Origin.ofJson? = some origin) ∧
      ∀ mode : QueueMode, (Json.read? mode.toJson.write).bind QueueMode.ofJson? = some mode := by
  refine ⟨?_, ?_, ?_, ?_, ?_, ?_⟩
  · intro value around noFloat
    exact recovered_thing (Value.writable_toJson noFloat) (Value.ofJson?_toJson around noFloat)
  · intro type
    exact recovered_thing type.writable_toJson type.ofJson?_toJson
  · intro event noFloats
    have noFloat : ∀ property value, event.raw property = some value → value.NoFloat := by
      rintro property value found number rfl
      exact noFloats property number found
    exact ⟨Event.recovered_of_perm noFloat (List.Perm.refl event.toList),
      fun listed same => Event.recovered_of_perm noFloat same⟩
  · intro scope
    exact recovered_thing scope.writable_toJson scope.ofJson?_toJson
  · intro origin
    exact recovered_thing (.text origin.tag) rfl
  · intro mode
    exact recovered_thing (.text mode.name) mode.ofJson?_toJson

end SpokenFeedback
