import CohortFilter.Proofs.RoundTrip

namespace CohortFilter

inductive Json.Distinct : Json → Prop
  | null : Json.Distinct .null
  | bool (value : Bool) : Json.Distinct (.bool value)
  | number (value : Number) : Json.Distinct (.number value)
  | text (value : String) : Json.Distinct (.text value)
  | array {items : List Json} : (∀ item ∈ items, item.Distinct) → Json.Distinct (.array items)
  | object {members : List (String × Json)} : (Entries.keys members).Nodup →
    (∀ entry ∈ members, entry.2.Distinct) → Json.Distinct (.object members)

namespace Json

theorem distinct_array_iff {items : List Json} : (array items).Distinct ↔ ∀ item ∈ items, item.Distinct := by
  constructor
  · intro distinct
    cases distinct with
    | array each => exact each
  · exact .array

theorem distinct_object_iff {members : List (String × Json)} :
    (object members).Distinct ↔ (Entries.keys members).Nodup ∧ ∀ entry ∈ members, entry.2.Distinct := by
  constructor
  · intro distinct
    cases distinct with
    | object keys each => exact ⟨keys, each⟩
  · exact fun distinct => .object distinct.1 distinct.2

theorem distinct_of_lookup {members : List (String × Json)} {name : String} {value : Json}
    (distinct : (object members).Distinct) (found : members.lookup name = some value) : value.Distinct :=
  (distinct_object_iff.mp distinct).2 _ (Entries.mem_of_lookup found)

theorem distinct_texts (values : List String) : (texts values).Distinct := by
  refine .array fun item member => ?_
  rcases List.mem_map.mp member with ⟨value, -, rfl⟩
  exact .text value

end Json

namespace Document

theorem values?_ofItems {items : List Json} (each : ∀ item ∈ items, (ofJson item).value? = some item) :
    values? (ofItems items) = some items := by
  induction items with
  | nil => rfl
  | cons item rest ih =>
    rcases List.forall_mem_cons.mp each with ⟨first, later⟩
    rw [ofItems, values?, first, ih later]
    rfl

theorem membersValue?_ofMembers {members : List (String × Json)}
    (each : ∀ entry ∈ members, (ofJson entry.2).value? = some entry.2) :
    membersValue? (ofMembers members) = some members := by
  induction members with
  | nil => rfl
  | cons entry rest ih =>
    rcases entry with ⟨key, value⟩
    rcases List.forall_mem_cons.mp each with ⟨first, later⟩
    rw [ofMembers, membersValue?, first, ih later]
    rfl

theorem value?_ofJson {value : Json} (distinct : value.Distinct) : (ofJson value).value? = some value := by
  induction distinct with
  | null | bool | number | text => rfl
  | array _ each =>
    rw [ofJson, value?, values?_ofItems each]
    rfl
  | object keys _ each =>
    rw [ofJson, value?, membersValue?_ofMembers each, Option.map_some, Entries.ofList_eq_self keys]

theorem distinct_of_value? {document : Document} {value : Json} (found : document.value? = some value) :
    value.Distinct := by
  revert value
  refine value?.induct (fun document => ∀ {value}, document.value? = some value → value.Distinct)
    (fun members => ∀ {entries}, membersValue? members = some entries → ∀ entry ∈ entries, entry.2.Distinct)
    (fun items => ∀ {values}, values? items = some values → ∀ value ∈ values, value.Distinct)
    ?null ?bool ?number ?text ?array ?object ?refused ?broken ?openArray ?openObject ?noItem ?item ?noMember
    ?member document
  case null => exact fun found => Option.some.inj found ▸ .null
  case bool => exact fun value _ found => Option.some.inj found ▸ .bool value
  case number => exact fun value _ found => Option.some.inj found ▸ .number value
  case text => exact fun value _ found => Option.some.inj found ▸ .text value
  case array =>
    intro items each value found
    rcases Option.map_eq_some_iff.mp found with ⟨values, read, rfl⟩
    exact .array (each read)
  case object =>
    intro members each value found
    rcases Option.map_eq_some_iff.mp found with ⟨entries, read, rfl⟩
    exact .object (Entries.nodup_keys_ofList entries)
      fun entry member => each read entry (Entries.mem_of_mem_ofList member)
  case refused | broken => exact fun found => nomatch found
  case openArray | openObject => exact fun _ _ found => nomatch found
  case noItem | noMember =>
    intro _ read
    cases read
    exact fun _ member => nomatch member
  case item =>
    intro item rest first later values read
    simp only [values?, Option.bind_eq_bind, Option.bind_eq_some_iff, Option.pure_def, Option.some.injEq] at read
    rcases read with ⟨value, found, others, read, rfl⟩
    exact List.forall_mem_cons.mpr ⟨first found, later read⟩
  case member =>
    intro key item rest first later entries read
    simp only [membersValue?, Option.bind_eq_bind, Option.bind_eq_some_iff, Option.pure_def, Option.some.injEq] at read
    rcases read with ⟨name, -, value, found, others, read, rfl⟩
    exact List.forall_mem_cons.mpr ⟨first found, later read⟩

end Document

theorem Json.distinct_object_map {α : Type} {fields : List (String × α)} {document : α → Json}
    (keys : (Entries.keys fields).Nodup) (each : ∀ entry ∈ fields, (document entry.2).Distinct) :
    (object (fields.map fun (key, filter) => (key, document filter))).Distinct := by
  refine .object ?_ fun entry member => ?_
  · simpa [Entries.keys, Function.comp_def] using keys
  · rcases List.mem_map.mp member with ⟨field, held, rfl⟩
    exact each field held

theorem FilterState.distinct_tagged (kind : String) (mode : Option CombineMode) {value : Json}
    (distinct : value.Distinct) : (Json.object (tagged kind mode value)).Distinct := by
  cases mode <;>
    simp [tagged, Json.modeMember, Json.distinct_object_iff, Entries.keys, CombineMode.toJson, Json.Distinct.text,
      distinct]

theorem OptionFilter.distinct_toJson (filter : OptionFilter) : filter.toJson.Distinct := by
  rcases filter with ⟨values, filterMode, mode⟩
  cases values <;> cases mode <;>
    simp [OptionFilter.toJson, Json.modeMember, Json.distinct_object_iff, Entries.keys, Json.distinct_texts,
      FilterMode.toJson, CombineMode.toJson, Json.Distinct.text]

theorem RangeFilter.distinct_toJson (filter : RangeFilter) : filter.toJson.Distinct := by
  simp [RangeFilter.toJson, Json.distinct_object_iff, Entries.keys, Json.Distinct.text, Json.Distinct.number]

theorem FieldFilter.distinct_toJson_of_plain {filter : FieldFilter} (plain : filter.Plain) :
    filter.toJson.Distinct := by
  cases filter with
  | option filter => exact filter.distinct_toJson
  | range filter => exact filter.distinct_toJson
  | anchored filter => exact plain.elim

theorem AnchoredFilter.distinct_toJson {key : String} {filter : AnchoredFilter}
    (wellFormed : filter.WellFormed key) (distinct : filter.Distinct) : filter.toJson.Distinct := by
  have inner : (Json.object (FieldFilter.toMembers filter.fields)).Distinct := by
    rw [FieldFilter.toMembers_eq]
    exact Json.distinct_object_map distinct
      fun entry member => FieldFilter.distinct_toJson_of_plain (wellFormed.fields entry member).2
  rcases filter with ⟨_, _, mode, fields⟩
  exact FilterState.distinct_tagged "ANCHORED" mode inner

theorem FieldFilter.distinct_toJson {key : String} {filter : FieldFilter} (wellFormed : filter.WellFormed key)
    (distinct : filter.Distinct) : filter.toJson.Distinct := by
  cases filter with
  | option filter => exact filter.distinct_toJson
  | range filter => exact filter.distinct_toJson
  | anchored filter => exact AnchoredFilter.distinct_toJson wellFormed distinct

namespace FilterState

theorem distinct_toJson {state : FilterState} (wellFormed : state.WellFormed) (distinct : state.Distinct) :
    state.toJson.Distinct := by
  induction state using FilterState.induction with
  | empty => exact .null
  | reference ref =>
    simp [toJson, Json.distinct_object_iff, Entries.keys, Json.Distinct.text]
  | standard mode fields =>
    rw [toJson, FieldFilter.toMembers_eq]
    refine distinct_tagged "STANDARD" mode (Json.distinct_object_map distinct.1 fun entry member => ?_)
    exact FieldFilter.distinct_toJson (wellFormed entry member).2 (distinct.2 entry member)
  | anchored mode fields =>
    refine distinct_tagged "ANCHORED" mode (Json.distinct_object_map distinct.1 fun entry member => ?_)
    exact AnchoredFilter.distinct_toJson (wellFormed entry member) (distinct.2 entry member)
  | composed mode refIds members ih =>
    rw [WellFormed, allWellFormed_iff] at wellFormed
    rw [Distinct, allDistinct_iff] at distinct
    have items : (Json.array (toItems members)).Distinct := by
      rw [toItems_eq]
      refine .array fun item standing => ?_
      rcases List.mem_map.mp standing with ⟨member, held, rfl⟩
      exact ih member held (wellFormed member held) (distinct member held)
    cases mode <;>
      simp [toJson, tagged, Json.modeMember, Json.distinct_object_iff, Entries.keys, Json.distinct_texts,
        CombineMode.toJson, Json.Distinct.text, items]

end FilterState

theorem AnchoredFilter.distinct_of_assemble {key : String} {members : List (String × Json)}
    {filter : AnchoredFilter} (distinct : (Json.object members).Distinct)
    (read : assemble key members (FieldFilter.valueFields? members) = .ok filter) : filter.Distinct := by
  rcases assemble_eq_ok_iff.mp read with ⟨-, entries, known, found, -, -, each⟩
  have inner := Json.distinct_object_iff.mp (Json.distinct_of_lookup distinct found)
  exact inner.1.sublist (Marker.keys_sublist each)

theorem AnchoredFilter.distinct_of_ofJson {key : String} {value : Json} {filter : AnchoredFilter}
    (distinct : value.Distinct) (read : ofJson key value = .ok filter) : filter.Distinct := by
  cases value with
  | object members => exact distinct_of_assemble distinct read
  | _ => simp [ofJson] at read

theorem FieldFilter.distinct_of_ofJson {key : String} {value : Json} {filter : FieldFilter}
    (distinct : value.Distinct) (read : ofJson key value = .ok filter) : filter.Distinct := by
  rcases cases_of_ofJson read with ⟨option, rfl, -⟩ | ⟨range, rfl⟩ | ⟨members, anchored, rfl, rfl, found⟩
  · exact True.intro
  · exact True.intro
  · exact AnchoredFilter.distinct_of_assemble distinct found

namespace FilterState

theorem distinct_of_valueMap {kind : String} {members inner : List (String × Json)}
    (distinct : (Json.object members).Distinct) (found : valueMap kind members = .ok inner) :
    (Json.object inner).Distinct := by
  unfold valueMap at found
  split at found
  · cases found
    exact .object List.nodup_nil fun entry member => nomatch member
  · cases found
    exact .object List.nodup_nil fun entry member => nomatch member
  · next entries held =>
    cases found
    exact Json.distinct_of_lookup distinct held
  · cases found

theorem distinct_of_ofJson {value : Json} {state : FilterState} (distinct : value.Distinct)
    (read : ofJson value = .ok state) : state.Distinct := by
  induction value using decoding_induction generalizing state with
  | empty =>
    cases read
    exact True.intro
  | object members ih =>
    rcases ofJson_object_eq_ok_iff.mp read with ⟨mode, kind, -, -, read⟩
    cases kind with
    | standard =>
      rcases standardOf_eq_ok_iff.mp read with ⟨inner, found, fields, held, -, each, rfl⟩
      have map := Json.distinct_object_iff.mp (distinct_of_valueMap distinct held)
      refine ⟨map.1.sublist (Marker.keys_sublist each), fun field member => ?_⟩
      rcases Outcome.exists_of_forall₂ each member with ⟨entry, standing, -, read⟩
      exact FieldFilter.distinct_of_ofJson (map.2 entry (Marker.mem_unmarked.mp standing).1) read
    | anchored =>
      rcases anchoredOf_eq_ok_iff.mp read with ⟨inner, found, fields, held, -, each, rfl⟩
      have map := Json.distinct_object_iff.mp (distinct_of_valueMap distinct held)
      refine ⟨map.1.sublist (Marker.keys_sublist each), fun field member => ?_⟩
      rcases Outcome.exists_of_forall₂ each member with ⟨entry, standing, -, read⟩
      exact AnchoredFilter.distinct_of_ofJson (map.2 entry (Marker.mem_unmarked.mp standing).1) read
    | composed =>
      rcases composedOf_eq_ok_iff.mp read with ⟨items, refIds, results, held, -, each, rfl⟩
      rw [Distinct, allDistinct_iff]
      intro result member
      rcases Outcome.exists_of_forall₂ each member with ⟨item, standing, read⟩
      have found := lookup_of_mem_memberItems? held standing
      have inner := Json.distinct_array_iff.mp (Json.distinct_of_lookup distinct found)
      exact ih items found item standing (inner item standing) read
    | reference =>
      rcases exists_of_referenceOf read with ⟨ref, rfl⟩
      exact True.intro
    | empty =>
      cases read
      exact True.intro
  | other value shape =>
    cases value with
    | object members => exact absurd rfl (shape members)
    | null =>
      cases read
      exact True.intro
    | _ => simp [ofJson] at read

end FilterState

end CohortFilter
