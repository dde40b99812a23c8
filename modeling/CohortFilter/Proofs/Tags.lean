import CohortFilter.Proofs.Decoding

namespace CohortFilter

variable {members others : List (String × Json)}

def onValue (change : Json → Json) (members : List (String × Json)) : List (String × Json) :=
  members.map fun (name, value) => (name, if name = "value" then change value else value)

theorem lookup_onValue (change : Json → Json) (name : String) (members : List (String × Json)) :
    (onValue change members).lookup name =
      if name = "value" then (members.lookup name).map change else members.lookup name := by
  induction members with
  | nil => simp [onValue]
  | cons entry rest ih =>
    obtain ⟨held, value⟩ := entry
    rw [onValue, List.map_cons, ← onValue, List.lookup_cons, List.lookup_cons, ih]
    cases same : name == held with
    | false => rfl
    | true =>
      obtain rfl := beq_iff_eq.mp same
      by_cases named : name = "value" <;> simp [named]

namespace Marker

variable {α : Type}

def setTag (tag : String) (members : List (String × Json)) : List (String × Json) :=
  Entries.insert "__type" (.text tag) members

theorem lookup_setTag_onValue {name : String} (tag : String) (change : Json → Json) (other : name ≠ "__type") :
    (setTag tag (onValue change members)).lookup name =
      if name = "value" then (members.lookup name).map change else members.lookup name := by
  rw [setTag, Entries.lookup_insert, if_neg other, lookup_onValue]

theorem tag?_setTag (tag : String) (members : List (String × Json)) : tag? (setTag tag members) = some tag := by
  have found : (setTag tag members).lookup "__type" = some (.text tag) := by
    rw [setTag, Entries.lookup_insert, if_pos rfl]
  simp [tag?, find?, tagKeys, found, Json.text?]

def onFields (change : String → Json → Json) (entries : List (String × Json)) : List (String × Json) :=
  entries.map fun (key, value) => (key, if isModeKey key then value else change key value)

theorem unmarked_onFields (change : String → Json → Json) (entries : List (String × Json)) :
    unmarked (onFields change entries) = (unmarked entries).map fun (key, value) => (key, change key value) := by
  induction entries with
  | nil => rfl
  | cons entry rest ih =>
    obtain ⟨key, value⟩ := entry
    cases marked : isModeKey key <;> simpa [unmarked, onFields, marked] using ih

theorem foundMode_onFields (change : String → Json → Json) (owner : Option String) (known : Option CombineMode)
    (entries : List (String × Json)) :
    foundMode owner known (onFields change entries) = foundMode owner known entries := by
  have same : (onFields change entries).find? (fun entry => isModeKey entry.1) =
      entries.find? fun entry => isModeKey entry.1 := by
    induction entries with
    | nil => rfl
    | cons entry rest ih =>
      obtain ⟨key, value⟩ := entry
      cases marked : isModeKey key with
      | true => simp [onFields, marked]
      | false => simpa [onFields, marked] using ih
  simp only [foundMode, same]

theorem forall₂_onFields {change : String → Json → Json} (reads : String → Json → α → Prop)
    {entries : List (String × Json)} {fields : List (String × α)}
    (kept : ∀ key value field, reads key value field → reads key (change key value) field)
    (each : List.Forall₂ (fun entry field => entry.1 = field.1 ∧ reads entry.1 entry.2 field.2)
      (unmarked entries) fields) :
    List.Forall₂ (fun entry field => entry.1 = field.1 ∧ reads entry.1 entry.2 field.2)
      (unmarked (onFields change entries)) fields := by
  rw [unmarked_onFields, List.forall₂_map_left_iff]
  exact each.imp fun entry field same => ⟨same.1, kept entry.1 entry.2 field.2 same.2⟩

def Beside (members others : List (String × Json)) : Prop :=
  ∀ name, name ≠ "__type" → name ≠ "value" → others.lookup name = members.lookup name

theorem beside_setTag (tag : String) (members : List (String × Json)) : Beside members (setTag tag members) :=
  fun _ other _ => by rw [setTag, Entries.lookup_insert, if_neg other]

theorem beside_setTag_onValue (tag : String) (change : Json → Json) (members : List (String × Json)) :
    Beside members (setTag tag (onValue change members)) :=
  fun _ other apart => (lookup_setTag_onValue tag change other).trans (if_neg apart)

theorem Beside.mode (beside : Beside members others) (owner : String) : mode owner others = mode owner members := by
  have same : find? modeKeys others = find? modeKeys members := by
    apply find?_congr
    intro name member
    exact beside name (by rintro rfl; exact absurd member (by decide)) (by rintro rfl; exact absurd member (by decide))
  simp only [Marker.mode, same]

end Marker

theorem OptionFilter.ofMembers_of_beside {key : String} {filter : OptionFilter}
    (beside : Marker.Beside members others) (read : ofMembers key members = .ok filter) :
    ofMembers key others = .ok filter := by
  rw [ofMembers_eq_ok_iff] at read ⊢
  simp only [filterMode?] at read ⊢
  rwa [beside.mode, beside "selectedValues" (by decide) (by decide), beside "filterMode" (by decide) (by decide),
    beside "isExclusion" (by decide) (by decide)]

theorem RangeFilter.ofMembers_of_beside {key : String} {filter : RangeFilter}
    (beside : Marker.Beside members others) (read : ofMembers key members = .ok filter) :
    ofMembers key others = .ok filter := by
  unfold ofMembers at read ⊢
  rw [beside "lowerBound" (by decide) (by decide), beside "upperBound" (by decide) (by decide)]
  split at read
  · exact read
  · cases read

namespace FieldFilter

def tag : FieldFilter → String
  | .option _ => "OPTION"
  | .range _ => "RANGE"
  | .anchored _ => "ANCHORED"

def withTag (key : String) (value : Json) : Json :=
  match value, ofJson key value with
  | .object members, .ok filter => .object (Marker.setTag filter.tag members)
  | _, _ => value

def ReadFrom (key : String) (members : List (String × Json)) : FieldFilter → Prop
  | .option filter => OptionFilter.ofMembers key members = .ok filter
  | .range filter => RangeFilter.ofMembers key members = .ok filter
  | .anchored filter => AnchoredFilter.assemble key members (valueFields? members) = .ok filter

theorem readFrom_of_ofJson {key : String} {filter : FieldFilter} (read : ofJson key (.object members) = .ok filter) :
    filter.ReadFrom key members := by
  rw [ofJson, assemble] at read
  split at read
  · rcases Outcome.map_eq_ok_iff.mp read with ⟨option, found, rfl⟩
    exact found
  · rcases Outcome.map_eq_ok_iff.mp read with ⟨range, found, rfl⟩
    exact found
  · rcases Outcome.map_eq_ok_iff.mp read with ⟨anchored, found, rfl⟩
    exact found
  · cases read

theorem ofJson_of_readFrom {key : String} {filter : FieldFilter} (tagged : Marker.tag? members = some filter.tag)
    (made : filter.ReadFrom key members) : ofJson key (.object members) = .ok filter := by
  rw [ofJson, assemble, FieldKind.ofMembers?, tagged]
  cases filter <;> exact Outcome.map_eq_ok_iff.mpr ⟨_, made, rfl⟩

theorem ofJson_withTag {key : String} {value : Json} {filter : FieldFilter} (read : ofJson key value = .ok filter)
    (unanchored : filter.isAnchored = false) : ofJson key (withTag key value) = .ok filter := by
  cases value with
  | object members =>
    have beside := Marker.beside_setTag filter.tag members
    have made := readFrom_of_ofJson read
    simp only [withTag, read]
    apply ofJson_of_readFrom (Marker.tag?_setTag filter.tag members)
    cases filter with
    | option filter => exact OptionFilter.ofMembers_of_beside beside made
    | range filter => exact RangeFilter.ofMembers_of_beside beside made
    | anchored => cases unanchored
  | _ => simp [ofJson] at read

end FieldFilter

def Json.onFields (change : String → Json → Json) : Json → Json
  | .object entries => .object (Marker.onFields change entries)
  | other => other

def AnchoredFilter.withTags : Json → Json
  | .object members => .object (Marker.setTag "ANCHORED" (onValue (Json.onFields FieldFilter.withTag) members))
  | other => other

theorem AnchoredFilter.assemble_withTags {key : String} {filter : AnchoredFilter}
    (read : assemble key members (FieldFilter.valueFields? members) = .ok filter) :
    let others := Marker.setTag "ANCHORED" (onValue (Json.onFields FieldFilter.withTag) members)
    assemble key others (FieldFilter.valueFields? others) = .ok filter := by
  intro others
  rcases assemble_eq_ok_iff.mp read with ⟨anchor, entries, known, held, mode, found, each⟩
  apply assemble_eq_ok_iff.mpr
  refine ⟨anchor, Marker.onFields FieldFilter.withTag entries, known, ?_, ?_, ?_, ?_⟩
  · rw [Marker.lookup_setTag_onValue _ _ (by decide), if_pos rfl, held]
    rfl
  · rwa [(Marker.beside_setTag_onValue _ _ members).mode]
  · rwa [Marker.foundMode_onFields]
  · -- No field inside is anchored, so there is nothing further down to tag.
    let reads (key : String) (value : Json) (field : FieldFilter) : Prop :=
      FieldFilter.ofJson key value = .ok field ∧ field.isAnchored = false
    have kept (key : String) (value : Json) (field : FieldFilter) (made : reads key value field) :
        reads key (FieldFilter.withTag key value) field :=
      ⟨FieldFilter.ofJson_withTag made.1 made.2, made.2⟩
    exact Marker.forall₂_onFields reads kept each

theorem AnchoredFilter.ofJson_withTags {key : String} {value : Json} {filter : AnchoredFilter}
    (read : ofJson key value = .ok filter) : ofJson key (withTags value) = .ok filter := by
  cases value with
  | object members => exact assemble_withTags read
  | _ => simp [ofJson] at read

namespace FieldFilter

def withTags (key : String) (value : Json) : Json :=
  match ofJson key value with
  | .ok (.anchored _) => AnchoredFilter.withTags value
  | _ => withTag key value

theorem ofJson_withTags {key : String} {value : Json} {filter : FieldFilter} (read : ofJson key value = .ok filter) :
    ofJson key (withTags key value) = .ok filter := by
  cases filter with
  | option | range =>
    rw [withTags, read]
    exact ofJson_withTag read rfl
  | anchored filter =>
    cases value with
    | object members =>
      simp only [withTags, read]
      exact ofJson_of_readFrom (Marker.tag?_setTag "ANCHORED" _)
        (AnchoredFilter.assemble_withTags (readFrom_of_ofJson read))
    | _ => simp [ofJson] at read

end FieldFilter

namespace FilterState

theorem valueMap_onValue {kind tag : String} {inner : List (String × Json)} (change : String → Json → Json)
    (map : valueMap kind members = .ok inner) :
    valueMap kind (Marker.setTag tag (onValue (Json.onFields change) members)) =
      .ok (Marker.onFields change inner) := by
  unfold valueMap at map ⊢
  rw [Marker.lookup_setTag_onValue _ _ (by decide), if_pos rfl]
  cases found : members.lookup "value" with
  | none =>
    rw [found] at map
    cases map
    rfl
  | some value =>
    rw [found] at map
    cases value <;> cases map <;> rfl

theorem standardOf_onValue {mode : Option CombineMode} {state : FilterState} (tag : String)
    (made : standardOf mode members = .ok state) :
    standardOf mode (Marker.setTag tag (onValue (Json.onFields FieldFilter.withTags) members)) = .ok state := by
  rcases standardOf_eq_ok_iff.mp made with ⟨inner, found, fields, map, first, each, same⟩
  apply standardOf_eq_ok_iff.mpr
  refine ⟨_, found, fields, valueMap_onValue _ map, ?_, ?_, same⟩
  · rwa [Marker.foundMode_onFields]
  · exact Marker.forall₂_onFields (fun key value field => FieldFilter.ofJson key value = .ok field)
      (fun _ _ _ => FieldFilter.ofJson_withTags) each

theorem anchoredOf_onValue {mode : Option CombineMode} {state : FilterState} (tag : String)
    (made : anchoredOf mode members = .ok state) :
    anchoredOf mode (Marker.setTag tag (onValue (Json.onFields fun _ => AnchoredFilter.withTags) members)) =
      .ok state := by
  rcases anchoredOf_eq_ok_iff.mp made with ⟨inner, found, fields, map, first, each, same⟩
  apply anchoredOf_eq_ok_iff.mpr
  refine ⟨_, found, fields, valueMap_onValue _ map, ?_, ?_, same⟩
  · rwa [Marker.foundMode_onFields]
  · exact Marker.forall₂_onFields (fun key value field => AnchoredFilter.ofJson key value = .ok field)
      (fun _ _ _ => AnchoredFilter.ofJson_withTags) each

theorem referenceOf_setTag (tag : String) : referenceOf (Marker.setTag tag members) = referenceOf members := by
  have same : (Marker.setTag tag members).lookup "value" = members.lookup "value" := by
    rw [Marker.setTag, Entries.lookup_insert, if_neg (by decide)]
  rw [referenceOf, referenceOf, same]

mutual

/-- The document in which each filter and each field has the tag of what it is read as. An empty filter has none. -/
def withTags : Json → Json
  | .object members =>
    match ofJson (.object members) with
    | .ok (.standard ..) => .object (Marker.setTag "STANDARD" (onValue (Json.onFields FieldFilter.withTags) members))
    | .ok (.anchored ..) =>
      .object (Marker.setTag "ANCHORED" (onValue (Json.onFields fun _ => AnchoredFilter.withTags) members))
    | .ok (.composed ..) => .object (Marker.setTag "COMPOSED" (onMembers members))
    | .ok (.reference _) => .object (Marker.setTag "REF" members)
    | .ok .empty | .error _ => .object members
  | other => other

def onMembers : List (String × Json) → List (String × Json)
  | [] => []
  | (name, .array items) :: rest =>
    (name, .array (if name = "value" then allWithTags items else items)) :: onMembers rest
  | (name, value) :: rest => (name, value) :: onMembers rest

def allWithTags : List Json → List Json
  | [] => []
  | item :: rest => withTags item :: allWithTags rest

end

theorem allWithTags_eq (items : List Json) : allWithTags items = items.map withTags := by
  induction items with
  | nil => rfl
  | cons item rest ih => rw [allWithTags, ih, List.map_cons]

def onItems : Json → Json
  | .array items => .array (items.map withTags)
  | other => other

theorem onMembers_eq (members : List (String × Json)) : onMembers members = onValue onItems members := by
  induction members with
  | nil => rfl
  | cons entry rest ih =>
    obtain ⟨name, value⟩ := entry
    rw [onValue, List.map_cons, ← onValue, ← ih]
    cases value with
    | array items =>
      rw [onMembers, allWithTags_eq]
      by_cases named : name = "value" <;> simp [named, onItems]
    | _ => simp [onMembers, onItems]

theorem memberItems?_onValue {tag : String} {items : List Json} (held : memberItems? members = some items) :
    memberItems? (Marker.setTag tag (onValue onItems members)) = some (items.map withTags) := by
  unfold memberItems? at held ⊢
  rw [Marker.lookup_setTag_onValue _ _ (by decide), if_pos rfl]
  cases found : members.lookup "value" with
  | none =>
    rw [found] at held
    cases held
    rfl
  | some value =>
    rw [found] at held
    cases value <;> cases held <;> rfl

theorem composedOf_onValue {mode : Option CombineMode} {state : FilterState} (tag : String)
    (each : ∀ items, members.lookup "value" = some (.array items) → ∀ item ∈ items, ∀ result,
      ofJson item = .ok result → ofJson (withTags item) = .ok result)
    (made : composedOf mode members (valueStates? members) = .ok state) :
    let others := Marker.setTag tag (onValue onItems members)
    composedOf mode others (valueStates? others) = .ok state := by
  rcases composedOf_eq_ok_iff.mp made with ⟨items, refIds, results, held, ids, read, same⟩
  apply composedOf_eq_ok_iff.mpr
  refine ⟨items.map withTags, refIds, results, memberItems?_onValue held, ?_, ?_, same⟩
  · rwa [refIdsOf, Marker.beside_setTag_onValue _ _ members "refIds" (by decide) (by decide)]
  · rw [List.forall₂_map_left_iff]
    apply Outcome.forall₂_imp_of_mem read
    exact fun item member result _ read => each items (lookup_of_mem_memberItems? held member) item member result read

theorem ofJson_of_tag {mode : Option CombineMode} {kind : Kind} {state : FilterState} {tag : String}
    {others : List (String × Json)} (moded : Marker.mode "__combineMode" members = .ok mode)
    (beside : Marker.Beside members (Marker.setTag tag others)) (known : Kind.ofTag tag = .ok kind)
    (made : ofKind mode (Marker.setTag tag others) kind = .ok state) :
    ofJson (.object (Marker.setTag tag others)) = .ok state := by
  apply ofJson_object_eq_ok_iff.mpr
  refine ⟨mode, kind, (beside.mode _).trans moded, ?_, made⟩
  rw [Kind.ofMembers, Marker.tag?_setTag]
  exact known

/-- A document that is accepted reads as the same filter when each part of it has the tag of what it was read as. -/
theorem ofJson_fully_tagged {value : Json} {state : FilterState} (read : ofJson value = .ok state) :
    ofJson (withTags value) = .ok state := by
  induction value using decoding_induction generalizing state with
  | empty => exact read
  | object members ih =>
    obtain ⟨mode, kind, moded, -, made⟩ := ofJson_object_eq_ok_iff.mp read
    cases kind with
    | standard =>
      rcases standardOf_eq_ok_iff.mp made with ⟨_, _, _, -, -, -, rfl⟩
      simp only [withTags, read]
      exact ofJson_of_tag moded (Marker.beside_setTag_onValue _ _ members) rfl (standardOf_onValue _ made)
    | anchored =>
      rcases anchoredOf_eq_ok_iff.mp made with ⟨_, _, _, -, -, -, rfl⟩
      simp only [withTags, read]
      exact ofJson_of_tag moded (Marker.beside_setTag_onValue _ _ members) rfl (anchoredOf_onValue _ made)
    | composed =>
      rcases composedOf_eq_ok_iff.mp made with ⟨_, _, _, -, -, -, rfl⟩
      simp only [withTags, read, onMembers_eq]
      apply ofJson_of_tag moded (Marker.beside_setTag_onValue _ _ members) rfl
      exact composedOf_onValue _ (fun items held item member _ => ih items held item member) made
    | reference =>
      obtain ⟨ref, rfl⟩ := exists_of_referenceOf made
      simp only [withTags, read]
      exact ofJson_of_tag moded (Marker.beside_setTag _ members) rfl ((referenceOf_setTag _).trans made)
    | empty =>
      cases made
      simp only [withTags, read]
  | other value shape =>
    cases value with
    | object members => exact absurd rfl (shape members)
    | _ => exact read

theorem ofJson_fully_tagged_members :
    let day (tags : List (String × Json)) : Json := .object ([("combineMode", .text "OR")] ++ tags)
    let patient (tags inner : List (String × Json)) : Json :=
      .object ([("value", .object [("visit.day", day inner)])] ++ tags)
    let age (tags : List (String × Json)) : Json := .object ([("selectedValues", .texts ["40"])] ++ tags)
    let smokers (tags : List (String × Json)) : Json :=
      .object ([("value", .object [("id", .text "smokers")])] ++ tags)
    let value : Json := .object [("__type", .bool true), ("type", .text "REF"), ("value", .array [.null, smokers [],
      .object [("value", .object [("age", age []), ("patient:p1", patient [] [])])]])]
    let tag (name : String) : List (String × Json) := [("__type", .text name)]
    let tagged : Json := .object [("__type", .text "COMPOSED"), ("type", .text "REF"), ("value", .array [.null,
      smokers (tag "REF"), .object [("value", .object [("age", age (tag "OPTION")),
        ("patient:p1", patient (tag "ANCHORED") (tag "OPTION"))]), ("__type", .text "STANDARD")]])]
    let state : FilterState := .composed none [] [.empty, .reference ⟨"smokers", ""⟩, .standard none [
      ("age", .option ⟨some ["40"], .containsAny, none⟩),
      ("patient:p1", .anchored ⟨"patient", "p1", none, [("visit.day", .option ⟨none, .containsAny, some .or⟩)]⟩)]]
    ofJson value = .ok state ∧ withTags value = tagged ∧ ofJson tagged = .ok state := by
  intro day patient age smokers value tag tagged state
  have read : ofJson value = .ok state := rfl
  have same : withTags value = tagged := rfl
  exact ⟨read, same, same ▸ ofJson_fully_tagged read⟩

end FilterState

end CohortFilter
