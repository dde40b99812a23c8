import CohortFilter.Proofs.Decoding

namespace CohortFilter

theorem FieldFilter.toMembers_eq (fields : List (String × FieldFilter)) :
    toMembers fields = fields.map fun (key, filter) => (key, filter.toJson) := by
  induction fields with
  | nil => rfl
  | cons entry rest ih => rw [toMembers, ih, List.map_cons]

namespace Marker

variable {α : Type}

theorem foundMode_of_unmarked (owner : Option String) (known : Option CombineMode)
    {entries : List (String × Json)} (clear : ∀ entry ∈ entries, isModeKey entry.1 = false) :
    foundMode owner known entries = .ok known := by
  have none : entries.find? (fun entry => isModeKey entry.1) = none :=
    List.find?_eq_none.mpr fun entry member => by simp [clear entry member]
  cases known <;> simp [foundMode, none]

theorem foundMode_map (owner : Option String) (known : Option CombineMode) {entries : List (String × α)}
    (document : α → Json) (clear : ∀ entry ∈ entries, isModeKey entry.1 = false) :
    foundMode owner known (entries.map fun (key, value) => (key, document value)) = .ok known := by
  refine foundMode_of_unmarked owner known fun entry member => ?_
  rcases List.mem_map.mp member with ⟨entry, held, rfl⟩
  exact clear entry held

theorem isModeKey_of_anchor? {key : String} {parts : String × String} (anchor : Key.anchor? key = some parts) :
    isModeKey key = false := by
  rw [Bool.eq_false_iff]
  intro marked
  simp only [isModeKey, modeKeys, List.contains_iff_mem, List.mem_cons, List.not_mem_nil, or_false] at marked
  have unanchored : Key.anchor? "__combineMode" = none ∧ Key.anchor? "combineMode" = none := by decide
  rcases marked with rfl | rfl
  · simp [unanchored.1] at anchor
  · simp [unanchored.2] at anchor

theorem unmarked_map {β : Type} (f : α → β) (entries : List (String × α)) :
    unmarked (entries.map fun (key, value) => (key, f value)) =
      (unmarked entries).map fun (key, value) => (key, f value) := by
  simp [unmarked, List.filter_map, Function.comp_def]

end Marker

theorem Json.mapM_text?_texts (values : List String) : (values.map Json.text).mapM Json.text? = some values := by
  induction values with
  | nil => rfl
  | cons value rest ih => simp [List.mapM_cons, Json.text?, ih]

namespace FieldFilter

theorem ofJson_option_eq_ok_iff {key : String} {filter : OptionFilter} {result : FieldFilter} :
    ofJson key (option filter).toJson = .ok result ↔ filter.WellFormed ∧ .option filter = result := by
  rcases filter with ⟨values, filterMode, mode⟩
  rw [toJson, OptionFilter.toJson, ofJson, assemble]
  generalize same : _ ++ Json.modeMember mode = members
  have kind : FieldKind.ofMembers? members = some .option := by
    rw [← same]
    cases values <;> cases mode <;> rfl
  have selected : OptionFilter.selection? (members.lookup "selectedValues") = some values := by
    rw [← same]
    cases values with
    | none => cases mode <;> rfl
    | some values => exact congrArg (Option.map some) (Json.mapM_text?_texts values)
  have named : Marker.mode key members = .ok mode := by
    rw [← same]
    cases values <;> rcases mode with _ | _ | _ <;> rfl
  have matched : OptionFilter.filterMode? members = some filterMode := by
    rw [← same]
    cases values <;> cases filterMode <;> rfl
  rw [kind]
  simp only [Outcome.map_eq_ok_iff, OptionFilter.ofMembers_eq_ok_iff, selected, named, matched]
  constructor
  · intro read
    rcases read with ⟨filter, ⟨values, mode, meant, filterMode⟩, rfl⟩
    cases values
    cases mode
    cases filterMode
    exact ⟨meant, rfl⟩
  · intro kept
    rcases kept with ⟨meant, rfl⟩
    exact ⟨_, ⟨rfl, rfl, meant, rfl⟩, rfl⟩

theorem ofJson_range (key : String) (filter : RangeFilter) :
    ofJson key (range filter).toJson = .ok (range filter) := rfl

theorem ofJson_anchored (key : String) (filter : AnchoredFilter) :
    ofJson key (anchored filter).toJson = (AnchoredFilter.ofJson key filter.toJson).map .anchored := by
  rcases filter with ⟨_, _, mode, fields⟩
  rw [toJson, AnchoredFilter.toJson, ofJson, AnchoredFilter.ofJson, assemble]
  generalize same : _ ++ [("value", Json.object (toMembers fields))] = members
  have kind : FieldKind.ofMembers? members = some .anchored := by
    rw [← same]
    cases mode <;> rfl
  rw [kind]

end FieldFilter

theorem AnchoredFilter.ofJson_toJson_eq_ok_iff {key : String} {filter result : AnchoredFilter} :
    ofJson key filter.toJson = .ok result ↔
      Key.anchor? key = some (result.anchorField, result.anchorValue) ∧
        Marker.foundMode (some key) filter.combineMode (FieldFilter.toMembers filter.fields) =
          .ok result.combineMode ∧
        List.Forall₂ (fun field read => field.1 = read.1 ∧
          FieldFilter.ofJson field.1 field.2.toJson = .ok read.2 ∧ read.2.isAnchored = false)
          (Marker.unmarked filter.fields) result.fields := by
  rcases filter with ⟨_, _, mode, fields⟩
  rw [toJson, ofJson, assemble_eq_ok_iff]
  generalize same : _ ++ [("value", Json.object (FieldFilter.toMembers fields))] = members
  have found : members.lookup "value" = some (.object (FieldFilter.toMembers fields)) := by
    rw [← same]
    cases mode <;> rfl
  have named : Marker.mode key members = .ok mode := by
    rw [← same]
    rcases mode with _ | _ | _ <;> rfl
  simp only [found, named, FieldFilter.toMembers_eq, Option.some.injEq, Json.object.injEq, Except.ok.injEq,
    Marker.unmarked_map, exists_and_left, exists_eq_left', List.forall₂_map_left_iff]

namespace FilterState

theorem ofJson_object (kind : Kind) {mode : Option CombineMode} {members : List (String × Json)}
    (named : Marker.mode "__combineMode" members = .ok mode) (shown : Kind.ofMembers members = .ok kind) :
    ofJson (.object members) = ofKind mode members kind := by
  rw [ofJson, assemble, named, shown]
  cases kind <;> rfl

theorem mode_tagged (kind : String) (mode : Option CombineMode) (value : Json) :
    Marker.mode "__combineMode" (tagged kind mode value) = .ok mode := by
  rcases mode with _ | _ | _ <;> rfl

theorem valueMap_tagged (kind name : String) (mode : Option CombineMode) (inner : List (String × Json)) :
    valueMap name (tagged kind mode (.object inner)) = .ok inner := by
  cases mode <;> rfl

theorem ofJson_standard_eq_ok_iff {mode : Option CombineMode} {fields : List (String × FieldFilter)}
    {result : FilterState} :
    ofJson (standard mode fields).toJson = .ok result ↔
      ∃ found fields', Marker.foundMode none mode (FieldFilter.toMembers fields) = .ok found ∧
        List.Forall₂ (fun field read => field.1 = read.1 ∧
          FieldFilter.ofJson field.1 field.2.toJson = .ok read.2) (Marker.unmarked fields) fields' ∧
        .standard found fields' = result := by
  rw [toJson, ofJson_object .standard (mode_tagged ..) rfl]
  simp only [ofKind, standardOf_eq_ok_iff, valueMap_tagged, FieldFilter.toMembers_eq, Except.ok.injEq,
    Marker.unmarked_map, exists_and_left, exists_eq_left', List.forall₂_map_left_iff]

theorem ofJson_anchored_eq_ok_iff {mode : Option CombineMode} {fields : List (String × AnchoredFilter)}
    {result : FilterState} :
    ofJson (anchored mode fields).toJson = .ok result ↔
      ∃ found fields', Marker.foundMode none mode (fields.map fun (key, filter) => (key, filter.toJson)) = .ok found ∧
        List.Forall₂ (fun field read => field.1 = read.1 ∧
          AnchoredFilter.ofJson field.1 field.2.toJson = .ok read.2) (Marker.unmarked fields) fields' ∧
        .anchored found fields' = result := by
  rw [toJson, ofJson_object .anchored (mode_tagged ..) rfl]
  simp only [ofKind, anchoredOf_eq_ok_iff, valueMap_tagged, Except.ok.injEq,
    Marker.unmarked_map, exists_and_left, exists_eq_left', List.forall₂_map_left_iff]

theorem toItems_eq (members : List FilterState) : toItems members = members.map toJson := by
  induction members with
  | nil => rfl
  | cons member rest ih => rw [toItems, ih, List.map_cons]

theorem texts_ofJson (values : List String) : Shape.texts (Document.ofJson (Json.texts values)) = .ok values := by
  have items : (Document.ofItems (values.map Json.text)).mapM Shape.text = .ok values := by
    induction values with
    | nil => rfl
    | cons value rest ih =>
      rw [List.map_cons, Document.ofItems, List.mapM_cons, ih]
      rfl
  rw [Json.texts, Document.ofJson, Shape.texts, Shape.list, items]
  rfl

theorem ofJson_composed_eq_ok_iff {mode : Option CombineMode} {refIds : List String}
    {members : List FilterState} {result : FilterState} :
    ofJson (composed mode refIds members).toJson = .ok result ↔
      ∃ results, List.Forall₂ (fun member result => ofJson member.toJson = .ok result) members results ∧
        .composed mode refIds results = result := by
  rw [toJson]
  generalize same : tagged "COMPOSED" mode (.array (toItems members)) ++ _ = document
  have named : Marker.mode "__combineMode" document = .ok mode := by
    rw [← same]
    rcases mode with _ | _ | _ <;> rfl
  have kind : Kind.ofMembers document = .ok .composed := by
    rw [← same]
    rfl
  have items : memberItems? document = some (toItems members) := by
    rw [← same]
    cases mode <;> rfl
  have ids : refIdsOf document = .ok refIds := by
    have held : document.lookup "refIds" = some (Json.texts refIds) := by
      rw [← same]
      cases mode <;> rfl
    rw [refIdsOf, held]
    change (Shape.texts (Document.ofJson (Json.texts refIds))).mapError FilterError.invalidShape = _
    rw [texts_ofJson]
    rfl
  rw [ofJson_object .composed named kind]
  simp only [ofKind, composedOf_eq_ok_iff, items, ids, toItems_eq, Option.some.injEq, Except.ok.injEq, exists_and_left,
    exists_eq_left', List.forall₂_map_left_iff]

theorem ofJson_reference (ref : FilterRef) : ofJson (reference ref).toJson = .ok (reference ref) := by
  rfl

end FilterState

theorem FieldFilter.ofJson_toJson_of_plain (key : String) {filter : FieldFilter} (plain : filter.Plain) :
    ofJson key filter.toJson = .ok filter := by
  cases filter with
  | option filter => exact ofJson_option_eq_ok_iff.mpr ⟨plain, rfl⟩
  | range filter => exact ofJson_range key filter
  | anchored filter => exact plain.elim

theorem AnchoredFilter.ofJson_toJson {key : String} {filter : AnchoredFilter}
    (wellFormed : filter.WellFormed key) : ofJson key filter.toJson = .ok filter := by
  have clear : ∀ entry ∈ filter.fields, Marker.isModeKey entry.1 = false :=
    fun entry member => (wellFormed.fields entry member).1
  refine ofJson_toJson_eq_ok_iff.mpr ⟨wellFormed.anchor, ?_, ?_⟩
  · rw [FieldFilter.toMembers_eq]
    exact Marker.foundMode_map _ _ _ clear
  · rw [Marker.unmarked_eq_self clear, List.forall₂_same]
    intro entry member
    have plain := (wellFormed.fields entry member).2
    exact ⟨rfl, FieldFilter.ofJson_toJson_of_plain _ plain, plain.unanchored⟩

theorem FieldFilter.ofJson_toJson {key : String} {filter : FieldFilter} (wellFormed : filter.WellFormed key) :
    ofJson key filter.toJson = .ok filter := by
  cases filter with
  | option filter => exact ofJson_option_eq_ok_iff.mpr ⟨wellFormed, rfl⟩
  | range filter => exact ofJson_range key filter
  | anchored filter => rw [ofJson_anchored, AnchoredFilter.ofJson_toJson wellFormed, Except.map]

theorem FilterState.ofJson_toJson {state : FilterState} (wellFormed : state.WellFormed) :
    ofJson state.toJson = .ok state := by
  induction state using FilterState.induction with
  | empty => rfl
  | reference ref => exact ofJson_reference ref
  | standard mode fields =>
    have clear : ∀ entry ∈ fields, Marker.isModeKey entry.1 = false := fun entry member => (wellFormed entry member).1
    refine ofJson_standard_eq_ok_iff.mpr ⟨mode, fields, ?_, ?_, rfl⟩
    · rw [FieldFilter.toMembers_eq]
      exact Marker.foundMode_map _ _ _ clear
    · rw [Marker.unmarked_eq_self clear, List.forall₂_same]
      exact fun entry member => ⟨rfl, FieldFilter.ofJson_toJson (wellFormed entry member).2⟩
  | anchored mode fields =>
    have clear : ∀ entry ∈ fields, Marker.isModeKey entry.1 = false :=
      fun entry member => Marker.isModeKey_of_anchor? (wellFormed entry member).anchor
    refine ofJson_anchored_eq_ok_iff.mpr ⟨mode, fields, Marker.foundMode_map _ _ _ clear, ?_, rfl⟩
    rw [Marker.unmarked_eq_self clear, List.forall₂_same]
    exact fun entry member => ⟨rfl, AnchoredFilter.ofJson_toJson (wellFormed entry member)⟩
  | composed mode refIds members ih =>
    rw [WellFormed, allWellFormed_iff] at wellFormed
    refine ofJson_composed_eq_ok_iff.mpr ⟨members, List.forall₂_same.mpr ?_, rfl⟩
    exact fun member held => ih member held (wellFormed member held)

theorem Marker.keys_sublist {α β : Type} {related : String × α → String × β → Prop}
    {fields : List (String × α)} {reads : List (String × β)}
    (each : List.Forall₂ (fun field read => field.1 = read.1 ∧ related field read) (unmarked fields) reads) :
    (Entries.keys reads).Sublist (Entries.keys fields) := by
  have same : List.Forall₂ Eq (Entries.keys (unmarked fields)) (Entries.keys reads) :=
    List.forall₂_map_left_iff.mpr (List.forall₂_map_right_iff.mpr (each.imp fun _ _ held => held.1))
  rw [List.forall₂_eq_eq_eq] at same
  rw [← same]
  exact List.filter_sublist.map _

theorem AnchoredFilter.distinct_of_ofJson_toJson {key : String} {filter result : AnchoredFilter}
    (distinct : filter.Distinct) (read : ofJson key filter.toJson = .ok result) : result.Distinct :=
  distinct.sublist (Marker.keys_sublist (ofJson_toJson_eq_ok_iff.mp read).2.2)

theorem FieldFilter.distinct_of_ofJson_toJson {key : String} {filter result : FieldFilter}
    (distinct : filter.Distinct) (read : ofJson key filter.toJson = .ok result) : result.Distinct := by
  cases filter with
  | option filter =>
    rcases ofJson_option_eq_ok_iff.mp read with ⟨-, rfl⟩
    exact True.intro
  | range filter =>
    cases (ofJson_range key filter).symm.trans read
    exact True.intro
  | anchored filter =>
    rw [ofJson_anchored] at read
    rcases Outcome.map_eq_ok_iff.mp read with ⟨anchored, found, rfl⟩
    exact AnchoredFilter.distinct_of_ofJson_toJson distinct found

namespace FilterState

theorem distinct_of_ofJson_toJson {state result : FilterState} (distinct : state.Distinct)
    (read : ofJson state.toJson = .ok result) : result.Distinct := by
  induction state using FilterState.induction generalizing result with
  | empty =>
    cases read
    exact True.intro
  | reference ref =>
    cases (ofJson_reference ref).symm.trans read
    exact True.intro
  | standard mode fields =>
    rcases ofJson_standard_eq_ok_iff.mp read with ⟨found, reads, -, each, rfl⟩
    refine ⟨distinct.1.sublist (Marker.keys_sublist each), fun field member => ?_⟩
    rcases Outcome.exists_of_forall₂ each member with ⟨entry, held, -, read⟩
    exact FieldFilter.distinct_of_ofJson_toJson (distinct.2 entry (Marker.mem_unmarked.mp held).1) read
  | anchored mode fields =>
    rcases ofJson_anchored_eq_ok_iff.mp read with ⟨found, reads, -, each, rfl⟩
    refine ⟨distinct.1.sublist (Marker.keys_sublist each), fun field member => ?_⟩
    rcases Outcome.exists_of_forall₂ each member with ⟨entry, held, -, read⟩
    exact AnchoredFilter.distinct_of_ofJson_toJson (distinct.2 entry (Marker.mem_unmarked.mp held).1) read
  | composed mode refIds members ih =>
    rcases ofJson_composed_eq_ok_iff.mp read with ⟨results, each, rfl⟩
    rw [Distinct, allDistinct_iff] at distinct ⊢
    intro result member
    rcases Outcome.exists_of_forall₂ each member with ⟨member, held, read⟩
    exact ih member held (distinct member held) read

/-- A filter comes back from its document, with its fields in their order, exactly when it is well-formed.
    What comes back of another one is never equal to it, even when the order of fields does not count. -/
theorem ofJson_toJson_iff (state : FilterState) :
    (ofJson state.toJson = .ok state ↔ state.WellFormed) ∧
      (¬ state.WellFormed → ∀ result, ofJson state.toJson = .ok result →
        result ≠ state ∧ (state.Distinct → result.same state = false ∧ state.same result = false)) := by
  refine ⟨⟨wellFormed_of_ofJson, ofJson_toJson⟩, fun illFormed result read => ?_⟩
  have wellFormed := wellFormed_of_ofJson read
  refine ⟨fun same => illFormed (same ▸ wellFormed), fun distinct => ?_⟩
  have distinct' := distinct_of_ofJson_toJson distinct read
  rw [Bool.eq_false_iff, Bool.eq_false_iff]
  constructor
  · exact fun same => illFormed ((wellFormed_iff_of_same distinct' distinct same).mp wellFormed)
  · exact fun same => illFormed ((wellFormed_iff_of_same distinct distinct' same).mpr wellFormed)

def mistaken : FilterState :=
  .standard (some .and) [("combineMode", .option ⟨some ["a"], .containsAny, none⟩)]

theorem ofJson_toJson_iff_mistaken :
    let result := standard (some .and) []
    ¬ mistaken.WellFormed ∧ mistaken.Distinct ∧ ofJson mistaken.toJson = .ok result ∧
      ofJson mistaken.toJson ≠ .ok mistaken ∧ result ≠ mistaken ∧ result.same mistaken = false ∧
      mistaken.same result = false := by
  intro result
  have illFormed : ¬ mistaken.WellFormed := by
    intro wellFormed
    exact absurd (wellFormed _ List.mem_cons_self).1 (by decide)
  have distinct : mistaken.Distinct := by
    refine ⟨by decide, fun entry member => ?_⟩
    rw [List.mem_singleton.mp member]
    exact True.intro
  have read : ofJson mistaken.toJson = .ok result := rfl
  rcases (ofJson_toJson_iff mistaken).2 illFormed result read with ⟨other, differs⟩
  exact ⟨illFormed, distinct, read, mt (ofJson_toJson_iff mistaken).1.mp illFormed, other, differs distinct⟩

end FilterState

end CohortFilter
