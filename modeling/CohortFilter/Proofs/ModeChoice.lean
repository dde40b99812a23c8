import CohortFilter.Proofs.MemberOrder

namespace CohortFilter

def Marker.Unnamed (members : List (String × Json)) : Prop :=
  ∃ owner, Marker.mode owner members = .ok none

theorem Marker.Unnamed.mode_eq {members : List (String × Json)} (unnamed : Unnamed members) (owner : String) :
    mode owner members = .ok none := by
  obtain ⟨owner', named⟩ := unnamed
  unfold mode at named ⊢
  split at named
  · rfl
  · rfl
  · rcases Outcome.map_eq_ok_iff.mp named with ⟨_, -, impossible⟩
    cases impossible

theorem Marker.LooksAlike.unnamed {members others : List (String × Json)} (alike : LooksAlike members others)
    (unnamed : Unnamed members) : Unnamed others := by
  obtain ⟨owner, named⟩ := unnamed
  exact ⟨owner, (alike.agree_mode owner).ok_iff.mp named⟩

structure AnchoredFilter.ModeFrom (members entries : List (String × Json)) : Prop where
  held : members.lookup "value" = some (.object entries)
  unnamed : Marker.Unnamed members

/-- The decoder takes a mode from among these entries, at any depth of the document. -/
inductive FilterState.ModeFrom : Json → List (String × Json) → Prop
  | fields {members entries : List (String × Json)} {kind : Kind} :
    Kind.ofMembers members = .ok kind → kind = .standard ∨ kind = .anchored →
    members.lookup "value" = some (.object entries) → Marker.Unnamed members → ModeFrom (.object members) entries
  | field {members fields inner entries : List (String × Json)} {key : String} :
    Kind.ofMembers members = .ok .standard → members.lookup "value" = some (.object fields) →
    (key, .object inner) ∈ Marker.unmarked fields → FieldKind.ofMembers? inner = some .anchored →
    AnchoredFilter.ModeFrom inner entries → ModeFrom (.object members) entries
  | anchored {members fields inner entries : List (String × Json)} {key : String} :
    Kind.ofMembers members = .ok .anchored → members.lookup "value" = some (.object fields) →
    (key, .object inner) ∈ Marker.unmarked fields → AnchoredFilter.ModeFrom inner entries →
    ModeFrom (.object members) entries
  | member {members entries : List (String × Json)} {items : List Json} {item : Json} :
    Kind.ofMembers members = .ok .composed → members.lookup "value" = some (.array items) → item ∈ items →
    ModeFrom item entries → ModeFrom (.object members) entries

theorem RangeFilter.same_refl (filter : RangeFilter) : filter.same filter = true := by
  have refl (number : Number) : number.numericEq number = true := by
    cases number <;> simp [Number.numericEq, Binary64.numericEq]
  rw [RangeFilter.same, refl, refl, Bool.and_self]

theorem FieldFilter.same_refl_of_unanchored {filter : FieldFilter} (unanchored : filter.isAnchored = false) :
    filter.same filter = true := by
  cases filter with
  | option filter => exact beq_self_eq_true filter
  | range filter => exact filter.same_refl
  | anchored filter => cases unanchored

theorem FieldFilter.allIn_of_agree {fields fields' : List (String × FieldFilter)}
    (agreed : Entries.agree FieldFilter.same fields fields' = true) :
    fields.length = fields'.length ∧ allIn fields fields' = true := by
  rw [Entries.agree, Bool.and_eq_true, beq_iff_eq] at agreed
  rw [allIn_eq]
  exact agreed

theorem FieldFilter.ofJson_of_anchored {key : String} {members : List (String × Json)}
    (kind : FieldKind.ofMembers? members = some .anchored) :
    ofJson key (.object members) = (AnchoredFilter.ofJson key (.object members)).map .anchored := by
  rw [ofJson, assemble, kind]
  rfl

section Fields

variable {key : String} {value other : Json} {members others : List (String × Json)}

theorem AnchoredFilter.agree_plainField_of_reordered (distinct : value.Distinct) (reordered : value.Reordered other) :
    Outcome.Agree FilterError.SameKind (fun filter filter' => filter.same filter' = true) (plainField key value)
      (plainField key other) := by
  cases value with
  | object members =>
    obtain ⟨others, rfl, shuffled⟩ := Json.exists_shuffled_of_reordered reordered
    have alike := Marker.LooksAlike.of_shuffled (Json.distinct_object_iff.mp distinct).1 shuffled
    apply (agree_plainField alike key).imp_of_ok
    rintro filter _ read rfl
    exact FieldFilter.same_refl_of_unanchored (ofJson_bind_unanchored_eq_ok_iff.mp read).2
  | array items =>
    obtain ⟨others, rfl, -⟩ := Json.exists_items_of_reordered reordered
    exact .failed rfl
  | null | bool | number | text =>
    cases reordered
    exact .failed rfl

theorem AnchoredFilter.agree_assemble_of_shuffled (distinct : (Json.object members).Distinct)
    (shuffled : Shuffled (Entries.Matching Json.Reordered) members others)
    (one : ∀ entries, ModeFrom members entries → Marker.OneMode entries) :
    Outcome.Agree FilterError.SameKind (fun filter filter' => filter.same filter' = true)
      (assemble key members (FieldFilter.valueFields? members))
      (assemble key others (FieldFilter.valueFields? others)) := by
  have alike := Marker.LooksAlike.of_shuffled (Json.distinct_object_iff.mp distinct).1 shuffled
  have made (field value : String) (mode : Option CombineMode) (fields fields' : List (String × FieldFilter))
      (agreed : Entries.agree FieldFilter.same fields fields' = true) :
      AnchoredFilter.same ⟨field, value, mode, fields⟩ ⟨field, value, mode, fields'⟩ = true := by
    obtain ⟨sizes, all⟩ := FieldFilter.allIn_of_agree agreed
    simp [AnchoredFilter.same, sizes, all]
  apply agree_assemble alike made
  intro entries entries' here there known named
  obtain ⟨inner, reordered⟩ := UnderValue.of_shuffled distinct shuffled entries entries' here there
  obtain ⟨once, each⟩ := Json.distinct_object_iff.mp inner
  constructor
  · apply Marker.agree_foundMode_of_shuffled (some key) reordered
    rintro rfl
    exact one entries ⟨here, key, named⟩
  · apply Marker.agree_readFields_of_shuffled once reordered
    intro key value other member
    exact agree_plainField_of_reordered (each _ (Marker.mem_unmarked.mp member).1)

theorem AnchoredFilter.agree_ofJson_of_reordered (distinct : value.Distinct) (reordered : value.Reordered other)
    (one : ∀ members entries, value = .object members → ModeFrom members entries → Marker.OneMode entries) :
    Outcome.Agree FilterError.SameKind (fun filter filter' => filter.same filter' = true) (ofJson key value)
      (ofJson key other) := by
  cases value with
  | object members =>
    obtain ⟨others, rfl, shuffled⟩ := Json.exists_shuffled_of_reordered reordered
    exact agree_assemble_of_shuffled distinct shuffled fun entries => one members entries rfl
  | array items =>
    obtain ⟨others, rfl, -⟩ := Json.exists_items_of_reordered reordered
    exact .failed rfl
  | null | bool | number | text =>
    cases reordered
    exact .failed rfl

theorem FieldFilter.agree_ofJson_of_reordered (distinct : value.Distinct) (reordered : value.Reordered other)
    (one : ∀ members entries, value = .object members → FieldKind.ofMembers? members = some .anchored →
      AnchoredFilter.ModeFrom members entries → Marker.OneMode entries) :
    Outcome.Agree FilterError.SameKind (fun filter filter' => filter.same filter' = true) (ofJson key value)
      (ofJson key other) := by
  cases value with
  | object members =>
    obtain ⟨others, rfl, shuffled⟩ := Json.exists_shuffled_of_reordered reordered
    have alike := Marker.LooksAlike.of_shuffled (Json.distinct_object_iff.mp distinct).1 shuffled
    apply agree_ofJson alike
    · exact fun _ => same_refl_of_unanchored
    · intro kind
      exact AnchoredFilter.agree_assemble_of_shuffled distinct shuffled fun entries => one members entries rfl kind
  | array items =>
    obtain ⟨others, rfl, -⟩ := Json.exists_items_of_reordered reordered
    exact .failed rfl
  | null | bool | number | text =>
    cases reordered
    exact .failed rfl

end Fields

namespace FilterState

section Kinds

variable {members others : List (String × Json)} {mode : Option CombineMode}

theorem agree_standardOf_of_shuffled (distinct : (Json.object members).Distinct)
    (shuffled : Shuffled (Entries.Matching Json.Reordered) members others)
    (named : Marker.mode "__combineMode" members = .ok mode) (kind : Kind.ofMembers members = .ok .standard)
    (one : ∀ entries, ModeFrom (.object members) entries → Marker.OneMode entries) :
    Outcome.Agree FilterError.SameKind (fun state state' => state.same state' = true) (standardOf mode members)
      (standardOf mode others) := by
  have alike := Marker.LooksAlike.of_shuffled (Json.distinct_object_iff.mp distinct).1 shuffled
  have empty : Entries.agree FieldFilter.same [] [] = true := rfl
  have made (mode : Option CombineMode) (fields fields' : List (String × FieldFilter))
      (agreed : Entries.agree FieldFilter.same fields fields' = true) :
      same (.standard mode fields) (.standard mode fields') = true := by
    obtain ⟨sizes, all⟩ := FieldFilter.allIn_of_agree agreed
    simp [same, sizes, all]
  apply agree_standardOf alike empty made
  intro entries entries' here there
  obtain ⟨map, reordered⟩ := UnderValue.of_shuffled distinct shuffled entries entries' here there
  obtain ⟨once, each⟩ := Json.distinct_object_iff.mp map
  constructor
  · apply Marker.agree_foundMode_of_shuffled none reordered
    rintro rfl
    exact one entries (.fields kind (.inl rfl) here ⟨_, named⟩)
  · apply Marker.agree_readFields_of_shuffled once reordered
    intro key value other member reordered
    apply FieldFilter.agree_ofJson_of_reordered (each _ (Marker.mem_unmarked.mp member).1) reordered
    rintro inner fields rfl anchored taken
    exact one fields (.field kind here member anchored taken)

theorem agree_anchoredOf_of_shuffled (distinct : (Json.object members).Distinct)
    (shuffled : Shuffled (Entries.Matching Json.Reordered) members others)
    (named : Marker.mode "__combineMode" members = .ok mode) (kind : Kind.ofMembers members = .ok .anchored)
    (one : ∀ entries, ModeFrom (.object members) entries → Marker.OneMode entries) :
    Outcome.Agree FilterError.SameKind (fun state state' => state.same state' = true) (anchoredOf mode members)
      (anchoredOf mode others) := by
  have alike := Marker.LooksAlike.of_shuffled (Json.distinct_object_iff.mp distinct).1 shuffled
  have empty : Entries.agree AnchoredFilter.same [] [] = true := rfl
  have made (mode : Option CombineMode) (fields fields' : List (String × AnchoredFilter))
      (agreed : Entries.agree AnchoredFilter.same fields fields' = true) :
      same (.anchored mode fields) (.anchored mode fields') = true := by
    simp [same, agreed]
  apply agree_anchoredOf alike empty made
  intro entries entries' here there
  obtain ⟨map, reordered⟩ := UnderValue.of_shuffled distinct shuffled entries entries' here there
  obtain ⟨once, each⟩ := Json.distinct_object_iff.mp map
  constructor
  · apply Marker.agree_foundMode_of_shuffled none reordered
    rintro rfl
    exact one entries (.fields kind (.inr rfl) here ⟨_, named⟩)
  · apply Marker.agree_readFields_of_shuffled once reordered
    intro key value other member reordered
    apply AnchoredFilter.agree_ofJson_of_reordered (each _ (Marker.mem_unmarked.mp member).1) reordered
    rintro inner fields rfl taken
    exact one fields (.anchored kind here member taken)

theorem agree_referenceOf_of_shuffled (distinct : (Json.object members).Distinct)
    (shuffled : Shuffled (Entries.Matching Json.Reordered) members others) :
    Outcome.Agree FilterError.SameKind (fun state state' => state.same state' = true) (referenceOf members)
      (referenceOf others) := by
  have alike := Marker.LooksAlike.of_shuffled (Json.distinct_object_iff.mp distinct).1 shuffled
  have read : Outcome.Agree FilterError.SameKind Eq (referenceOf members) (referenceOf others) := by
    apply agree_referenceOf alike
    intro entries entries' here there
    obtain ⟨map, reordered⟩ := UnderValue.of_shuffled distinct shuffled entries entries' here there
    have once := (Json.distinct_object_iff.mp map).1
    have once' := (Entries.keys_perm_of_shuffled reordered).nodup_iff.mp once
    exact FilterRef.agree_read_of_lookup once once' (Entries.like_of_shuffled once reordered)
  apply read.imp_of_ok
  rintro state _ found rfl
  obtain ⟨ref, rfl⟩ := exists_of_referenceOf found
  simp [same]

end Kinds

theorem ofJson_reordered {value other : Json} (reordered : value.Reordered other) (distinct : value.Distinct)
    (one : ∀ entries, ModeFrom value entries → Marker.OneMode entries) :
    Outcome.Agree FilterError.SameKind (fun state state' => state.same state' = true) (ofJson value) (ofJson other) := by
  induction value using decoding_induction generalizing other with
  | empty =>
    cases reordered
    exact .made rfl
  | object members ih =>
    obtain ⟨others, rfl, shuffled⟩ := Json.exists_shuffled_of_reordered reordered
    have once := (Json.distinct_object_iff.mp distinct).1
    have alike := Marker.LooksAlike.of_shuffled once shuffled
    apply agree_ofJson alike
    · exact UnderValue.like_of_shuffled distinct shuffled "id"
    · intro mode kind named found
      cases kind with
      | standard => exact agree_standardOf_of_shuffled distinct shuffled named found one
      | anchored => exact agree_anchoredOf_of_shuffled distinct shuffled named found one
      | reference => exact agree_referenceOf_of_shuffled distinct shuffled
      | empty => exact .made rfl
      | composed =>
        have made (refIds : List String) (members members' : List FilterState)
            (each : List.Forall₂ (fun state state' => state.same state' = true) members members') :
            same (.composed mode refIds members) (.composed mode refIds members') = true := by
          simp [same, allSame_iff.mpr each]
        apply agree_composedOf alike mode made
        intro items items' here there
        have values := Entries.lookup_rel_of_shuffled once shuffled "value"
        rw [here, there] at values
        cases values with
        | some reordered =>
          obtain ⟨_, same, each⟩ := Json.exists_items_of_reordered reordered
          cases same
          have itemsDistinct := Json.distinct_array_iff.mp (Json.distinct_of_lookup distinct here)
          apply Outcome.forall₂_imp_of_mem each
          intro item member other _ reordered
          apply ih items here item member reordered (itemsDistinct item member)
          intro entries taken
          exact one entries (.member found here member taken)
  | other value shape =>
    cases value with
    | object members => exact absurd rfl (shape members)
    | null =>
      cases reordered
      exact .made rfl
    | array items =>
      obtain ⟨others, rfl, -⟩ := Json.exists_items_of_reordered reordered
      exact .failed rfl
    | bool | number | text =>
      cases reordered
      exact .failed rfl

def OrderFree (value : Json) : Prop :=
  ∀ other, value.Reordered other →
    Outcome.Agree FilterError.SameKind (fun state state' => state.same state' = true) (ofJson value) (ofJson other)

section Parts

variable {members others entries : List (String × Json)} {state : FilterState}

theorem exists_same_of_orderFree {value other : Json} (free : OrderFree value) (read : ofJson value = .ok state)
    (reordered : value.Reordered other) : ∃ state', ofJson other = .ok state' ∧ state.same state' = true := by
  have agreed := free other reordered
  rw [read] at agreed
  cases made : ofJson other with
  | error =>
    rw [made] at agreed
    cases agreed
  | ok state' =>
    rw [made] at agreed
    cases agreed with
    | made same => exact ⟨state', rfl, same⟩

theorem agree_kind_of_shuffled (distinct : (Json.object members).Distinct)
    (shuffled : Shuffled (Entries.Matching Json.Reordered) members others) :
    Outcome.Agree (fun _ _ => True) Eq (Kind.ofMembers members) (Kind.ofMembers others) := by
  apply Kind.agree_ofMembers (.of_shuffled (Json.distinct_object_iff.mp distinct).1 shuffled)
  exact UnderValue.like_of_shuffled distinct shuffled "id"

theorem exists_counterpart_of_orderFree {kind : Kind} {value other : Json} (distinct : (Json.object members).Distinct)
    (read : ofJson (.object members) = .ok state) (free : OrderFree (.object members))
    (found : Kind.ofMembers members = .ok kind) (held : members.lookup "value" = some value)
    (reordered : value.Reordered other) :
    ∃ others state', Marker.LooksAlike members others ∧ Kind.ofMembers others = .ok kind ∧
      others.lookup "value" = some other ∧ ofJson (.object others) = .ok state' ∧ state.same state' = true := by
  obtain ⟨others, outer, held'⟩ := Json.exists_reordered_of_lookup held reordered
  obtain ⟨state', read', same⟩ := exists_same_of_orderFree free read outer
  obtain ⟨_, equal, shuffled⟩ := Json.exists_shuffled_of_reordered outer
  cases equal
  have alike := Marker.LooksAlike.of_shuffled (Json.distinct_object_iff.mp distinct).1 shuffled
  have found' := (agree_kind_of_shuffled distinct shuffled).ok_iff.mp found
  exact ⟨others, state', alike, found', held', read', same⟩

def fieldsMode? : FilterState → Option CombineMode
  | .standard mode _ | .anchored mode _ => mode
  | .empty | .composed .. | .reference _ => none

theorem fieldsMode?_eq_of_same {state' : FilterState} (same : state.same state' = true) :
    state.fieldsMode? = state'.fieldsMode? := by
  cases state <;> cases state' <;> simp_all [FilterState.same, fieldsMode?]

theorem foundMode_of_read {kind : Kind} (found : Kind.ofMembers members = .ok kind)
    (fielded : kind = .standard ∨ kind = .anchored) (held : members.lookup "value" = some (.object entries))
    (unnamed : Marker.Unnamed members) (read : ofJson (.object members) = .ok state) :
    Marker.foundMode none none entries = .ok state.fieldsMode? := by
  rcases ofJson_object_eq_ok_iff.mp read with ⟨mode, kind', named, found', read⟩
  cases named.symm.trans (unnamed.mode_eq "__combineMode")
  cases found'.symm.trans found
  have map (name : String) : valueMap name members = .ok entries := by
    unfold valueMap
    rw [held]
  rcases fielded with rfl | rfl
  · rcases standardOf_eq_ok_iff.mp read with ⟨inner, mode, fields, shown, chosen, -, rfl⟩
    cases shown.symm.trans (map "standard")
    exact chosen
  · rcases anchoredOf_eq_ok_iff.mp read with ⟨inner, mode, fields, shown, chosen, -, rfl⟩
    cases shown.symm.trans (map "anchored")
    exact chosen

theorem oneMode_of_orderFree {kind : Kind} (distinct : (Json.object members).Distinct)
    (read : ofJson (.object members) = .ok state) (free : OrderFree (.object members))
    (found : Kind.ofMembers members = .ok kind) (fielded : kind = .standard ∨ kind = .anchored)
    (held : members.lookup "value" = some (.object entries)) (unnamed : Marker.Unnamed members) :
    Marker.OneMode entries := by
  rw [Marker.oneMode_iff none]
  intro entries' perm
  obtain ⟨others, state', alike, found', held', read', same⟩ :=
    exists_counterpart_of_orderFree distinct read free found held (Json.reordered_of_perm perm)
  rw [foundMode_of_read found fielded held unnamed read,
    foundMode_of_read found' fielded held' (alike.unnamed unnamed) read', fieldsMode?_eq_of_same same]
  exact .made rfl

theorem exists_related_of_agree {α : Type} {related : α → α → Bool} {read : String → Json → Except FilterError α}
    {front back : List (String × Json)} {key : String} {value other : Json} {fields fields' : List (String × α)}
    (distinct : (Entries.keys (front ++ (key, other) :: back)).Nodup) (unmarked : Marker.isModeKey key = false)
    (each : List.Forall₂ (fun entry field => entry.1 = field.1 ∧ read entry.1 entry.2 = .ok field.2)
      (Marker.unmarked (front ++ (key, value) :: back)) fields)
    (each' : List.Forall₂ (fun entry field => entry.1 = field.1 ∧ read entry.1 entry.2 = .ok field.2)
      (Marker.unmarked (front ++ (key, other) :: back)) fields')
    (agreed : Entries.agree related fields fields' = true) :
    ∃ field field', read key value = .ok field ∧ read key other = .ok field' ∧ related field field' = true := by
  have held (value : Json) : (key, value) ∈ Marker.unmarked (front ++ (key, value) :: back) :=
    Marker.mem_unmarked.mpr ⟨List.mem_append_right front List.mem_cons_self, unmarked⟩
  rcases Outcome.exists_of_forall₂ each.flip (held value) with ⟨⟨_, field⟩, member, ⟨⟩, made⟩
  rcases Outcome.exists_of_forall₂ each'.flip (held other) with ⟨⟨_, field'⟩, member', ⟨⟩, made'⟩
  refine ⟨field, field', made, made', ?_⟩
  rcases Entries.exists_right_of_agree agreed _ member with ⟨found, shown, alike⟩
  have once : (Entries.keys fields').Nodup := distinct.sublist (Marker.keys_sublist each')
  have same : some found = some field' :=
    (Entries.lookup_of_mem once shown).symm.trans (Entries.lookup_of_mem once member')
  exact Option.some.inj same ▸ alike

theorem exists_fields_of_standard (found : Kind.ofMembers members = .ok .standard)
    (held : members.lookup "value" = some (.object entries)) (read : ofJson (.object members) = .ok state) :
    ∃ mode fields, state = .standard mode fields ∧
      List.Forall₂ (fun entry field => entry.1 = field.1 ∧ FieldFilter.ofJson entry.1 entry.2 = .ok field.2)
        (Marker.unmarked entries) fields := by
  rcases ofJson_object_eq_ok_iff.mp read with ⟨mode, kind, -, found', read⟩
  cases found'.symm.trans found
  rcases standardOf_eq_ok_iff.mp read with ⟨inner, mode, fields, shown, -, each, rfl⟩
  unfold valueMap at shown
  rw [held] at shown
  cases shown
  exact ⟨mode, fields, rfl, each⟩

theorem exists_fields_of_anchored (found : Kind.ofMembers members = .ok .anchored)
    (held : members.lookup "value" = some (.object entries)) (read : ofJson (.object members) = .ok state) :
    ∃ mode fields, state = .anchored mode fields ∧
      List.Forall₂ (fun entry field => entry.1 = field.1 ∧ AnchoredFilter.ofJson entry.1 entry.2 = .ok field.2)
        (Marker.unmarked entries) fields := by
  rcases ofJson_object_eq_ok_iff.mp read with ⟨mode, kind, -, found', read⟩
  cases found'.symm.trans found
  rcases anchoredOf_eq_ok_iff.mp read with ⟨inner, mode, fields, shown, -, each, rfl⟩
  unfold valueMap at shown
  rw [held] at shown
  cases shown
  exact ⟨mode, fields, rfl, each⟩

theorem exists_same_field {fields : List (String × Json)} {key : String} {value other : Json}
    (distinct : (Json.object members).Distinct) (read : ofJson (.object members) = .ok state)
    (free : OrderFree (.object members)) (found : Kind.ofMembers members = .ok .standard)
    (held : members.lookup "value" = some (.object fields)) (member : (key, value) ∈ Marker.unmarked fields)
    (reordered : value.Reordered other) :
    ∃ filter filter', FieldFilter.ofJson key value = .ok filter ∧ FieldFilter.ofJson key other = .ok filter' ∧
      filter.same filter' = true := by
  obtain ⟨standing, unmarked⟩ := Marker.mem_unmarked.mp member
  obtain ⟨front, back, rfl⟩ := List.append_of_mem standing
  have inner := Json.reordered_append_cons front back key reordered
  obtain ⟨others, state', -, found', held', read', same⟩ :=
    exists_counterpart_of_orderFree distinct read free found held inner
  obtain ⟨mode, filters, rfl, each⟩ := exists_fields_of_standard found held read
  obtain ⟨mode', filters', rfl, each'⟩ := exists_fields_of_standard found' held' read'
  have once : (Entries.keys (front ++ (key, other) :: back)).Nodup := by
    have distinct := (Json.distinct_object_iff.mp (Json.distinct_of_lookup distinct held)).1
    simpa [Entries.keys] using distinct
  have agreed : Entries.agree FieldFilter.same filters filters' = true := by
    simp only [FilterState.same, Bool.and_eq_true] at same
    rw [Entries.agree, same.1.2, Bool.true_and, ← FieldFilter.allIn_eq]
    exact same.2
  exact exists_related_of_agree once unmarked each each' agreed

theorem exists_same_anchored {fields : List (String × Json)} {key : String} {value other : Json}
    (distinct : (Json.object members).Distinct) (read : ofJson (.object members) = .ok state)
    (free : OrderFree (.object members)) (found : Kind.ofMembers members = .ok .anchored)
    (held : members.lookup "value" = some (.object fields)) (member : (key, value) ∈ Marker.unmarked fields)
    (reordered : value.Reordered other) :
    ∃ filter filter', AnchoredFilter.ofJson key value = .ok filter ∧ AnchoredFilter.ofJson key other = .ok filter' ∧
      filter.same filter' = true := by
  obtain ⟨standing, unmarked⟩ := Marker.mem_unmarked.mp member
  obtain ⟨front, back, rfl⟩ := List.append_of_mem standing
  have inner := Json.reordered_append_cons front back key reordered
  obtain ⟨others, state', -, found', held', read', same⟩ :=
    exists_counterpart_of_orderFree distinct read free found held inner
  obtain ⟨mode, filters, rfl, each⟩ := exists_fields_of_anchored found held read
  obtain ⟨mode', filters', rfl, each'⟩ := exists_fields_of_anchored found' held' read'
  have once : (Entries.keys (front ++ (key, other) :: back)).Nodup := by
    have distinct := (Json.distinct_object_iff.mp (Json.distinct_of_lookup distinct held)).1
    simpa [Entries.keys] using distinct
  simp only [FilterState.same, Bool.and_eq_true] at same
  exact exists_related_of_agree once unmarked each each' same.2

theorem exists_member_read {items : List Json} {item : Json} (read : ofJson (.object members) = .ok state)
    (found : Kind.ofMembers members = .ok .composed) (held : members.lookup "value" = some (.array items))
    {front back : List Json} (parts : items = front ++ item :: back) :
    ∃ mode refIds before result after, state = .composed mode refIds (before ++ result :: after) ∧
      before.length = front.length ∧ ofJson item = .ok result := by
  rcases ofJson_object_eq_ok_iff.mp read with ⟨mode, kind, -, found', read⟩
  cases found'.symm.trans found
  rcases composedOf_eq_ok_iff.mp read with ⟨shown, refIds, results, standing, -, each, rfl⟩
  unfold memberItems? at standing
  rw [held, parts] at standing
  cases standing
  have first := List.forall₂_take_append results front (item :: back) each.flip
  have rest := List.forall₂_drop_append results front (item :: back) each.flip
  rcases List.forall₂_cons_right_iff.mp rest with ⟨result, after, made, -, same⟩
  refine ⟨mode, refIds, results.take front.length, result, after, ?_, first.length_eq, made⟩
  rw [← same, List.take_append_drop]

theorem orderFree_member {items : List Json} {item : Json}
    (distinct : (Json.object members).Distinct) (read : ofJson (.object members) = .ok state)
    (free : OrderFree (.object members)) (found : Kind.ofMembers members = .ok .composed)
    (held : members.lookup "value" = some (.array items)) (member : item ∈ items) :
    (∃ result, ofJson item = .ok result) ∧ OrderFree item := by
  obtain ⟨front, back, rfl⟩ := List.append_of_mem member
  obtain ⟨mode, refIds, before, result, after, rfl, size, made⟩ := exists_member_read read found held rfl
  refine ⟨⟨result, made⟩, ?_⟩
  intro other reordered
  have inner : (Json.array (front ++ item :: back)).Reordered (.array (front ++ other :: back)) := by
    have same (items : List Json) : List.Forall₂ Json.Reordered items items :=
      List.forall₂_same.mpr fun item _ => .same item
    exact .array (List.rel_append (same front) (.cons reordered (same back)))
  obtain ⟨others, state', -, found', held', read', same⟩ :=
    exists_counterpart_of_orderFree distinct read free found held inner
  obtain ⟨mode', refIds', before', result', after', rfl, size', made'⟩ := exists_member_read read' found' held' rfl
  simp only [FilterState.same, Bool.and_eq_true] at same
  have each := List.forall₂_drop_append _ before' (result' :: after') (allSame_iff.mp same.2)
  rw [List.drop_left' (size.trans size'.symm)] at each
  rw [made, made']
  cases each with
  | cons alike _ => exact .made alike

end Parts

theorem oneMode_of_anchored (key : String) {members entries : List (String × Json)}
    (distinct : (Json.object members).Distinct) (taken : AnchoredFilter.ModeFrom members entries)
    (free : ∀ other, (Json.object members).Reordered other → ∃ filter filter',
      AnchoredFilter.ofJson key (.object members) = .ok filter ∧ AnchoredFilter.ofJson key other = .ok filter' ∧
        filter.same filter' = true) : Marker.OneMode entries := by
  rw [Marker.oneMode_iff (some key)]
  intro entries' perm
  obtain ⟨others, reordered, held'⟩ := Json.exists_reordered_of_lookup taken.held (Json.reordered_of_perm perm)
  obtain ⟨filter, filter', made, made', same⟩ := free _ reordered
  obtain ⟨_, equal, shuffled⟩ := Json.exists_shuffled_of_reordered reordered
  cases equal
  have alike := Marker.LooksAlike.of_shuffled (Json.distinct_object_iff.mp distinct).1 shuffled
  have chosen {members entries : List (String × Json)} {filter : AnchoredFilter}
      (taken : AnchoredFilter.ModeFrom members entries)
      (made : AnchoredFilter.ofJson key (.object members) = .ok filter) :
      Marker.foundMode (some key) none entries = .ok filter.combineMode := by
    rcases AnchoredFilter.assemble_eq_ok_iff.mp made with ⟨-, shown, known, held, named, found, -⟩
    cases held.symm.trans taken.held
    cases named.symm.trans (taken.unnamed.mode_eq key)
    exact found
  have modes : filter.combineMode = filter'.combineMode := by
    obtain ⟨field, value, mode, fields⟩ := filter
    simp only [AnchoredFilter.same, Bool.and_eq_true, beq_iff_eq] at same
    exact same.1.1.2
  rw [chosen taken made, chosen ⟨held', alike.unnamed taken.unnamed⟩ made', modes]
  exact .made rfl

theorem oneMode_of_modeFrom {value : Json} {state : FilterState} {entries : List (String × Json)}
    (taken : ModeFrom value entries) (distinct : value.Distinct) (read : ofJson value = .ok state)
    (free : OrderFree value) : Marker.OneMode entries := by
  induction taken generalizing state with
  | fields found fielded held unnamed => exact oneMode_of_orderFree distinct read free found fielded held unnamed
  | @field members fields inner entries key found held member kind taken =>
    have innerDistinct : (Json.object inner).Distinct :=
      (Json.distinct_object_iff.mp (Json.distinct_of_lookup distinct held)).2 _ (Marker.mem_unmarked.mp member).1
    apply oneMode_of_anchored key innerDistinct taken
    intro other reordered
    obtain ⟨filter, filter', made, made', same⟩ := exists_same_field distinct read free found held member reordered
    obtain ⟨others, rfl, shuffled⟩ := Json.exists_shuffled_of_reordered reordered
    have alike := Marker.LooksAlike.of_shuffled (Json.distinct_object_iff.mp innerDistinct).1 shuffled
    rw [FieldFilter.ofJson_of_anchored kind] at made
    rw [FieldFilter.ofJson_of_anchored (FieldKind.ofMembers?_eq alike ▸ kind)] at made'
    rcases Outcome.map_eq_ok_iff.mp made with ⟨anchored, shown, rfl⟩
    rcases Outcome.map_eq_ok_iff.mp made' with ⟨anchored', shown', rfl⟩
    rw [FieldFilter.same] at same
    exact ⟨anchored, anchored', shown, shown', same⟩
  | @anchored members fields inner entries key found held member taken =>
    have innerDistinct : (Json.object inner).Distinct :=
      (Json.distinct_object_iff.mp (Json.distinct_of_lookup distinct held)).2 _ (Marker.mem_unmarked.mp member).1
    apply oneMode_of_anchored key innerDistinct taken
    intro other reordered
    exact exists_same_anchored distinct read free found held member reordered
  | @member members entries items item found held member taken ih =>
    have itemDistinct := Json.distinct_array_iff.mp (Json.distinct_of_lookup distinct held) item member
    obtain ⟨⟨result, itemRead⟩, itemFree⟩ := orderFree_member distinct read free found held member
    exact ih itemDistinct itemRead itemFree

/-- The order of members does not count where each map that a mode is taken from names one mode; and where a map of an
    accepted filter names two, some order of its members gives another filter. -/
theorem ofJson_reordered_iff {value : Json} (distinct : value.Distinct) :
    ((∀ entries, ModeFrom value entries → Marker.OneMode entries) → OrderFree value) ∧
      ∀ state, ofJson value = .ok state →
        (OrderFree value ↔ ∀ entries, ModeFrom value entries → Marker.OneMode entries) := by
  have enough (one : ∀ entries, ModeFrom value entries → Marker.OneMode entries) : OrderFree value :=
    fun other reordered => ofJson_reordered reordered distinct one
  refine ⟨enough, fun state read => ⟨fun free entries taken => ?_, enough⟩⟩
  exact oneMode_of_modeFrom taken distinct read free

theorem ofJson_reordered_iff_field :
    let values : String × Json := ("selectedValues", .texts ["40"])
    let tag : String × Json := ("__type", .text "OPTION")
    let mode : String × Json := ("combineMode", .text "OR")
    let first : Json := .object [("value", .object [mode, ("age", .object [values, tag])])]
    let last : Json := .object [("value", .object [("age", .object [tag, values]), mode])]
    first.Distinct ∧ (∀ entries, ModeFrom first entries → Marker.OneMode entries) ∧ first.Reordered last ∧
      Outcome.Agree FilterError.SameKind (fun state state' => state.same state' = true) (ofJson first) (ofJson last) := by
  intro values tag mode first last
  have field : (Json.object [values, tag]).Reordered (.object [tag, values]) :=
    .object (.swap tag values []) rfl (.cons (.same _) (.cons (.same _) .nil))
  have map : (Json.object [mode, ("age", .object [values, tag])]).Reordered
      (.object [("age", .object [tag, values]), mode]) :=
    .object (.swap _ _ []) rfl (.cons field (.cons (.same _) .nil))
  have reordered : first.Reordered last := .object (.refl _) rfl (.cons map .nil)
  have distinct : first.Distinct := by
    simp [first, values, tag, mode, Json.distinct_object_iff, Entries.keys, Json.distinct_texts, Json.Distinct.text]
  have one : ∀ entries, ModeFrom first entries → Marker.OneMode entries := by
    intro entries taken
    generalize same : first = document at taken
    cases taken with
    | fields kind _ held =>
      obtain rfl := Json.object.inj same
      cases held
      intro entry member other member' marked marked'
      simp only [List.mem_cons, List.not_mem_nil, or_false] at member member'
      rcases member with rfl | rfl
      · rcases member' with rfl | rfl
        · rfl
        · cases marked'
      · cases marked
    | field kind held member anchored =>
      obtain rfl := Json.object.inj same
      cases held
      rcases List.mem_cons.mp (Marker.mem_unmarked.mp member).1 with found | member
      · cases congrArg Prod.snd found
      · have found := congrArg Prod.snd (List.mem_singleton.mp member)
        obtain rfl := Json.object.inj found
        cases anchored
    | anchored kind =>
      obtain rfl := Json.object.inj same
      cases kind
    | member kind =>
      obtain rfl := Json.object.inj same
      cases kind
  exact ⟨distinct, one, reordered, (ofJson_reordered_iff distinct).1 one last reordered⟩

/-- A map with both mode keys is read for the first of them, and refused only if that one names no mode. -/
theorem ofJson_reordered_modes :
    let document (entries : List (String × Json)) : Json := .object [("value", .object entries)]
    let either : String × Json := ("combineMode", .text "OR")
    let both : String × Json := ("__combineMode", .text "AND")
    let wrong : String × Json := ("combineMode", .text "XOR")
    (document [either, both]).Distinct ∧ (document [either, both]).Reordered (document [both, either]) ∧
      ofJson (document [either, both]) = .ok (.standard (some .or) []) ∧
      ofJson (document [both, either]) = .ok (.standard (some .and) []) ∧
      same (.standard (some .or) []) (.standard (some .and) []) = false ∧
      (document [both, wrong]).Reordered (document [wrong, both]) ∧
      ofJson (document [both, wrong]) = .ok (.standard (some .and) []) ∧
      ofJson (document [wrong, both]) = .error (.invalidValue "combineMode" (.text "XOR")) := by
  intro document either both wrong
  have swapped (first last : String × Json) : (document [first, last]).Reordered (document [last, first]) := by
    have map : (Json.object [first, last]).Reordered (.object [last, first]) :=
      .object (.swap last first []) rfl (.cons (.same _) (.cons (.same _) .nil))
    exact .object (.refl _) rfl (.cons map .nil)
  have distinct : (document [either, both]).Distinct := by
    simp [document, either, both, Json.distinct_object_iff, Entries.keys, Json.Distinct.text]
  exact ⟨distinct, swapped either both, rfl, rfl, rfl, swapped both wrong, rfl, rfl⟩

end FilterState

end CohortFilter
