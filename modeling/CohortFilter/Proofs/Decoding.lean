import CohortFilter.Filter.State.Decode
import CohortFilter.Proofs.WellFormed

namespace CohortFilter

namespace Marker

variable {α : Type}

theorem find?_congr {names : List String} {members others : List (String × Json)}
    (each : ∀ name ∈ names, members.lookup name = others.lookup name) : find? names members = find? names others := by
  unfold find?
  induction names with
  | nil => rfl
  | cons name rest ih =>
    obtain ⟨first, later⟩ := List.forall_mem_cons.mp each
    rw [List.findSome?_cons, List.findSome?_cons, first, ih later]

/-- The mode of a value map: the known one, or else the one under the first mode key. -/
def foundMode (owner : Option String) (known : Option CombineMode) (entries : List (String × Json)) :
    Except FilterError (Option CombineMode) :=
  match known, entries.find? fun entry => isModeKey entry.1 with
  | some mode, _ => .ok (some mode)
  | none, some (key, value) => (modeOf (owner.getD key) value).map some
  | none, none => .ok none

def unmarked (entries : List (String × α)) : List (String × α) :=
  entries.filter fun entry => !isModeKey entry.1

theorem foundMode_some (owner : Option String) (mode : CombineMode) (entries : List (String × Json)) :
    foundMode owner (some mode) entries = .ok (some mode) := rfl

theorem unmarked_eq_self {entries : List (String × α)} (clear : ∀ entry ∈ entries, isModeKey entry.1 = false) :
    unmarked entries = entries :=
  List.filter_eq_self.mpr fun entry member => by simp [clear entry member]

theorem mem_unmarked {entries : List (String × α)} {entry : String × α} :
    entry ∈ unmarked entries ↔ entry ∈ entries ∧ isModeKey entry.1 = false := by
  simp [unmarked]

theorem collect_eq_ok_iff (read : String → Json → Except FilterError α) {owner : Option String}
    {known mode : Option CombineMode} {entries : List (String × Json)} {fields : List (String × α)} :
    collect owner known (entries.map fun (key, value) => (key, value, read key value)) = .ok (mode, fields) ↔
      foundMode owner known entries = .ok mode ∧
        List.Forall₂ (fun entry field => entry.1 = field.1 ∧ read entry.1 entry.2 = .ok field.2)
          (unmarked entries) fields := by
  induction entries generalizing known fields with
  | nil =>
    cases known <;> simp [collect, foundMode, unmarked, eq_comm]
  | cons entry rest ih =>
    rcases entry with ⟨key, value⟩
    cases marked : isModeKey key with
    | true =>
      have passed : unmarked ((key, value) :: rest) = unmarked rest := by simp [unmarked, marked]
      rw [passed]
      cases known with
      | some known => simp only [List.map_cons, collect, marked, if_true, ih, foundMode_some]
      | none =>
        -- The mode found here is known from now on, so later mode keys are passed by.
        simp only [List.map_cons, collect, marked, if_true, Outcome.bind_eq_ok_iff, ih, foundMode,
          List.find?_cons, Outcome.map_eq_ok_iff, Except.ok.injEq]
        simp only [← and_assoc, exists_and_right]
    | false =>
      have kept : unmarked ((key, value) :: rest) = (key, value) :: unmarked rest := by simp [unmarked, marked]
      have later : foundMode owner known ((key, value) :: rest) = foundMode owner known rest := by
        simp [foundMode, marked]
      rw [kept, later, List.forall₂_cons_left_iff]
      simp only [List.map_cons, collect, marked, Bool.false_eq_true, if_false, Outcome.bind_eq_ok_iff,
        Outcome.pure_eq_ok_iff]
      constructor
      · intro collected
        rcases collected with ⟨field, first, ⟨mode, fields⟩, collected, same⟩
        cases same
        rcases ih.mp collected with ⟨found, each⟩
        exact ⟨found, (key, field), fields, ⟨rfl, first⟩, each, rfl⟩
      · intro apart
        rcases apart with ⟨found, ⟨key, field⟩, fields, ⟨rfl, first⟩, each, rfl⟩
        exact ⟨field, first, (mode, fields), ih.mpr ⟨found, each⟩, rfl⟩

end Marker

namespace OptionFilter

def selection? : Option Json → Option (Option (List String))
  | none | some .null => some none
  | some (.array items) => (items.mapM Json.text?).map some
  | some _ => none

def filterMode? (members : List (String × Json)) : Option FilterMode :=
  match members.lookup "filterMode" with
  | none | some .null =>
    match members.lookup "isExclusion" with
    | some (.bool true) => some .excludesAny
    | _ => some .containsAny
  | some value => value.text?.bind FilterMode.ofName?

theorem ofMembers_eq_ok_iff {key : String} {members : List (String × Json)} {filter : OptionFilter} :
    ofMembers key members = .ok filter ↔
      selection? (members.lookup "selectedValues") = some filter.selectedValues ∧
        Marker.mode key members = .ok filter.combineMode ∧ filter.WellFormed ∧
        filterMode? members = some filter.filterMode := by
  unfold ofMembers
  -- Every way to read the selected values goes on in the same way.
  extract_lets invalid completed
  have complete (values : Option (List String)) : completed values = .ok filter ↔
      values = filter.selectedValues ∧ Marker.mode key members = .ok filter.combineMode ∧ filter.WellFormed ∧
        filterMode? members = some filter.filterMode := by
    have parts : (∃ mode, Marker.mode key members = .ok mode ∧ (values.isSome ∨ mode.isSome) ∧
        ∃ filterMode, filterMode? members = some filterMode ∧ ⟨values, filterMode, mode⟩ = filter) ↔
        values = filter.selectedValues ∧ Marker.mode key members = .ok filter.combineMode ∧
          filter.WellFormed ∧ filterMode? members = some filter.filterMode := by
      constructor
      · intro parts
        rcases parts with ⟨mode, read, meant, filterMode, found, rfl⟩
        exact ⟨rfl, read, meant, found⟩
      · intro parts
        rcases parts with ⟨rfl, read, meant, found⟩
        exact ⟨_, read, meant, _, found, rfl⟩
    rw [← parts]
    refine Outcome.bind_eq_ok_iff.trans (exists_congr fun mode => and_congr_right fun _ => ?_)
    extract_lets made finished
    have finish : finished () = .ok filter ↔
        ∃ filterMode, filterMode? members = some filterMode ∧ ⟨values, filterMode, mode⟩ = filter := by
      simp only [finished]
      split
      · next found => split <;> simp [made, filterMode?, Outcome.pure_eq_ok_iff, *]
      · next found => split <;> simp [made, filterMode?, Outcome.pure_eq_ok_iff, *]
      · next given found =>
        split
        · next named => simp [made, filterMode?, Outcome.pure_eq_ok_iff, *]
        · next unnamed => simp [filterMode?, Outcome.bind_eq_ok_iff, Outcome.throw_eq_ok_iff, *]
    cases values <;> cases mode <;> simp [finish, Outcome.bind_eq_ok_iff, Outcome.throw_eq_ok_iff]
  split
  · next found => simp [complete, selection?, found]
  · next found => simp [complete, selection?, found]
  · next items found =>
    split
    · next read => simp [complete, selection?, found, read]
    · next unread => simp [selection?, found, unread, Outcome.bind_eq_ok_iff, Outcome.throw_eq_ok_iff]
  · simp [selection?, *, Outcome.bind_eq_ok_iff, Outcome.throw_eq_ok_iff]

end OptionFilter

namespace AnchoredFilter

theorem unanchored_eq_ok_iff {key : String} {value : Json} {filter result : FieldFilter} :
    unanchored key value filter = .ok result ↔ filter = result ∧ result.isAnchored = false := by
  cases filter with
  | anchored filter => simpa [unanchored, FieldFilter.isAnchored] using fun same => by simp [← same]
  | _ => simpa [unanchored] using fun same => by simp [← same, FieldFilter.isAnchored]

theorem ofJson_bind_unanchored_eq_ok_iff {key : String} {value : Json} {result : FieldFilter} :
    (FieldFilter.ofJson key value).bind (unanchored key value) = .ok result ↔
      FieldFilter.ofJson key value = .ok result ∧ result.isAnchored = false := by
  refine Outcome.bind_eq_ok_iff.trans ?_
  simp only [unanchored_eq_ok_iff]
  constructor
  · intro checked
    rcases checked with ⟨filter, read, rfl, plain⟩
    exact ⟨read, plain⟩
  · intro checked
    rcases checked with ⟨read, plain⟩
    exact ⟨result, read, rfl, plain⟩

theorem assemble_eq_ok_iff {key : String} {members : List (String × Json)} {filter : AnchoredFilter} :
    assemble key members (FieldFilter.valueFields? members) = .ok filter ↔
      Key.anchor? key = some (filter.anchorField, filter.anchorValue) ∧
        ∃ entries known, members.lookup "value" = some (.object entries) ∧ Marker.mode key members = .ok known ∧
          Marker.foundMode (some key) known entries = .ok filter.combineMode ∧
          List.Forall₂ (fun entry field => entry.1 = field.1 ∧
            FieldFilter.ofJson entry.1 entry.2 = .ok field.2 ∧ field.2.isAnchored = false)
            (Marker.unmarked entries) filter.fields := by
  have apart (entries : List (String × Json)) (known : Option CombineMode) :=
    @Marker.collect_eq_ok_iff _ (fun key value => (FieldFilter.ofJson key value).bind (unanchored key value))
      (some key) known filter.combineMode entries filter.fields
  simp only [ofJson_bind_unanchored_eq_ok_iff] at apart
  simp only [← apart]
  rcases filter with ⟨field, value, mode, fields⟩
  rw [FieldFilter.valueFields?_eq]
  unfold assemble
  cases anchor : Key.anchor? key with
  | none => simp
  | some parts =>
    cases found : members.lookup "value" with
    | none => simp
    | some inner =>
      cases inner with
      | object entries =>
        simp only [Outcome.bind_eq_ok_iff, Outcome.pure_eq_ok_iff, List.map_map]
        constructor
        · intro assembled
          rcases assembled with ⟨known, read, ⟨mode, fields⟩, collected, same⟩
          cases same
          exact ⟨rfl, entries, known, rfl, read, collected⟩
        · intro parts
          rcases parts with ⟨same, _, known, value, read, collected⟩
          cases same
          cases value
          exact ⟨known, read, (mode, fields), collected, rfl⟩
      | _ => simp

end AnchoredFilter

namespace FieldFilter

theorem cases_of_ofJson {key : String} {value : Json} {filter : FieldFilter}
    (read : ofJson key value = .ok filter) :
    (∃ option : OptionFilter, filter = .option option ∧ option.WellFormed) ∨ (∃ range, filter = .range range) ∨
      ∃ members anchored, value = .object members ∧ filter = .anchored anchored ∧
        AnchoredFilter.assemble key members (valueFields? members) = .ok anchored := by
  cases value with
  | object members =>
    rw [ofJson, assemble] at read
    split at read
    · rcases Outcome.map_eq_ok_iff.mp read with ⟨option, found, rfl⟩
      exact .inl ⟨option, rfl, (OptionFilter.ofMembers_eq_ok_iff.mp found).2.2.1⟩
    · rcases Outcome.map_eq_ok_iff.mp read with ⟨range, -, rfl⟩
      exact .inr (.inl ⟨range, rfl⟩)
    · rcases Outcome.map_eq_ok_iff.mp read with ⟨anchored, found, rfl⟩
      exact .inr (.inr ⟨members, anchored, rfl, rfl, found⟩)
    · cases read
  | _ => simp [ofJson] at read

theorem decoding_induction {motive : Json → Prop}
    (object : ∀ members, (∀ entries, members.lookup "value" = some (.object entries) →
      ∀ entry ∈ entries, motive entry.2) → motive (.object members))
    (other : ∀ value, (∀ members, value ≠ .object members) → motive value) (value : Json) : motive value := by
  -- The entries are two steps below the object, so those of every document go along.
  suffices both : motive value ∧ ∀ entries, value = .object entries → ∀ entry ∈ entries, motive entry.2 from both.1
  induction value using Json.induction with
  | object members ih =>
    refine ⟨object members fun entries held => (ih _ (Entries.mem_of_lookup held)).2 entries rfl, ?_⟩
    intro entries same entry member
    cases same
    exact (ih entry member).1
  | null | bool | number | text | array =>
    refine ⟨other _ fun members shape => Json.noConfusion shape, ?_⟩
    intro entries shape
    cases shape

theorem plain_of_ofJson {key : String} {value : Json} {filter : FieldFilter}
    (read : ofJson key value = .ok filter) (unanchored : filter.isAnchored = false) : filter.Plain := by
  rcases cases_of_ofJson read with ⟨option, rfl, meant⟩ | ⟨range, rfl⟩ | ⟨_, anchored, _, rfl, _⟩
  · exact meant
  · exact True.intro
  · cases unanchored

end FieldFilter

theorem AnchoredFilter.wellFormed_of_assemble {key : String} {members : List (String × Json)}
    {filter : AnchoredFilter}
    (read : assemble key members (FieldFilter.valueFields? members) = .ok filter) : filter.WellFormed key := by
  rcases assemble_eq_ok_iff.mp read with ⟨anchor, entries, known, -, -, -, each⟩
  refine ⟨anchor, fun field member => ?_⟩
  rcases Outcome.exists_of_forall₂ each member with ⟨entry, held, same, read, plain⟩
  exact ⟨same ▸ (Marker.mem_unmarked.mp held).2, FieldFilter.plain_of_ofJson read plain⟩

theorem AnchoredFilter.wellFormed_of_ofJson {key : String} {value : Json} {filter : AnchoredFilter}
    (read : ofJson key value = .ok filter) : filter.WellFormed key := by
  cases value with
  | object members => exact wellFormed_of_assemble read
  | _ => simp [ofJson] at read

theorem FieldFilter.wellFormed_of_ofJson {key : String} {value : Json} {filter : FieldFilter}
    (read : ofJson key value = .ok filter) : filter.WellFormed key := by
  rcases cases_of_ofJson read with ⟨option, rfl, meant⟩ | ⟨range, rfl⟩ | ⟨_, anchored, _, rfl, found⟩
  · exact meant
  · exact True.intro
  · exact AnchoredFilter.wellFormed_of_assemble found

namespace FilterState

/-- Induction along the decoder, which goes from an object to the filters in the array under its `value`. -/
theorem decoding_induction {motive : Json → Prop} (empty : motive .null)
    (object : ∀ members, (∀ items, members.lookup "value" = some (.array items) → ∀ item ∈ items, motive item) →
      motive (.object members))
    (other : ∀ value, (∀ members, value ≠ .object members) → motive value) (value : Json) : motive value := by
  have skip {name : String} {held : Json} {rest : List (String × Json)} (different : ¬ (name == "value") = true) :
      ((name, held) :: rest).lookup "value" = rest.lookup "value" := by
    have passed : ("value" == name) = false :=
      beq_eq_false_iff_ne.mpr fun same => different (beq_iff_eq.mpr same.symm)
    rw [List.lookup_cons, passed]
  refine ofJson.induct motive
    (fun members => ∀ items, members.lookup "value" = some (.array items) → ∀ item ∈ items, motive item)
    (fun items => ∀ item ∈ items, motive item) empty object ?_ ?_ ?_ ?_ ?_ ?_ ?_ ?_ value
  · exact fun value _ shape => other value shape
  · exact fun _ member => nomatch member
  · exact fun item rest head later => List.forall_mem_cons.mpr ⟨head, later⟩
  · simp
  · intro name items rest same each items' found
    simp only [beq_iff_eq.mp same, List.lookup_cons, BEq.rfl, Option.some.injEq, Json.array.injEq] at found
    exact found ▸ each
  · intro name items rest different each items' found
    rw [skip different] at found
    exact each items' found
  · intro name value rest shape same items' found
    simp only [beq_iff_eq.mp same, List.lookup_cons, BEq.rfl, Option.some.injEq] at found
    exact absurd found (shape items')
  · intro name value rest shape different each items' found
    rw [skip different] at found
    exact each items' found

theorem standardOf_eq_ok_iff {mode : Option CombineMode} {members : List (String × Json)} {state : FilterState} :
    standardOf mode members = .ok state ↔
      ∃ inner found fields, valueMap "standard" members = .ok inner ∧
        Marker.foundMode none mode inner = .ok found ∧
        List.Forall₂ (fun entry field => entry.1 = field.1 ∧ FieldFilter.ofJson entry.1 entry.2 = .ok field.2)
          (Marker.unmarked inner) fields ∧ .standard found fields = state := by
  simp only [standardOf, Outcome.bind_eq_ok_iff, Outcome.pure_eq_ok_iff, Prod.exists,
    Marker.collect_eq_ok_iff FieldFilter.ofJson, exists_and_left, and_assoc]

theorem anchoredOf_eq_ok_iff {mode : Option CombineMode} {members : List (String × Json)} {state : FilterState} :
    anchoredOf mode members = .ok state ↔
      ∃ inner found fields, valueMap "anchored" members = .ok inner ∧
        Marker.foundMode none mode inner = .ok found ∧
        List.Forall₂ (fun entry field => entry.1 = field.1 ∧ AnchoredFilter.ofJson entry.1 entry.2 = .ok field.2)
          (Marker.unmarked inner) fields ∧ .anchored found fields = state := by
  simp only [anchoredOf, Outcome.bind_eq_ok_iff, Outcome.pure_eq_ok_iff, Prod.exists,
    Marker.collect_eq_ok_iff AnchoredFilter.ofJson, exists_and_left, and_assoc]

def memberItems? (members : List (String × Json)) : Option (List Json) :=
  match members.lookup "value" with
  | none | some .null => some []
  | some (.array items) => some items
  | some _ => none

theorem lookup_of_mem_memberItems? {members : List (String × Json)} {items : List Json} {item : Json}
    (held : memberItems? members = some items) (member : item ∈ items) :
    members.lookup "value" = some (.array items) := by
  unfold memberItems? at held
  split at held
  · cases held
    nomatch member
  · cases held
    nomatch member
  · next found =>
    cases held
    exact found
  · cases held

theorem exists_of_referenceOf {members : List (String × Json)} {state : FilterState}
    (read : referenceOf members = .ok state) : ∃ ref, .reference ref = state := by
  unfold referenceOf at read
  split at read
  · next ref _ => exact ⟨ref, Except.ok.inj read⟩
  · cases read

theorem composedOf_eq_ok_iff {mode : Option CombineMode} {members : List (String × Json)} {state : FilterState} :
    composedOf mode members (valueStates? members) = .ok state ↔
      ∃ items refIds results, memberItems? members = some items ∧ refIdsOf members = .ok refIds ∧
        List.Forall₂ (fun item result => ofJson item = .ok result) items results ∧
        .composed mode refIds results = state := by
  rw [valueStates?_eq]
  unfold composedOf
  extract_lets composed
  have finish (results : List FilterState) : composed results = .ok state ↔
      ∃ refIds, refIdsOf members = .ok refIds ∧ .composed mode refIds results = state := by
    simp only [composed, Outcome.bind_eq_ok_iff, Outcome.pure_eq_ok_iff]
  unfold memberItems?
  cases found : members.lookup "value" with
  | none => simp [finish]
  | some value =>
    cases value with
    | null => simp [finish]
    | array items =>
      simp only [Outcome.bind_eq_ok_iff, List.mapM_map, Function.id_comp, Outcome.mapM_eq_ok_iff, finish,
        Option.some.injEq, exists_and_left, exists_eq_left']
      constructor
      · intro composed
        rcases composed with ⟨results, each, refIds, ids, same⟩
        exact ⟨refIds, ids, results, each, same⟩
      · intro parts
        rcases parts with ⟨refIds, ids, results, each, same⟩
        exact ⟨results, each, refIds, ids, same⟩
    | _ => simp [Outcome.bind_eq_ok_iff, Outcome.throw_eq_ok_iff]

def ofKind (mode : Option CombineMode) (members : List (String × Json)) : Kind → Except FilterError FilterState
  | .standard => standardOf mode members
  | .anchored => anchoredOf mode members
  | .composed => composedOf mode members (valueStates? members)
  | .reference => referenceOf members
  | .empty => .ok .empty

theorem ofJson_object_eq_bind (members : List (String × Json)) :
    ofJson (.object members) = Marker.mode "__combineMode" members >>= fun mode =>
      (Kind.ofMembers members).mapError FilterError.invalidState >>= ofKind mode members := by
  rw [ofJson, assemble]
  apply bind_congr
  intro mode
  apply bind_congr
  intro kind
  cases kind <;> rfl

theorem ofJson_object_eq_ok_iff {members : List (String × Json)} {state : FilterState} :
    ofJson (.object members) = .ok state ↔
      ∃ mode kind, Marker.mode "__combineMode" members = .ok mode ∧ Kind.ofMembers members = .ok kind ∧
        ofKind mode members kind = .ok state := by
  rw [ofJson, assemble]
  cases Marker.mode "__combineMode" members with
  | error fault => simp [Outcome.bind_eq_ok_iff]
  | ok mode =>
    cases Kind.ofMembers members with
    | error fault => simp [Outcome.bind_eq_ok_iff, Except.mapError]
    | ok kind => cases kind <;> simp [Outcome.bind_eq_ok_iff, Except.mapError, ofKind, Outcome.pure_eq_ok_iff]

theorem wellFormed_of_ofJson {value : Json} {state : FilterState} (read : ofJson value = .ok state) :
    state.WellFormed := by
  induction value using decoding_induction generalizing state with
  | empty =>
    cases read
    exact True.intro
  | object members ih =>
    rcases ofJson_object_eq_ok_iff.mp read with ⟨mode, kind, -, -, read⟩
    cases kind with
    | standard =>
      rcases standardOf_eq_ok_iff.mp read with ⟨inner, found, fields, -, -, each, rfl⟩
      intro field member
      rcases Outcome.exists_of_forall₂ each member with ⟨entry, held, same, read⟩
      exact ⟨same ▸ (Marker.mem_unmarked.mp held).2, same ▸ FieldFilter.wellFormed_of_ofJson read⟩
    | anchored =>
      rcases anchoredOf_eq_ok_iff.mp read with ⟨inner, found, fields, -, -, each, rfl⟩
      intro field member
      rcases Outcome.exists_of_forall₂ each member with ⟨entry, held, same, read⟩
      exact same ▸ AnchoredFilter.wellFormed_of_ofJson read
    | composed =>
      rcases composedOf_eq_ok_iff.mp read with ⟨items, refIds, results, held, -, each, rfl⟩
      rw [WellFormed, allWellFormed_iff]
      intro result member
      rcases Outcome.exists_of_forall₂ each member with ⟨item, standing, read⟩
      exact ih items (lookup_of_mem_memberItems? held standing) item standing read
    | reference =>
      rcases exists_of_referenceOf read with ⟨ref, rfl⟩
      exact True.intro
    | empty =>
      cases read
      exact True.intro
  | other value shape =>
    cases value with
    | object members => exact absurd rfl (shape members)
    | null =>
      cases read
      exact True.intro
    | _ => simp [ofJson] at read

end FilterState

end CohortFilter
