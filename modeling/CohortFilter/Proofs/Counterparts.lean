import CohortFilter.Proofs.Likeness

namespace CohortFilter

theorem FilterError.agree_of_kind {α β : Type} {results : α → β → Prop} {first : Except FilterError α}
    {second : Except FilterError β} {kind : String} (agreed : Outcome.Agree (fun _ _ => True) results first second)
    (here : ∀ error, first = .error error → error.kind = kind)
    (there : ∀ error, second = .error error → error.kind = kind) : Outcome.Agree SameKind results first second := by
  cases agreed with
  | failed => exact .failed ((here _ rfl).trans (there _ rfl).symm)
  | made alike => exact .made alike

namespace Marker

variable {α : Type} {owner : Option String} {known : Option CombineMode} {entries others : List (String × Json)}

theorem cases_of_collect_error {entries : List (String × Json × Except FilterError α)} {error : FilterError}
    (failed : collect owner known entries = .error error) :
    (∃ entry ∈ entries, isModeKey entry.1 = true ∧ modeOf (owner.getD entry.1) entry.2.1 = .error error) ∨
      ∃ entry ∈ entries, isModeKey entry.1 = false ∧ entry.2.2 = .error error := by
  induction entries generalizing known with
  | nil => cases failed
  | cons entry rest ih =>
    obtain ⟨key, value, filter⟩ := entry
    simp only [List.exists_mem_cons_iff]
    unfold collect at failed
    split at failed
    · next marked =>
      cases known with
      | some mode => exact (ih failed).imp .inr .inr
      | none =>
        rcases Outcome.bind_eq_error_iff.mp failed with unnamed | ⟨mode, -, failed⟩
        · exact .inl (.inl ⟨marked, unnamed⟩)
        · exact (ih failed).imp .inr .inr
    · next unmarked =>
      rcases Outcome.bind_eq_error_iff.mp failed with unread | ⟨field, -, failed⟩
      · exact .inr (.inl ⟨Bool.eq_false_iff.mpr unmarked, unread⟩)
      · rcases Outcome.bind_eq_error_iff.mp failed with failed | ⟨fields, -, finished⟩
        · exact (ih failed).imp .inr .inr
        · cases finished

theorem kind_of_collect_error {entries : List (String × Json × Except FilterError α)} {error : FilterError}
    (kinds : ∀ entry ∈ entries, ∀ fault, entry.2.2 = .error fault → fault.kind = "InvalidFilterValue")
    (failed : collect owner known entries = .error error) : error.kind = "InvalidFilterValue" := by
  rcases cases_of_collect_error failed with ⟨_, -, -, unnamed⟩ | ⟨entry, member, -, unread⟩
  · exact kind_of_modeOf_error unnamed
  · exact kinds entry member error unread

def readFields (read : String → Json → Except FilterError α) (entries : List (String × Json)) :
    Except FilterError (List (String × α)) :=
  (unmarked entries).mapM fun entry => (read entry.1 entry.2).map fun field => (entry.1, field)

theorem collect_eq_ok_iff_readFields (read : String → Json → Except FilterError α) {mode : Option CombineMode}
    {fields : List (String × α)} :
    collect owner known (entries.map fun (key, value) => (key, value, read key value)) = .ok (mode, fields) ↔
      foundMode owner known entries = .ok mode ∧ readFields read entries = .ok fields := by
  have each (entry : String × Json) (field : String × α) :
      (entry.1 = field.1 ∧ read entry.1 entry.2 = .ok field.2) ↔
        ((read entry.1 entry.2).map fun field => (entry.1, field)) = .ok field := by
    rw [Outcome.map_eq_ok_iff]
    constructor
    · intro apart
      exact ⟨field.2, apart.2, Prod.ext apart.1 rfl⟩
    · intro joined
      rcases joined with ⟨value, made, rfl⟩
      exact ⟨rfl, made⟩
  simp only [collect_eq_ok_iff, readFields, Outcome.mapM_eq_ok_iff, each]

theorem agree_collect {maps : List (String × α) → List (String × α) → Prop}
    {read : String → Json → Except FilterError α}
    (kinds : ∀ key value error, read key value = .error error → error.kind = "InvalidFilterValue")
    (mode : Outcome.Agree (fun _ _ => True) Eq (foundMode owner known entries) (foundMode owner known others))
    (fields : Outcome.Agree (fun _ _ => True) maps (readFields read entries) (readFields read others)) :
    Outcome.Agree FilterError.SameKind (fun found other => found.1 = other.1 ∧ maps found.2 other.2)
      (collect owner known (entries.map fun (key, value) => (key, value, read key value)))
      (collect owner known (others.map fun (key, value) => (key, value, read key value))) := by
  let apart (entries : List (String × Json)) : Except FilterError (Option CombineMode × List (String × α)) :=
    foundMode owner known entries >>= fun mode => readFields read entries >>= fun fields => pure (mode, fields)
  have agreed : Outcome.Agree (fun _ _ => True) (fun found other => found.1 = other.1 ∧ maps found.2 other.2)
      (apart entries) (apart others) := by
    apply mode.bind_eq
    intro found _
    apply fields.bind
    intro fields fields' alike
    exact .made ⟨rfl, alike⟩
  have same (entries : List (String × Json)) (result : Option CombineMode × List (String × α)) :
      collect owner known (entries.map fun (key, value) => (key, value, read key value)) = .ok result ↔
        apart entries = .ok result := by
    obtain ⟨mode, fields⟩ := result
    simp only [apart, collect_eq_ok_iff_readFields, Outcome.bind_eq_ok_iff, Outcome.pure_eq_ok_iff, Prod.mk.injEq]
    constructor
    · intro apart
      exact ⟨mode, apart.1, fields, apart.2, rfl, rfl⟩
    · intro joined
      rcases joined with ⟨_, found, _, read, rfl, rfl⟩
      exact ⟨found, read⟩
  have kind (entries : List (String × Json)) (error : FilterError)
      (failed : collect owner known (entries.map fun (key, value) => (key, value, read key value)) = .error error) :
      error.kind = "InvalidFilterValue" := by
    apply kind_of_collect_error _ failed
    intro entry member fault unread
    rcases List.mem_map.mp member with ⟨source, -, rfl⟩
    exact kinds _ _ _ unread
  exact FilterError.agree_of_kind (agreed.of_results (same entries) (same others)) (kind entries) (kind others)

theorem agree_collect_bind {γ : Type} {maps : List (String × α) → List (String × α) → Prop} {results : γ → γ → Prop}
    {make : Option CombineMode → List (String × α) → γ} {read : String → Json → Except FilterError α}
    (kinds : ∀ key value error, read key value = .error error → error.kind = "InvalidFilterValue")
    (mode : Outcome.Agree (fun _ _ => True) Eq (foundMode owner known entries) (foundMode owner known others))
    (fields : Outcome.Agree (fun _ _ => True) maps (readFields read entries) (readFields read others))
    (made : ∀ mode fields fields', maps fields fields' → results (make mode fields) (make mode fields')) :
    Outcome.Agree FilterError.SameKind results
      (collect owner known (entries.map fun (key, value) => (key, value, read key value)) >>=
        fun found => .ok (make found.1 found.2))
      (collect owner known (others.map fun (key, value) => (key, value, read key value)) >>=
        fun found => .ok (make found.1 found.2)) := by
  apply (agree_collect kinds mode fields).bind
  intro found other alike
  rw [alike.1]
  exact .made (made other.1 found.2 other.2 alike.2)

end Marker

def UnderValue (related : List (String × Json) → List (String × Json) → Prop) (members others : List (String × Json)) :
    Prop :=
  ∀ entries entries', members.lookup "value" = some (.object entries) → others.lookup "value" = some (.object entries') →
    related entries entries'

section Fields

open Marker

variable {members others : List (String × Json)}

namespace AnchoredFilter

def plainField (key : String) (value : Json) : Except FilterError FieldFilter :=
  (FieldFilter.ofJson key value).bind (unanchored key value)

theorem assemble_eq (key : String) (members : List (String × Json)) :
    assemble key members (FieldFilter.valueFields? members) = match Key.anchor? key, members.lookup "value" with
      | some (field, value), some (.object entries) => mode key members >>= fun known =>
        collect (some key) known (entries.map fun (key, value) => (key, value, plainField key value)) >>=
          fun (mode, fields) => .ok ⟨field, value, mode, fields⟩
      | _, _ => .error (.invalidValue key (.object members)) := by
  rw [FieldFilter.valueFields?_eq]
  unfold assemble
  cases Key.anchor? key with
  | none => rfl
  | some parts =>
    cases members.lookup "value" with
    | none => rfl
    | some inner =>
      cases inner with
      | object entries => simp only [List.map_map]; rfl
      | null | bool | number | text | array => rfl

theorem cases_of_assemble_error {key : String} {error : FilterError}
    (failed : assemble key members (FieldFilter.valueFields? members) = .error error) :
    error = .invalidValue key (.object members) ∨ mode key members = .error error ∨
      ∃ entries, members.lookup "value" = some (.object entries) ∧
        ((∃ entry ∈ entries, isModeKey entry.1 = true ∧ modeOf key entry.2 = .error error) ∨
          ∃ entry ∈ entries, isModeKey entry.1 = false ∧ plainField entry.1 entry.2 = .error error) := by
  rw [assemble_eq] at failed
  split at failed
  · next field value entries anchor held =>
    rcases Outcome.bind_eq_error_iff.mp failed with unnamed | ⟨known, -, failed⟩
    · exact .inr (.inl unnamed)
    · rcases Outcome.bind_eq_error_iff.mp failed with failed | ⟨_, _, finished⟩
      · refine .inr (.inr ⟨entries, held, ?_⟩)
        rcases cases_of_collect_error failed with ⟨_, member, cause⟩ | ⟨_, member, cause⟩
        · rcases List.mem_map.mp member with ⟨entry, held', rfl⟩
          exact .inl ⟨entry, held', cause⟩
        · rcases List.mem_map.mp member with ⟨entry, held', rfl⟩
          exact .inr ⟨entry, held', cause⟩
      · cases finished
  · exact .inl (Except.error.inj failed).symm

theorem cases_of_plainField_error {key : String} {value : Json} {error : FilterError}
    (failed : plainField key value = .error error) :
    FieldFilter.ofJson key value = .error error ∨ error = .invalidValue key value := by
  rcases Outcome.bind_eq_error_iff.mp failed with unread | ⟨filter, -, refused⟩
  · exact .inl unread
  · cases filter <;> cases refused
    exact .inr rfl

theorem kind_of_assemble_error {key : String} {error : FilterError}
    (inner : ∀ entries, members.lookup "value" = some (.object entries) → ∀ entry ∈ entries, ∀ key fault,
      FieldFilter.ofJson key entry.2 = .error fault → fault.kind = "InvalidFilterValue")
    (failed : assemble key members (FieldFilter.valueFields? members) = .error error) :
    error.kind = "InvalidFilterValue" := by
  rcases cases_of_assemble_error failed with rfl | unnamed | ⟨entries, held, cause⟩
  · rfl
  · exact kind_of_mode_error unnamed
  · rcases cause with ⟨_, -, -, unnamed⟩ | ⟨entry, member, -, refused⟩
    · exact kind_of_modeOf_error unnamed
    · rcases cases_of_plainField_error refused with unread | rfl
      · exact inner entries held entry member _ error unread
      · rfl

end AnchoredFilter

theorem FieldFilter.kind_of_error {key : String} {value : Json} {error : FilterError}
    (failed : ofJson key value = .error error) : error.kind = "InvalidFilterValue" := by
  induction value using decoding_induction generalizing key error with
  | object members ih =>
    rw [ofJson, assemble] at failed
    split at failed
    · exact OptionFilter.kind_of_error (Outcome.map_eq_error_iff.mp failed)
    · exact RangeFilter.kind_of_error (Outcome.map_eq_error_iff.mp failed)
    · apply AnchoredFilter.kind_of_assemble_error _ (Outcome.map_eq_error_iff.mp failed)
      exact fun entries held entry member _ _ unread => ih entries held entry member unread
    · cases failed
      rfl
  | other value shape =>
    rw [ofJson] at failed
    · cases failed
      rfl
    · exact shape

theorem AnchoredFilter.kind_of_error {key : String} {value : Json} {error : FilterError}
    (failed : ofJson key value = .error error) : error.kind = "InvalidFilterValue" := by
  cases value with
  | object members =>
    apply kind_of_assemble_error _ failed
    intro entries _ entry _ key fault unread
    exact FieldFilter.kind_of_error unread
  | null | bool | number | text | array =>
    cases failed
    rfl

theorem AnchoredFilter.kind_of_plainField_error {key : String} {value : Json} {error : FilterError}
    (failed : plainField key value = .error error) : error.kind = "InvalidFilterValue" := by
  rcases cases_of_plainField_error failed with unread | rfl
  · exact FieldFilter.kind_of_error unread
  · rfl

theorem AnchoredFilter.agree_plainField (alike : LooksAlike members others) (key : String) :
    Outcome.Agree FilterError.SameKind Eq (plainField key (.object members)) (plainField key (.object others)) := by
  apply Outcome.Agree.of_ok_iff
  · intro filter
    have option := OptionFilter.agree_ofMembers alike key
    have range := RangeFilter.agree_ofMembers alike key
    unfold plainField
    rw [ofJson_bind_unanchored_eq_ok_iff, ofJson_bind_unanchored_eq_ok_iff, FieldFilter.ofJson, FieldFilter.ofJson,
      FieldFilter.assemble, FieldFilter.assemble, FieldKind.ofMembers?_eq alike]
    cases FieldKind.ofMembers? others with
    | none => simp
    | some kind =>
      cases kind with
      | option => simp only [Outcome.map_eq_ok_iff, option.ok_iff]
      | range => simp only [Outcome.map_eq_ok_iff, range.ok_iff]
      | anchored =>
        simp only [Outcome.map_eq_ok_iff]
        constructor
        · intro read
          rcases read with ⟨⟨_, -, rfl⟩, unanchored⟩
          cases unanchored
        · intro read
          rcases read with ⟨⟨_, -, rfl⟩, unanchored⟩
          cases unanchored
  · intro error fault failed failed'
    exact (kind_of_plainField_error failed).trans (kind_of_plainField_error failed').symm

theorem AnchoredFilter.agree_assemble {filters : AnchoredFilter → AnchoredFilter → Prop}
    {maps : List (String × FieldFilter) → List (String × FieldFilter) → Prop} {key : String}
    (alike : LooksAlike members others)
    (made : ∀ field value mode fields fields', maps fields fields' →
      filters ⟨field, value, mode, fields⟩ ⟨field, value, mode, fields'⟩)
    (inner : UnderValue (fun entries entries' => ∀ known, Marker.mode key members = .ok known →
      Outcome.Agree (fun _ _ => True) Eq (foundMode (some key) known entries) (foundMode (some key) known entries') ∧
        Outcome.Agree (fun _ _ => True) maps (readFields plainField entries) (readFields plainField entries'))
      members others) :
    Outcome.Agree FilterError.SameKind filters (assemble key members (FieldFilter.valueFields? members))
      (assemble key others (FieldFilter.valueFields? others)) := by
  rw [assemble_eq, assemble_eq]
  cases Key.anchor? key with
  | none => exact .failed rfl
  | some parts =>
    rcases Json.cases_of_rel (alike.rest "value" (by decide)) with ⟨here, there⟩ | ⟨value, other, here, there, like⟩
    · rw [here, there]
      exact .failed rfl
    · rw [here, there]
      cases value with
      | object entries =>
        obtain ⟨entries', rfl⟩ := like.exists_of_object
        apply (alike.agree_mode key).bind_eq
        intro known named
        obtain ⟨mode, fields⟩ := inner entries entries' here there known named
        exact agree_collect_bind (fun _ _ _ => kind_of_plainField_error) mode fields (made _ _)
      | null | bool | number | text | array => cases like <;> exact .failed rfl

theorem FieldFilter.agree_ofJson {filters : FieldFilter → FieldFilter → Prop} {key : String}
    (alike : LooksAlike members others) (same : ∀ filter, filter.isAnchored = false → filters filter filter)
    (anchored : FieldKind.ofMembers? members = some .anchored →
      Outcome.Agree FilterError.SameKind (fun filter other => filters (.anchored filter) (.anchored other))
        (AnchoredFilter.assemble key members (valueFields? members))
        (AnchoredFilter.assemble key others (valueFields? others))) :
    Outcome.Agree FilterError.SameKind filters (ofJson key (.object members)) (ofJson key (.object others)) := by
  rw [ofJson, ofJson, assemble, assemble, ← FieldKind.ofMembers?_eq alike]
  cases kind : FieldKind.ofMembers? members with
  | none => exact .failed rfl
  | some kind' =>
    cases kind' with
    | option =>
      apply (OptionFilter.agree_ofMembers alike key).map
      intro filter filter' equal
      exact equal ▸ same _ rfl
    | range =>
      apply (RangeFilter.agree_ofMembers alike key).map
      intro filter filter' equal
      exact equal ▸ same _ rfl
    | anchored => exact (anchored kind).map fun _ _ alike => alike

end Fields

theorem Shape.Record.agree_putItems {ρ : Type} {fields : List (Shape.Field ρ ShapeFault)} {items items' : List Json}
    {draft : ρ}
    (put : ∀ field ∈ fields, ∀ (value value' : Json) (draft : ρ), value.Like value' →
      Outcome.Agree (fun _ _ => True) Eq (field.put (Document.ofJson value) draft)
        (field.put (Document.ofJson value') draft))
    (each : List.Forall₂ Json.Like items items') :
    Outcome.Agree (fun _ _ => True) (fun found other => found.1 = other.1 ∧ found.2.length = other.2.length)
      (putItems draft fields (items.map Document.ofJson)) (putItems draft fields (items'.map Document.ofJson)) := by
  induction fields generalizing items items' draft with
  | nil =>
    unfold putItems
    exact .made ⟨rfl, by simp [each.length_eq]⟩
  | cons field fields ih =>
    cases each with
    | nil => exact .made ⟨rfl, rfl⟩
    | cons head rest =>
      simp only [List.map_cons, putItems]
      apply (put field List.mem_cons_self _ _ draft head).bind_eq
      intro draft _
      exact ih (fun field member => put field (List.mem_cons_of_mem _ member)) rest

theorem FilterRef.agree_put {value value' : Json} (like : value.Like value') :
    ∀ field ∈ FilterRef.record.fields, ∀ draft,
      Outcome.Agree (fun _ _ => True) Eq (field.put (Document.ofJson value) draft)
        (field.put (Document.ofJson value') draft) := by
  have read := like.agree_text
  intro field member draft
  simp only [FilterRef.record, List.mem_cons, List.not_mem_nil, or_false] at member
  rcases member with rfl | rfl
  · exact read.bind_eq fun text _ => .made rfl
  · exact read.bind_eq fun text _ => .made rfl

theorem Document.passed_ofJson (value : Json) : (ofJson value).passed = true := by
  cases value <;> rfl

def FilterRef.Skipped (key : String) : Prop := record.fields.find? (·.name == key) = none

theorem FilterRef.skipped_iff {key : String} : Skipped key ↔ key ≠ "id" ∧ key ≠ "label" := by
  unfold Skipped record
  simp only [List.find?_eq_none, List.forall_mem_cons, beq_iff_eq]
  simp [ne_comm]

theorem FilterRef.putMembers_cons_of_skipped {key : String} {value : Json} {rest : List (String × Json)}
    {seen : List String} {draft : Draft} (skipped : Skipped key) :
    record.putMembers seen draft (Document.ofMembers ((key, value) :: rest)) =
      record.putMembers seen draft (Document.ofMembers rest) := by
  unfold Skipped at skipped
  simp only [Document.ofMembers, Shape.Record.putMembers, skipped, Document.passed_ofJson, if_true]

theorem FilterRef.agree_read_array {items items' : List Json} (each : List.Forall₂ Json.Like items items') :
    Outcome.Agree (fun _ _ => True) Eq (Shape.ofJson FilterRef.record.read (.array items))
      (Shape.ofJson FilterRef.record.read (.array items')) := by
  simp only [Shape.ofJson, Document.ofJson, Document.ofItems_eq, Shape.Record.read]
  have put := fun field member value value' draft like => @FilterRef.agree_put value value' like field member draft
  apply (Shape.Record.agree_putItems put each).bind
  intro found other alike
  obtain ⟨draft, rest⟩ := found
  obtain ⟨_, rest'⟩ := other
  obtain ⟨rfl, size⟩ := alike
  have empty : rest.isEmpty = rest'.isEmpty := by
    rw [Bool.eq_iff_iff, List.isEmpty_iff, List.isEmpty_iff, ← List.length_eq_zero_iff, size, List.length_eq_zero_iff]
  simp only [Bool.not_true, Bool.and_false, Bool.false_eq_true, if_false, empty]
  apply (Outcome.Agree.of_eq _ (fun _ => True.intro) rfl).bind_eq
  intro ref _
  split
  · exact .made rfl
  · exact .failed True.intro

namespace FilterState

open Marker

variable {members others : List (String × Json)}

theorem Kind.ofShape_of_clear (bare : members.lookup "value" = none ∨ members.lookup "value" = some .null)
    (clear : members.find? (!isMarker ·.1) = none) : ofShape members = .ok .empty := by
  unfold ofShape
  rcases bare with bare | bare <;> rw [bare, clear]

theorem Kind.ofShape_of_unmarked {entry : String × Json}
    (bare : members.lookup "value" = none ∨ members.lookup "value" = some .null)
    (unmarked : members.find? (!isMarker ·.1) = some entry) : ofShape members = .error (.unexpectedKey entry.1) := by
  unfold ofShape
  rcases bare with bare | bare <;> rw [bare, unmarked]

theorem Kind.agree_ofMembers (alike : LooksAlike members others)
    (inner : UnderValue (fun entries entries' => Option.Rel Json.Like (entries.lookup "id") (entries'.lookup "id"))
      members others) :
    Outcome.Agree (fun _ _ => True) Eq (ofMembers members) (ofMembers others) := by
  have shape : Outcome.Agree (fun _ _ => True) Eq (ofShape members) (ofShape others) := by
    have bare (here : members.lookup "value" = none ∨ members.lookup "value" = some .null)
        (there : others.lookup "value" = none ∨ others.lookup "value" = some .null) :
        Outcome.Agree (fun _ _ => True) Eq (ofShape members) (ofShape others) := by
      have unmarked := alike.unmarked_iff
      cases found : members.find? (!isMarker ·.1) with
      | none =>
        rw [ofShape_of_clear here found, ofShape_of_clear there (unmarked.mp found)]
        exact .made rfl
      | some entry =>
        cases found' : others.find? (!isMarker ·.1) with
        | none => cases found.symm.trans (unmarked.mpr found')
        | some other =>
          rw [ofShape_of_unmarked here found, ofShape_of_unmarked there found']
          exact .failed True.intro
    rcases Json.cases_of_rel (alike.rest "value" (by decide)) with ⟨here, there⟩ | ⟨value, other, here, there, like⟩
    · exact bare (.inl here) (.inl there)
    · cases value with
      | null =>
        cases like
        exact bare (.inr here) (.inr there)
      | array =>
        unfold ofShape
        rw [here, there]
        cases like <;> exact .made rfl
      | bool | number | text =>
        unfold ofShape
        rw [here, there]
        cases like
        exact .failed True.intro
      | object entries =>
        obtain ⟨entries', rfl⟩ := like.exists_of_object
        unfold ofShape
        rw [here, there]
        dsimp only
        rcases Json.cases_of_rel (inner entries entries' here there) with ⟨here, there⟩ | ⟨id, id', here, there, like⟩
        · rw [here, there]
          exact .made rfl
        · rw [here, there]
          cases like with
          | same => exact .of_eq _ (fun _ => True.intro) rfl
          | array | object => exact .made rfl
  unfold ofMembers
  rw [alike.tag?_eq]
  cases tag? others with
  | none => exact shape
  | some tag => exact .of_eq _ (fun _ => True.intro) rfl

theorem agree_valueMap {maps : List (String × Json) → List (String × Json) → Prop} (alike : LooksAlike members others)
    (kind : String) (empty : maps [] []) (inner : UnderValue maps members others) :
    Outcome.Agree FilterError.SameKind maps (valueMap kind members) (valueMap kind others) := by
  unfold valueMap
  rcases Json.cases_of_rel (alike.rest "value" (by decide)) with ⟨here, there⟩ | ⟨value, other, here, there, like⟩
  · rw [here, there]
    exact .made empty
  · rw [here, there]
    cases value with
    | null =>
      cases like
      exact .made empty
    | bool | number | text | array => cases like <;> exact .failed rfl
    | object entries =>
      obtain ⟨entries', rfl⟩ := like.exists_of_object
      exact .made (inner entries entries' here there)

theorem agree_standardOf {states : FilterState → FilterState → Prop}
    {maps : List (String × FieldFilter) → List (String × FieldFilter) → Prop} {mode : Option CombineMode}
    (alike : LooksAlike members others) (empty : maps [] [])
    (made : ∀ mode fields fields', maps fields fields' → states (.standard mode fields) (.standard mode fields'))
    (inner : UnderValue (fun entries entries' =>
      Outcome.Agree (fun _ _ => True) Eq (foundMode none mode entries) (foundMode none mode entries') ∧
        Outcome.Agree (fun _ _ => True) maps (readFields FieldFilter.ofJson entries)
          (readFields FieldFilter.ofJson entries')) members others) :
    Outcome.Agree FilterError.SameKind states (standardOf mode members) (standardOf mode others) := by
  apply (agree_valueMap alike "standard" ⟨.of_eq _ (fun _ => True.intro) rfl, .made empty⟩ inner).bind
  intro entries entries' apart
  exact agree_collect_bind (fun _ _ _ => FieldFilter.kind_of_error) apart.1 apart.2 made

theorem agree_anchoredOf {states : FilterState → FilterState → Prop}
    {maps : List (String × AnchoredFilter) → List (String × AnchoredFilter) → Prop} {mode : Option CombineMode}
    (alike : LooksAlike members others) (empty : maps [] [])
    (made : ∀ mode fields fields', maps fields fields' → states (.anchored mode fields) (.anchored mode fields'))
    (inner : UnderValue (fun entries entries' =>
      Outcome.Agree (fun _ _ => True) Eq (foundMode none mode entries) (foundMode none mode entries') ∧
        Outcome.Agree (fun _ _ => True) maps (readFields AnchoredFilter.ofJson entries)
          (readFields AnchoredFilter.ofJson entries')) members others) :
    Outcome.Agree FilterError.SameKind states (anchoredOf mode members) (anchoredOf mode others) := by
  apply (agree_valueMap alike "anchored" ⟨.of_eq _ (fun _ => True.intro) rfl, .made empty⟩ inner).bind
  intro entries entries' apart
  exact agree_collect_bind (fun _ _ _ => AnchoredFilter.kind_of_error) apart.1 apart.2 made

theorem agree_refIdsOf (alike : LooksAlike members others) :
    Outcome.Agree FilterError.SameKind Eq (refIdsOf members) (refIdsOf others) := by
  unfold refIdsOf
  rcases Json.cases_of_rel (alike.rest "refIds" (by decide)) with ⟨here, there⟩ | ⟨value, other, here, there, like⟩
  · rw [here, there]
    exact .made rfl
  · rw [here, there]
    have read := like.agree_texts
    cases value with
    | null =>
      cases like
      exact .made rfl
    | bool | number | text => cases like; exact .failed rfl
    | array =>
      obtain ⟨items', rfl⟩ := like.exists_of_array
      exact read.mapError fun _ _ _ => rfl
    | object => cases like <;> exact .failed rfl

theorem agree_composedOf {states : FilterState → FilterState → Prop} (alike : LooksAlike members others)
    (mode : Option CombineMode)
    (made : ∀ refIds items items', List.Forall₂ states items items' →
      states (.composed mode refIds items) (.composed mode refIds items'))
    (inner : ∀ items items', members.lookup "value" = some (.array items) →
      others.lookup "value" = some (.array items') →
      List.Forall₂ (fun item item' => Outcome.Agree FilterError.SameKind states (ofJson item) (ofJson item')) items items') :
    Outcome.Agree FilterError.SameKind states (composedOf mode members (valueStates? members))
      (composedOf mode others (valueStates? others)) := by
  have finish {items items' : List FilterState} (each : List.Forall₂ states items items') :
      Outcome.Agree FilterError.SameKind states
        (refIdsOf members >>= fun refIds => pure (.composed mode refIds items))
        (refIdsOf others >>= fun refIds => pure (.composed mode refIds items')) := by
    exact (agree_refIdsOf alike).bind_eq fun refIds _ => .made (made refIds items items' each)
  rw [valueStates?_eq, valueStates?_eq]
  unfold composedOf
  rcases Json.cases_of_rel (alike.rest "value" (by decide)) with ⟨here, there⟩ | ⟨value, other, here, there, like⟩
  · rw [here, there]
    exact finish .nil
  · rw [here, there]
    cases value with
    | null =>
      cases like
      exact finish .nil
    | bool | number | text => cases like; exact .failed rfl
    | object => cases like <;> exact .failed rfl
    | array items =>
      obtain ⟨items', rfl⟩ := like.exists_of_array
      have read := Outcome.Agree.mapM (inner items items' here there)
      simp only [List.mapM_map, Function.id_comp]
      apply read.bind
      intro states states' each
      exact finish each

theorem agree_referenceOf (alike : LooksAlike members others)
    (inner : UnderValue (fun entries entries' => Outcome.Agree (fun _ _ => True) Eq
      (Shape.ofJson FilterRef.record.read (.object entries)) (Shape.ofJson FilterRef.record.read (.object entries')))
      members others) :
    Outcome.Agree FilterError.SameKind Eq (referenceOf members) (referenceOf others) := by
  have read : Outcome.Agree (fun _ _ => True) Eq
      (Shape.ofJson FilterRef.record.read ((members.lookup "value").getD .null))
      (Shape.ofJson FilterRef.record.read ((others.lookup "value").getD .null)) := by
    rcases Json.cases_of_rel (alike.rest "value" (by decide)) with ⟨here, there⟩ | ⟨value, other, here, there, like⟩
    · rw [here, there]
      exact .of_eq _ (fun _ => True.intro) rfl
    · cases like with
      | same =>
        rw [here, there]
        exact .of_eq _ (fun _ => True.intro) rfl
      | object entries entries' =>
        rw [here, there]
        exact inner entries entries' here there
      | array each =>
        rw [here, there]
        exact FilterRef.agree_read_array each
  have told (members : List (String × Json)) : referenceOf members =
      ((Shape.ofJson FilterRef.record.read ((members.lookup "value").getD .null)).mapError
        fun fault => .invalidState (.badReference fault)).map .reference := by
    unfold referenceOf
    cases Shape.ofJson FilterRef.record.read ((members.lookup "value").getD .null) <;> rfl
  rw [told, told]
  have refused : Outcome.Agree FilterError.SameKind Eq
      ((Shape.ofJson FilterRef.record.read ((members.lookup "value").getD .null)).mapError
        fun fault => .invalidState (.badReference fault))
      ((Shape.ofJson FilterRef.record.read ((others.lookup "value").getD .null)).mapError
        fun fault => .invalidState (.badReference fault)) := read.mapError fun _ _ _ => rfl
  exact refused.map_eq FilterState.reference

theorem agree_ofJson {states : FilterState → FilterState → Prop} (alike : LooksAlike members others)
    (id : UnderValue (fun entries entries' => Option.Rel Json.Like (entries.lookup "id") (entries'.lookup "id"))
      members others)
    (each : ∀ mode kind, Marker.mode "__combineMode" members = .ok mode → Kind.ofMembers members = .ok kind →
      Outcome.Agree FilterError.SameKind states (ofKind mode members kind) (ofKind mode others kind)) :
    Outcome.Agree FilterError.SameKind states (ofJson (.object members)) (ofJson (.object others)) := by
  rw [ofJson_object_eq_bind, ofJson_object_eq_bind]
  apply (alike.agree_mode "__combineMode").bind_eq
  intro mode named
  have kinds : Outcome.Agree FilterError.SameKind Eq ((Kind.ofMembers members).mapError FilterError.invalidState)
      ((Kind.ofMembers others).mapError FilterError.invalidState) :=
    (Kind.agree_ofMembers alike id).mapError fun _ _ _ => rfl
  apply kinds.bind_eq
  intro kind found
  exact each mode kind named (Outcome.mapError_eq_ok_iff.mp found)

end FilterState

end CohortFilter
