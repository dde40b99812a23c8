import CohortFilter.Proofs.Decoding

namespace CohortFilter

namespace FilterState

variable {members : List (String × Json)} {name : String}

def withoutValue (members : List (String × Json)) : List (String × Json) :=
  members.filter fun entry => entry.1 != "value"

theorem lookup_withoutValue (other : name ≠ "value") : (withoutValue members).lookup name = members.lookup name := by
  unfold withoutValue
  induction members with
  | nil => rfl
  | cons entry rest ih =>
    obtain ⟨key, value⟩ := entry
    by_cases dropped : key = "value"
    · subst dropped
      rw [Entries.lookup_cons_of_ne other, ← ih]
      rfl
    · simp [List.lookup_cons, dropped, ih]

theorem lookup_value_withoutValue : (withoutValue members).lookup "value" = none := by
  apply Entries.lookup_eq_none_iff.mpr
  intro member
  rcases List.mem_map.mp member with ⟨entry, held, same⟩
  have kept := (List.mem_filter.mp held).2
  rw [bne_iff_ne] at kept
  exact kept same

theorem find?_withoutValue {names : List String} (others : "value" ∉ names) :
    Marker.find? names (withoutValue members) = Marker.find? names members := by
  apply Marker.find?_congr
  intro name member
  apply lookup_withoutValue
  intro same
  exact others (same ▸ member)

theorem tag?_withoutValue : Marker.tag? (withoutValue members) = Marker.tag? members := by
  unfold Marker.tag?
  rw [find?_withoutValue (by decide)]

theorem mode_withoutValue (owner : String) : Marker.mode owner (withoutValue members) = Marker.mode owner members := by
  unfold Marker.mode
  rw [find?_withoutValue (by decide)]

theorem ofKind_withoutValue (mode : Option CombineMode) (kind : Kind) (null : members.lookup "value" = some .null) :
    ofKind mode (withoutValue members) kind = ofKind mode members kind := by
  have absent : (withoutValue members).lookup "value" = none := lookup_value_withoutValue
  have map (name : String) : valueMap name (withoutValue members) = valueMap name members := by
    simp only [valueMap, null, absent]
  cases kind with
  | standard => simp only [ofKind, standardOf, map]
  | anchored => simp only [ofKind, anchoredOf, map]
  | composed =>
    have ids : refIdsOf (withoutValue members) = refIdsOf members := by
      unfold refIdsOf
      rw [lookup_withoutValue (by decide)]
    simp only [ofKind, composedOf, valueStates?_eq, null, absent, ids]
  | reference => simp only [ofKind, referenceOf, null, absent, Option.getD_none, Option.getD_some]
  | empty => rfl

theorem find?_unmarked_withoutValue {entry : String × Json}
    (found : members.find? (!Marker.isMarker ·.1) = some entry) (other : entry.1 ≠ "value") :
    (withoutValue members).find? (!Marker.isMarker ·.1) = some entry := by
  obtain ⟨shown, front, back, rfl, before⟩ := List.find?_eq_some_iff_append.mp found
  have parts : withoutValue (front ++ entry :: back) = withoutValue front ++ entry :: withoutValue back := by
    simp [withoutValue, other]
  rw [parts]
  apply List.find?_eq_some_iff_append.mpr
  exact ⟨shown, withoutValue front, withoutValue back, rfl, fun held member => before held (List.mem_filter.mp member).1⟩

theorem ne_value_of_find?_withoutValue {entry : String × Json} {test : String × Json → Bool}
    (found : (withoutValue members).find? test = some entry) : entry.1 ≠ "value" := by
  have kept := (List.mem_filter.mp (List.mem_of_find?_eq_some found)).2
  simpa using kept

/-- A null `value` makes no difference: the filter has a tag, or its mode is refused, or another member than `value` is
    the first that must not stand there. -/
def NullUnseen (members : List (String × Json)) : Prop :=
  (Marker.tag? members).isSome ∨ (∃ error, Marker.mode "__combineMode" members = .error error) ∨
    (members.find? (!Marker.isMarker ·.1)).map Prod.fst ≠ some "value"

theorem kind_withoutValue_eq_iff (untagged : Marker.tag? members = none)
    (null : members.lookup "value" = some .null) :
    Kind.ofMembers members = Kind.ofMembers (withoutValue members) ↔
      (members.find? (!Marker.isMarker ·.1)).map Prod.fst ≠ some "value" := by
  have untagged' : Marker.tag? (withoutValue members) = none := tag?_withoutValue.trans untagged
  have absent : (withoutValue members).lookup "value" = none := lookup_value_withoutValue
  simp only [Kind.ofMembers, untagged, untagged', Kind.ofShape, null, absent]
  cases found : members.find? (!Marker.isMarker ·.1) with
  | none =>
    have unmarked := List.find?_eq_none.mp found _ (Entries.mem_of_lookup null)
    exact absurd (by decide) unmarked
  | some entry =>
    obtain ⟨key, value⟩ := entry
    by_cases named : key = "value"
    · subst named
      -- The name is told with the null only, since no later member has it.
      cases later : (withoutValue members).find? (!Marker.isMarker ·.1) with
      | none => simp
      | some other =>
        have different := ne_value_of_find?_withoutValue later
        simpa using different.symm
    · have same := find?_unmarked_withoutValue found named
      simp [same, named]

theorem eq_empty_of_kind (untagged : Marker.tag? members = none)
    (bare : members.lookup "value" = none ∨ members.lookup "value" = some .null) {kind : Kind}
    (shown : Kind.ofMembers members = .ok kind) : kind = .empty := by
  simp only [Kind.ofMembers, untagged, Kind.ofShape] at shown
  cases found : members.find? (!Marker.isMarker ·.1) with
  | none => rcases bare with none | null <;> simp_all
  | some entry => rcases bare with none | null <;> simp_all

theorem ofJson_withoutValue_iff (null : members.lookup "value" = some .null) :
    ofJson (.object members) = ofJson (.object (withoutValue members)) ↔ NullUnseen members := by
  rw [ofJson_object_eq_bind, ofJson_object_eq_bind, mode_withoutValue]
  cases named : Marker.mode "__combineMode" members with
  | error error => exact ⟨fun _ => .inr (.inl ⟨error, named⟩), fun _ => rfl⟩
  | ok mode =>
    have read : ofKind mode (withoutValue members) = ofKind mode members :=
      funext fun kind => ofKind_withoutValue mode kind null
    have fails : ¬ ∃ error, Marker.mode "__combineMode" members = .error error := by simp [named]
    change (Kind.ofMembers members).mapError FilterError.invalidState >>= ofKind mode members =
      (Kind.ofMembers (withoutValue members)).mapError FilterError.invalidState >>=
        ofKind mode (withoutValue members) ↔ _
    rw [read]
    cases tag : Marker.tag? members with
    | some tag =>
      have same : Kind.ofMembers (withoutValue members) = Kind.ofMembers members := by
        simp only [Kind.ofMembers, tag?_withoutValue, tag]
      rw [same]
      exact ⟨fun _ => .inl (by simp [tag]), fun _ => rfl⟩
    | none =>
      have untagged' : Marker.tag? (withoutValue members) = none := tag?_withoutValue.trans tag
      have first := fun kind => @eq_empty_of_kind members tag (.inr null) kind
      have second := fun kind => @eq_empty_of_kind (withoutValue members) untagged' (.inl lookup_value_withoutValue) kind
      rw [NullUnseen, ← kind_withoutValue_eq_iff tag null]
      cases shown : Kind.ofMembers members with
      | error fault =>
        cases shown' : Kind.ofMembers (withoutValue members) with
        | error fault' => simp [tag, fails, Except.mapError, bind, Except.bind]
        | ok kind =>
          obtain rfl := second kind shown'
          simp [tag, fails, Except.mapError, bind, Except.bind, ofKind]
      | ok kind =>
        obtain rfl := first kind shown
        cases shown' : Kind.ofMembers (withoutValue members) with
        | error fault' => simp [tag, fails, Except.mapError, bind, Except.bind, ofKind]
        | ok kind =>
          obtain rfl := second kind shown'
          simp [tag, fails]

/-- The documents are equal but for the null value of one object, which was taken out in some of the places where the
    object stands as a filter: as the whole document, or as a member of composed filters at any depth. -/
inductive NullDropped (members : List (String × Json)) : Json → Json → Prop
  | kept (value : Json) : NullDropped members value value
  | dropped : NullDropped members (.object members) (.object (withoutValue members))
  | within {front back : List (String × Json)} {items others : List Json} : "value" ∉ Entries.keys front →
    Kind.ofMembers (front ++ ("value", .array items) :: back) = .ok .composed →
    List.Forall₂ (NullDropped members) items others → NullDropped members
      (.object (front ++ ("value", .array items) :: back)) (.object (front ++ ("value", .array others) :: back))

section Within

variable {front back : List (String × Json)} {items others : List Json}

theorem lookup_within (other : name ≠ "value") (first second : Json) :
    (front ++ ("value", first) :: back).lookup name = (front ++ ("value", second) :: back).lookup name := by
  rw [Entries.lookup_append_cons_of_ne front back first other, Entries.lookup_append_cons_of_ne front back second other]

theorem find?_within {names : List String} (beside : "value" ∉ names) (first second : Json) :
    Marker.find? names (front ++ ("value", first) :: back) = Marker.find? names (front ++ ("value", second) :: back) := by
  apply Marker.find?_congr
  intro name member
  apply lookup_within
  intro same
  exact beside (same ▸ member)

theorem ofJson_within (absent : "value" ∉ Entries.keys front)
    (composed : Kind.ofMembers (front ++ ("value", .array items) :: back) = .ok .composed)
    (each : List.Forall₂ (fun item other => ofJson item = ofJson other) items others) :
    ofJson (.object (front ++ ("value", .array items) :: back)) =
      ofJson (.object (front ++ ("value", .array others) :: back)) := by
  have held := Entries.lookup_append_cons_self back (.array items) absent
  have held' := Entries.lookup_append_cons_self back (.array others) absent
  have mode : Marker.mode "__combineMode" (front ++ ("value", .array others) :: back) =
      Marker.mode "__combineMode" (front ++ ("value", .array items) :: back) := by
    unfold Marker.mode
    rw [find?_within (by decide) (.array others) (.array items)]
  have kind : Kind.ofMembers (front ++ ("value", .array others) :: back) =
      Kind.ofMembers (front ++ ("value", .array items) :: back) := by
    unfold Kind.ofMembers Marker.tag?
    rw [find?_within (by decide) (.array others) (.array items)]
    simp only [Kind.ofShape, held, held']
  have ids : refIdsOf (front ++ ("value", .array others) :: back) =
      refIdsOf (front ++ ("value", .array items) :: back) := by
    unfold refIdsOf
    rw [lookup_within (by decide) (.array others) (.array items)]
  have read : items.map ofJson = others.map ofJson := by
    rw [← List.forall₂_eq_eq_eq, List.forall₂_map_left_iff, List.forall₂_map_right_iff]
    exact each
  rw [ofJson_object_eq_bind, ofJson_object_eq_bind, mode, kind, composed]
  apply bind_congr
  intro known
  simp only [Except.mapError, bind, Except.bind, ofKind, composedOf, valueStates?_eq, held, held', read, ids]

end Within

theorem ofJson_eq_of_nullDropped {document shorter : Json} (null : members.lookup "value" = some .null)
    (unseen : NullUnseen members) (alike : NullDropped members document shorter) :
    ofJson document = ofJson shorter := by
  induction document using decoding_induction generalizing shorter with
  | empty =>
    cases alike
    rfl
  | other value shape =>
    cases alike with
    | kept => rfl
    | dropped => exact absurd rfl (shape _)
    | within => exact absurd rfl (shape _)
  | object outer ih =>
    cases alike with
    | kept => rfl
    | dropped => exact (ofJson_withoutValue_iff null).mpr unseen
    | within absent composed each =>
      apply ofJson_within absent composed
      apply Outcome.forall₂_imp_of_mem each
      intro item member other _ alike
      exact ih _ (Entries.lookup_append_cons_self _ _ absent) item member alike

/-- A null `value` is read as none exactly where it is unseen, and then so it is in every filter around it. -/
theorem ofJson_null_value_iff (null : members.lookup "value" = some .null) :
    (ofJson (.object members) = ofJson (.object (withoutValue members)) ↔ NullUnseen members) ∧
      (NullUnseen members → ∀ document shorter, NullDropped members document shorter →
        ofJson document = ofJson shorter) := by
  constructor
  · exact ofJson_withoutValue_iff null
  · intro unseen document shorter alike
    exact ofJson_eq_of_nullDropped null unseen alike

def nullAnchored : List (String × Json) := [("type", .text "ANCHORED"), ("combineMode", .text "OR"), ("value", .null)]

theorem ofJson_null_value_iff_anchored :
    nullAnchored.lookup "value" = some .null ∧ NullUnseen nullAnchored ∧
      ofJson (.object nullAnchored) = ofJson (.object [("type", .text "ANCHORED"), ("combineMode", .text "OR")]) ∧
      ofJson (.object [("value", .array [.null, .object nullAnchored])]) =
        ofJson (.object [("value", .array [.null, .object [("type", .text "ANCHORED"), ("combineMode", .text "OR")]])]) := by
  have null : nullAnchored.lookup "value" = some .null := rfl
  have unseen : NullUnseen nullAnchored := .inl rfl
  have member : NullDropped nullAnchored (.object nullAnchored) (.object (withoutValue nullAnchored)) := .dropped
  have members : NullDropped nullAnchored (.object ([] ++ ("value", .array [.null, .object nullAnchored]) :: []))
      (.object ([] ++ ("value", .array [.null, .object (withoutValue nullAnchored)]) :: [])) :=
    .within List.not_mem_nil rfl (.cons (.kept .null) (.cons member .nil))
  have reads := ofJson_null_value_iff null
  exact ⟨null, unseen, reads.1.mpr unseen, reads.2 unseen _ _ members⟩

/-- Of an untagged filter that is nothing but a null value, the reader tells `value` as a key outside of `value`. -/
theorem ofJson_null_value_refused :
    let members : List (String × Json) := [("value", .null)]
    members.lookup "value" = some .null ∧ withoutValue members = [] ∧
      ofJson (.object members) = .error (.invalidState (.unexpectedKey "value")) ∧ ofJson (.object []) = .ok .empty ∧
      ofJson (.object members) ≠ ofJson (.object (withoutValue members)) := by
  intro members
  have read : ofJson (.object members) = .error (.invalidState (.unexpectedKey "value")) := rfl
  have bare : ofJson (.object (withoutValue members)) = .ok .empty := rfl
  refine ⟨rfl, rfl, read, rfl, ?_⟩
  rw [read, bare]
  simp

end FilterState

end CohortFilter
