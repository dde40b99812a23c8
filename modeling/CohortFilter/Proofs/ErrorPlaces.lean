import CohortFilter.Proofs.Counterparts

namespace CohortFilter

namespace Json

inductive Step
  | member (name : String)
  | item (index : Nat)

inductive Holds : Json → Step → Json → Prop
  | member {members : List (String × Json)} {name : String} {inner : Json} :
    (name, inner) ∈ members → Holds (.object members) (.member name) inner
  | item {items : List Json} {index : Nat} {inner : Json} :
    items[index]? = some inner → Holds (.array items) (.item index) inner

inductive At : Json → List Step → Json → Prop
  | here (value : Json) : At value [] value
  | step {value inner place : Json} {step : Step} {path : List Step} :
    value.Holds step inner → At inner path place → At value (step :: path) place

theorem At.append {value inner place : Json} {front path : List Step} (reached : value.At front inner)
    (further : inner.At path place) : value.At (front ++ path) place := by
  induction reached with
  | here => exact further
  | step held _ ih => exact .step held (ih further)

theorem At.of_mem {name : String} {place : Json} {members : List (String × Json)} (held : (name, place) ∈ members) :
    (object members).At [.member name] place :=
  .step (.member held) (.here place)

end Json

/-- What a value is there for. Under the `value` of a filter stand its fields or other filters, and under the `value`
    of a field the fields that are anchored by it. -/
inductive Position
  | state
  | stateValue
  | field
  | fieldValue

namespace Position

def step? : Position → Json.Step → Option Position
  | .state, .member name => if name = "value" then some .stateValue else none
  | .stateValue, .item _ => some .state
  | .stateValue, .member key | .fieldValue, .member key => if Marker.isModeKey key then none else some .field
  | .field, .member name => if name = "value" then some .fieldValue else none
  | _, _ => none

def at? : Position → List Json.Step → Option Position
  | position, [] => some position
  | position, step :: path => (position.step? step).bind fun next => next.at? path

/-- How an error names the filter that a mode is for, by the path to the object with the mode: a field by its key, also
    where the mode stands among the fields that it anchors, and a filter by the name of the mode. -/
inductive Owner (start : Position) : List Json.Step → String → Prop
  | field {front : List Json.Step} {key : String} :
    start.at? (front ++ [.member key]) = some .field → Owner start (front ++ [.member key]) key
  | map {front : List Json.Step} {key : String} :
    start.at? (front ++ [.member key]) = some .field → Owner start (front ++ [.member key, .member "value"]) key
  | state {front : List Json.Step} : start.at? front = some .state → Owner start front "__combineMode"

/-- The value stands under the key, or it is no mode and stands under the name of a mode for the filter of the key. -/
def PointsTo (start : Position) (value : Json) (key : String) (place : Json) : Prop :=
  ∃ front name, value.At (front ++ [.member name]) place ∧
    (name = key ∨ Marker.isModeKey name = true ∧ place ≠ .text "AND" ∧ place ≠ .text "OR" ∧ start.Owner front key)

variable {start next : Position} {step : Json.Step} {key named : String} {value place : Json}
  {members inner entries : List (String × Json)}

theorem at?_cons (taken : start.step? step = some next) (path : List Json.Step) :
    start.at? (step :: path) = next.at? path := by
  rw [at?, taken, Option.bind_some]

theorem Owner.after {front : List Json.Step} (taken : start.step? step = some next) (owner : next.Owner front key) :
    start.Owner (step :: front) key := by
  cases owner with
  | @field front _ stands =>
    change start.Owner ((step :: front) ++ [.member key]) key
    exact .field ((at?_cons taken _).trans stands)
  | @map front _ stands =>
    change start.Owner ((step :: front) ++ [.member key, .member "value"]) key
    exact .map ((at?_cons taken _).trans stands)
  | state stands => exact .state ((at?_cons taken _).trans stands)

theorem PointsTo.after {inner : Json} (points : next.PointsTo inner key place) (taken : start.step? step = some next)
    (held : value.Holds step inner) : start.PointsTo value key place := by
  rcases points with ⟨front, name, stands, rfl | ⟨marked, notAnd, notOr, owner⟩⟩
  · exact ⟨step :: front, name, .step held stands, .inl rfl⟩
  · exact ⟨step :: front, name, .step held stands, .inr ⟨marked, notAnd, notOr, owner.after taken⟩⟩

theorem PointsTo.of_mem (held : (key, place) ∈ members) : start.PointsTo (.object members) key place :=
  ⟨[], key, .of_mem held, .inl rfl⟩

theorem PointsTo.of_modeOf {front : List Json.Step} {name : String} {found : Json}
    (reached : value.At front (.object entries)) (owner : start.Owner front key) (held : (name, found) ∈ entries)
    (marked : Marker.isModeKey name = true) (failed : Marker.modeOf key found = .error (.invalidValue named place)) :
    start.PointsTo value named place := by
  obtain ⟨same, notAnd, notOr⟩ := Marker.error_of_modeOf failed
  cases same
  exact ⟨front, name, reached.append (.of_mem held), .inr ⟨marked, notAnd, notOr, owner⟩⟩

theorem PointsTo.of_mode {front : List Json.Step} (reached : value.At front (.object members))
    (owner : start.Owner front key) (failed : Marker.mode key members = .error (.invalidValue named place)) :
    start.PointsTo value named place := by
  rcases Marker.exists_of_mode_error failed with ⟨name, found, marked, held, unnamed⟩
  exact .of_modeOf reached owner (Entries.mem_of_lookup held) marked unnamed

end Position

section Fields

open Position

variable {start : Position} {key named : String} {value place : Json} {members entries : List (String × Json)}

theorem Position.at?_singleton {step : Json.Step} {next : Position} (taken : start.step? step = some next) :
    start.at? [step] = some next := by
  rw [at?_cons taken, at?]

theorem Position.step?_fieldValue (unmarked : Marker.isModeKey key = false) :
    fieldValue.step? (.member key) = some .field := by
  simp [step?, unmarked]

theorem AnchoredFilter.pointsTo_of_error (taken : start.step? (.member key) = some .field)
    (held : (key, .object members) ∈ entries)
    (inner : ∀ fields, members.lookup "value" = some (.object fields) → ∀ field ∈ fields,
      Marker.isModeKey field.1 = false → FieldFilter.ofJson field.1 field.2 = .error (.invalidValue named place) →
      fieldValue.PointsTo (.object fields) named place)
    (failed : assemble key members (FieldFilter.valueFields? members) = .error (.invalidValue named place)) :
    start.PointsTo (.object entries) named place := by
  have stands : start.at? ([] ++ [.member key]) = some .field := at?_singleton taken
  rcases cases_of_assemble_error failed with whole | unnamed | ⟨fields, under, cause⟩
  · cases whole
    exact .of_mem held
  · exact .of_mode (.of_mem held) (.field stands) unnamed
  · have within := Entries.mem_of_lookup under
    rcases cause with ⟨field, member, marked, unnamed⟩ | ⟨field, member, unmarked, refused⟩
    · exact .of_modeOf (.step (.member held) (.of_mem within)) (.map stands) member marked unnamed
    · have points : fieldValue.PointsTo (.object fields) named place := by
        rcases cases_of_plainField_error refused with unread | same
        · exact inner fields under field member unmarked unread
        · cases same
          exact .of_mem member
      exact (points.after rfl (.member within)).after taken (.member held)

theorem FieldFilter.pointsTo_of_error (taken : start.step? (.member key) = some .field)
    (held : (key, value) ∈ entries) (failed : ofJson key value = .error (.invalidValue named place)) :
    start.PointsTo (.object entries) named place := by
  induction value using decoding_induction generalizing start key entries with
  | object members ih =>
    have stands : start.at? ([] ++ [.member key]) = some .field := at?_singleton taken
    rw [ofJson, assemble] at failed
    split at failed
    · rcases OptionFilter.cases_of_error (Outcome.map_eq_error_iff.mp failed) with whole | unnamed
      · cases whole
        exact .of_mem held
      · exact .of_mode (.of_mem held) (.field stands) unnamed
    · cases RangeFilter.eq_of_error (Outcome.map_eq_error_iff.mp failed)
      exact .of_mem held
    · apply AnchoredFilter.pointsTo_of_error taken held _ (Outcome.map_eq_error_iff.mp failed)
      intro fields under field member unmarked unread
      exact ih fields under field member (step?_fieldValue unmarked) member unread
    · cases failed
      exact .of_mem held
  | other value shape =>
    rw [ofJson] at failed
    · cases failed
      exact .of_mem held
    · exact shape

theorem AnchoredFilter.pointsTo_of_ofJson_error (taken : start.step? (.member key) = some .field)
    (held : (key, value) ∈ entries) (failed : ofJson key value = .error (.invalidValue named place)) :
    start.PointsTo (.object entries) named place := by
  cases value with
  | object members =>
    apply AnchoredFilter.pointsTo_of_error taken held _ failed
    intro fields _ field member unmarked unread
    exact FieldFilter.pointsTo_of_error (step?_fieldValue unmarked) member unread
  | null | bool | number | text | array =>
    cases failed
    exact .of_mem held

end Fields

namespace FilterState

open Position

variable {α : Type} {key kind : String} {place : Json} {members inner : List (String × Json)}

theorem lookup_of_mem_valueMap {entry : String × Json} (map : valueMap kind members = .ok inner)
    (member : entry ∈ inner) : members.lookup "value" = some (.object inner) := by
  unfold valueMap at map
  split at map
  · cases map
    nomatch member
  · cases map
    nomatch member
  · next found =>
    cases map
    exact found
  · cases map

theorem valueMap_ne_error : valueMap kind members ≠ .error (.invalidValue key place) := by
  intro failed
  unfold valueMap at failed
  split at failed <;> cases failed

theorem pointsTo_of_collect_error {read : String → Json → Except FilterError α} {known : Option CombineMode}
    (each : ∀ entry ∈ inner, stateValue.step? (.member entry.1) = some .field →
      read entry.1 entry.2 = .error (.invalidValue key place) → stateValue.PointsTo (.object inner) key place)
    (map : valueMap kind members = .ok inner)
    (failed : Marker.collect none known (inner.map fun (key, value) => (key, value, read key value)) =
      .error (.invalidValue key place)) :
    state.PointsTo (.object members) key place := by
  have within {entry : String × Json} (member : entry ∈ inner) :
      (Json.object members).Holds (.member "value") (.object inner) :=
    .member (Entries.mem_of_lookup (lookup_of_mem_valueMap map member))
  rcases Marker.cases_of_collect_error failed with ⟨_, member, -, unnamed⟩ | ⟨_, member, unmarked, unread⟩
  · rcases List.mem_map.mp member with ⟨entry, held, rfl⟩
    cases (Marker.error_of_modeOf unnamed).1
    exact (PointsTo.of_mem held).after rfl (within held)
  · rcases List.mem_map.mp member with ⟨entry, held, rfl⟩
    have taken : stateValue.step? (.member entry.1) = some .field := by simpa [step?] using unmarked
    exact (each entry held taken unread).after rfl (within held)

theorem exists_of_composedOf_error {mode : Option CombineMode}
    (failed : composedOf mode members (valueStates? members) = .error (.invalidValue key place)) :
    ∃ items item, members.lookup "value" = some (.array items) ∧ item ∈ items ∧
      ofJson item = .error (.invalidValue key place) := by
  rw [valueStates?_eq] at failed
  unfold composedOf at failed
  extract_lets composed at failed
  have made (results : List FilterState) : composed results ≠ .error (.invalidValue key place) := by
    intro failed
    rcases Outcome.bind_eq_error_iff.mp failed with failed | ⟨_, _, finished⟩
    · unfold refIdsOf at failed
      split at failed
      · cases failed
      · cases failed
      · next ids _ _ => cases read : Shape.texts (Document.ofJson ids) <;> rw [read] at failed <;> cases failed
    · cases finished
  cases held : members.lookup "value" with
  | none =>
    rw [held] at failed
    exact absurd failed (made [])
  | some value =>
    rw [held] at failed
    cases value with
    | null => exact absurd failed (made [])
    | array items =>
      rcases Outcome.bind_eq_error_iff.mp failed with failed | ⟨results, -, failed⟩
      · rw [List.mapM_map, Outcome.mapM_eq_error_iff] at failed
        rcases failed with ⟨front, item, back, rfl, -, failed⟩
        exact ⟨_, item, rfl, List.mem_append_right front List.mem_cons_self, failed⟩
      · exact absurd failed (made results)
    | bool | number | text | object => cases failed

theorem pointsTo_of_error {value : Json} (failed : ofJson value = .error (.invalidValue key place)) :
    state.PointsTo value key place := by
  induction value using decoding_induction with
  | empty => cases failed
  | object members ih =>
    rw [ofJson_object_eq_bind] at failed
    rcases Outcome.bind_eq_error_iff.mp failed with unnamed | ⟨mode, -, failed⟩
    · exact .of_mode (.here _) (.state rfl) unnamed
    · rcases Outcome.bind_eq_error_iff.mp failed with unknown | ⟨kind, -, failed⟩
      · cases shown : Kind.ofMembers members <;> rw [shown] at unknown <;> cases unknown
      · cases kind with
        | standard =>
          rcases Outcome.bind_eq_error_iff.mp failed with failed | ⟨inner, map, failed⟩
          · exact absurd failed valueMap_ne_error
          · rcases Outcome.bind_eq_error_iff.mp failed with failed | ⟨_, _, finished⟩
            · apply pointsTo_of_collect_error _ map failed
              exact fun entry held taken unread => FieldFilter.pointsTo_of_error taken held unread
            · cases finished
        | anchored =>
          rcases Outcome.bind_eq_error_iff.mp failed with failed | ⟨inner, map, failed⟩
          · exact absurd failed valueMap_ne_error
          · rcases Outcome.bind_eq_error_iff.mp failed with failed | ⟨_, _, finished⟩
            · apply pointsTo_of_collect_error _ map failed
              exact fun entry held taken unread => AnchoredFilter.pointsTo_of_ofJson_error taken held unread
            · cases finished
        | composed =>
          rcases exists_of_composedOf_error failed with ⟨items, item, held, member, failed⟩
          obtain ⟨index, found⟩ := List.getElem?_of_mem member
          have points : stateValue.PointsTo (.array items) key place :=
            (ih items held item member failed).after rfl (.item found)
          exact points.after rfl (.member (Entries.mem_of_lookup held))
        | reference =>
          rw [ofKind, referenceOf] at failed
          split at failed <;> cases failed
        | empty => cases failed
  | other value shape =>
    cases value with
    | object members => exact absurd rfl (shape members)
    | null | bool | number | text | array => cases failed

/-- An error about a value shows a value of the document with its compact text, and names the key that it stands under.
    The one exception are modes that name none: the error names the filter that the mode is for. -/
theorem ofJson_error_points_into {value : Json} (failed : ofJson value = .error (.invalidValue key place)) :
    (FilterError.invalidValue key place).message = "invalid filter value for key '" ++ key ++ "': " ++ place.compact ∧
      ∃ front name, value.At (front ++ [.member name]) place ∧
        (name = key ∨ Marker.isModeKey name = true ∧ place ≠ .text "AND" ∧ place ≠ .text "OR" ∧
          state.Owner front key) :=
  ⟨rfl, pointsTo_of_error failed⟩

theorem ofJson_error_points_into_member :
    let patient : Json := .object [("value", .object [("visit.day", .object [("selectedValues", .texts ["mon"])]),
      ("combineMode", .text "XOR")])]
    let value : Json := .object [("value", .array [.null, .object [("value", .object [("patient:p1", patient)])]])]
    ofJson value = .error (.invalidValue "patient:p1" (.text "XOR")) ∧
      ∃ front name, value.At (front ++ [.member name]) (.text "XOR") ∧
        (name = "patient:p1" ∨ Marker.isModeKey name = true ∧ Json.text "XOR" ≠ .text "AND" ∧
          Json.text "XOR" ≠ .text "OR" ∧ state.Owner front "patient:p1") := by
  intro patient value
  have failed : ofJson value = .error (.invalidValue "patient:p1" (.text "XOR")) := rfl
  exact ⟨failed, (ofJson_error_points_into failed).2⟩

end FilterState

end CohortFilter
