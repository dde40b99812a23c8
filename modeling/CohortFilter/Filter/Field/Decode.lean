import CohortFilter.Filter.Field
import CohortFilter.Filter.Marker
import CohortFilter.Key

namespace CohortFilter

inductive FieldKind
  | option
  | range
  | anchored

namespace FieldKind

def ofTag? : String → Option FieldKind
  | "OPTION" => some .option
  | "RANGE" => some .range
  | "ANCHORED" => some .anchored
  | _ => none

def ofShape? (members : List (String × Json)) : Option FieldKind :=
  let has (name : String) : Bool := (members.lookup name).isSome
  if has "selectedValues" then some .option
  else if has "lowerBound" || has "upperBound" then some .range
  else match members.lookup "value" with
    | some (.object _) => some .anchored
    | _ =>
      if has "filterMode" || has "isExclusion" || members.any (Marker.isModeKey ·.1) then some .option
      else none

def ofMembers? (members : List (String × Json)) : Option FieldKind :=
  match Marker.tag? members with
  | some tag => ofTag? tag
  | none => ofShape? members

end FieldKind

namespace OptionFilter

def ofMembers (key : String) (members : List (String × Json)) : Except FilterError OptionFilter := do
  let invalid := FilterError.invalidValue key (.object members)
  let selectedValues ← match members.lookup "selectedValues" with
    | none | some .null => pure none
    | some (.array items) =>
      match items.mapM Json.text? with
      | some values => pure (some values)
      | none => throw invalid
    | some _ => throw invalid
  let combineMode ← Marker.mode key members
  if selectedValues.isNone && combineMode.isNone then throw invalid
  let filterMode ← match members.lookup "filterMode" with
    | none | some .null =>
      match members.lookup "isExclusion" with
      | some (.bool true) => pure FilterMode.excludesAny
      | _ => pure FilterMode.containsAny
    | some value =>
      match value.text?.bind FilterMode.ofName? with
      | some mode => pure mode
      | none => throw invalid
  return ⟨selectedValues, filterMode, combineMode⟩

end OptionFilter

namespace RangeFilter

def ofMembers (key : String) (members : List (String × Json)) : Except FilterError RangeFilter :=
  match members.lookup "lowerBound", members.lookup "upperBound" with
  | some (.number lower), some (.number upper) => .ok ⟨lower, upper⟩
  | _, _ => .error (.invalidValue key (.object members))

end RangeFilter

namespace AnchoredFilter

def unanchored (key : String) (value : Json) : FieldFilter → Except FilterError FieldFilter
  | .anchored _ => .error (.invalidValue key value)
  | filter => .ok filter

def assemble (key : String) (members : List (String × Json))
    (fields? : Option (List (String × Json × Except FilterError FieldFilter))) :
    Except FilterError AnchoredFilter :=
  match Key.anchor? key, fields? with
  | some (field, value), some fields => do
    let mode ← Marker.mode key members
    let (mode, fields) ← Marker.collect (some key) mode
      (fields.map fun (key, value, filter) => (key, value, filter.bind (unanchored key value)))
    return ⟨field, value, mode, fields⟩
  | _, _ => .error (.invalidValue key (.object members))

end AnchoredFilter

namespace FieldFilter

def assemble (key : String) (members : List (String × Json))
    (fields? : Option (List (String × Json × Except FilterError FieldFilter))) :
    Except FilterError FieldFilter :=
  match FieldKind.ofMembers? members with
  | some .option => (OptionFilter.ofMembers key members).map .option
  | some .range => (RangeFilter.ofMembers key members).map .range
  | some .anchored => (AnchoredFilter.assemble key members fields?).map .anchored
  | none => .error (.invalidValue key (.object members))

mutual

def ofJson (key : String) : Json → Except FilterError FieldFilter
  | .object members => assemble key members (valueFields? members)
  | other => .error (.invalidValue key other)

def valueFields? : List (String × Json) → Option (List (String × Json × Except FilterError FieldFilter))
  | [] => none
  | (name, .object entries) :: rest =>
    if name == "value" then some (readFields entries) else valueFields? rest
  | (name, _) :: rest => if name == "value" then none else valueFields? rest

def readFields : List (String × Json) → List (String × Json × Except FilterError FieldFilter)
  | [] => []
  | (key, value) :: rest => (key, value, ofJson key value) :: readFields rest

end

theorem readFields_eq (entries : List (String × Json)) :
    readFields entries = entries.map fun (key, value) => (key, value, ofJson key value) := by
  induction entries with
  | nil => simp [readFields]
  | cons entry rest ih => simp [readFields, ih]

theorem valueFields?_eq (members : List (String × Json)) :
    valueFields? members = match members.lookup "value" with
      | some (.object entries) => some (entries.map fun (key, value) => (key, value, ofJson key value))
      | _ => none := by
  induction members with
  | nil => simp [valueFields?]
  | cons entry rest ih =>
    obtain ⟨name, value⟩ := entry
    by_cases same : name = "value"
    · subst same
      cases value <;> simp [valueFields?, readFields_eq]
    · have other : ("value" == name) = false := by simpa using fun equal => same equal.symm
      simp only [List.lookup_cons, other, ← ih]
      cases value <;> simp [valueFields?, same]

end FieldFilter

def AnchoredFilter.ofJson (key : String) : Json → Except FilterError AnchoredFilter
  | .object members => assemble key members (FieldFilter.valueFields? members)
  | other => .error (.invalidValue key other)

end CohortFilter
