import CohortFilter.Filter.Field.Decode
import CohortFilter.Filter.State
import CohortFilter.Shape

namespace CohortFilter

namespace FilterRef

structure Draft where
  id : Option String
  label : Option String

def record : Shape.Record Draft FilterRef ShapeFault where
  name := "FilterRef"
  fields := [
    ⟨"id", fun document draft => do return { draft with id := some (← Shape.text document) }⟩,
    ⟨"label", fun document draft => do return { draft with label := some (← Shape.text document) }⟩]
  blank := ⟨none, none⟩
  finish draft :=
    match draft.id with
    | some id => .ok ⟨id, draft.label.getD ""⟩
    | none => .error "id"
  refuse fault := fault

end FilterRef

namespace FilterState

inductive Kind
  | standard
  | anchored
  | composed
  | reference
  | empty

namespace Kind

def ofTag (tag : String) : Except StateFault Kind :=
  match tag with
  | "STANDARD" => .ok .standard
  | "ANCHORED" => .ok .anchored
  | "COMPOSED" => .ok .composed
  | "REF" => .ok .reference
  | other => .error (.unknownTag other)

/-- An object that has a text for its `id` is a reference. Nothing but markers may stand outside of
    `value`, which shows where there is no value. -/
def ofShape (members : List (String × Json)) : Except StateFault Kind :=
  match members.lookup "value" with
  | none | some .null =>
    match members.find? (!Marker.isMarker ·.1) with
    | some (key, _) => .error (.unexpectedKey key)
    | none => .ok .empty
  | some (.array _) => .ok .composed
  | some (.object inner) =>
    match inner.lookup "id" with
    | some (.text _) => .ok .reference
    | _ => .ok .standard
  | some other => .error (.valueNotContainer other)

def ofMembers (members : List (String × Json)) : Except StateFault Kind :=
  match Marker.tag? members with
  | some tag => ofTag tag
  | none => ofShape members

end Kind

def valueMap (kind : String) (members : List (String × Json)) :
    Except FilterError (List (String × Json)) :=
  match members.lookup "value" with
  | none | some .null => .ok []
  | some (.object inner) => .ok inner
  | some other => .error (.invalidState (.valueNotObject kind other))

def standardOf (mode : Option CombineMode) (members : List (String × Json)) :
    Except FilterError FilterState := do
  let inner ← valueMap "standard" members
  let (mode, fields) ← Marker.collect none mode
    (inner.map fun (key, value) => (key, value, FieldFilter.ofJson key value))
  return .standard mode fields

def anchoredOf (mode : Option CombineMode) (members : List (String × Json)) :
    Except FilterError FilterState := do
  let inner ← valueMap "anchored" members
  let (mode, fields) ← Marker.collect none mode
    (inner.map fun (key, value) => (key, value, AnchoredFilter.ofJson key value))
  return .anchored mode fields

def refIdsOf (members : List (String × Json)) : Except FilterError (List String) :=
  match members.lookup "refIds" with
  | none | some .null => .ok []
  | some ids => (Shape.texts (Document.ofJson ids)).mapError .invalidShape

def composedOf (mode : Option CombineMode) (members : List (String × Json))
    (read? : Option (List (Except FilterError FilterState))) : Except FilterError FilterState := do
  let value ← match read?, members.lookup "value" with
    | some read, _ => read.mapM id
    | none, none | none, some .null => pure []
    | none, some other => throw (.invalidState (.membersNotArray other))
  return .composed mode (← refIdsOf members) value

def referenceOf (members : List (String × Json)) : Except FilterError FilterState :=
  match Shape.ofJson FilterRef.record.read ((members.lookup "value").getD .null) with
  | .ok ref => .ok (.reference ref)
  | .error fault => .error (.invalidState (.badReference fault))

def assemble (members : List (String × Json)) (read? : Option (List (Except FilterError FilterState))) :
    Except FilterError FilterState := do
  let mode ← Marker.mode "__combineMode" members
  match ← (Kind.ofMembers members).mapError .invalidState with
  | .standard => standardOf mode members
  | .anchored => anchoredOf mode members
  | .composed => composedOf mode members read?
  | .reference => referenceOf members
  | .empty => return .empty

mutual

def ofJson : Json → Except FilterError FilterState
  | .null => .ok .empty
  | .object members => assemble members (valueStates? members)
  | other => .error (.invalidState (.notObject other))

def valueStates? : List (String × Json) → Option (List (Except FilterError FilterState))
  | [] => none
  | (name, .array items) :: rest =>
    if name == "value" then some (readStates items) else valueStates? rest
  | (name, _) :: rest => if name == "value" then none else valueStates? rest

def readStates : List Json → List (Except FilterError FilterState)
  | [] => []
  | item :: rest => ofJson item :: readStates rest

end

theorem readStates_eq (items : List Json) : readStates items = items.map ofJson := by
  induction items with
  | nil => simp [readStates]
  | cons item rest ih => simp [readStates, ih]

theorem valueStates?_eq (members : List (String × Json)) :
    valueStates? members = match members.lookup "value" with
      | some (.array items) => some (items.map ofJson)
      | _ => none := by
  induction members with
  | nil => simp [valueStates?]
  | cons entry rest ih =>
    obtain ⟨name, value⟩ := entry
    by_cases same : name = "value"
    · subst same
      cases value <;> simp [valueStates?, readStates_eq]
    · have other : ("value" == name) = false := by simpa using fun equal => same equal.symm
      simp only [List.lookup_cons, other, ← ih]
      cases value <;> simp [valueStates?, same]

def ofDocument (document : Document) : Except DecodeError FilterState :=
  match document.value? with
  | some value => (ofJson value).mapError .filter
  | none => .error (.shape .unreadable)

end FilterState

end CohortFilter
