import CohortFilter.Fault
import CohortFilter.Mode

namespace CohortFilter.Marker

def tagKeys : List String := ["__type", "type"]

def modeKeys : List String := ["__combineMode", "combineMode"]

def find? (names : List String) (members : List (String × Json)) : Option Json :=
  names.findSome? fun name => members.lookup name

def tag? (members : List (String × Json)) : Option String :=
  (find? tagKeys members).bind Json.text?

def isModeKey (key : String) : Bool := modeKeys.contains key

def isMarker (key : String) : Bool := tagKeys.contains key || isModeKey key

def modeOf (owner : String) (value : Json) : Except FilterError CombineMode :=
  match value.text?.bind CombineMode.ofName? with
  | some mode => .ok mode
  | none => .error (.invalidValue owner value)

def mode (owner : String) (members : List (String × Json)) : Except FilterError (Option CombineMode) :=
  match find? modeKeys members with
  | none | some .null => .ok none
  | some value => (modeOf owner value).map some

variable {α : Type}

/-- The fields of a value map, and the first combine mode that stands among them unless one is known.
    An error about a mode names `owner`, or the mode's own key where there is no owner. -/
def collect (owner : Option String) (known : Option CombineMode) :
    List (String × Json × Except FilterError α) → Except FilterError (Option CombineMode × List (String × α))
  | [] => .ok (known, [])
  | (key, value, filter) :: rest =>
    if isModeKey key then
      match known with
      | some known => collect owner (some known) rest
      | none => do collect owner (some (← modeOf (owner.getD key) value)) rest
    else do
      let filter ← filter
      let (known, fields) ← collect owner known rest
      return (known, (key, filter) :: fields)

end CohortFilter.Marker
