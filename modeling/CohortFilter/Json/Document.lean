import CohortFilter.Entries
import CohortFilter.Json.Value

namespace CohortFilter

/-- `refused` is a value that is well written but not accepted: a number past the largest one, half of
    a surrogate pair, or an array or object nested too deep. `broken` stands where the text could not
    be read on, and nothing around it is closed. Repeated members are kept, and a name that holds half
    of a surrogate pair is none. -/
inductive Document
  | null
  | bool (value : Bool)
  | number (value : Number)
  | text (value : String)
  | refused
  | broken
  | array (items : List Document) (closed : Bool)
  | object (members : List (Option String × Document)) (closed : Bool)

namespace Document

def passed : Document → Bool
  | .broken | .array _ false | .object _ false => false
  | _ => true

mutual

def value? : Document → Option Json
  | .null => some .null
  | .bool b => some (.bool b)
  | .number n => some (.number n)
  | .text s => some (.text s)
  | .array items true => (values? items).map .array
  | .object members true => (membersValue? members).map fun entries => .object (Entries.ofList entries)
  | .refused | .broken | .array _ false | .object _ false => none

def values? : List Document → Option (List Json)
  | [] => some []
  | item :: rest => do
    let value ← item.value?
    return value :: (← values? rest)

def membersValue? : List (Option String × Document) → Option (List (String × Json))
  | [] => some []
  | (key, item) :: rest => do
    let key ← key
    let value ← item.value?
    return (key, value) :: (← membersValue? rest)

end

mutual

def ofJson : Json → Document
  | .null => .null
  | .bool b => .bool b
  | .number n => .number n
  | .text s => .text s
  | .array items => .array (ofItems items) true
  | .object members => .object (ofMembers members) true

def ofItems : List Json → List Document
  | [] => []
  | item :: rest => ofJson item :: ofItems rest

def ofMembers : List (String × Json) → List (Option String × Document)
  | [] => []
  | (key, value) :: rest => (some key, ofJson value) :: ofMembers rest

end

end Document

end CohortFilter
