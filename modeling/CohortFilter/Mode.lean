import CohortFilter.Json.Value

namespace CohortFilter

inductive CombineMode
  | and
  | or
deriving DecidableEq

namespace CombineMode

def all : List CombineMode := [.and, .or]

def name : CombineMode → String
  | .and => "AND"
  | .or => "OR"

def ofName? (name : String) : Option CombineMode := all.find? (·.name == name)

theorem ofName?_name (mode : CombineMode) : ofName? mode.name = some mode := by
  cases mode <;> decide

def toJson (mode : CombineMode) : Json := .text mode.name

end CombineMode

inductive FilterMode
  | containsAny
  | containsAll
  | excludesAny
  | excludesAll
deriving DecidableEq

namespace FilterMode

def all : List FilterMode := [.containsAny, .containsAll, .excludesAny, .excludesAll]

def name : FilterMode → String
  | .containsAny => "CONTAINS_ANY"
  | .containsAll => "CONTAINS_ALL"
  | .excludesAny => "EXCLUDES_ANY"
  | .excludesAll => "EXCLUDES_ALL"

def ofName? (name : String) : Option FilterMode := all.find? (·.name == name)

theorem ofName?_name (mode : FilterMode) : ofName? mode.name = some mode := by
  cases mode <;> decide

def excludes : FilterMode → Bool
  | .containsAny | .containsAll => false
  | .excludesAny | .excludesAll => true

def toJson (mode : FilterMode) : Json := .text mode.name

end FilterMode

end CohortFilter
