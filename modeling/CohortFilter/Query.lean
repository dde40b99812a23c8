import CohortFilter.Mode

namespace CohortFilter

inductive Query
  | group (mode : CombineMode) (clauses : List Query)
  | matching (mode : FilterMode) (field : String) (values : List String)
  | atLeast (field : String) (bound : Number)
  | atMost (field : String) (bound : Number)
  | nested (path : String) (mode : CombineMode) (clauses : List Query)

namespace Query

def all (clauses : List Query) : Query := .group .and clauses

def nestedPath? : Query → Option String
  | .nested path _ _ => some path
  | _ => none

mutual

def toJson : Query → Json
  | .group mode clauses => .object [(mode.name, .array (toItems clauses))]
  | .matching mode field values => .object [(mode.name, .object [(field, .texts values)])]
  | .atLeast field bound => .object [("GTE", .object [(field, .number bound)])]
  | .atMost field bound => .object [("LTE", .object [(field, .number bound)])]
  | .nested path mode clauses =>
    .object [("nested", .object [("path", .text path), (mode.name, .array (toItems clauses))])]

def toItems : List Query → List Json
  | [] => []
  | clause :: rest => clause.toJson :: toItems rest

end

mutual

/-- The name of a nested clause's mode and its path may stand in either order. -/
def ofJson? : Json → Option Query
  | .object [(tag, .array items)] => do
    let mode ← CombineMode.ofName? tag
    return .group mode (← ofItems? items)
  | .object [("nested", .object [("path", .text path), (name, .array items)])] => do
    let mode ← CombineMode.ofName? name
    return .nested path mode (← ofItems? items)
  | .object [("nested", .object [(name, .array items), ("path", .text path)])] => do
    let mode ← CombineMode.ofName? name
    return .nested path mode (← ofItems? items)
  | .object [("GTE", .object [(field, .number bound)])] => some (.atLeast field bound)
  | .object [("LTE", .object [(field, .number bound)])] => some (.atMost field bound)
  | .object [(tag, .object [(field, .array items)])] => do
    let mode ← FilterMode.ofName? tag
    return .matching mode field (← items.mapM Json.text?)
  | _ => none

def ofItems? : List Json → Option (List Query)
  | [] => some []
  | item :: rest => do
    let clause ← ofJson? item
    return clause :: (← ofItems? rest)

end

end Query

end CohortFilter
