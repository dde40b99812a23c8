import CohortFilter.Aggregation.Tab
import CohortFilter.Key
import CohortFilter.Query
import CohortFilter.Warning

namespace CohortFilter

structure Anchor where
  config : AnchorConfig
  value : String

namespace Anchor

def ofChoice? (config : Option AnchorConfig) (value : Option String) : Option Anchor :=
  match config, value with
  | some config, some value => if value.isEmpty then none else some ⟨config, value⟩
  | _, _ => none

def clause (anchor : Anchor) : Query := .matching .containsAny anchor.config.field [anchor.value]

end Anchor

structure QueryInfo where
  fieldsByGroup : List (String × List String)
  filterByGroup : List (String × Option Query)

namespace QueryInfo

def mainGroup : String := "main"

def filterKey (group : String) : String := "filter_" ++ group

def toJson (info : QueryInfo) : Json :=
  .object [
    ("fieldsByGroup", .object (info.fieldsByGroup.map fun (group, fields) => (group, .texts fields))),
    ("gqlFilterByGroup", .object (info.filterByGroup.map fun (key, filter) =>
      (key, (filter.map Query.toJson).getD .null)))]

def fieldGroups (tab : FilterTab) : Groups String :=
  Groups.ofEntries (tab.fields.map fun field => (field, field))

def anchors (anchor : Option Anchor) (tab : FilterTab) : Bool :=
  anchor.any fun anchor => anchor.config.appliesTo tab

/-- The group of each field of a tab. Fields that an anchor groups come path by path. -/
def assignments (anchor : Option Anchor) (tab : FilterTab) : List (String × String) :=
  if anchors anchor tab then
    let groups := fieldGroups tab
    groups.main.map (fun (_, field) => (mainGroup, field)) ++
      groups.nested.flatMap fun (path, members) => members.map fun (_, field) => (path, field)
  else tab.fields.map fun field => (mainGroup, field)

/-- The fields under a path with the name of the main group are put there, without an anchor. -/
def collisions (anchor : Option Anchor) (tab : FilterTab) : List Warning :=
  if anchors anchor tab then
    (fieldGroups tab).nested.filterMap fun (path, members) =>
      if path = mainGroup then some (.mainCollision tab.title members.length) else none
  else []

/-- The clauses with the anchor added to the first nested clause on the path, or in a new one at the end.
    A clause that some related record must meet in one of several ways becomes one part of what it must
    meet. -/
def restrict (path : String) (anchor : Query) : List Query → List Query
  | [] => [.nested path .and [anchor]]
  | .nested held mode clauses :: rest =>
    if held = path then
      match mode with
      | .and => .nested held .and (clauses ++ [anchor]) :: rest
      | .or => .nested held .and [.group .or clauses, anchor] :: rest
    else .nested held mode clauses :: restrict path anchor rest
  | clause :: rest => clause :: restrict path anchor rest

def conjuncts : Option Query → List Query
  | some (.group .and clauses) => clauses
  | some other => [other]
  | none => []

def groupFilter (filter : Option Query) (anchor : Anchor) (path : String) : Query :=
  .all (restrict path anchor.clause (conjuncts filter))

def fieldsOf (anchor : Option Anchor) (tabs : List FilterTab) : List (String × List String) :=
  (tabs.flatMap (assignments anchor)).foldl
    (fun groups assigned => Entries.append assigned.1 assigned.2 groups) [(mainGroup, [])]

def filtersOf (anchor : Option Anchor) (filter : Option Query) (groups : List String) :
    List (String × Option Query) :=
  (filterKey mainGroup, filter) :: match anchor with
    | some anchor =>
      (groups.filter (· != mainGroup)).map fun path =>
        (filterKey path, some (groupFilter filter anchor path))
    | none => []

def plan (tabs : List FilterTab) (anchor : Option Anchor) (filter : Option Query) : QueryInfo :=
  let fields := fieldsOf anchor tabs
  ⟨fields, filtersOf anchor filter (Entries.keys fields)⟩

def warnings (tabs : List FilterTab) (anchor : Option Anchor) : List Warning :=
  tabs.flatMap (collisions anchor)

end QueryInfo

end CohortFilter
