import CohortFilter.Filter.State.Decode

namespace CohortFilter

/-- The set's own id need not be the one it is kept under. -/
structure FilterSet where
  id : Option String
  name : String
  description : String
  filter : FilterState

namespace FilterSet

def ofFilter (name : String) (filter : FilterState) : FilterSet := ⟨none, name, "", filter⟩

def toJson (set : FilterSet) : Json :=
  .object ((match set.id with
      | some id => [("id", .text id)]
      | none => []) ++
    [("name", .text set.name), ("description", .text set.description), ("filter", set.filter.toJson)])

structure Draft where
  id : Option String
  name : Option String
  description : Option String
  filter : Option FilterState

def record : Shape.Record Draft FilterSet DecodeError where
  name := "FilterSet"
  fields := [
    ⟨"id", fun document draft => do
      return { draft with id := ← (Shape.optionalText document).mapError .shape }⟩,
    ⟨"name", fun document draft => do
      return { draft with name := some (← (Shape.text document).mapError .shape) }⟩,
    ⟨"description", fun document draft => do
      return { draft with description := some (← (Shape.text document).mapError .shape) }⟩,
    ⟨"filter", fun document draft => do
      return { draft with filter := some (← FilterState.ofDocument document) }⟩]
  blank := ⟨none, none, none, none⟩
  finish draft :=
    match draft.name with
    | some name => .ok ⟨draft.id, name, draft.description.getD "", draft.filter.getD .empty⟩
    | none => .error "name"
  refuse := .shape

end FilterSet

structure Workspace where
  sets : List (String × FilterSet)
  distinct : (Entries.keys sets).Nodup

namespace Workspace

def empty : Workspace := ⟨[], List.nodup_nil⟩

def ofList (sets : List (String × FilterSet)) : Workspace :=
  ⟨Entries.ofList sets, Entries.nodup_keys_ofList sets⟩

def get? (workspace : Workspace) (id : String) : Option FilterSet := workspace.sets.lookup id

def insert (workspace : Workspace) (id : String) (set : FilterSet) : Workspace :=
  ⟨Entries.insert id set workspace.sets, Entries.nodup_keys_insert workspace.distinct⟩

theorem get?_insert (workspace : Workspace) (id key : String) (set : FilterSet) :
    (workspace.insert id set).get? key = if key = id then some set else workspace.get? key :=
  Entries.lookup_insert key id set workspace.sets

def size (workspace : Workspace) : Nat := workspace.sets.length

def toJson (workspace : Workspace) : Json :=
  .object (workspace.sets.map fun (id, set) => (id, set.toJson))

def read (source : Source) (document : Document) : Except DecodeError Workspace :=
  (Shape.entries .shape (FilterSet.record.read source) document).map ofList

end Workspace

end CohortFilter
