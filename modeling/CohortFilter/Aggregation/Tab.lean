import CohortFilter.Shape

namespace CohortFilter

structure FilterTab where
  title : String
  fields : List String
deriving DecidableEq

structure AnchorConfig where
  field : String
  options : List String
  tabs : List String
deriving DecidableEq

namespace FilterTab

def toJson (tab : FilterTab) : Json :=
  .object [("title", .text tab.title), ("fields", .texts tab.fields)]

structure Draft where
  title : Option String
  fields : Option (List String)

def record : Shape.Record Draft FilterTab ShapeFault where
  name := "FilterTab"
  fields := [
    ⟨"title", fun document draft => do return { draft with title := some (← Shape.text document) }⟩,
    ⟨"fields", fun document draft => do return { draft with fields := some (← Shape.texts document) }⟩]
  blank := ⟨none, none⟩
  finish draft :=
    match draft.title with
    | some title => .ok ⟨title, draft.fields.getD []⟩
    | none => .error "title"
  refuse fault := fault

def readList (source : Source) : Document → Except ShapeFault (List FilterTab) :=
  Shape.list id (record.read source)

end FilterTab

namespace AnchorConfig

def appliesTo (config : AnchorConfig) (tab : FilterTab) : Bool := config.tabs.contains tab.title

def toJson (config : AnchorConfig) : Json :=
  .object [("field", .text config.field), ("options", .texts config.options), ("tabs", .texts config.tabs)]

structure Draft where
  field : Option String
  options : Option (List String)
  tabs : Option (List String)

def record : Shape.Record Draft AnchorConfig ShapeFault where
  name := "AnchorConfig"
  fields := [
    ⟨"field", fun document draft => do return { draft with field := some (← Shape.text document) }⟩,
    ⟨"options", fun document draft => do return { draft with options := some (← Shape.texts document) }⟩,
    ⟨"tabs", fun document draft => do return { draft with tabs := some (← Shape.texts document) }⟩]
  blank := ⟨none, none, none⟩
  finish draft :=
    match draft.field with
    | some field => .ok ⟨field, draft.options.getD [], draft.tabs.getD []⟩
    | none => .error "field"
  refuse fault := fault

end AnchorConfig

end CohortFilter
