import CohortFilter.Aggregation.QueryInfo
import CohortFilter.Compile
import CohortFilter.Resolve

namespace CohortFilter

inductive Command
  | compile (filter : String) (workspace : Option String)
  | resolve (filter workspace : String)
  | queryInfo (tabs : String) (anchorConfig anchorValue filter workspace : Option String)
deriving DecidableEq

inductive FileFault
  | absent
  | notText
  | unavailable (reason : String)
deriving DecidableEq

namespace FileFault

def message : FileFault → String
  | .absent => "No such file or directory (os error 2)"
  | .notText => "stream did not contain valid UTF-8"
  | .unavailable reason => reason

end FileFault

inductive CommandError
  | unreadable (file : String) (fault : FileFault)
  | invalid (file : String) (error : DecodeError)
  | unresolved (file : String) (error : FilterError)
  | uncompiled (error : FilterError)

namespace CommandError

def message : CommandError → String
  | .unreadable file fault => "failed to read " ++ file ++ ": " ++ fault.message
  | .invalid file error => "invalid JSON in " ++ file ++ ": " ++ error.message
  | .unresolved file error => "failed to resolve references in " ++ file ++ ": " ++ error.message
  | .uncompiled error => error.message

end CommandError

abbrev Files := String → Except FileFault String

namespace Files

def textOf (bytes : ByteArray) : Except FileFault String :=
  match String.fromUTF8? bytes with
  | some text => .ok text
  | none => .error .notText

def ofList (files : List (String × Except FileFault String)) : Files :=
  fun name => (files.lookup name).getD (.error .absent)

def document {α : Type} (files : Files) (decode : Source → Document → Except DecodeError α)
    (name : String) : Except CommandError α := do
  let text ← (files name).mapError (.unreadable name)
  (Shape.ofText .shape decode text).mapError (.invalid name)

def state (files : Files) (depth : DepthLimit) (filter : String) (workspace : Option String) :
    Except CommandError FilterState := do
  let state ← files.document (fun _ => FilterState.ofDocument) filter
  match workspace with
  | none => return state
  | some name => do
    let workspace ← files.document Workspace.read name
    (state.resolve workspace depth).mapError (.unresolved filter)

def query (files : Files) (depth : DepthLimit) (filter : String) (workspace : Option String) :
    Except CommandError (Option Query) := do
  let state ← files.state depth filter workspace
  state.compile.outcome.mapError .uncompiled

def tabs (files : Files) (name : String) : Except CommandError (List FilterTab) :=
  files.document (fun source document => (FilterTab.readList source document).mapError .shape) name

def anchorConfig (files : Files) (name : String) : Except CommandError AnchorConfig :=
  files.document (fun source document => (AnchorConfig.record.read source document).mapError .shape) name

def given {α : Type} (read : String → Except CommandError α) :
    Option String → Except CommandError (Option α)
  | none => .ok none
  | some name => (read name).map some

end Files

namespace Command

def fileNames : Command → List String
  | .compile filter workspace => filter :: workspace.toList
  | .resolve filter workspace => [filter, workspace]
  | .queryInfo tabs anchorConfig _ filter workspace =>
    tabs :: anchorConfig.toList ++ filter.toList ++ filter.elim [] fun _ => workspace.toList

def run (files : Files) (depth : DepthLimit) : Command → Except CommandError Json
  | .compile filter workspace => do
    let query ← files.query depth filter workspace
    return (query.map Query.toJson).getD .null
  | .resolve filter workspace => do
    let state ← files.state depth filter (some workspace)
    return state.toJson
  | .queryInfo tabs anchorConfig anchorValue filter workspace => do
    let tabs ← files.tabs tabs
    let config ← Files.given files.anchorConfig anchorConfig
    let query ← match filter with
      | some filter => files.query depth filter workspace
      | none => pure none
    return (QueryInfo.plan tabs (Anchor.ofChoice? config anchorValue) query).toJson

end Command

end CohortFilter
