import CohortFilter.Filter.Field

namespace CohortFilter

structure FilterRef where
  id : String
  label : String
deriving DecidableEq

inductive FilterState
  | empty
  | standard (mode : Option CombineMode) (fields : List (String × FieldFilter))
  | anchored (mode : Option CombineMode) (fields : List (String × AnchoredFilter))
  | composed (mode : Option CombineMode) (refIds : List String) (members : List FilterState)
  | reference (ref : FilterRef)

namespace FilterState

/-- Of repeated keys the last filter counts, in the place of the first. -/
def ofFields (fields : List (String × FieldFilter)) : FilterState :=
  .standard none (Entries.ofList fields)

def ofAnchored (fields : List (String × AnchoredFilter)) : FilterState :=
  .anchored none (Entries.ofList fields)

def withMode (mode : CombineMode) : FilterState → FilterState
  | .standard _ fields => .standard (some mode) fields
  | .anchored _ fields => .anchored (some mode) fields
  | .composed _ refIds members => .composed (some mode) refIds members
  | .empty => .empty
  | .reference ref => .reference ref

def combineMode : FilterState → CombineMode
  | .standard mode _ | .anchored mode _ | .composed mode _ _ => mode.getD .and
  | .empty | .reference _ => .and

def kind : FilterState → String
  | .empty => "EMPTY"
  | .standard .. => "STANDARD"
  | .anchored .. => "ANCHORED"
  | .composed .. => "COMPOSED"
  | .reference _ => "REF"

def isEmpty : FilterState → Bool
  | .empty => true
  | .standard _ fields => fields.isEmpty
  | .anchored _ fields => fields.isEmpty
  | .composed _ _ members => members.isEmpty
  | .reference _ => false

mutual

def same : FilterState → FilterState → Bool
  | .empty, .empty => true
  | .standard mode fields, .standard mode' fields' =>
    mode == mode' && fields.length == fields'.length && FieldFilter.allIn fields fields'
  | .anchored mode fields, .anchored mode' fields' =>
    mode == mode' && Entries.agree AnchoredFilter.same fields fields'
  | .composed mode refIds members, .composed mode' refIds' members' =>
    mode == mode' && refIds == refIds' && allSame members members'
  | .reference ref, .reference ref' => ref == ref'
  | _, _ => false

def allSame : List FilterState → List FilterState → Bool
  | [], [] => true
  | member :: rest, member' :: rest' => member.same member' && allSame rest rest'
  | _, _ => false

end

def tagged (kind : String) (mode : Option CombineMode) (value : Json) : List (String × Json) :=
  [("__type", .text kind)] ++ Json.modeMember mode ++ [("value", value)]

mutual

def toJson : FilterState → Json
  | .empty => .null
  | .standard mode fields => .object (tagged "STANDARD" mode (.object (FieldFilter.toMembers fields)))
  | .anchored mode fields =>
    .object (tagged "ANCHORED" mode
      (.object (fields.map fun (key, filter) => (key, filter.toJson))))
  | .composed mode refIds members =>
    .object (tagged "COMPOSED" mode (.array (toItems members)) ++ [("refIds", .texts refIds)])
  | .reference ref =>
    .object [("__type", .text "REF"), ("value", .object [("id", .text ref.id), ("label", .text ref.label)])]

def toItems : List FilterState → List Json
  | [] => []
  | member :: rest => member.toJson :: toItems rest

end

end FilterState

end CohortFilter
