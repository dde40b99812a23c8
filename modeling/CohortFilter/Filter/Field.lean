import CohortFilter.Entries
import CohortFilter.Mode

namespace CohortFilter

/-- Without selected values the filter is a placeholder that only notes a combine mode. -/
structure OptionFilter where
  selectedValues : Option (List String)
  filterMode : FilterMode
  combineMode : Option CombineMode
deriving DecidableEq

structure RangeFilter where
  lowerBound : Number
  upperBound : Number

mutual

inductive FieldFilter
  | option (filter : OptionFilter)
  | range (filter : RangeFilter)
  | anchored (filter : AnchoredFilter)

structure AnchoredFilter where
  anchorField : String
  anchorValue : String
  combineMode : Option CombineMode
  fields : List (String × FieldFilter)

end

namespace OptionFilter

def isPlaceholder (filter : OptionFilter) : Bool := filter.selectedValues.isNone

def values (filter : OptionFilter) : List String := filter.selectedValues.getD []

end OptionFilter

def AnchoredFilter.key (filter : AnchoredFilter) : String := filter.anchorField ++ ":" ++ filter.anchorValue

def RangeFilter.same (left right : RangeFilter) : Bool :=
  left.lowerBound.numericEq right.lowerBound && left.upperBound.numericEq right.upperBound

mutual

def FieldFilter.same : FieldFilter → FieldFilter → Bool
  | .option left, .option right => left == right
  | .range left, .range right => left.same right
  | .anchored left, .anchored right => left.same right
  | _, _ => false

def AnchoredFilter.same : AnchoredFilter → AnchoredFilter → Bool
  | ⟨field, value, mode, fields⟩, right =>
    field == right.anchorField && value == right.anchorValue && mode == right.combineMode &&
      fields.length == right.fields.length && FieldFilter.allIn fields right.fields

def FieldFilter.allIn : List (String × FieldFilter) → List (String × FieldFilter) → Bool
  | [], _ => true
  | (key, left) :: rest, others =>
    (match others.lookup key with
      | some right => left.same right
      | none => false) && FieldFilter.allIn rest others

end

def Json.modeMember : Option CombineMode → List (String × Json)
  | some mode => [("__combineMode", mode.toJson)]
  | none => []

def OptionFilter.toJson (filter : OptionFilter) : Json :=
  .object ([("__type", .text "OPTION")] ++
    (match filter.selectedValues with
      | some values => [("selectedValues", .texts values)]
      | none => []) ++
    [("filterMode", filter.filterMode.toJson)] ++ Json.modeMember filter.combineMode)

def RangeFilter.toJson (filter : RangeFilter) : Json :=
  .object [("__type", .text "RANGE"), ("lowerBound", .number filter.lowerBound),
    ("upperBound", .number filter.upperBound)]

mutual

def FieldFilter.toJson : FieldFilter → Json
  | .option filter => filter.toJson
  | .range filter => filter.toJson
  | .anchored filter => filter.toJson

def AnchoredFilter.toJson : AnchoredFilter → Json
  | ⟨_, _, mode, fields⟩ =>
    .object ([("__type", .text "ANCHORED")] ++ Json.modeMember mode ++
      [("value", .object (FieldFilter.toMembers fields))])

def FieldFilter.toMembers : List (String × FieldFilter) → List (String × Json)
  | [] => []
  | (key, filter) :: rest => (key, filter.toJson) :: FieldFilter.toMembers rest

end

end CohortFilter
