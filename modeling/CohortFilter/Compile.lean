import CohortFilter.Filter.State
import CohortFilter.Filter.Field
import CohortFilter.Fault
import CohortFilter.Key
import CohortFilter.Query
import CohortFilter.Resolve
import CohortFilter.Warning

namespace CohortFilter

namespace OptionFilter

/-- Each value is asked for by itself where all of them must be contained. A list without values is
    still a clause, which nothing meets; a placeholder is none. -/
def clauses (field : String) (filter : OptionFilter) : List Query :=
  match filter.selectedValues with
  | none => []
  | some values =>
    match filter.filterMode, filter.combineMode.getD .or, values with
    | .containsAny, .and, first :: rest =>
      [.all ((first :: rest).map fun value => .matching .containsAny field [value])]
    | mode, _, values => [.matching mode field values]

end OptionFilter

namespace RangeFilter

def clauses (field : String) (filter : RangeFilter) : List Query :=
  [.all [.atLeast field filter.lowerBound, .atMost field filter.upperBound]]

end RangeFilter

namespace AnchoredFilter

def anchor (filter : AnchoredFilter) : Query :=
  .matching .containsAny filter.anchorField [filter.anchorValue]

end AnchoredFilter

namespace FieldFilter

def clauses (field : String) : FieldFilter → Except FilterError (List Query)
  | .option filter => .ok (filter.clauses field)
  | .range filter => .ok (filter.clauses field)
  | .anchored filter => .error (.invalidValue field filter.toJson)

def isAnchored : FieldFilter → Bool
  | .anchored _ => true
  | .option _ | .range _ => false

def plain (entries : List (String × FieldFilter)) : List (String × FieldFilter) :=
  entries.filter fun (_, filter) => !filter.isAnchored

def paths (key : String) : FieldFilter → List String
  | .anchored filter => filter.fields.filterMap fun (key, _) => Key.parent? key
  | .option _ | .range _ => (Key.parent? key).toList

end FieldFilter

mutual

def FieldFilter.weight : FieldFilter → Nat
  | .option _ | .range _ => 0
  | .anchored filter => filter.weight

def AnchoredFilter.weight : AnchoredFilter → Nat
  | ⟨_, _, _, fields⟩ => 1 + FieldFilter.totalWeight fields

def FieldFilter.totalWeight : List (String × FieldFilter) → Nat
  | [] => 0
  | (key, filter) :: rest => key.length + filter.weight + FieldFilter.totalWeight rest

end

namespace FieldFilter

theorem totalWeight_eq (entries : List (String × FieldFilter)) :
    totalWeight entries = Groups.entriesWeight weight entries := by
  induction entries with
  | nil => rfl
  | cons entry rest ih => simp [totalWeight, Groups.entriesWeight, Groups.entryWeight, ih]

theorem totalWeight_plain (entries : List (String × FieldFilter)) :
    totalWeight (plain entries) ≤ totalWeight entries := by
  unfold plain
  induction entries with
  | nil => simp [totalWeight]
  | cons entry rest ih =>
    obtain ⟨key, filter⟩ := entry
    by_cases anchored : filter.isAnchored <;> simp [anchored, totalWeight] at ih ⊢ <;> omega

theorem totalWeight_of_mem_nested {entries : List (String × FieldFilter)}
    {group : String × List (String × FieldFilter)}
    (member : group ∈ (Groups.ofEntries entries).nested) : totalWeight group.2 < totalWeight entries := by
  rw [totalWeight_eq, totalWeight_eq]
  exact Groups.entriesWeight_of_mem_nested member

theorem weight_of_mem {entries : List (String × FieldFilter)} {entry : String × FieldFilter}
    (member : entry ∈ entries) : entry.2.weight ≤ totalWeight entries := by
  induction entries with
  | nil => cases member
  | cons head rest ih =>
    obtain ⟨key, filter⟩ := head
    simp only [totalWeight]
    rcases List.mem_cons.mp member with rfl | member
    · simp
      omega
    · have := ih member
      omega

end FieldFilter

/-- The clauses of fields that stand together: those without a path, and those under each path. -/
structure ClauseList where
  main : List Query
  nested : List (String × List Query)

namespace ClauseList

def empty : ClauseList := ⟨[], []⟩

def addMain (clauses : ClauseList) (added : List Query) : ClauseList :=
  { clauses with main := clauses.main ++ added }

def extend (clauses : ClauseList) (path : String) (added : List Query) : ClauseList :=
  { clauses with nested := Entries.extend path added clauses.nested }

def reserve (clauses : ClauseList) (path : String) : ClauseList := clauses.extend path []

def push (clauses : ClauseList) (path : String) (clause : Query) : ClauseList := clauses.extend path [clause]

def finish (mode : CombineMode) (clauses : ClauseList) : List Query :=
  clauses.main ++ clauses.nested.map fun (path, held) => .nested path mode held

end ClauseList

mutual

/-- Paths are reserved in the order in which the fields show them, inside anchored filters too, before any clause is
    made. So the clauses of plain fields stand in front of those of anchored filters, whatever comes first. -/
def FieldFilter.compile (mode : CombineMode) (entries : List (String × FieldFilter)) :
    Warned FilterError (List Query) := do
  let reserved := (entries.flatMap fun (key, filter) => filter.paths key).foldl ClauseList.reserve .empty
  let groups := Groups.ofEntries (FieldFilter.plain entries)
  let main ← groups.main.foldlM (fun clauses (key, filter) => do
    return clauses.addMain (← Warned.ofExcept (filter.clauses key))) reserved
  let grouped ← groups.nested.attach.foldlM (fun clauses ⟨(path, members), _⟩ => do
    return clauses.extend path (← FieldFilter.compile mode members)) main
  let all ← entries.attach.foldlM (fun clauses ⟨(_, filter), _⟩ =>
    match filter with
    | .anchored filter => do
      return (← filter.compile).foldl (fun clauses (path, clause) => clauses.push path clause) clauses
    | _ => pure clauses) grouped
  return all.finish mode
termination_by 2 * FieldFilter.totalWeight entries + 1
decreasing_by
  · rename_i member
    have lighter := FieldFilter.totalWeight_of_mem_nested member
    have bound := FieldFilter.totalWeight_plain entries
    simp only at lighter
    omega
  · rename_i member
    have bound := FieldFilter.weight_of_mem member
    simp only [FieldFilter.weight] at bound
    omega

/-- For each path of the anchored fields one clause, which asks for the anchor and for the fields of
    that path. Fields without a path have no place and are left out. -/
def AnchoredFilter.compile (anchored : AnchoredFilter) : Warned FilterError (List (String × Query)) := do
  let mode := anchored.combineMode.getD .and
  let groups := Groups.ofEntries anchored.fields
  unless groups.main.isEmpty do Warned.warn (.unanchoredFields anchored.key (Entries.keys groups.main))
  groups.nested.attach.mapM fun ⟨(path, members), _⟩ => do
    return (path, .all [anchored.anchor, .group mode (← FieldFilter.compile mode members)])
termination_by 2 * anchored.weight
decreasing_by
  rename_i member
  have lighter := FieldFilter.totalWeight_of_mem_nested member
  cases anchored
  simp only [AnchoredFilter.weight] at lighter ⊢
  omega

end

namespace FilterState

mutual

/-- An empty filter has no query. As a member of a composed filter it is met by every record. In an
    anchored filter each key keeps nested clauses of its own, even where paths repeat. -/
def compile (state : FilterState) : Warned FilterError (Option Query) :=
  match state with
  | .empty => pure none
  | .standard _ [] => pure none
  | .standard mode (entry :: rest) => do
    let clauses ← FieldFilter.compile (mode.getD .and) (entry :: rest)
    return some (.group (mode.getD .and) clauses)
  | .anchored _ [] => pure none
  | .anchored mode (entry :: rest) => do
    let clauses ← (entry :: rest).mapM fun (_, filter) => filter.compile
    return some (.group (mode.getD .and)
      (clauses.flatten.map fun (path, clause) => .nested path (mode.getD .and) [clause]))
  | .composed _ _ [] => pure none
  | .composed mode _ (member :: rest) => do
    return some (.group (mode.getD .and) ((← member.compile).getD (.all []) :: (← compileMembers rest)))
  | .reference ref => Warned.fail (.unresolvedReference ref.id)

def compileMembers : List FilterState → Warned FilterError (List Query)
  | [] => pure []
  | member :: rest => do return (← member.compile).getD (.all []) :: (← compileMembers rest)

end

def compileIn (workspace : Workspace) (depth : DepthLimit) (state : FilterState) :
    Warned FilterError (Option Query) := do
  (← Warned.ofExcept (state.resolve workspace depth)).compile

end FilterState

end CohortFilter
