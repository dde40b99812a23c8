import CohortFilter.Proofs.Nesting

namespace CohortFilter

namespace Query

def addNested (path : String) (mode : CombineMode) (added : List Query) : List Query → List Query
  | [] => [.nested path mode added]
  | .nested held kept clauses :: rest =>
    if held = path then .nested held kept (clauses ++ added) :: rest
    else .nested held kept clauses :: addNested path mode added rest
  | clause :: rest => clause :: addNested path mode added rest

/-- One nested clause for each path, in the place of the first one on it and with the clauses of all of them in
    their order. Other clauses are kept. -/
def merged (clauses : List Query) : List Query :=
  clauses.foldl (fun done clause =>
    match clause with
    | .nested path mode inner => addNested path mode inner done
    | other => done ++ [other]) []

end Query

namespace Query

theorem addNested_map_nested (mode : CombineMode) (path : String) (clause : Query)
    (groups : List (String × List Query)) :
    addNested path mode [clause] (groups.map fun (path, clauses) => .nested path mode clauses) =
      (Entries.append path clause groups).map fun (path, clauses) => .nested path mode clauses := by
  induction groups with
  | nil => rfl
  | cons group rest ih =>
    rcases group with ⟨held, clauses⟩
    by_cases same : held = path
    · simp [addNested, Entries.append, Entries.extend, same]
    · simp [addNested, Entries.append, Entries.extend, same, ih]

theorem merged_map_nested (mode : CombineMode) (parts : List (String × Query)) :
    merged (parts.map fun (path, clause) => .nested path mode [clause]) =
      (Entries.keys parts).eraseDups.map fun path => .nested path mode (Entries.valuesAt path parts) := by
  have pushed : merged (parts.map fun (path, clause) => .nested path mode [clause]) =
      (parts.foldl (fun groups part => Entries.append part.1 part.2 groups) []).map
        fun (path, clauses) => .nested path mode clauses := by
    induction parts using List.reverseRecOn with
    | nil => rfl
    | append_singleton parts part ih =>
      rw [merged] at ih ⊢
      rw [List.map_append, List.foldl_append, ih, List.foldl_append, List.foldl_cons, List.foldl_nil]
      exact addNested_map_nested mode part.1 part.2 _
  have collected := Entries.foldl_append_eq List.nodup_nil parts
  rw [List.nil_append, List.map_nil] at collected
  rw [pushed, collected, List.map_map]
  rfl

theorem nestedPaths_map_single (mode : CombineMode) (parts : List (String × Query)) :
    nestedPaths (parts.map fun (path, clause) => .nested path mode [clause]) = Entries.keys parts := by
  rw [nestedPaths, List.filterMap_map]
  exact congrFun List.filterMap_eq_map parts

theorem merged_map_nested_eq_self_iff (mode : CombineMode) (parts : List (String × Query)) :
    merged (parts.map fun (path, clause) => .nested path mode [clause]) =
      (parts.map fun (path, clause) => .nested path mode [clause]) ↔ (Entries.keys parts).Nodup := by
  rw [merged_map_nested]
  constructor
  · intro same
    have paths := congrArg nestedPaths same
    rw [nestedPaths_map_nested, nestedPaths_map_single] at paths
    exact Groups.eraseDups_eq_self_iff.mp paths
  · intro distinct
    rw [Groups.eraseDups_eq_self_iff.mpr distinct, Entries.keys, List.map_map]
    refine List.map_congr_left fun part member => ?_
    exact congrArg (nested part.1 mode) (Entries.valuesAt_of_mem distinct member)

end Query

def AnchoredFilter.asFields (fields : List (String × AnchoredFilter)) : List (String × FieldFilter) :=
  fields.map fun (key, filter) => (key, .anchored filter)

namespace AnchoredFilter

variable {fields : List (String × AnchoredFilter)}

theorem plain_asFields (fields : List (String × AnchoredFilter)) : FieldFilter.plain (asFields fields) = [] := by
  rw [FieldFilter.plain, asFields, List.filter_map, List.map_eq_nil_iff, List.filter_eq_nil_iff]
  intro entry _ anchored
  cases anchored

theorem keys_clauseList (filter : AnchoredFilter) : Entries.keys filter.clauseList = Groups.paths filter.fields := by
  rw [clauseList_eq, assembled, Entries.keys, List.map_map]
  exact List.map_id _

theorem keys_flatMap_clauseList (fields : List (String × AnchoredFilter)) :
    Entries.keys (fields.flatMap fun entry => entry.2.clauseList) =
      fields.flatMap fun entry => Groups.paths entry.2.fields := by
  rw [Entries.keys, List.map_flatMap]
  exact List.flatMap_congr fun entry _ => keys_clauseList entry.2

theorem allPaths_asFields (fields : List (String × AnchoredFilter)) :
    FieldFilter.allPaths (asFields fields) =
      (Entries.keys (fields.flatMap fun entry => entry.2.clauseList)).eraseDups := by
  rw [keys_flatMap_clauseList, FieldFilter.allPaths, asFields, List.flatMap_map]
  refine Groups.eraseDups_flatMap_congr fun entry _ => ?_
  exact (Groups.eraseDups_eq_self_iff.mpr (Groups.nodup_paths _)).symm

theorem anchoredAt_asFields (path : String) (fields : List (String × AnchoredFilter)) :
    FieldFilter.anchoredAt path (asFields fields) =
      Entries.valuesAt path (fields.flatMap fun entry => entry.2.clauseList) := by
  rw [FieldFilter.anchoredAt, asFields, List.flatMap_map]
  rfl

theorem clauseList_asFields (mode : CombineMode) (fields : List (String × AnchoredFilter)) :
    FieldFilter.clauseList mode (asFields fields) =
      Query.merged ((fields.flatMap fun entry => entry.2.clauseList).map
        fun (path, clause) => .nested path mode [clause]) := by
  rw [Query.merged_map_nested, FieldFilter.clauseList_eq, FieldFilter.assembled, plain_asFields, allPaths_asFields]
  simp only [anchoredAt_asFields]
  have nothing (path : String) : FieldFilter.clauseList mode (Groups.under path []) = [] :=
    FieldFilter.clauseList_nil mode
  simp only [nothing]
  rfl

theorem nodup_flatMap_paths_iff :
    (fields.flatMap fun entry => Groups.paths entry.2.fields).Nodup ↔
      fields.Pairwise fun one other => (Groups.paths one.2.fields).Disjoint (Groups.paths other.2.fields) := by
  rw [List.nodup_flatMap]
  exact and_iff_right fun entry _ => Groups.nodup_paths entry.2.fields

end AnchoredFilter

namespace FilterState

/-- A standard filter of anchored fields asks what an anchored filter of them asks with its nested clauses merged path
    by path. The two are the same exactly when no two of the fields share a path. -/
theorem compile_standard_eq_merged (mode : Option CombineMode) (fields : List (String × AnchoredFilter))
    (filled : fields ≠ []) :
    ∃ clauses, (anchored mode fields).compile.outcome = .ok (some (.group (mode.getD .and) clauses)) ∧
      (standard mode (AnchoredFilter.asFields fields)).compile.outcome =
        .ok (some (.group (mode.getD .and) (Query.merged clauses))) ∧
      ((standard mode (AnchoredFilter.asFields fields)).compile.outcome = (anchored mode fields).compile.outcome ↔
        fields.Pairwise fun one other => (Groups.paths one.2.fields).Disjoint (Groups.paths other.2.fields)) := by
  have named : AnchoredFilter.asFields fields ≠ [] := fun none => filled (List.map_eq_nil_iff.mp none)
  have compiled := outcome_compile_standard mode named
  rw [AnchoredFilter.clauseList_asFields] at compiled
  refine ⟨_, outcome_compile_anchored mode filled, compiled, ?_⟩
  rw [compiled, outcome_compile_anchored mode filled, ← AnchoredFilter.nodup_flatMap_paths_iff,
    ← AnchoredFilter.keys_flatMap_clauseList, ← Query.merged_map_nested_eq_self_iff (mode.getD .and)]
  simp only [Except.ok.injEq, Option.some.injEq, Query.group.injEq, true_and]

def sharedVisits : List (String × AnchoredFilter) := [
  ("patient:p1", ⟨"patient", "p1", none, [
    ("visit.day", .option ⟨some ["mon"], .containsAny, none⟩), ("lab.code", .option ⟨some ["K"], .containsAny, none⟩)]⟩),
  ("ward:w", ⟨"ward", "w", none, [("age", .option ⟨some ["40"], .containsAny, none⟩)]⟩),
  ("site:s", ⟨"site", "s", some .or, [("visit.kind", .option ⟨some ["first"], .containsAny, none⟩)]⟩)]

theorem compile_standard_eq_merged_visits : sharedVisits ≠ [] ∧
    ∃ clauses, (anchored (some .or) sharedVisits).compile.outcome = .ok (some (.group .or clauses)) ∧
      (standard (some .or) (AnchoredFilter.asFields sharedVisits)).compile.outcome =
        .ok (some (.group .or (Query.merged clauses))) ∧
      Query.nestedPaths clauses = ["visit", "lab", "visit"] ∧
      Query.nestedPaths (Query.merged clauses) = ["visit", "lab"] ∧
      (standard (some .or) (AnchoredFilter.asFields sharedVisits)).compile.outcome ≠
        (anchored (some .or) sharedVisits).compile.outcome := by
  have filled : sharedVisits ≠ [] := List.cons_ne_nil _ _
  rcases compile_standard_eq_merged (some .or) sharedVisits filled with ⟨clauses, apart, joined, same⟩
  have parts := (outcome_compile_anchored (some .or) filled).symm.trans apart
  simp only [Except.ok.injEq, Option.some.injEq, Query.group.injEq] at parts
  refine ⟨filled, clauses, apart, joined, ?_, ?_, fun equal => ?_⟩
  · rw [← parts.2, Query.nestedPaths_map_single, AnchoredFilter.keys_flatMap_clauseList]
    decide
  · rw [← parts.2, Query.merged_map_nested, Query.nestedPaths_map_nested, AnchoredFilter.keys_flatMap_clauseList]
    decide
  · have apart := (List.pairwise_cons.mp (same.mp equal)).1 _ (List.mem_cons_of_mem _ List.mem_cons_self)
    exact apart (a := "visit") (by decide) (by decide)

end FilterState

end CohortFilter
