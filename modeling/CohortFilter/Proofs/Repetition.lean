import Mathlib.Data.List.Count
import CohortFilter.Proofs.Merging
import CohortFilter.Proofs.Restriction

namespace CohortFilter

namespace Query

theorem count_nestedPaths_eq_zero_iff {path : String} {clauses : List Query} :
    (nestedPaths clauses).count path = 0 ↔ ∀ clause ∈ clauses, clause.nestedPath? ≠ some path := by
  simp [nestedPaths, List.count_eq_zero]

theorem count_nestedPaths_parts (path : String) (mode : CombineMode) (front inner back : List Query) :
    (nestedPaths (front ++ .nested path mode inner :: back)).count path =
      (nestedPaths front).count path + ((nestedPaths back).count path + 1) := by
  rw [nestedPaths_append, List.count_append]
  exact congrArg _ List.count_cons_self

/-- If the clause is nested on the path, a related record has to meet the anchor beside all else that it asks. -/
def Narrowed (path : String) (clause anchor : Query) : Prop :=
  clause.nestedPath? = some path → ∃ inner, clause = .nested path .and inner ∧ anchor ∈ inner

theorem narrowed_of_ne {path : String} {clause anchor : Query} (other : clause.nestedPath? ≠ some path) :
    clause.Narrowed path anchor :=
  fun here => absurd here other

end Query

namespace QueryInfo

variable {path : String} {anchor : Query} {clauses : List Query}

theorem conjuncts_all (clauses : List Query) : conjuncts (some (.all clauses)) = clauses := rfl

theorem exists_narrowed_eq (path : String) (anchor : Query) (mode : CombineMode) (clauses : List Query) :
    ∃ inner, narrowed path anchor mode clauses = .nested path .and inner ∧ anchor ∈ inner := by
  cases mode with
  | and => exact ⟨_, rfl, List.mem_append_right _ List.mem_cons_self⟩
  | or => exact ⟨_, rfl, List.mem_cons_of_mem _ List.mem_cons_self⟩

theorem restrict_parts (path : String) (anchor : Query) (clauses : List Query) :
    ∃ front inner back, restrict path anchor clauses = front ++ .nested path .and inner :: back ∧ anchor ∈ inner ∧
      (∀ clause ∈ front, clause.nestedPath? ≠ some path) ∧ back <:+ clauses ∧
      (Query.nestedPaths back).count path = (Query.nestedPaths clauses).count path - 1 := by
  rcases Query.nested_cases path clauses with absent | ⟨front, mode, clauses, back, rfl, first⟩
  · have none := Query.count_nestedPaths_eq_zero_iff.mpr absent
    refine ⟨clauses, [anchor], [], restrict_of_absent absent, List.mem_cons_self, absent, List.nil_suffix, ?_⟩
    rw [none]
    rfl
  · rcases exists_narrowed_eq path anchor mode clauses with ⟨inner, made, asked⟩
    refine ⟨front, inner, back, ?_, asked, first, ?_, ?_⟩
    · rw [restrict_append first, restrict_cons_nested, made]
    · exact (List.suffix_cons _ back).trans (List.suffix_append front _)
    · rw [Query.count_nestedPaths_parts, Query.count_nestedPaths_eq_zero_iff.mpr first]
      omega

theorem narrowed_of_mem_restrict (once : (Query.nestedPaths clauses).count path ≤ 1) {part : Query}
    (member : part ∈ restrict path anchor clauses) : part.Narrowed path anchor := by
  rcases restrict_parts path anchor clauses with ⟨front, inner, back, parts, asked, first, -, count⟩
  have last : (Query.nestedPaths back).count path = 0 := by omega
  rw [parts] at member
  rcases List.mem_append.mp member with early | member
  · exact Query.narrowed_of_ne (first part early)
  · rcases List.mem_cons.mp member with rfl | late
    · exact fun _ => ⟨inner, rfl, asked⟩
    · exact Query.narrowed_of_ne (Query.count_nestedPaths_eq_zero_iff.mp last part late)

theorem exists_not_narrowed (apart : ∀ mode inner, .nested path mode inner ∈ clauses → anchor ∉ inner)
    (again : 1 < (Query.nestedPaths clauses).count path) :
    ∃ part ∈ restrict path anchor clauses, part.nestedPath? = some path ∧ anchor ∉ part.parts := by
  rcases restrict_parts path anchor clauses with ⟨front, inner, back, parts, -, -, behind, count⟩
  by_contra all
  have none : (Query.nestedPaths back).count path = 0 := by
    refine Query.count_nestedPaths_eq_zero_iff.mpr fun clause member here => all ⟨clause, ?_, here, ?_⟩
    · rw [parts]
      exact List.mem_append_right _ (List.mem_cons_of_mem _ member)
    · cases clause with
      | nested held mode inner =>
        cases here
        exact apart mode inner (behind.subset member)
      | group | matching | atLeast | atMost => cases here
  omega

end QueryInfo

namespace FilterState

theorem count_nestedPaths_le_one {state : FilterState} {clauses : List Query} {outer : CombineMode}
    (compiled : state.compile.outcome = .ok (some (.group outer clauses)))
    (plain : ∀ mode fields, state ≠ .anchored mode fields) (path : String) :
    (Query.nestedPaths clauses).count path ≤ 1 := by
  rcases nestsOnce_of_compile compiled [] _ rfl with distinct | ⟨mode, fields, found, -⟩
  · exact List.nodup_iff_count_le_one.mp distinct path
  · exact absurd (Option.some.inj found) (plain mode fields)

section Anchored

variable {mode : Option CombineMode} {fields : List (String × AnchoredFilter)} {clauses : List Query}
  {outer : CombineMode}

theorem clauses_of_compile_anchored
    (compiled : (anchored mode fields).compile.outcome = .ok (some (.group outer clauses))) :
    clauses = (fields.flatMap fun entry => entry.2.clauseList).map
      fun (path, clause) => .nested path (mode.getD .and) [clause] := by
  have filled : fields ≠ [] := by
    rintro rfl
    cases compiled
  rw [outcome_compile_anchored mode filled] at compiled
  cases compiled
  rfl

theorem count_nestedPaths_of_anchored
    (compiled : (anchored mode fields).compile.outcome = .ok (some (.group outer clauses))) (path : String) :
    (Query.nestedPaths clauses).count path = fields.countP fun entry => path ∈ Groups.paths entry.2.fields := by
  rw [clauses_of_compile_anchored compiled, Query.nestedPaths_map_single, AnchoredFilter.keys_flatMap_clauseList,
    List.count_flatMap]
  clear compiled
  induction fields with
  | nil => rfl
  | cons entry rest ih =>
    rw [List.map_cons, List.sum_cons, ih, List.countP_cons, Function.comp_apply,
      (Groups.nodup_paths entry.2.fields).count]
    simp only [decide_eq_true_eq]
    omega

theorem eq_group_of_mem_nested
    (compiled : (anchored mode fields).compile.outcome = .ok (some (.group outer clauses))) {path : String}
    {held : CombineMode} {inner : List Query} (member : .nested path held inner ∈ clauses) :
    ∃ asked, inner = [.all asked] := by
  rw [clauses_of_compile_anchored compiled] at member
  rcases List.mem_map.mp member with ⟨⟨place, clause⟩, standing, same⟩
  rcases List.mem_flatMap.mp standing with ⟨entry, -, standing⟩
  rcases AnchoredFilter.mem_clauseList.mp standing with ⟨-, rfl⟩
  cases same
  exact ⟨_, rfl⟩

theorem matching_not_mem_nested
    (compiled : (anchored mode fields).compile.outcome = .ok (some (.group outer clauses))) {path : String}
    {held : CombineMode} {inner : List Query} (member : .nested path held inner ∈ clauses) (asked : FilterMode)
    (field : String) (values : List String) : .matching asked field values ∉ inner := by
  rcases eq_group_of_mem_nested compiled member with ⟨asked, rfl⟩
  simp [Query.all]

end Anchored

end FilterState

namespace QueryInfo

/-- In the filter of a group, the first clause on its path asks for the anchor. All clauses there do if and only if the
    caller's filter is not one of anchored fields of which two show the path. -/
theorem groupFilter_narrows_iff (state : FilterState) (clauses : List Query)
    (compiled : state.compile.outcome = .ok (some (.all clauses))) (tabs : List FilterTab) (config : AnchorConfig)
    (value path : String) (beside : path ≠ mainGroup)
    (planned : path ∈ Entries.keys (fieldsOf (Anchor.ofChoice? (some config) (some value)) tabs)) :
    ∃ parts, (plan tabs (Anchor.ofChoice? (some config) (some value)) (some (.all clauses))).filterByGroup.lookup
        (filterKey path) = some (some (.all parts)) ∧
      (∃ front inner back, parts = front ++ .nested path .and inner :: back ∧
        .matching .containsAny config.field [value] ∈ inner ∧ (∀ part ∈ front, part.nestedPath? ≠ some path) ∧
        back <:+ clauses) ∧
      ((∀ part ∈ parts, part.nestedPath? = some path →
          ∃ inner, part = .nested path .and inner ∧ .matching .containsAny config.field [value] ∈ inner) ↔
        ∀ mode fields, state = .anchored mode fields →
          (fields.countP fun entry => path ∈ Groups.paths entry.2.fields) ≤ 1) := by
  have member : path ∈ pathGroups (requested (some config) (some value) tabs) :=
    (List.mem_cons.mp (keys_fieldsOf (some config) (some value) tabs ▸ planned)).resolve_left beside
  rcases lookup_filterByGroup member (some (.all clauses)) with ⟨anchor, chosen, found⟩
  have asked : anchor.clause = .matching .containsAny config.field [value] := by
    rw [Anchor.eq_of_ofChoice? chosen, Anchor.clause]
  rw [groupFilter, asked, conjuncts_all] at found
  rcases restrict_parts path (.matching .containsAny config.field [value]) clauses with
    ⟨front, inner, back, parts, held, first, behind, -⟩
  refine ⟨_, found, ⟨front, inner, back, parts, held, first, behind⟩, fun all => ?_, fun once => ?_⟩
  · rintro mode fields rfl
    rw [← FilterState.count_nestedPaths_of_anchored compiled]
    by_contra again
    rcases exists_not_narrowed (fun held inner standing => FilterState.matching_not_mem_nested compiled standing _ _ _)
      (Nat.lt_of_not_le again) with ⟨part, standing, here, without⟩
    rcases all part standing here with ⟨inner, rfl, within⟩
    exact without within
  · intro part standing
    refine narrowed_of_mem_restrict ?_ standing
    by_cases anchored : ∃ mode fields, state = .anchored mode fields
    · rcases anchored with ⟨mode, fields, rfl⟩
      rw [FilterState.count_nestedPaths_of_anchored compiled]
      exact once mode fields rfl
    · exact FilterState.count_nestedPaths_le_one compiled (fun mode fields same => anchored ⟨mode, fields, same⟩) path

open FilterState in
theorem groupFilter_narrows_iff_labs :
    let anchor := Anchor.ofChoice? (some ⟨"patient", ["p1"], ["Labs"]⟩) (some "p1")
    "lab" ≠ mainGroup ∧ "lab" ∈ Entries.keys (fieldsOf anchor visitTabs) ∧
      ∃ clauses parts, (anchored none sharedVisits).compile.outcome = .ok (some (.all clauses)) ∧
        (plan visitTabs anchor (some (.all clauses))).filterByGroup.lookup "filter_lab" = some (some (.all parts)) ∧
        ∀ part ∈ parts, part.nestedPath? = some "lab" →
          ∃ inner, part = .nested "lab" .and inner ∧ .matching .containsAny "patient" ["p1"] ∈ inner := by
  intro anchor
  have beside : "lab" ≠ mainGroup := by decide
  have planned : "lab" ∈ Entries.keys (fieldsOf anchor visitTabs) := by decide
  have compiled := outcome_compile_anchored none (List.cons_ne_nil _ _ : sharedVisits ≠ [])
  rcases groupFilter_narrows_iff (anchored none sharedVisits) _ compiled visitTabs ⟨"patient", ["p1"], ["Labs"]⟩ "p1"
    "lab" beside planned with ⟨parts, found, -, all⟩
  refine ⟨beside, planned, _, parts, compiled, found, all.mpr ?_⟩
  intro mode fields same
  cases same
  decide

open FilterState in
/-- Visits of the second of these fields count without the anchor. -/
theorem groupFilter_leaves_visits :
    let anchor := Anchor.ofChoice? (some ⟨"patient", ["p1"], ["Labs"]⟩) (some "p1")
    "visit" ≠ mainGroup ∧ "visit" ∈ Entries.keys (fieldsOf anchor visitTabs) ∧
      ∃ clauses parts, (anchored none sharedVisits).compile.outcome = .ok (some (.all clauses)) ∧
        (plan visitTabs anchor (some (.all clauses))).filterByGroup.lookup "filter_visit" = some (some (.all parts)) ∧
        ∃ part ∈ parts, part.nestedPath? = some "visit" ∧
          .matching .containsAny "patient" ["p1"] ∉ part.parts := by
  intro anchor
  have beside : "visit" ≠ mainGroup := by decide
  have planned : "visit" ∈ Entries.keys (fieldsOf anchor visitTabs) := by decide
  have compiled := outcome_compile_anchored none (List.cons_ne_nil _ _ : sharedVisits ≠ [])
  have twice := count_nestedPaths_of_anchored compiled "visit"
  have member : "visit" ∈ pathGroups (requested (some ⟨"patient", ["p1"], ["Labs"]⟩) (some "p1") visitTabs) := by decide
  rcases lookup_filterByGroup member (some (.all _)) with ⟨chosen, same, found⟩
  rw [groupFilter, conjuncts_all, Anchor.eq_of_ofChoice? same] at found
  refine ⟨beside, planned, _, _, compiled, found, ?_⟩
  refine exists_not_narrowed (fun held inner standing => matching_not_mem_nested compiled standing _ _ _) ?_
  rw [twice]
  decide

end QueryInfo

end CohortFilter
