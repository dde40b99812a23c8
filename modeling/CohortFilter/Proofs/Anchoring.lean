import CohortFilter.Proofs.Leaves
import CohortFilter.Proofs.Nesting
import CohortFilter.Proofs.Restriction

namespace CohortFilter

theorem Key.split?_dotted {path rest : String} (dotless : '.' ∉ path.toList) :
    split? '.' (path ++ "." ++ rest) = some (path, rest) :=
  split?_point_iff.mpr ⟨dotless, rfl⟩

namespace FieldFilter

variable {entries : List (String × FieldFilter)} {key path rest : String} {filter : FieldFilter}

theorem plain_concat (entries : List (String × FieldFilter)) (key : String) (unanchored : filter.isAnchored = false) :
    plain (entries ++ [(key, filter)]) = plain entries ++ [(key, filter)] := by
  simp [plain, unanchored]

theorem paths_of_plain (unanchored : filter.isAnchored = false) : filter.paths key = (Key.parent? key).toList := by
  cases filter with
  | option | range => rfl
  | anchored => cases unanchored

theorem anchoredAt_concat (held : String) (entries : List (String × FieldFilter)) (key : String)
    (unanchored : filter.isAnchored = false) :
    anchoredAt held (entries ++ [(key, filter)]) = anchoredAt held entries := by
  have bare : filter.anchoredClauses = [] := by
    cases filter with
    | option | range => rfl
    | anchored => cases unanchored
  simp [anchoredAt, bare]

theorem anchoredAt_eq_nil (absent : path ∉ allPaths entries) : anchoredAt path entries = [] := by
  refine List.filterMap_eq_nil_iff.mpr fun part member => if_neg ?_
  rintro rfl
  exact absent (anchored_path_mem member)

theorem allPaths_concat (found : Key.split? '.' key = some (path, rest)) (unanchored : filter.isAnchored = false) :
    allPaths (entries ++ [(key, filter)]) = allPaths entries ++ if path ∈ allPaths entries then [] else [path] := by
  rw [allPaths, List.flatMap_append, List.flatMap_singleton, paths_of_plain unanchored, Key.parent?_of_split? found]
  rw [Option.toList_some, Groups.eraseDups_concat, allPaths]
  simp only [List.mem_eraseDups]

def clauseUnder (mode : CombineMode) (entries : List (String × FieldFilter)) (path : String) : Query :=
  .nested path mode (clauseList mode (Groups.under path (plain entries)) ++ anchoredAt path entries)

theorem clauseList_eq_append (mode : CombineMode) (entries : List (String × FieldFilter)) :
    clauseList mode entries =
      (Groups.undotted (plain entries)).flatMap (fun entry => entry.2.ownClauses entry.1) ++
        (allPaths entries).map (clauseUnder mode entries) :=
  clauseList_eq mode entries

theorem under_plain_concat (held : String) (entries : List (String × FieldFilter))
    (found : Key.split? '.' key = some (path, rest)) (unanchored : filter.isAnchored = false) :
    Groups.under held (plain (entries ++ [(key, filter)])) =
      if path = held then Groups.under held (plain entries) ++ [(rest, filter)]
      else Groups.under held (plain entries) := by
  rw [plain_concat entries key unanchored]
  exact Groups.under_concat_of_some held found

theorem clauseUnder_concat_of_ne (mode : CombineMode) (entries : List (String × FieldFilter)) {held : String}
    (found : Key.split? '.' key = some (path, rest)) (unanchored : filter.isAnchored = false) (other : held ≠ path) :
    clauseUnder mode (entries ++ [(key, filter)]) held = clauseUnder mode entries held := by
  rw [clauseUnder, under_plain_concat held entries found unanchored, if_neg other.symm,
    anchoredAt_concat held entries key unanchored, clauseUnder]

theorem clauseUnder_concat_self (mode : CombineMode) (entries : List (String × FieldFilter))
    (found : Key.split? '.' key = some (path, rest)) (unanchored : filter.isAnchored = false) :
    clauseUnder mode (entries ++ [(key, filter)]) path =
      .nested path mode (clauseList mode (Groups.under path (plain entries) ++ [(rest, filter)]) ++
        anchoredAt path entries) := by
  rw [clauseUnder, under_plain_concat path entries found unanchored, if_pos rfl,
    anchoredAt_concat path entries key unanchored]

theorem undotted_plain_concat (entries : List (String × FieldFilter))
    (found : Key.split? '.' key = some (path, rest)) (unanchored : filter.isAnchored = false) :
    Groups.undotted (plain (entries ++ [(key, filter)])) = Groups.undotted (plain entries) := by
  rw [plain_concat entries key unanchored, Groups.undotted, List.filter_append, Groups.undotted]
  simp [Key.mem_of_split? found]

theorem nestedPath?_of_mem_undotted {clause : Query}
    (member : clause ∈ (Groups.undotted (plain entries)).flatMap fun entry => entry.2.ownClauses entry.1) :
    clause.nestedPath? = none := by
  rcases List.mem_flatMap.mp member with ⟨entry, _, own⟩
  exact (Query.unnested_iff.mp (unnested_of_mem_ownClauses own)).1

theorem nestedPath?_ne_of_mem {mode : CombineMode} {names : List String} (absent : path ∉ names) {clause : Query}
    (member : clause ∈ names.map (clauseUnder mode entries)) : clause.nestedPath? ≠ some path := by
  rcases List.mem_map.mp member with ⟨held, standing, rfl⟩
  intro same
  cases same
  exact absent standing

theorem clauseList_concat_of_mem (mode : CombineMode) (found : Key.split? '.' key = some (path, rest))
    (unanchored : filter.isAnchored = false) (member : path ∈ allPaths entries) :
    ∃ front back, (∀ clause ∈ front ++ back, clause.nestedPath? ≠ some path) ∧
      clauseList mode entries = front ++ clauseUnder mode entries path :: back ∧
      clauseList mode (entries ++ [(key, filter)]) =
        front ++ clauseUnder mode (entries ++ [(key, filter)]) path :: back := by
  rcases List.mem_iff_append.mp member with ⟨before, after, parts⟩
  have distinct : (allPaths entries).Nodup := Groups.nodup_eraseDups _
  rw [parts, List.nodup_append] at distinct
  rcases distinct with ⟨-, behind, apart⟩
  have early : path ∉ before := fun held => apart path held path List.mem_cons_self rfl
  have late : path ∉ after := (List.nodup_cons.mp behind).1
  have kept {names : List String} (absent : path ∉ names) :
      names.map (clauseUnder mode (entries ++ [(key, filter)])) = names.map (clauseUnder mode entries) := by
    refine List.map_congr_left fun held standing => ?_
    exact clauseUnder_concat_of_ne mode entries found unanchored fun same => absent (same ▸ standing)
  refine ⟨(Groups.undotted (plain entries)).flatMap (fun entry => entry.2.ownClauses entry.1) ++
    before.map (clauseUnder mode entries), after.map (clauseUnder mode entries), ?_, ?_, ?_⟩
  · intro clause held
    rcases List.mem_append.mp held with front | back
    · rcases List.mem_append.mp front with own | front
      · simp [nestedPath?_of_mem_undotted own]
      · exact nestedPath?_ne_of_mem early front
    · exact nestedPath?_ne_of_mem late back
  · rw [clauseList_eq_append, parts, List.map_append, List.map_cons, List.append_assoc]
  · rw [clauseList_eq_append, undotted_plain_concat entries found unanchored, allPaths_concat found unanchored,
      if_pos member, List.append_nil, parts, List.map_append, List.map_cons, kept early, kept late, List.append_assoc]

theorem clauseList_concat_of_not_mem (mode : CombineMode) (found : Key.split? '.' key = some (path, rest))
    (unanchored : filter.isAnchored = false) (absent : path ∉ allPaths entries) :
    clauseList mode (entries ++ [(key, filter)]) =
      clauseList mode entries ++ [.nested path mode (clauseList mode [(rest, filter)])] := by
  have bare : Groups.under path (plain entries) = [] :=
    Groups.under_eq_nil fun member => absent (paths_plain_subset member)
  have kept : (allPaths entries).map (clauseUnder mode (entries ++ [(key, filter)])) =
      (allPaths entries).map (clauseUnder mode entries) := by
    refine List.map_congr_left fun held standing => ?_
    exact clauseUnder_concat_of_ne mode entries found unanchored fun same => absent (same ▸ standing)
  rw [clauseList_eq_append, undotted_plain_concat entries found unanchored, allPaths_concat found unanchored,
    if_neg absent, List.map_append, kept, List.map_singleton, clauseUnder_concat_self mode entries found unanchored,
    bare, anchoredAt_eq_nil absent, List.nil_append, List.append_nil, ← List.append_assoc, ← clauseList_eq_append]

theorem clauseList_concat_perm (mode : CombineMode) (plain : ∀ entry ∈ entries, entry.2.isAnchored = false)
    (found : Key.split? '.' key = none) (unanchored : filter.isAnchored = false) :
    (clauseList mode (entries ++ [(key, filter)])).Perm (clauseList mode entries ++ filter.ownClauses key) := by
  have plain' : ∀ entry ∈ entries ++ [(key, filter)], entry.2.isAnchored = false :=
    List.forall_mem_append.mpr ⟨plain, List.forall_mem_singleton.mpr unanchored⟩
  have main : Groups.undotted (entries ++ [(key, filter)]) = Groups.undotted entries ++ [(key, filter)] := by
    simp [Groups.undotted, Key.split?_eq_none_iff.mp found]
  have under (path : String) : Groups.under path (entries ++ [(key, filter)]) = Groups.under path entries :=
    Groups.under_concat_of_none path found
  have paths : Groups.paths (entries ++ [(key, filter)]) = Groups.paths entries := Groups.paths_concat_of_none found
  rw [clauseList_of_plain mode plain, clauseList_of_plain mode plain', main, paths]
  simp only [under, List.flatMap_append, List.flatMap_singleton, List.append_assoc]
  exact List.Perm.append_left _ List.perm_append_comm

theorem clauseList_singleton (mode : CombineMode) (found : Key.split? '.' key = none)
    (unanchored : filter.isAnchored = false) : clauseList mode [(key, filter)] = filter.ownClauses key := by
  have main : Groups.undotted [(key, filter)] = [(key, filter)] := by
    simp [Groups.undotted, Key.split?_eq_none_iff.mp found]
  have paths : Groups.paths [(key, filter)] = [] := by simp [Groups.paths, Key.parent?, found]
  rw [clauseList_of_plain mode (List.forall_mem_singleton.mpr unanchored), main, paths, List.flatMap_singleton,
    List.map_nil, List.append_nil]

end FieldFilter

namespace QueryInfo

open FieldFilter

variable {entries : List (String × FieldFilter)} {key path rest : String} {filter : FieldFilter} {anchor : Query}

/-- To restrict the clauses of fields on a path is to add a field with the anchor as its clause. Behind the clauses of
    anchored filters the anchor stands last in the one and the field before them in the other. -/
theorem restrict_clauseList (found : Key.split? '.' key = some (path, rest)) (last : Key.split? '.' rest = none)
    (unanchored : filter.isAnchored = false) (alone : filter.ownClauses rest = [anchor]) :
    ∃ front given asked back, (∀ clause ∈ front ++ back, clause.nestedPath? ≠ some path) ∧
      restrict path anchor (clauseList .and entries) = front ++ .nested path .and given :: back ∧
      clauseList .and (entries ++ [(key, filter)]) = front ++ .nested path .and asked :: back ∧
      given.Perm asked ∧ (path ∉ allPaths entries → given = asked) := by
  by_cases member : path ∈ allPaths entries
  · rcases clauseList_concat_of_mem .and found unanchored member with ⟨front, back, others, old, new⟩
    have first : ∀ clause ∈ front, clause.nestedPath? ≠ some path :=
      fun clause held => others clause (List.mem_append_left back held)
    have bare : ∀ entry ∈ Groups.under path (plain entries), entry.2.isAnchored = false :=
      plain_under path fun entry held => (mem_plain.mp held).2
    have mixed := clauseList_concat_perm .and bare last unanchored
    rw [alone] at mixed
    have order : (clauseList .and (Groups.under path (plain entries)) ++ anchoredAt path entries ++ [anchor]).Perm
        (clauseList .and (Groups.under path (plain entries) ++ [(rest, filter)]) ++ anchoredAt path entries) := by
      refine List.Perm.trans ?_ (mixed.symm.append_right _)
      rw [List.append_assoc, List.append_assoc]
      exact List.Perm.append_left _ List.perm_append_comm
    rw [clauseUnder_concat_self .and entries found unanchored] at new
    refine ⟨front, _, _, back, others, ?_, new, order, fun absent => absurd member absent⟩
    rw [old, restrict_append first, clauseUnder, restrict_cons_nested, narrowed]
  · have absent : ∀ clause ∈ clauseList .and entries, clause.nestedPath? ≠ some path := by
      intro clause held same
      rw [← nestedPaths_clauseList .and entries] at member
      exact member (List.mem_filterMap.mpr ⟨clause, held, same⟩)
    refine ⟨clauseList .and entries, [anchor], [anchor], [], ?_, restrict_of_absent absent, ?_, .refl _, fun _ => rfl⟩
    · rwa [List.append_nil]
    · rw [clauseList_concat_of_not_mem .and found unanchored member, clauseList_singleton .and last unanchored, alone]

end QueryInfo

theorem FilterState.conjuncts_of_compile {state : FilterState} {mode : Option CombineMode}
    {fields : List (String × FieldFilter)}
    (form : state = .standard mode fields ∨ state = .empty ∧ mode = none ∧ fields = [])
    (all : state.combineMode = .and) :
    mode.getD .and = .and ∧ ∃ caller, state.compile.outcome = .ok caller ∧
      QueryInfo.conjuncts caller = FieldFilter.clauseList .and fields := by
  rcases form with rfl | ⟨rfl, rfl, rfl⟩
  · have joined : mode.getD .and = .and := all
    refine ⟨joined, ?_⟩
    by_cases filled : fields = []
    · subst filled
      exact ⟨none, by rw [compile]; rfl, (FieldFilter.clauseList_nil .and).symm⟩
    · refine ⟨_, outcome_compile_standard mode filled, ?_⟩
      rw [joined, QueryInfo.conjuncts]
  · exact ⟨rfl, none, by rw [compile]; rfl, (FieldFilter.clauseList_nil .and).symm⟩

namespace QueryInfo

theorem dotless_of_mem_pathGroups {config : Option AnchorConfig} {value : Option String} {tabs : List FilterTab}
    {path : String} (member : path ∈ pathGroups (requested config value tabs)) : '.' ∉ path.toList := by
  rcases mem_pathGroups.mp member with ⟨beside, field, assigned⟩
  rcases List.mem_flatMap.mp assigned with ⟨tab, -, assigned⟩
  rcases List.mem_map.mp assigned with ⟨held, -, same⟩
  have group : groupOf config value tab held = path := (Prod.mk.inj same).1
  rw [groupOf_eq] at group
  split at group
  · cases parent : Key.parent? held with
    | none => exact absurd (parent ▸ group).symm beside
    | some front =>
      rw [parent, Option.getD_some] at group
      subst group
      exact Key.dotless_of_parent? parent
  · exact absurd group.symm beside

/-- The filter of a group is what the caller's filter compiles to with a field more: the anchor field on the path of
    the group, with the anchor value. The clauses on the path are in another order where the caller's filter has
    some there. -/
theorem plan_anchors_as_field (state : FilterState) (mode : Option CombineMode) (fields : List (String × FieldFilter))
    (form : state = .standard mode fields ∨ state = .empty ∧ mode = none ∧ fields = [])
    (all : state.combineMode = .and) (tabs : List FilterTab) (config : AnchorConfig) (value : String) (path : String)
    (beside : path ≠ mainGroup)
    (planned : path ∈ Entries.keys (fieldsOf (Anchor.ofChoice? (some config) (some value)) tabs))
    (dotless : '.' ∉ config.field.toList) (fresh : path ++ "." ++ config.field ∉ Entries.keys fields) :
    ∃ caller front given asked back, state.compile.outcome = .ok caller ∧
      (plan tabs (Anchor.ofChoice? (some config) (some value)) caller).filterByGroup.lookup (filterKey path) =
        some (some (.all (front ++ .nested path .and given :: back))) ∧
      (FilterState.standard mode (Entries.insert (path ++ "." ++ config.field)
          (.option ⟨some [value], .containsAny, none⟩) fields)).compile.outcome =
        .ok (some (.all (front ++ .nested path .and asked :: back))) ∧
      (∀ clause ∈ front ++ back, clause.nestedPath? ≠ some path) ∧ given.Perm asked ∧
      ((∀ entry ∈ fields, path ∉ entry.2.paths entry.1) → given = asked) := by
  have member : path ∈ pathGroups (requested (some config) (some value) tabs) :=
    (List.mem_cons.mp (keys_fieldsOf (some config) (some value) tabs ▸ planned)).resolve_left beside
  have found : Key.split? '.' (path ++ "." ++ config.field) = some (path, config.field) :=
    Key.split?_dotted (dotless_of_mem_pathGroups member)
  rcases FilterState.conjuncts_of_compile form all with ⟨joined, caller, compiled, conjoined⟩
  rcases lookup_filterByGroup member caller with ⟨anchor, chosen, held⟩
  have alone : FieldFilter.ownClauses config.field (.option ⟨some [value], .containsAny, none⟩) = [anchor.clause] := by
    rw [Anchor.eq_of_ofChoice? chosen]
    rfl
  rcases restrict_clauseList found (Key.split?_eq_none_iff.mpr dotless) rfl alone with
    ⟨front, given, asked, back, others, old, new, order, same⟩
  refine ⟨caller, front, given, asked, back, compiled, ?_, ?_, others, order, fun absent => same fun member => ?_⟩
  · rw [held, groupFilter, conjoined, old]
  · rw [Entries.insert_of_not_mem _ fresh,
      FilterState.outcome_compile_standard mode (List.append_ne_nil_of_right_ne_nil _ (List.cons_ne_nil _ _)), joined,
      new, Query.all]
  · rcases FieldFilter.mem_allPaths.mp member with ⟨entry, within, here⟩
    exact absent entry within here

def dayFields : List (String × FieldFilter) := [
  ("age", .option ⟨some ["40"], .containsAny, none⟩), ("visit.day", .option ⟨some ["mon"], .containsAny, none⟩),
  ("visit.lab.code", .option ⟨some ["K"], .excludesAny, none⟩),
  ("site:s", .anchored ⟨"site", "s", some .or, [
    ("visit.kind", .option ⟨some ["first"], .containsAny, none⟩),
    ("drug.code", .option ⟨some ["A"], .containsAny, none⟩)]⟩)]

theorem plan_anchors_as_field_days :
    let anchor := Anchor.ofChoice? (some ⟨"patient", ["p1"], ["Labs"]⟩) (some "p1")
    "visit" ≠ mainGroup ∧ "visit" ∈ Entries.keys (fieldsOf anchor visitTabs) ∧ '.' ∉ "patient".toList ∧
      "visit.patient" ∉ Entries.keys dayFields ∧
      ∃ caller front given asked back, (FilterState.standard none dayFields).compile.outcome = .ok caller ∧
        (plan visitTabs anchor caller).filterByGroup.lookup "filter_visit" =
          some (some (.all (front ++ .nested "visit" .and given :: back))) ∧
        (FilterState.standard none (dayFields ++
            [("visit.patient", .option ⟨some ["p1"], .containsAny, none⟩)])).compile.outcome =
          .ok (some (.all (front ++ .nested "visit" .and asked :: back))) ∧ given.Perm asked := by
  intro anchor
  have beside : "visit" ≠ mainGroup := by decide
  have planned : "visit" ∈ Entries.keys (fieldsOf anchor visitTabs) := by decide
  have dotless : '.' ∉ "patient".toList := by decide
  have fresh : "visit.patient" ∉ Entries.keys dayFields := by decide
  rcases plan_anchors_as_field (.standard none dayFields) none dayFields (.inl rfl) rfl visitTabs
    ⟨"patient", ["p1"], ["Labs"]⟩ "p1" "visit" beside planned dotless fresh with
    ⟨caller, front, given, asked, back, compiled, group, added, -, order, -⟩
  exact ⟨beside, planned, dotless, fresh, caller, front, given, asked, back, compiled, group, added, order⟩

end QueryInfo

end CohortFilter
