import CohortFilter.Proofs.Unresolved

namespace CohortFilter

namespace Query

def parts : Query → List Query
  | .group _ clauses | .nested _ _ clauses => clauses
  | .matching .. | .atLeast .. | .atMost .. => []

def at? : Query → List Nat → Option Query
  | query, [] => some query
  | query, index :: place => (query.parts[index]?).bind fun part => part.at? place

def nestedPaths (clauses : List Query) : List String := clauses.filterMap nestedPath?

/-- No two nested clauses that stand together are on one path, at any place of the query. -/
def NestsOnce (query : Query) : Prop :=
  ∀ place part, query.at? place = some part → (nestedPaths part.parts).Nodup

def Unnested (query : Query) : Prop := ∀ place part, query.at? place = some part → part.nestedPath? = none

theorem forall_at_iff {P : Query → Prop} {query : Query} :
    (∀ place part, query.at? place = some part → P part) ↔
      P query ∧ ∀ part ∈ query.parts, ∀ place inner, part.at? place = some inner → P inner := by
  constructor
  · intro all
    refine ⟨all [] query rfl, fun part member place inner found => ?_⟩
    rcases List.mem_iff_getElem?.mp member with ⟨index, here⟩
    apply all (index :: place)
    rw [at?, here, Option.bind_some, found]
  · intro all place part found
    cases place with
    | nil =>
      cases found
      exact all.1
    | cons index place =>
      rw [at?] at found
      rcases Option.bind_eq_some_iff.mp found with ⟨held, here, found⟩
      exact all.2 held (List.mem_of_getElem? here) place part found

theorem nestsOnce_iff {query : Query} :
    query.NestsOnce ↔ (nestedPaths query.parts).Nodup ∧ ∀ part ∈ query.parts, part.NestsOnce :=
  forall_at_iff

theorem unnested_iff {query : Query} :
    query.Unnested ↔ query.nestedPath? = none ∧ ∀ part ∈ query.parts, part.Unnested :=
  forall_at_iff

theorem nestedPaths_append (left right : List Query) :
    nestedPaths (left ++ right) = nestedPaths left ++ nestedPaths right := by
  rw [nestedPaths, List.filterMap_append, nestedPaths, nestedPaths]

theorem nestedPaths_eq_nil {clauses : List Query} (bare : ∀ clause ∈ clauses, clause.nestedPath? = none) :
    nestedPaths clauses = [] := by
  rw [nestedPaths, List.filterMap_eq_nil_iff]
  exact bare

theorem nestedPaths_map_nested (mode : CombineMode) (clauses : String → List Query) (paths : List String) :
    nestedPaths (paths.map fun path => .nested path mode (clauses path)) = paths := by
  rw [nestedPaths, List.filterMap_map]
  exact List.filterMap_some

theorem Unnested.nestsOnce {query : Query} (unnested : query.Unnested) : query.NestsOnce := by
  intro place part found
  induction place generalizing query with
  | nil =>
    cases found
    have bare := (unnested_iff.mp unnested).2
    rw [nestedPaths_eq_nil fun clause member => (unnested_iff.mp (bare clause member)).1]
    exact List.nodup_nil
  | cons index place ih =>
    rw [at?] at found
    rcases Option.bind_eq_some_iff.mp found with ⟨held, here, found⟩
    exact ih ((unnested_iff.mp unnested).2 held (List.mem_of_getElem? here)) found

/-- Nested clauses have the mode `mode`. Those in the clause that an anchored filter among `filters` has under a
    path have the mode of that filter instead. -/
inductive InMode : CombineMode → List FieldFilter → Query → Prop
  | unnested {mode : CombineMode} {filters : List FieldFilter} {query : Query} :
    query.Unnested → InMode mode filters query
  | nested {mode : CombineMode} {filters : List FieldFilter} (path : String) {clauses : List Query} :
    (∀ clause ∈ clauses, InMode mode filters clause) → InMode mode filters (.nested path mode clauses)
  | anchored {mode : CombineMode} {filters : List FieldFilter} {filter : AnchoredFilter} {clauses : List Query} :
    .anchored filter ∈ filters →
    (∀ clause ∈ clauses, InMode (filter.combineMode.getD .and) (filter.fields.map Prod.snd) clause) →
    InMode mode filters (.all [filter.anchor, .group (filter.combineMode.getD .and) clauses])

theorem InMode.mono {mode : CombineMode} {filters others : List FieldFilter} {query : Query}
    (within : filters ⊆ others) (moded : query.InMode mode filters) : query.InMode mode others := by
  induction moded with
  | unnested bare => exact .unnested bare
  | nested path _ ih => exact .nested path fun clause member => ih clause member within
  | anchored held inner => exact .anchored (within held) inner

theorem InMode.of_nested {mode held : CombineMode} {filters : List FieldFilter} {path : String} {clauses : List Query}
    (moded : (Query.nested path held clauses).InMode mode filters) : ∀ clause ∈ clauses, clause.InMode mode filters := by
  cases moded with
  | unnested bare => cases (unnested_iff.mp bare).1
  | nested path inner => exact inner

end Query

theorem Groups.items_under_subset {α : Type} (path : String) (entries : List (String × α)) :
    (under path entries).map Prod.snd ⊆ entries.map Prod.snd := by
  intro item member
  rcases List.mem_map.mp member with ⟨⟨rest, item⟩, held, rfl⟩
  rcases mem_under.mp held with ⟨key, standing, -⟩
  exact List.mem_map.mpr ⟨_, standing, rfl⟩

namespace FieldFilter

open Query

variable {mode : CombineMode} {entries : List (String × FieldFilter)}

theorem unnested_of_mem_ownClauses {field : String} {filter : FieldFilter} {clause : Query}
    (member : clause ∈ filter.ownClauses field) : clause.Unnested := by
  have leaf {query : Query} (bare : query.nestedPath? = none) (none : query.parts = []) : query.Unnested :=
    unnested_iff.mpr ⟨bare, by simp [none]⟩
  cases filter with
  | option filter =>
    rw [ownClauses, OptionFilter.clauses] at member
    split at member
    · cases member
    · split at member
      · rw [List.mem_singleton.mp member]
        refine unnested_iff.mpr ⟨rfl, fun part held => ?_⟩
        rcases List.mem_map.mp held with ⟨value, _, rfl⟩
        exact leaf rfl rfl
      · rw [List.mem_singleton.mp member]
        exact leaf rfl rfl
  | range filter =>
    rw [ownClauses, RangeFilter.clauses] at member
    rw [List.mem_singleton.mp member]
    refine unnested_iff.mpr ⟨rfl, fun part held => ?_⟩
    rcases List.mem_pair.mp held with rfl | rfl
    · exact leaf rfl rfl
    · exact leaf rfl rfl
  | anchored filter => cases member

theorem mem_anchoredAt {path : String} {clause : Query} :
    clause ∈ anchoredAt path entries ↔
      ∃ name filter, (name, .anchored filter) ∈ entries ∧ (path, clause) ∈ filter.clauseList := by
  simp only [anchoredAt, List.mem_filterMap, List.mem_flatMap, Option.ite_none_right_eq_some, Option.some.injEq]
  constructor
  · rintro ⟨⟨place, held⟩, ⟨⟨name, filter⟩, member, found⟩, rfl, rfl⟩
    cases filter with
    | option | range => cases found
    | anchored filter => exact ⟨name, filter, member, found⟩
  · rintro ⟨name, filter, member, found⟩
    exact ⟨(path, clause), ⟨_, member, found⟩, rfl, rfl⟩

theorem nestedPaths_clauseList (mode : CombineMode) (entries : List (String × FieldFilter)) :
    nestedPaths (clauseList mode entries) = allPaths entries := by
  rw [clauseList_eq, assembled, nestedPaths_append, nestedPaths_map_nested, nestedPaths_eq_nil, List.nil_append]
  intro clause member
  rcases List.mem_flatMap.mp member with ⟨entry, _, own⟩
  exact (unnested_iff.mp (unnested_of_mem_ownClauses own)).1

theorem path_mem_of_mem_clauseList {path : String} {clause : Query}
    (member : clause ∈ clauseList mode (Groups.under path entries)) : path ∈ Groups.paths entries := by
  by_contra absent
  rw [Groups.under_eq_nil absent, clauseList_nil] at member
  cases member

end FieldFilter

theorem AnchoredFilter.mem_clauseList {filter : AnchoredFilter} {path : String} {clause : Query} :
    (path, clause) ∈ filter.clauseList ↔ path ∈ Groups.paths filter.fields ∧
      clause = .all [filter.anchor, .group (filter.combineMode.getD .and)
        (FieldFilter.clauseList (filter.combineMode.getD .and) (Groups.under path filter.fields))] := by
  rw [clauseList_eq, assembled, List.mem_map]
  constructor
  · rintro ⟨held, member, same⟩
    cases same
    exact ⟨member, rfl⟩
  · rintro ⟨member, rfl⟩
    exact ⟨path, member, rfl⟩

theorem FieldFilter.nestedPaths_anchoredAt (path : String) (entries : List (String × FieldFilter)) :
    Query.nestedPaths (anchoredAt path entries) = [] := by
  refine Query.nestedPaths_eq_nil fun clause member => ?_
  rcases mem_anchoredAt.mp member with ⟨name, filter, -, found⟩
  rw [(AnchoredFilter.mem_clauseList.mp found).2]
  rfl

theorem clauses_nestsOnce :
    (∀ mode entries, ∀ clause ∈ FieldFilter.clauseList mode entries, clause.NestsOnce) ∧
      ∀ filter : AnchoredFilter, ∀ part ∈ filter.clauseList, part.2.NestsOnce := by
  apply compile_induction
  case fields =>
    intro mode entries plainParts anchoredParts clause member
    rw [FieldFilter.clauseList_eq, FieldFilter.assembled] at member
    rcases List.mem_append.mp member with own | nested
    · rcases List.mem_flatMap.mp own with ⟨entry, _, own⟩
      exact (FieldFilter.unnested_of_mem_ownClauses own).nestsOnce
    · rcases List.mem_map.mp nested with ⟨path, _, rfl⟩
      refine Query.nestsOnce_iff.mpr ⟨?_, fun part held => ?_⟩
      · rw [Query.parts, Query.nestedPaths_append, FieldFilter.nestedPaths_anchoredAt, List.append_nil,
          FieldFilter.nestedPaths_clauseList]
        exact Groups.nodup_eraseDups _
      · rcases List.mem_append.mp held with plain | anchored
        · exact plainParts path (FieldFilter.path_mem_of_mem_clauseList plain) part plain
        · rcases FieldFilter.mem_anchoredAt.mp anchored with ⟨name, filter, standing, found⟩
          exact anchoredParts name filter standing _ found
  case anchored =>
    intro filter parts part member
    rcases part with ⟨path, clause⟩
    rcases AnchoredFilter.mem_clauseList.mp member with ⟨held, rfl⟩
    refine Query.nestsOnce_iff.mpr ⟨List.nodup_nil, fun inner standing => ?_⟩
    rcases List.mem_pair.mp standing with rfl | rfl
    · exact Query.Unnested.nestsOnce (Query.unnested_iff.mpr ⟨rfl, List.forall_mem_nil _⟩)
    · refine Query.nestsOnce_iff.mpr ⟨?_, parts path held⟩
      rw [Query.parts, FieldFilter.nestedPaths_clauseList]
      exact Groups.nodup_eraseDups _

theorem clauses_inMode :
    (∀ mode entries, ∀ clause ∈ FieldFilter.clauseList mode entries,
      clause.InMode mode (entries.map Prod.snd)) ∧
      ∀ filter : AnchoredFilter, ∀ part ∈ filter.clauseList, ∀ mode filters, .anchored filter ∈ filters →
        part.2.InMode mode filters := by
  apply compile_induction
  case fields =>
    intro mode entries plainParts anchoredParts clause member
    rw [FieldFilter.clauseList_eq, FieldFilter.assembled] at member
    rcases List.mem_append.mp member with own | nested
    · rcases List.mem_flatMap.mp own with ⟨entry, _, own⟩
      exact .unnested (FieldFilter.unnested_of_mem_ownClauses own)
    · rcases List.mem_map.mp nested with ⟨path, _, rfl⟩
      refine .nested path fun part held => ?_
      rcases List.mem_append.mp held with plain | anchored
      · have inner := plainParts path (FieldFilter.path_mem_of_mem_clauseList plain) part plain
        exact inner.mono (List.Subset.trans (Groups.items_under_subset path _)
          (List.map_subset Prod.snd (List.filter_subset_self entries)))
      · rcases FieldFilter.mem_anchoredAt.mp anchored with ⟨name, filter, standing, found⟩
        exact anchoredParts name filter standing _ found mode _ (List.mem_map_of_mem standing)
  case anchored =>
    intro filter parts part member mode filters standing
    rcases part with ⟨path, clause⟩
    rcases AnchoredFilter.mem_clauseList.mp member with ⟨held, rfl⟩
    exact .anchored standing fun clause inner =>
      (parts path held clause inner).mono (Groups.items_under_subset path filter.fields)

theorem FieldFilter.inMode_of_mem_allPaths {mode : CombineMode} {entries : List (String × FieldFilter)} {path : String}
    (member : path ∈ allPaths entries) :
    ∀ clause ∈ clauseList mode (Groups.under path (plain entries)) ++ anchoredAt path entries,
      clause.InMode mode (entries.map Prod.snd) := by
  have moded := clauses_inMode.1 mode entries
  rw [clauseList_eq, assembled] at moded
  exact Query.InMode.of_nested (moded _ (List.mem_append_right _ (List.mem_map_of_mem member)))

namespace FilterState

def at? : FilterState → List Nat → Option FilterState
  | state, [] => some state
  | .composed _ _ members, index :: place => (members[index]?).bind fun member => member.at? place
  | _, _ :: _ => none

/-- A list of clauses with two nested ones on one path is the one of a group that an anchored filter compiles to, at
    the place of that filter. -/
def NestsOnce (state : FilterState) (query : Query) : Prop :=
  ∀ place part, query.at? place = some part → (Query.nestedPaths part.parts).Nodup ∨
    ∃ mode fields, state.at? place = some (.anchored mode fields) ∧
      (anchored mode fields).compile.outcome = .ok (some part)

theorem nestedPath?_of_compile {state : FilterState} {query : Query}
    (compiled : state.compile.outcome = .ok (some query)) : query.nestedPath? = none := by
  cases state with
  | empty | reference => cases compiled
  | standard mode fields =>
    by_cases filled : fields = []
    · subst filled
      cases compiled
    · rw [outcome_compile_standard mode filled] at compiled
      cases compiled
      rfl
  | anchored mode fields =>
    by_cases filled : fields = []
    · subst filled
      cases compiled
    · rw [outcome_compile_anchored mode filled] at compiled
      cases compiled
      rfl
  | composed mode refIds members =>
    by_cases filled : members = []
    · subst filled
      cases compiled
    · rw [outcome_compile_composed_eq mode refIds filled] at compiled
      rcases Outcome.map_eq_ok_iff.mp compiled with ⟨queries, -, same⟩
      cases same
      rfl

theorem nestsOnce_composed (mode : Option CombineMode) (refIds : List String) {members : List FilterState}
    {queries : List Query} (made : (compileMembers members).outcome = .ok queries)
    (each : ∀ member ∈ members, ∀ query, member.compile.outcome = .ok (some query) → member.NestsOnce query) :
    (composed mode refIds members).NestsOnce (.group (mode.getD .and) queries) := by
  rw [outcome_compileMembers, Outcome.mapM_eq_ok_iff] at made
  have nothing : (Query.all []).Unnested := Query.unnested_iff.mpr ⟨rfl, List.forall_mem_nil _⟩
  intro place part found
  cases place with
  | nil =>
    left
    cases found
    rw [Query.nestedPaths_eq_nil]
    · exact List.nodup_nil
    · intro clause standing
      rcases Outcome.exists_of_forall₂ made standing with ⟨member, _, built⟩
      rcases Outcome.map_eq_ok_iff.mp built with ⟨query?, compiled, rfl⟩
      cases query? with
      | none => rfl
      | some query => exact nestedPath?_of_compile compiled
  | cons index place =>
    rw [Query.at?] at found
    rcases Option.bind_eq_some_iff.mp found with ⟨clause, here, found⟩
    rcases Outcome.exists_getElem?_of_forall₂ made here with ⟨member, there, built⟩
    rcases Outcome.map_eq_ok_iff.mp built with ⟨query?, compiled, rfl⟩
    rw [at?, there, Option.bind_some]
    cases query? with
    | none => exact .inl (nothing.nestsOnce place part found)
    | some query => exact each member (List.mem_of_getElem? there) query compiled place part found

theorem nestsOnce_standard {mode : Option CombineMode} {fields : List (String × FieldFilter)} :
    (Query.group (mode.getD .and) (FieldFilter.clauseList (mode.getD .and) fields)).NestsOnce := by
  refine Query.nestsOnce_iff.mpr ⟨?_, clauses_nestsOnce.1 _ fields⟩
  rw [Query.parts, FieldFilter.nestedPaths_clauseList]
  exact Groups.nodup_eraseDups _

theorem nestsOnce_single {filter : AnchoredFilter} {path : String} {clause : Query} (mode : CombineMode)
    (member : (path, clause) ∈ filter.clauseList) : (Query.nested path mode [clause]).NestsOnce := by
  refine Query.nestsOnce_iff.mpr ⟨?_, fun part single => ?_⟩
  · rw [(AnchoredFilter.mem_clauseList.mp member).2]
    exact List.nodup_nil
  · rw [List.mem_singleton.mp single]
    exact clauses_nestsOnce.2 filter _ member

theorem nestsOnce_of_compile {state : FilterState} {query : Query}
    (compiled : state.compile.outcome = .ok (some query)) : state.NestsOnce query := by
  induction state using FilterState.induction generalizing query with
  | empty | reference => cases compiled
  | standard mode fields =>
    by_cases filled : fields = []
    · subst filled
      cases compiled
    · rw [outcome_compile_standard mode filled] at compiled
      cases compiled
      exact fun place part found => .inl (nestsOnce_standard place part found)
  | anchored mode fields =>
    intro place part found
    cases place with
    | nil =>
      cases found
      exact .inr ⟨mode, fields, rfl, compiled⟩
    | cons index place =>
      by_cases filled : fields = []
      · subst filled
        cases compiled
      · rw [outcome_compile_anchored mode filled] at compiled
        cases compiled
        rw [Query.at?] at found
        rcases Option.bind_eq_some_iff.mp found with ⟨clause, here, found⟩
        rcases List.mem_map.mp (List.mem_of_getElem? here) with ⟨⟨path, inner⟩, made, rfl⟩
        rcases List.mem_flatMap.mp made with ⟨entry, _, made⟩
        exact .inl (nestsOnce_single _ made place part found)
  | composed mode refIds members ih =>
    by_cases filled : members = []
    · subst filled
      cases compiled
    · rw [outcome_compile_composed_eq mode refIds filled] at compiled
      rcases Outcome.map_eq_ok_iff.mp compiled with ⟨queries, made, same⟩
      cases same
      exact nestsOnce_composed mode refIds made fun member held query => ih member held

def siteVisits : FilterState :=
  .standard (some .or) [
    ("visit.day", .option ⟨some ["mon"], .containsAny, none⟩), ("age", .option ⟨some ["40"], .containsAny, none⟩),
    ("site:s", .anchored ⟨"site", "s", none, [
      ("lab.code.name", .option ⟨some ["K"], .containsAny, none⟩),
      ("visit.kind", .option ⟨some ["first"], .containsAny, none⟩)]⟩)]

end FilterState

end CohortFilter
