import Mathlib.Algebra.BigOperators.Group.List.Basic
import Mathlib.Algebra.Order.Group.Multiset
import CohortFilter.Proofs.Clauses
import CohortFilter.Proofs.Parts

namespace CohortFilter

namespace Groups

variable {α μ : Type} [AddCommMonoid μ]

theorem sum_single {names : List String} (distinct : names.Nodup) (value : String → μ) {key : String}
    (member : key ∈ names) : (names.map fun name => if key = name then value name else 0).sum = value key := by
  induction names with
  | nil => cases member
  | cons name rest ih =>
    obtain ⟨fresh, distinct⟩ := List.nodup_cons.mp distinct
    by_cases same : key = name
    · subst same
      have others : ∀ other ∈ rest, (if key = other then value other else 0) = 0 := by
        intro other held
        exact if_neg fun equal : key = other => fresh (equal ▸ held)
      simp [List.map_congr_left others]
    · have held : key ∈ rest := (List.mem_cons.mp member).resolve_left same
      simp [same, ih distinct held]

theorem sum_undotted_add_dotted (value : String × α → μ) (entries : List (String × α)) :
    ((undotted entries).map value).sum + ((dotted entries).map value).sum = (entries.map value).sum := by
  induction entries with
  | nil => simp [undotted, dotted]
  | cons entry rest ih =>
    by_cases point : '.' ∈ entry.1.toList
    · simp only [undotted, dotted] at ih
      simp [undotted, dotted, point, ← ih, add_left_comm]
    · simp only [undotted, dotted] at ih
      simp [undotted, dotted, point, ← ih, add_assoc]

theorem sum_under {names : List String} (distinct : names.Nodup) (whole : String × α → μ)
    {part : String → String × α → μ}
    (agree : ∀ key path rest item, Key.split? '.' key = some (path, rest) →
      whole (key, item) = part path (rest, item))
    {entries : List (String × α)} (cover : ∀ path ∈ paths entries, path ∈ names) :
    (names.map fun path => ((under path entries).map (part path)).sum).sum =
      ((dotted entries).map whole).sum := by
  induction entries with
  | nil => simp [under, dotted]
  | cons entry rest ih =>
    obtain ⟨key, item⟩ := entry
    have later := ih fun path member => by
      obtain ⟨entry, held, found⟩ := mem_paths.mp member
      exact cover path (mem_paths.mpr ⟨entry, List.mem_cons_of_mem _ held, found⟩)
    cases found : Key.split? '.' key with
    | none =>
      have point := Key.split?_eq_none_iff.mp found
      simp only [dotted] at later
      simpa [under, dotted, found, point] using later
    | some parts =>
      obtain ⟨front, short⟩ := parts
      have point := Key.mem_of_split? found
      have named : front ∈ names := cover front (mem_paths.mpr ⟨_, List.mem_cons_self, short, found⟩)
      have step (path : String) : ((under path ((key, item) :: rest)).map (part path)).sum =
          (if front = path then part path (short, item) else 0) +
            ((under path rest).map (part path)).sum := by
        by_cases same : front = path <;> simp [under, found, same]
      have head : ((dotted ((key, item) :: rest)).map whole).sum =
          part front (short, item) + ((dotted rest).map whole).sum := by
        simp [dotted, point, agree key front short item found]
      simp only [step, head, List.sum_map_add, later]
      rw [sum_single distinct (fun path => part path (short, item)) named]

end Groups

namespace Query

def underPath (path : String) (leaf : List String × Query) : List String × Query := (path :: leaf.1, leaf.2)

mutual

/-- The single clauses of a query, with the paths around them from the outermost. -/
def leaves : Query → Multiset (List String × Query)
  | .group _ clauses => allLeaves clauses
  | .matching mode field values => {([], .matching mode field values)}
  | .atLeast field bound => {([], .atLeast field bound)}
  | .atMost field bound => {([], .atMost field bound)}
  | .nested path _ clauses => (allLeaves clauses).map (underPath path)

def allLeaves : List Query → Multiset (List String × Query)
  | [] => 0
  | clause :: rest => clause.leaves + allLeaves rest

end

theorem allLeaves_eq (clauses : List Query) : allLeaves clauses = (clauses.map leaves).sum := by
  induction clauses with
  | nil => rfl
  | cons clause rest ih => rw [allLeaves, ih, List.map_cons, List.sum_cons]

theorem allLeaves_append (left right : List Query) : allLeaves (left ++ right) = allLeaves left + allLeaves right := by
  simp only [allLeaves_eq, List.map_append, List.sum_append]

theorem allLeaves_flatMap {α : Type} (items : List α) (clauses : α → List Query) :
    allLeaves (items.flatMap clauses) = (items.map fun item => allLeaves (clauses item)).sum := by
  induction items with
  | nil => rfl
  | cons item rest ih => simp [allLeaves_append, ih]

theorem allLeaves_nested (paths : List String) (mode : CombineMode) (clauses : String → List Query) :
    allLeaves (paths.map fun path => .nested path mode (clauses path)) =
      (paths.map fun path => (allLeaves (clauses path)).map (underPath path)).sum := by
  induction paths with
  | nil => rfl
  | cons path rest ih => simp [allLeaves, leaves, ih]

theorem allLeaves_separate (parts : List (String × Query)) (mode : CombineMode) :
    allLeaves (parts.map fun (path, clause) => .nested path mode [clause]) =
      (parts.map fun part => part.2.leaves.map (underPath part.1)).sum := by
  induction parts with
  | nil => rfl
  | cons part rest ih => simp [allLeaves, leaves, ih]

theorem map_underPath_sum {α : Type} (path : String) (items : List α)
    (value : α → Multiset (List String × Query)) :
    (items.map value).sum.map (underPath path) = (items.map fun item => (value item).map (underPath path)).sum := by
  induction items with
  | nil => rfl
  | cons item rest ih => simp [ih]

end Query

namespace FieldFilter

/-- The clauses of the field that the key ends in, under the path before it. -/
def leaves (key : String) (filter : FieldFilter) : Multiset (List String × Query) :=
  (Query.allLeaves (filter.ownClauses ((Key.segments key).getLast (Key.segments_ne_nil key)))).map
    fun leaf => ((Key.segments key).dropLast ++ leaf.1, leaf.2)

theorem leaves_of_split?_none {key : String} (filter : FieldFilter) (found : Key.split? '.' key = none) :
    filter.leaves key = Query.allLeaves (filter.ownClauses key) := by
  simp [leaves, Key.segments_of_split?_none found]

theorem leaves_of_split?_some {key path rest : String} (filter : FieldFilter)
    (found : Key.split? '.' key = some (path, rest)) :
    filter.leaves key = (filter.leaves rest).map (Query.underPath path) := by
  have filled := Key.segments_ne_nil rest
  simp [leaves, Key.segments_of_split?_some found, List.getLast_cons filled,
    List.dropLast_cons_of_ne_nil filled, Query.underPath, Function.comp_def]

theorem allLeaves_undotted (entries : List (String × FieldFilter)) :
    Query.allLeaves ((Groups.undotted entries).flatMap fun entry => entry.2.ownClauses entry.1) =
      ((Groups.undotted entries).map fun entry => entry.2.leaves entry.1).sum := by
  have own : ∀ entry ∈ Groups.undotted entries,
      Query.allLeaves (entry.2.ownClauses entry.1) = entry.2.leaves entry.1 := by
    intro entry member
    exact (leaves_of_split?_none entry.2 (Groups.mem_undotted.mp member).2).symm
  rw [Query.allLeaves_flatMap, List.map_congr_left own]

theorem sum_leaves_under {names : List String} (distinct : names.Nodup) {entries : List (String × FieldFilter)}
    (cover : ∀ path ∈ Groups.paths entries, path ∈ names) :
    (names.map fun path => ((Groups.under path entries).map fun entry =>
      (entry.2.leaves entry.1).map (Query.underPath path)).sum).sum =
        ((Groups.dotted entries).map fun entry => entry.2.leaves entry.1).sum := by
  apply Groups.sum_under distinct (fun entry => entry.2.leaves entry.1) _ cover
  exact fun key path rest filter found => leaves_of_split?_some filter found

theorem allLeaves_clauseList_of_plain (mode : CombineMode) {entries : List (String × FieldFilter)}
    (plain : ∀ entry ∈ entries, entry.2.isAnchored = false) :
    Query.allLeaves (clauseList mode entries) = (entries.map fun entry => entry.2.leaves entry.1).sum := by
  induction entries using Groups.induction with
  | step entries ih =>
    have under : ∀ path ∈ Groups.paths entries,
        (Query.allLeaves (clauseList mode (Groups.under path entries))).map (Query.underPath path) =
          ((Groups.under path entries).map fun entry =>
            (entry.2.leaves entry.1).map (Query.underPath path)).sum := by
      intro path member
      rw [ih path member (plain_under path plain), Query.map_underPath_sum]
    rw [clauseList_of_plain mode plain, Query.allLeaves_append, allLeaves_undotted, Query.allLeaves_nested,
      List.map_congr_left under, sum_leaves_under (Groups.nodup_paths entries) fun _ member => member]
    exact Groups.sum_undotted_add_dotted _ entries

end FieldFilter

theorem Query.sum_allLeaves_at {names : List String} (distinct : names.Nodup) {parts : List (String × Query)}
    (cover : ∀ part ∈ parts, part.1 ∈ names) :
    (names.map fun path => (allLeaves (parts.filterMap fun (place, clause) =>
      if place = path then some clause else none)).map (underPath path)).sum =
        (parts.map fun part => part.2.leaves.map (underPath part.1)).sum := by
  induction parts with
  | nil => simp [allLeaves]
  | cons part rest ih =>
    obtain ⟨place, clause⟩ := part
    have step (path : String) :
        (allLeaves (((place, clause) :: rest).filterMap fun (place, clause) =>
          if place = path then some clause else none)).map (underPath path) =
            (if place = path then clause.leaves.map (underPath path) else 0) +
              (allLeaves (rest.filterMap fun (place, clause) =>
                if place = path then some clause else none)).map (underPath path) := by
      by_cases same : place = path <;> simp [same, allLeaves]
    have named : place ∈ names := cover _ List.mem_cons_self
    simp only [step, List.sum_map_add, ih fun part held => cover part (List.mem_cons_of_mem _ held)]
    rw [Groups.sum_single distinct (fun path => clause.leaves.map (underPath path)) named]
    simp

namespace AnchoredFilter

/-- The anchor once under each path of the fields, and the clauses of the fields that have a path. -/
def leaves (filter : AnchoredFilter) : Multiset (List String × Query) :=
  ((Groups.paths filter.fields).map fun path => ([path], filter.anchor) : List (List String × Query)) +
    ((Groups.dotted filter.fields).map fun entry => entry.2.leaves entry.1).sum

theorem sum_leaves_clauseList {filter : AnchoredFilter} (flat : filter.Flat) :
    (filter.clauseList.map fun part => part.2.leaves.map (Query.underPath part.1)).sum = filter.leaves := by
  have anchors (paths : List String) :
      (paths.map fun path => ({([path], filter.anchor)} : Multiset (List String × Query))).sum =
        (paths.map fun path => ([path], filter.anchor) : List (List String × Query)) := by
    induction paths with
    | nil => rfl
    | cons path rest ih => simp [ih]
  have part (path : String) :
      ((Query.all [filter.anchor, .group (filter.combineMode.getD .and)
        (FieldFilter.clauseList (filter.combineMode.getD .and)
          (Groups.under path filter.fields))]).leaves).map (Query.underPath path) =
        {([path], filter.anchor)} + ((Groups.under path filter.fields).map fun entry =>
          (entry.2.leaves entry.1).map (Query.underPath path)).sum := by
    rw [← Query.map_underPath_sum,
      ← FieldFilter.allLeaves_clauseList_of_plain (filter.combineMode.getD .and)
        (FieldFilter.plain_under path flat)]
    simp [Query.all, anchor, Query.leaves, Query.allLeaves, Query.underPath]
  rw [clauseList_eq, assembled, List.map_map]
  simp only [Function.comp_def, part, List.sum_map_add, anchors]
  rw [FieldFilter.sum_leaves_under (Groups.nodup_paths _) fun _ member => member]
  rfl

end AnchoredFilter

namespace FieldFilter

def constraints (key : String) : FieldFilter → Multiset (List String × Query)
  | .anchored filter => filter.leaves
  | .option filter => leaves key (.option filter)
  | .range filter => leaves key (.range filter)

theorem sum_plain_add_anchored {entries : List (String × FieldFilter)} (flat : ∀ entry ∈ entries, entry.2.Flat) :
    ((plain entries).map fun entry => entry.2.leaves entry.1).sum +
      ((entries.flatMap fun entry => entry.2.anchoredClauses).map fun part =>
        part.2.leaves.map (Query.underPath part.1)).sum =
      (entries.map fun entry => entry.2.constraints entry.1).sum := by
  induction entries with
  | nil => simp [plain]
  | cons entry rest ih =>
    obtain ⟨key, filter⟩ := entry
    have later := ih fun entry held => flat entry (List.mem_cons_of_mem _ held)
    rw [List.flatMap_cons, List.map_append, List.sum_append, List.map_cons, List.sum_cons, ← later]
    cases filter with
    | option filter =>
      have kept : plain ((key, option filter) :: rest) = (key, option filter) :: plain rest := rfl
      rw [kept, List.map_cons, List.sum_cons]
      simp only [anchoredClauses, constraints, List.map_nil, List.sum_nil, zero_add, add_assoc]
    | range filter =>
      have kept : plain ((key, range filter) :: rest) = (key, range filter) :: plain rest := rfl
      rw [kept, List.map_cons, List.sum_cons]
      simp only [anchoredClauses, constraints, List.map_nil, List.sum_nil, zero_add, add_assoc]
    | anchored filter =>
      have dropped : plain ((key, anchored filter) :: rest) = plain rest := rfl
      have inner := AnchoredFilter.sum_leaves_clauseList (flat _ List.mem_cons_self)
      simp only [dropped, anchoredClauses, constraints, inner, add_left_comm]

theorem allLeaves_clauseList (mode : CombineMode) {entries : List (String × FieldFilter)}
    (flat : ∀ entry ∈ entries, entry.2.Flat) :
    Query.allLeaves (clauseList mode entries) = (entries.map fun entry => entry.2.constraints entry.1).sum := by
  have distinct : (allPaths entries).Nodup := Groups.nodup_eraseDups _
  have unanchored : ∀ entry ∈ plain entries, entry.2.isAnchored = false :=
    fun entry held => (mem_plain.mp held).2
  have under (path : String) :
      (Query.allLeaves (clauseList mode (Groups.under path (plain entries)) ++
        anchoredAt path entries)).map (Query.underPath path) =
        ((Groups.under path (plain entries)).map fun entry =>
          (entry.2.leaves entry.1).map (Query.underPath path)).sum +
        (Query.allLeaves (anchoredAt path entries)).map (Query.underPath path) := by
    rw [Query.allLeaves_append, Multiset.map_add,
      allLeaves_clauseList_of_plain mode (plain_under path unanchored), Query.map_underPath_sum]
  rw [clauseList_eq, assembled, Query.allLeaves_append, allLeaves_undotted, Query.allLeaves_nested]
  have anchored : ((allPaths entries).map fun path =>
      (Query.allLeaves (anchoredAt path entries)).map (Query.underPath path)).sum =
        ((entries.flatMap fun entry => entry.2.anchoredClauses).map fun part =>
          part.2.leaves.map (Query.underPath part.1)).sum :=
    Query.sum_allLeaves_at distinct fun part => anchored_path_mem
  simp only [under, List.sum_map_add]
  rw [anchored, sum_leaves_under distinct fun path => paths_plain_subset, ← add_assoc, Groups.sum_undotted_add_dotted]
  exact sum_plain_add_anchored flat

end FieldFilter

namespace FilterState

mutual

/-- Every single clause that a filter asks for, with the path it has to stand under. -/
def constraints : FilterState → Multiset (List String × Query)
  | .empty | .reference _ => 0
  | .standard _ fields => (fields.map fun entry => entry.2.constraints entry.1).sum
  | .anchored _ fields => (fields.map fun entry => entry.2.leaves).sum
  | .composed _ _ members => allConstraints members

def allConstraints : List FilterState → Multiset (List String × Query)
  | [] => 0
  | member :: rest => member.constraints + allConstraints rest

end

theorem allConstraints_eq (members : List FilterState) :
    allConstraints members = (members.map constraints).sum := by
  induction members with
  | nil => rfl
  | cons member rest ih => rw [allConstraints, ih, List.map_cons, List.sum_cons]

def query? (state : FilterState) : Option Query := state.compile.outcome.toOption.join

theorem outcome_eq_query? {state : FilterState} {query? : Option Query}
    (built : state.compile.outcome = .ok query?) : state.query? = query? := by
  simp [FilterState.query?, built, Except.toOption]

/-- A filter without references compiles, and its query has every clause asked for exactly as often as it is
    asked for and under no other path. -/
theorem compile_leaves (state : FilterState) (resolved : state.refs = []) (flat : state.Flat) :
    ∃ query?, state.compile.outcome = .ok query? ∧ query?.elim 0 Query.leaves = state.constraints := by
  induction state using induction with
  | empty => exact ⟨none, rfl, rfl⟩
  | reference ref => cases resolved
  | standard mode fields =>
    by_cases filled : fields = []
    · subst filled
      exact ⟨none, rfl, rfl⟩
    · refine ⟨_, outcome_compile_standard mode filled, ?_⟩
      exact FieldFilter.allLeaves_clauseList _ flat
  | anchored mode fields =>
    by_cases filled : fields = []
    · subst filled
      exact ⟨none, rfl, rfl⟩
    · refine ⟨_, outcome_compile_anchored mode filled, ?_⟩
      have each : ∀ entry ∈ fields, (entry.2.clauseList.map fun part =>
          part.2.leaves.map (Query.underPath part.1)).sum = entry.2.leaves :=
        fun entry member => AnchoredFilter.sum_leaves_clauseList (flat entry member)
      rw [Option.elim_some, Query.leaves, Query.allLeaves_separate, constraints, List.flatMap_def,
        List.map_flatten, List.sum_flatten, List.map_map, List.map_map]
      exact congrArg List.sum (List.map_congr_left each)
  | composed mode refIds members ih =>
    by_cases filled : members = []
    · subst filled
      exact ⟨none, rfl, rfl⟩
    · have bare := refs_composed_eq_nil_iff.mp resolved
      have each (member : FilterState) (held : member ∈ members) :
          member.compile.outcome = .ok member.query? ∧
            member.query?.elim 0 Query.leaves = member.constraints := by
        obtain ⟨query?, built, same⟩ := ih member held (bare member held) ((allFlat_iff members).mp flat member held)
        rw [outcome_eq_query? built]
        exact ⟨built, same⟩
      refine ⟨_, outcome_compile_composed filled fun member held => (each member held).1, ?_⟩
      have leaves (member : FilterState) (held : member ∈ members) :
          (member.query?.getD (.all [])).leaves = member.constraints := by
        rw [← (each member held).2]
        cases member.query? <;> rfl
      rw [Option.elim_some, Query.leaves, Query.allLeaves_eq, List.map_map, constraints, allConstraints_eq]
      exact congrArg List.sum (List.map_congr_left leaves)

def labVisits : FilterState :=
  .composed none [] [
    .standard none [
      ("visit.lab.code", .option ⟨some ["K"], .excludesAny, none⟩),
      ("patient:p1", .anchored ⟨"patient", "p1", some .or, [
        ("visit.day", .option ⟨some ["mon"], .containsAny, none⟩),
        ("age", .option ⟨some ["40"], .containsAny, none⟩)]⟩)],
    .anchored (some .or) [("site:s", ⟨"site", "s", none, [
      ("visit.kind", .option ⟨none, .containsAny, some .and⟩)]⟩)],
    .empty]

theorem compile_leaves_labVisits : labVisits.refs = [] ∧ labVisits.Flat ∧
    ∃ query?, labVisits.compile.outcome = .ok query? ∧ query?.elim 0 Query.leaves =
      {(["visit", "lab"], .matching .excludesAny "code" ["K"]),
        (["visit"], .matching .containsAny "patient" ["p1"]), (["visit"], .matching .containsAny "day" ["mon"]),
        (["visit"], .matching .containsAny "site" ["s"])} := by
  have resolved : labVisits.refs = [] := rfl
  have flat : labVisits.Flat := by
    simp only [labVisits, Flat, allFlat, List.forall_mem_cons, FieldFilter.Flat, AnchoredFilter.Flat]
    simp [FieldFilter.isAnchored]
  obtain ⟨query?, built, leaves⟩ := compile_leaves labVisits resolved flat
  exact ⟨resolved, flat, query?, built, leaves.trans rfl⟩

end FilterState

end CohortFilter
