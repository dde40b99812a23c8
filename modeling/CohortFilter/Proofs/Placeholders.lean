import CohortFilter.Proofs.Anchoring
import CohortFilter.Proofs.Meaning

namespace CohortFilter

namespace Groups

theorem eraseDups_insert_eq_iff {before after : List String} {name : String} :
    (before ++ name :: after).eraseDups = (before ++ after).eraseDups ↔
      name ∈ before ∨ (after.find? fun other => !before.contains other) = some name := by
  have next : (after.find? fun other => !before.contains other) = (after.removeAll before).head? :=
    (List.head?_filter ..).symm
  rw [List.eraseDups_append, List.eraseDups_append, List.append_cancel_left_eq, next]
  by_cases known : name ∈ before
  · have passed : (name :: after).removeAll before = after.removeAll before := by simp [List.removeAll, known]
    simp [known, passed]
  · have kept : (name :: after).removeAll before = name :: after.removeAll before := by simp [List.removeAll, known]
    rw [kept, List.eraseDups_cons]
    cases after.removeAll before with
    | nil => simp [known]
    | cons first rest =>
      by_cases same : first = name
      · subst same
        simp [List.eraseDups_cons]
      · have different : ¬ name = first := fun equal => same equal.symm
        simp [List.eraseDups_cons, known, same, different]

end Groups

namespace FieldFilter

variable {front back : List (String × FieldFilter)} {key name rest : String} {filter : FieldFilter}

def shownPaths (entries : List (String × FieldFilter)) : List String :=
  entries.flatMap fun entry => entry.2.paths entry.1

/-- Between these fields a key with this path shows nothing new: each name of the path is shown before its place, or
    it is the first new name that is shown behind. -/
def Unnoticed : List String → List (String × FieldFilter) → List (String × FieldFilter) → Prop
  | [], _, _ => True
  | name :: path, front, back =>
    (name ∈ shownPaths front ∨
      ((shownPaths back).find? fun other => !(shownPaths front).contains other) = some name) ∧
      Unnoticed path (Groups.under name (plain front)) (Groups.under name (plain back))

theorem isAnchored_of_placeholder (placeholder : filter.isPlaceholder = true) : filter.isAnchored = false := by
  cases filter with
  | option | range => rfl
  | anchored => cases placeholder

theorem plain_append (front back : List (String × FieldFilter)) : plain (front ++ back) = plain front ++ plain back :=
  List.filter_append front back

theorem plain_insert (unanchored : filter.isAnchored = false) :
    plain (front ++ (key, filter) :: back) = plain front ++ (key, filter) :: plain back := by
  simp [plain, unanchored]

theorem anchoredAt_insert (path : String) (unanchored : filter.isAnchored = false) :
    anchoredAt path (front ++ (key, filter) :: back) = anchoredAt path (front ++ back) := by
  have bare : filter.anchoredClauses = [] := by
    cases filter with
    | option | range => rfl
    | anchored => cases unanchored
  simp [anchoredAt, bare]

theorem undotted_clauses_insert (placeholder : filter.isPlaceholder = true) :
    ((Groups.undotted (plain (front ++ (key, filter) :: back))).flatMap fun entry => entry.2.ownClauses entry.1) =
      (Groups.undotted (plain (front ++ back))).flatMap fun entry => entry.2.ownClauses entry.1 := by
  have silent : filter.ownClauses key = [] := ownClauses_of_placeholder key placeholder
  rw [plain_insert (isAnchored_of_placeholder placeholder), plain_append]
  by_cases dotted : '.' ∈ key.toList <;> simp [Groups.undotted, dotted, silent]

theorem allPaths_insert_of_none (found : Key.split? '.' key = none) (unanchored : filter.isAnchored = false) :
    allPaths (front ++ (key, filter) :: back) = allPaths (front ++ back) := by
  have shown : filter.paths key = [] := by
    rw [paths_of_plain unanchored, Key.parent?, found]
    rfl
  simp [allPaths, shown]

theorem allPaths_insert_of_some (found : Key.split? '.' key = some (name, rest))
    (unanchored : filter.isAnchored = false) :
    allPaths (front ++ (key, filter) :: back) = (shownPaths front ++ name :: shownPaths back).eraseDups := by
  have shown : filter.paths key = [name] := by
    rw [paths_of_plain unanchored, Key.parent?_of_split? found]
    rfl
  simp [allPaths, shownPaths, shown]

theorem allPaths_append (front back : List (String × FieldFilter)) :
    allPaths (front ++ back) = (shownPaths front ++ shownPaths back).eraseDups := by
  rw [allPaths, List.flatMap_append, shownPaths, shownPaths]

theorem under_insert_of_ne (path : String) (other : ∀ rest, Key.split? '.' key ≠ some (path, rest)) :
    Groups.under path (front ++ (key, filter) :: back) = Groups.under path (front ++ back) := by
  cases found : Key.split? '.' key with
  | none => simp [Groups.under, found]
  | some parts =>
    obtain ⟨held, rest⟩ := parts
    have different : ¬ held = path := fun same => other rest (same ▸ found)
    simp [Groups.under, found, different]

theorem under_insert (found : Key.split? '.' key = some (name, rest)) :
    Groups.under name (front ++ (key, filter) :: back) =
      Groups.under name front ++ (rest, filter) :: Groups.under name back := by
  simp [Groups.under, found]

theorem clauseUnder_insert_of_ne (mode : CombineMode) (path : String) (unanchored : filter.isAnchored = false)
    (other : ∀ rest, Key.split? '.' key ≠ some (path, rest)) :
    clauseUnder mode (front ++ (key, filter) :: back) path = clauseUnder mode (front ++ back) path := by
  unfold clauseUnder
  rw [plain_insert unanchored, under_insert_of_ne path other, anchoredAt_insert path unanchored, plain_append]

theorem clauseUnder_insert_eq_iff (mode : CombineMode) (found : Key.split? '.' key = some (name, rest))
    (unanchored : filter.isAnchored = false) :
    clauseUnder mode (front ++ (key, filter) :: back) name = clauseUnder mode (front ++ back) name ↔
      clauseList mode (Groups.under name (plain front) ++ (rest, filter) :: Groups.under name (plain back)) =
        clauseList mode (Groups.under name (plain front) ++ Groups.under name (plain back)) := by
  have apart : Groups.under name (plain (front ++ back)) =
      Groups.under name (plain front) ++ Groups.under name (plain back) := by
    rw [plain_append]
    exact List.filterMap_append
  unfold clauseUnder
  rw [plain_insert unanchored, under_insert found, anchoredAt_insert name unanchored, apart]
  simp

theorem map_clauseUnder_eq_iff (mode : CombineMode) {entries others : List (String × FieldFilter)}
    {paths places : List String} :
    paths.map (clauseUnder mode entries) = places.map (clauseUnder mode others) ↔
      paths = places ∧ ∀ path ∈ paths, clauseUnder mode entries path = clauseUnder mode others path := by
  constructor
  · intro same
    have names := congrArg (List.map Query.nestedPath?) same
    have nested (entries : List (String × FieldFilter)) :
        Query.nestedPath? ∘ clauseUnder mode entries = some := funext fun path => rfl
    rw [List.map_map, List.map_map, nested, nested] at names
    have equal : paths = places := List.map_injective_iff.mpr (Option.some_injective _) names
    subst equal
    exact ⟨rfl, List.map_inj_left.mp same⟩
  · intro same
    obtain ⟨rfl, each⟩ := same
    exact List.map_congr_left each

theorem clauseList_insert_eq_iff (mode : CombineMode) (placeholder : filter.isPlaceholder = true) :
    clauseList mode (front ++ (key, filter) :: back) = clauseList mode (front ++ back) ↔
      allPaths (front ++ (key, filter) :: back) = allPaths (front ++ back) ∧
        ∀ path ∈ allPaths (front ++ (key, filter) :: back),
          clauseUnder mode (front ++ (key, filter) :: back) path = clauseUnder mode (front ++ back) path := by
  rw [clauseList_eq_append, clauseList_eq_append, undotted_clauses_insert placeholder, List.append_cancel_left_eq]
  exact map_clauseUnder_eq_iff mode

theorem clauseList_insert_of_none (mode : CombineMode) (found : Key.split? '.' key = none)
    (placeholder : filter.isPlaceholder = true) :
    clauseList mode (front ++ (key, filter) :: back) = clauseList mode (front ++ back) := by
  have unanchored := isAnchored_of_placeholder placeholder
  apply (clauseList_insert_eq_iff mode placeholder).mpr
  constructor
  · exact allPaths_insert_of_none found unanchored
  · intro path _
    apply clauseUnder_insert_of_ne mode path unanchored
    intro rest split
    rw [found] at split
    cases split

theorem clauseList_insert_eq_iff_of_some (mode : CombineMode) (found : Key.split? '.' key = some (name, rest))
    (placeholder : filter.isPlaceholder = true) :
    clauseList mode (front ++ (key, filter) :: back) = clauseList mode (front ++ back) ↔
      (name ∈ shownPaths front ∨
        ((shownPaths back).find? fun other => !(shownPaths front).contains other) = some name) ∧
        clauseList mode (Groups.under name (plain front) ++ (rest, filter) :: Groups.under name (plain back)) =
          clauseList mode (Groups.under name (plain front) ++ Groups.under name (plain back)) := by
  have unanchored := isAnchored_of_placeholder placeholder
  have paths : allPaths (front ++ (key, filter) :: back) = allPaths (front ++ back) ↔
      name ∈ shownPaths front ∨
        ((shownPaths back).find? fun other => !(shownPaths front).contains other) = some name := by
    rw [allPaths_insert_of_some found unanchored, allPaths_append]
    exact Groups.eraseDups_insert_eq_iff
  have shown : name ∈ allPaths (front ++ (key, filter) :: back) := by
    rw [allPaths_insert_of_some found unanchored]
    simp
  rw [clauseList_insert_eq_iff mode placeholder, paths, ← clauseUnder_insert_eq_iff mode found unanchored]
  apply and_congr_right
  intro _
  constructor
  · exact fun each => each name shown
  · intro here path _
    by_cases same : path = name
    · rw [same]
      exact here
    · apply clauseUnder_insert_of_ne mode path unanchored
      intro tail split
      rw [found] at split
      cases split
      exact same rfl

theorem clauseList_placeholder_eq_iff (mode : CombineMode) (front back : List (String × FieldFilter)) (key : String)
    (placeholder : filter.isPlaceholder = true) :
    clauseList mode (front ++ (key, filter) :: back) = clauseList mode (front ++ back) ↔
      Unnoticed (Key.segments key).dropLast front back := by
  generalize shown : (Key.segments key).dropLast = path
  induction path generalizing key front back with
  | nil =>
    cases found : Key.split? '.' key with
    | none => simp [Unnoticed, clauseList_insert_of_none mode found placeholder]
    | some parts =>
      rw [Key.segments_of_split?_some found, List.dropLast_cons_of_ne_nil (Key.segments_ne_nil _)] at shown
      cases shown
  | cons name path ih =>
    cases found : Key.split? '.' key with
    | none =>
      rw [Key.segments_of_split?_none found] at shown
      cases shown
    | some parts =>
      obtain ⟨held, rest⟩ := parts
      rw [Key.segments_of_split?_some found, List.dropLast_cons_of_ne_nil (Key.segments_ne_nil _)] at shown
      obtain ⟨rfl, inner⟩ := List.cons.inj shown
      rw [clauseList_insert_eq_iff_of_some mode found placeholder, ih _ _ rest inner, Unnoticed]

end FieldFilter

namespace FilterState

/-- A field without selected values leaves the query as it is exactly where its key shows no new path. -/
theorem compile_placeholder_iff (mode : Option CombineMode) (front back : List (String × FieldFilter)) (key : String)
    (filter : FieldFilter) (filled : front ++ back ≠ []) (placeholder : filter.isPlaceholder = true) :
    (standard mode (front ++ (key, filter) :: back)).compile.outcome = (standard mode (front ++ back)).compile.outcome ↔
      FieldFilter.Unnoticed (Key.segments key).dropLast front back := by
  have filled' : front ++ (key, filter) :: back ≠ [] := List.append_ne_nil_of_right_ne_nil _ (List.cons_ne_nil _ _)
  rw [outcome_compile_standard mode filled, outcome_compile_standard mode filled',
    ← FieldFilter.clauseList_placeholder_eq_iff (mode.getD .and) front back key placeholder]
  simp

def anchoredVisit : List (String × FieldFilter) := [
  ("patient:p1", .anchored ⟨"patient", "p1", none, [("visit.day", .option ⟨some ["mon"], .containsAny, none⟩)]⟩),
  ("lab.kind", .option ⟨some ["x"], .containsAny, none⟩)]

theorem compile_placeholder_iff_visit :
    let placeholder : FieldFilter := .option ⟨none, .containsAny, some .or⟩
    anchoredVisit ++ [] ≠ [] ∧ placeholder.isPlaceholder = true ∧
      (standard none (anchoredVisit ++ [("visit.code", placeholder)])).compile.outcome =
        (standard none (anchoredVisit ++ [])).compile.outcome ∧
      (standard none (anchoredVisit ++ [("visit.site.name", placeholder)])).compile.outcome ≠
        (standard none (anchoredVisit ++ [])).compile.outcome := by
  intro placeholder
  have filled : anchoredVisit ++ [] ≠ [] := by simp [anchoredVisit]
  have silent : placeholder.isPlaceholder = true := rfl
  have code : FieldFilter.Unnoticed ["visit"] anchoredVisit [] := ⟨.inl (by decide), True.intro⟩
  have name : ¬ FieldFilter.Unnoticed ["visit", "site"] anchoredVisit [] := by
    intro unnoticed
    have shown := unnoticed.2.1
    revert shown
    decide
  have short : (Key.segments "visit.code").dropLast = ["visit"] := by decide
  have long : (Key.segments "visit.site.name").dropLast = ["visit", "site"] := by decide
  have kept := compile_placeholder_iff none anchoredVisit [] "visit.code" placeholder filled silent
  have changed := compile_placeholder_iff none anchoredVisit [] "visit.site.name" placeholder filled silent
  rw [short] at kept
  rw [long] at changed
  exact ⟨filled, silent, kept.mpr code, mt changed.mp name⟩

/-- A placeholder on a path of its own asks for a record under that path. -/
theorem compile_placeholder_asks_visit :
    let age : String × FieldFilter := ("age", .option ⟨some ["40"], .containsAny, none⟩)
    let day : String × FieldFilter := ("visit.day", .option ⟨none, .containsAny, some .and⟩)
    day.1 ∉ Entries.keys [age] ∧ day.2.isPlaceholder = true ∧
      (standard none [age]).compile.outcome = .ok (some (.all [.matching .containsAny "age" ["40"]])) ∧
      (standard none ([age] ++ [day])).compile.outcome =
        .ok (some (.all [.matching .containsAny "age" ["40"], .nested "visit" .and []])) ∧
      (standard none ([age] ++ [day])).compile.outcome ≠ (standard none [age]).compile.outcome := by
  intro age day
  have own : FieldFilter.clauseList .and [age] = [.matching .containsAny "age" ["40"]] :=
    FieldFilter.clauseList_singleton .and (by decide) rfl
  have bare : FieldFilter.clauseList .and [("day", day.2)] = [] :=
    FieldFilter.clauseList_singleton .and (by decide) rfl
  have both : FieldFilter.clauseList .and ([age] ++ [day]) =
      [.matching .containsAny "age" ["40"], .nested "visit" .and []] := by
    have found : Key.split? '.' day.1 = some ("visit", "day") := by decide
    have absent : "visit" ∉ FieldFilter.allPaths [age] := by decide
    rw [FieldFilter.clauseList_concat_of_not_mem .and found rfl absent, own, bare]
    rfl
  have alone := outcome_compile_standard none (List.cons_ne_nil age [])
  have joined := outcome_compile_standard none (List.cons_ne_nil age [day])
  rw [Option.getD_none] at alone joined
  rw [own] at alone
  rw [show [age, day] = [age] ++ [day] from rfl, both] at joined
  refine ⟨by decide, rfl, alone, joined, ?_⟩
  rw [alone, joined]
  simp

end FilterState

end CohortFilter
