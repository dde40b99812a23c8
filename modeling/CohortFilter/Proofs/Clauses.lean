import Mathlib.Data.List.Basic
import CohortFilter.Compile
import CohortFilter.Proofs.Grouping
import CohortFilter.Proofs.Outcomes

namespace CohortFilter

namespace FieldFilter

def ownClauses (field : String) : FieldFilter → List Query
  | .option filter => filter.clauses field
  | .range filter => filter.clauses field
  | .anchored _ => []

theorem clauses_of_plain {filter : FieldFilter} (field : String) (plain : filter.isAnchored = false) :
    filter.clauses field = .ok (filter.ownClauses field) := by
  cases filter with
  | option | range => rfl
  | anchored => cases plain

theorem mem_plain {entries : List (String × FieldFilter)} {entry : String × FieldFilter} :
    entry ∈ plain entries ↔ entry ∈ entries ∧ entry.2.isAnchored = false := by
  simp [plain]

theorem plain_eq_self {entries : List (String × FieldFilter)}
    (all : ∀ entry ∈ entries, entry.2.isAnchored = false) : plain entries = entries := by
  simpa [plain] using all

def clauseList (mode : CombineMode) (entries : List (String × FieldFilter)) : List Query :=
  (compile mode entries).outcome.toOption.getD []

theorem clauseList_of_outcome {mode : CombineMode} {entries : List (String × FieldFilter)} {clauses : List Query}
    (built : (compile mode entries).outcome = .ok clauses) : clauseList mode entries = clauses := by
  rw [clauseList, built]
  rfl

theorem clauseList_nil (mode : CombineMode) : clauseList mode [] = [] := by
  rw [clauseList, compile, Groups.ofEntries_eq]
  rfl

end FieldFilter

namespace AnchoredFilter

def clauseList (filter : AnchoredFilter) : List (String × Query) :=
  filter.compile.outcome.toOption.getD []

theorem clauseList_of_outcome {filter : AnchoredFilter} {clauses : List (String × Query)}
    (built : filter.compile.outcome = .ok clauses) : filter.clauseList = clauses := by
  rw [clauseList, built]
  rfl

def assembled (filter : AnchoredFilter) : List (String × Query) :=
  (Groups.paths filter.fields).map fun path =>
    (path, .all [filter.anchor, .group (filter.combineMode.getD .and)
      (FieldFilter.clauseList (filter.combineMode.getD .and) (Groups.under path filter.fields))])

end AnchoredFilter

namespace FieldFilter

def anchoredClauses : FieldFilter → List (String × Query)
  | .anchored filter => filter.clauseList
  | .option _ | .range _ => []

def anchoredAt (path : String) (entries : List (String × FieldFilter)) : List Query :=
  (entries.flatMap fun entry => entry.2.anchoredClauses).filterMap fun (place, clause) =>
    if place = path then some clause else none

def allPaths (entries : List (String × FieldFilter)) : List String :=
  (entries.flatMap fun entry => entry.2.paths entry.1).eraseDups

theorem mem_allPaths {entries : List (String × FieldFilter)} {path : String} :
    path ∈ allPaths entries ↔ ∃ entry ∈ entries, path ∈ entry.2.paths entry.1 := by
  simp [allPaths]

def assembled (mode : CombineMode) (entries : List (String × FieldFilter)) : List Query :=
  (Groups.undotted (plain entries)).flatMap (fun entry => entry.2.ownClauses entry.1) ++
    (allPaths entries).map fun path =>
      .nested path mode (clauseList mode (Groups.under path (plain entries)) ++ anchoredAt path entries)

theorem paths_plain_subset {entries : List (String × FieldFilter)} {path : String}
    (member : path ∈ Groups.paths (plain entries)) : path ∈ allPaths entries := by
  obtain ⟨⟨key, filter⟩, held, rest, found⟩ := Groups.mem_paths.mp member
  obtain ⟨held, unanchored⟩ := mem_plain.mp held
  refine mem_allPaths.mpr ⟨_, held, ?_⟩
  cases filter with
  | option | range => simp [paths, Key.parent?_of_split? found]
  | anchored => cases unanchored

end FieldFilter

namespace ClauseList

theorem foldl_addMain {α : Type} (made : α → List Query) (items : List α) (clauses : ClauseList) :
    items.foldl (fun held item => held.addMain (made item)) clauses = clauses.addMain (items.flatMap made) := by
  induction items generalizing clauses with
  | nil => simp [addMain]
  | cons item rest ih =>
    rw [List.foldl_cons, ih]
    simp [addMain]

theorem foldl_extend (pairs : List (String × List Query)) (clauses : ClauseList) :
    pairs.foldl (fun held pair => held.extend pair.1 pair.2) clauses =
      ⟨clauses.main, pairs.foldl (fun groups pair => Entries.extend pair.1 pair.2 groups) clauses.nested⟩ := by
  induction pairs generalizing clauses with
  | nil => rfl
  | cons pair rest ih => exact ih (clauses.extend pair.1 pair.2)

theorem foldl_reserve (paths : List String) :
    paths.foldl reserve empty = ⟨[], paths.eraseDups.map fun path => (path, [])⟩ := by
  induction paths using List.reverseRecOn with
  | nil => rfl
  | append_singleton paths path ih =>
    rw [List.foldl_append, ih, List.foldl_cons, List.foldl_nil, reserve, extend,
      Entries.extend_map path [] (fun _ => []) (Groups.nodup_eraseDups paths), Groups.eraseDups_concat, List.map_append]
    by_cases known : path ∈ paths <;> simp [known]

theorem foldl_push (parts : List (String × Query)) (clauses : ClauseList) :
    parts.foldl (fun held part => held.push part.1 part.2) clauses =
      (parts.map fun part => (part.1, [part.2])).foldl (fun held pair => held.extend pair.1 pair.2) clauses := by
  rw [List.foldl_map]
  rfl

end ClauseList

namespace FieldFilter

def grouped (mode : CombineMode) (entries : List (String × FieldFilter)) : List (String × List Query) :=
  (Groups.paths (plain entries)).map fun path => (path, clauseList mode (Groups.under path (plain entries)))

/-- The steps of compiling fields, where each part has been compiled already. -/
def gathered (mode : CombineMode) (entries : List (String × FieldFilter)) : ClauseList :=
  let reserved := (entries.flatMap fun entry => entry.2.paths entry.1).foldl ClauseList.reserve .empty
  let main := (Groups.undotted (plain entries)).foldl (fun clauses entry =>
    clauses.addMain (entry.2.ownClauses entry.1)) reserved
  let extended := (grouped mode entries).foldl (fun clauses group => clauses.extend group.1 group.2) main
  entries.foldl (fun clauses entry =>
    entry.2.anchoredClauses.foldl (fun held part => held.push part.1 part.2) clauses) extended

def warnings : FieldFilter → List Warning
  | .anchored filter => filter.compile.warnings
  | .option _ | .range _ => []

/-- The warnings of the fields under each path, and then those of the anchored filters. -/
def allWarnings (mode : CombineMode) (entries : List (String × FieldFilter)) : List Warning :=
  ((Groups.paths (plain entries)).flatMap fun path => (compile mode (Groups.under path (plain entries))).warnings) ++
    entries.flatMap fun entry => entry.2.warnings

theorem compile_eq_of {mode : CombineMode} {entries : List (String × FieldFilter)}
    (plainParts : ∀ path ∈ Groups.paths (plain entries),
      (compile mode (Groups.under path (plain entries))).outcome =
        .ok (clauseList mode (Groups.under path (plain entries))))
    (anchoredParts : ∀ name filter, (name, .anchored filter) ∈ entries →
      filter.compile.outcome = .ok filter.clauseList) :
    compile mode entries = ⟨.ok ((gathered mode entries).finish mode), allWarnings mode entries⟩ := by
  -- All steps of the three loops succeed, so that only their results are left.
  rw [compile, Groups.ofEntries_eq]
  rw [Warned.foldlM_eq (fun clauses entry => clauses.addMain (entry.2.ownClauses entry.1)) (fun _ => []) ?main,
    Warned.ok_bind,
    Warned.foldlM_attach_eq (fun clauses group => clauses.extend group.1 (clauseList mode group.2))
      (fun group => (compile mode group.2).warnings) ?plain,
    Warned.ok_bind,
    Warned.foldlM_attach_eq
      (fun clauses entry => entry.2.anchoredClauses.foldl (fun held part => held.push part.1 part.2) clauses)
      (fun entry => entry.2.warnings) ?anchored]
  case main =>
    intro clauses entry member
    have unanchored := (mem_plain.mp (List.mem_filter.mp member).1).2
    exact Warned.bind_pure_eq (clauses_of_plain entry.1 unanchored) clauses.addMain
  case plain =>
    intro clauses group member
    rcases List.mem_map.mp member with ⟨path, found, rfl⟩
    exact Warned.bind_pure_eq (plainParts path found) (clauses.extend path)
  case anchored =>
    intro clauses entry member
    rcases entry with ⟨name, filter⟩
    cases filter with
    | option | range => rfl
    | anchored filter => exact Warned.bind_pure_eq (anchoredParts name filter member) _
  have silent : (Groups.undotted (plain entries)).flatMap (fun _ => ([] : List Warning)) = [] :=
    List.flatMap_eq_nil_iff.mpr fun _ _ => rfl
  rw [gathered, grouped, allWarnings, List.foldl_map, List.foldl_map, Warned.bind_pure_eq rfl, silent, List.flatMap_map]
  rfl

end FieldFilter

namespace AnchoredFilter

def allWarnings (filter : AnchoredFilter) : List Warning :=
  (if (Groups.undotted filter.fields).isEmpty then []
    else [.unanchoredFields filter.key (Entries.keys (Groups.undotted filter.fields))]) ++
      (Groups.paths filter.fields).flatMap fun path =>
        (FieldFilter.compile (filter.combineMode.getD .and) (Groups.under path filter.fields)).warnings

theorem compile_eq_of {filter : AnchoredFilter}
    (parts : ∀ path ∈ Groups.paths filter.fields,
      (FieldFilter.compile (filter.combineMode.getD .and) (Groups.under path filter.fields)).outcome =
        .ok (FieldFilter.clauseList (filter.combineMode.getD .and) (Groups.under path filter.fields))) :
    filter.compile = ⟨.ok filter.assembled, filter.allWarnings⟩ := by
  let clause (path : String) (clauses : List Query) : String × Query :=
    (path, .all [filter.anchor, .group (filter.combineMode.getD .and) clauses])
  rw [compile, Groups.ofEntries_eq]
  refine (Warned.unless_bind_eq _ _ fun _ => _).trans ?_
  rw [Warned.mapM_attach_eq
    (fun group => clause group.1 (FieldFilter.clauseList (filter.combineMode.getD .and) group.2))
    (fun group => (FieldFilter.compile (filter.combineMode.getD .and) group.2).warnings)]
  · rw [assembled, allWarnings, List.map_map, List.flatMap_map]
    rfl
  · intro group member
    rcases List.mem_map.mp member with ⟨path, found, rfl⟩
    exact Warned.bind_pure_eq (parts path found) (clause path)

end AnchoredFilter

/-- Induction over what is compiled: fields after those under each of their paths and after their anchored
    filters, an anchored filter after the fields under each of its paths. -/
theorem compile_induction {motive : CombineMode → List (String × FieldFilter) → Prop}
    {anchoredMotive : AnchoredFilter → Prop}
    (fields : ∀ mode entries, (∀ path ∈ Groups.paths (FieldFilter.plain entries),
      motive mode (Groups.under path (FieldFilter.plain entries))) →
      (∀ name filter, (name, .anchored filter) ∈ entries → anchoredMotive filter) → motive mode entries)
    (anchored : ∀ filter : AnchoredFilter, (∀ path ∈ Groups.paths filter.fields,
      motive (filter.combineMode.getD .and) (Groups.under path filter.fields)) → anchoredMotive filter) :
    (∀ mode entries, motive mode entries) ∧ ∀ filter, anchoredMotive filter := by
  apply FieldFilter.compile.mutual_induct
  case case1 =>
    intro mode entries groups plainParts anchoredParts
    exact fields mode entries (fun path member => plainParts path _ (Groups.mem_nested member)) anchoredParts
  case case2 =>
    intro filter mode groups bare nested
    exact anchored filter fun path member => nested path _ (Groups.mem_nested member)
  case case3 =>
    intro filter mode groups more nested
    exact anchored filter fun path member => nested path _ (Groups.mem_nested member)

theorem outcome_compile :
    (∀ mode entries, (FieldFilter.compile mode entries).outcome = .ok (FieldFilter.clauseList mode entries)) ∧
      ∀ filter : AnchoredFilter, filter.compile.outcome = .ok filter.clauseList := by
  apply compile_induction
  case fields =>
    intro mode entries plainParts anchoredParts
    have built := congrArg Warned.outcome (FieldFilter.compile_eq_of plainParts anchoredParts)
    rw [built, FieldFilter.clauseList_of_outcome built]
  case anchored =>
    intro filter parts
    have built := congrArg Warned.outcome (AnchoredFilter.compile_eq_of parts)
    rw [built, AnchoredFilter.clauseList_of_outcome built]

namespace AnchoredFilter

theorem compile_eq (filter : AnchoredFilter) : filter.compile = ⟨.ok filter.assembled, filter.allWarnings⟩ :=
  compile_eq_of fun _ _ => outcome_compile.1 _ _

theorem clauseList_eq (filter : AnchoredFilter) : filter.clauseList = filter.assembled :=
  clauseList_of_outcome (congrArg Warned.outcome filter.compile_eq)

end AnchoredFilter

namespace FieldFilter

theorem anchored_path_mem {entries : List (String × FieldFilter)} {part : String × Query}
    (member : part ∈ entries.flatMap fun entry => entry.2.anchoredClauses) : part.1 ∈ allPaths entries := by
  obtain ⟨⟨key, filter⟩, held, member⟩ := List.mem_flatMap.mp member
  refine mem_allPaths.mpr ⟨_, held, ?_⟩
  cases filter with
  | option | range => cases member
  | anchored filter =>
    rw [anchoredClauses, AnchoredFilter.clauseList_eq, AnchoredFilter.assembled] at member
    obtain ⟨path, found, rfl⟩ := List.mem_map.mp member
    simpa [paths, Groups.paths] using found

def added (mode : CombineMode) (entries : List (String × FieldFilter)) : List (String × List Query) :=
  grouped mode entries ++ (entries.flatMap fun entry => entry.2.anchoredClauses).map fun part => (part.1, [part.2])

theorem keys_added_subset {mode : CombineMode} {entries : List (String × FieldFilter)} {path : String}
    (member : path ∈ Entries.keys (added mode entries)) : path ∈ allPaths entries := by
  rw [added, Entries.keys, List.map_append, List.mem_append, List.map_map] at member
  rcases member with member | member
  · simp [grouped] at member
    exact paths_plain_subset member
  · obtain ⟨part, held, rfl⟩ := List.mem_map.mp member
    exact anchored_path_mem held

theorem flatten_valuesAt_added (mode : CombineMode) (entries : List (String × FieldFilter)) (path : String) :
    (Entries.valuesAt path (added mode entries)).flatten =
      clauseList mode (Groups.under path (plain entries)) ++ anchoredAt path entries := by
  have group : (Entries.valuesAt path (grouped mode entries)).flatten =
      clauseList mode (Groups.under path (plain entries)) := by
    have names : Entries.keys (grouped mode entries) = Groups.paths (plain entries) := by
      simp [grouped, Entries.keys, Function.comp_def]
    by_cases member : path ∈ Groups.paths (plain entries)
    · have found : (path, clauseList mode (Groups.under path (plain entries))) ∈ grouped mode entries :=
        List.mem_map_of_mem member
      rw [Entries.valuesAt_of_mem (names ▸ Groups.nodup_paths _) found, List.flatten_singleton]
    · rw [Entries.valuesAt_eq_nil (names ▸ member), Groups.under_eq_nil member, clauseList_nil]
      rfl
  rw [added, Entries.valuesAt_append, List.flatten_append, group, Entries.valuesAt_map path fun clause => [clause]]
  exact congrArg _ (List.flatMap_singleton' _)

/-- Reserving the paths settles their order, and what is added later only goes where it belongs. -/
theorem gathered_eq (mode : CombineMode) (entries : List (String × FieldFilter)) :
    gathered mode entries =
      ⟨(Groups.undotted (plain entries)).flatMap fun entry => entry.2.ownClauses entry.1,
        (allPaths entries).map fun path =>
          (path, clauseList mode (Groups.under path (plain entries)) ++ anchoredAt path entries)⟩ := by
  let own := (Groups.undotted (plain entries)).flatMap fun entry => entry.2.ownClauses entry.1
  have distinct : (allPaths entries).Nodup := Groups.nodup_eraseDups _
  have known : (allPaths entries ++ Entries.keys (added mode entries)).eraseDups = allPaths entries := by
    rw [Groups.eraseDups_append_of_subset fun _ => keys_added_subset, Groups.eraseDups_eq_self_iff.mpr distinct]
  calc gathered mode entries
    _ = (added mode entries).foldl (fun clauses pair => clauses.extend pair.1 pair.2)
          ⟨own, (allPaths entries).map fun path => (path, [])⟩ := by
      rw [gathered, ← List.foldl_flatMap, ClauseList.foldl_push, ClauseList.foldl_reserve, ClauseList.foldl_addMain,
        added, List.foldl_append]
      rfl
    _ = ⟨own, (added mode entries).foldl (fun groups pair => Entries.extend pair.1 pair.2 groups)
          ((allPaths entries).map fun path => (path, []))⟩ := ClauseList.foldl_extend _ _
    _ = ⟨own, (allPaths entries).map fun path =>
          (path, clauseList mode (Groups.under path (plain entries)) ++ anchoredAt path entries)⟩ := by
      rw [Entries.foldl_extend_eq distinct, known]
      simp only [flatten_valuesAt_added]

theorem compile_eq (mode : CombineMode) (entries : List (String × FieldFilter)) :
    compile mode entries = ⟨.ok ((gathered mode entries).finish mode), allWarnings mode entries⟩ :=
  compile_eq_of (fun _ _ => outcome_compile.1 mode _) fun _ filter _ => outcome_compile.2 filter

theorem clauseList_eq (mode : CombineMode) (entries : List (String × FieldFilter)) :
    clauseList mode entries = assembled mode entries := by
  rw [clauseList_of_outcome (congrArg Warned.outcome (compile_eq mode entries)), gathered_eq, ClauseList.finish,
    assembled, List.map_map]
  rfl

end FieldFilter

theorem FieldFilter.plain_under {entries : List (String × FieldFilter)} (path : String)
    (plain : ∀ entry ∈ entries, entry.2.isAnchored = false) :
    ∀ entry ∈ Groups.under path entries, entry.2.isAnchored = false := by
  intro entry member
  rcases entry with ⟨rest, filter⟩
  rcases Groups.mem_under.mp member with ⟨key, held, -⟩
  exact plain (key, filter) held

theorem FieldFilter.clauseList_of_plain (mode : CombineMode) {entries : List (String × FieldFilter)}
    (plain : ∀ entry ∈ entries, entry.2.isAnchored = false) :
    clauseList mode entries =
      (Groups.undotted entries).flatMap (fun entry => entry.2.ownClauses entry.1) ++
        (Groups.paths entries).map fun path => .nested path mode (clauseList mode (Groups.under path entries)) := by
  have ownPath : ∀ entry ∈ entries, entry.2.paths entry.1 = (Key.parent? entry.1).toList := by
    intro entry member
    rcases entry with ⟨key, filter⟩
    cases filter with
    | option | range => rfl
    | anchored filter => cases plain _ member
  have unanchored : ∀ entry ∈ entries, entry.2.anchoredClauses = [] := by
    intro entry member
    rcases entry with ⟨key, filter⟩
    cases filter with
    | option | range => rfl
    | anchored filter => cases plain _ member
  have paths : allPaths entries = Groups.paths entries := by
    rw [allPaths, Groups.paths, List.filterMap_eq_flatMap_toList, List.flatMap_congr ownPath]
  have anchored (path : String) : anchoredAt path entries = [] := by
    rw [anchoredAt, List.flatMap_congr unanchored]
    simp
  rw [clauseList_eq, assembled, plain_eq_self plain, paths]
  simp [anchored]

namespace FilterState

theorem outcome_compile_standard (mode : Option CombineMode) {fields : List (String × FieldFilter)}
    (filled : fields ≠ []) :
    (standard mode fields).compile.outcome =
      .ok (some (.group (mode.getD .and) (FieldFilter.clauseList (mode.getD .and) fields))) := by
  cases fields with
  | nil => exact absurd rfl filled
  | cons entry rest =>
    rw [compile]
    exact Warned.outcome_bind (CohortFilter.outcome_compile.1 _ _)

theorem compile_anchored_eq (mode : Option CombineMode) {fields : List (String × AnchoredFilter)}
    (filled : fields ≠ []) :
    (anchored mode fields).compile =
      ⟨.ok (some (.group (mode.getD .and) ((fields.flatMap fun entry => entry.2.clauseList).map
        fun (path, clause) => .nested path (mode.getD .and) [clause]))),
        fields.flatMap fun entry => entry.2.compile.warnings⟩ := by
  cases fields with
  | nil => exact absurd rfl filled
  | cons entry rest =>
    rw [compile, Warned.mapM_eq (fun entry => entry.2.clauseList) (fun entry => entry.2.compile.warnings)
      fun entry _ => Warned.eq_of_outcome (CohortFilter.outcome_compile.2 entry.2)]
    exact Warned.bind_pure_eq rfl _

theorem outcome_compile_anchored (mode : Option CombineMode) {fields : List (String × AnchoredFilter)}
    (filled : fields ≠ []) :
    (anchored mode fields).compile.outcome =
      .ok (some (.group (mode.getD .and) ((fields.flatMap fun entry => entry.2.clauseList).map
        fun (path, clause) => .nested path (mode.getD .and) [clause]))) :=
  congrArg Warned.outcome (compile_anchored_eq mode filled)

theorem outcome_compileMembers (members : List FilterState) :
    (compileMembers members).outcome =
      members.mapM fun member => member.compile.outcome.map (·.getD (.all [])) := by
  induction members with
  | nil => rfl
  | cons member rest ih =>
    rw [compileMembers, Warned.outcome_bind_eq]
    cases made : member.compile.outcome with
    | error error => rw [Outcome.mapM_cons_of_error rest (congrArg (Except.map _) made)]; rfl
    | ok query =>
      rw [Outcome.mapM_cons_of_ok rest (congrArg (Except.map _) made), ← ih]
      exact Warned.outcome_bind_eq (compileMembers rest) fun queries => pure (query.getD (.all []) :: queries)

theorem compile_composed_eq (mode : Option CombineMode) (refIds : List String) {members : List FilterState}
    (filled : members ≠ []) :
    (composed mode refIds members).compile =
      compileMembers members >>= fun queries => pure (some (.group (mode.getD .and) queries)) := by
  cases members with
  | nil => exact absurd rfl filled
  | cons member rest =>
    rw [compile, compileMembers]
    simp only [bind_assoc, pure_bind]

theorem outcome_compile_composed_eq (mode : Option CombineMode) (refIds : List String)
    {members : List FilterState} (filled : members ≠ []) :
    (composed mode refIds members).compile.outcome =
      (compileMembers members).outcome.map fun queries => some (.group (mode.getD .and) queries) := by
  rw [compile_composed_eq mode refIds filled]
  exact Warned.outcome_bind_eq (compileMembers members) _

theorem outcome_compile_composed {mode : Option CombineMode} {refIds : List String}
    {members : List FilterState} {result : FilterState → Option Query} (filled : members ≠ [])
    (each : ∀ member ∈ members, member.compile.outcome = .ok (result member)) :
    (composed mode refIds members).compile.outcome =
      .ok (some (.group (mode.getD .and) (members.map fun member => (result member).getD (.all [])))) := by
  have queries : (compileMembers members).outcome =
      .ok (members.map fun member => (result member).getD (.all [])) := by
    rw [outcome_compileMembers, Outcome.mapM_eq_ok_iff, List.forall₂_map_right_iff, List.forall₂_same]
    exact fun member held => congrArg (Except.map _) (each member held)
  rw [outcome_compile_composed_eq mode refIds filled, queries]
  rfl

end FilterState

end CohortFilter
