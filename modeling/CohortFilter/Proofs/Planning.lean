import Mathlib.Data.List.Nodup
import Mathlib.Data.List.Perm.Basic
import CohortFilter.Aggregation.QueryInfo
import CohortFilter.Proofs.Grouping

namespace CohortFilter

namespace QueryInfo

/-- The group of a field of a tab: its path, where the tab is anchored by a config and a value, and else the
    main group. -/
def groupOf (config : Option AnchorConfig) (value : Option String) (tab : FilterTab) (field : String) : String :=
  match config, value with
  | some config, some value =>
    if value ≠ "" ∧ tab.title ∈ config.tabs then (Key.parent? field).getD mainGroup else mainGroup
  | _, _ => mainGroup

/-- The fields of a tab in their order, each with its group. -/
def requestedOf (config : Option AnchorConfig) (value : Option String) (tab : FilterTab) : List (String × String) :=
  tab.fields.map fun field => (groupOf config value tab field, field)

def requested (config : Option AnchorConfig) (value : Option String) (tabs : List FilterTab) : List (String × String) :=
  tabs.flatMap (requestedOf config value)

def pathGroups (assigned : List (String × String)) : List String :=
  ((assigned.map Prod.fst).filter (· != mainGroup)).eraseDups

def fieldsAt (group : String) (assigned : List (String × String)) : List String :=
  (assigned.filter (·.1 == group)).map Prod.snd

theorem fieldsAt_append (group : String) (front back : List (String × String)) :
    fieldsAt group (front ++ back) = fieldsAt group front ++ fieldsAt group back := by
  rw [fieldsAt, List.filter_append, List.map_append, fieldsAt, fieldsAt]

theorem fieldsAt_flatMap {α : Type} (group : String) (assigned : α → List (String × String)) (items : List α) :
    fieldsAt group (items.flatMap assigned) = items.flatMap fun item => fieldsAt group (assigned item) := by
  rw [fieldsAt, List.filter_flatMap, List.map_flatMap]
  rfl

theorem mem_pathGroups {assigned : List (String × String)} {group : String} :
    group ∈ pathGroups assigned ↔ group ≠ mainGroup ∧ ∃ field, (group, field) ∈ assigned := by
  simp [pathGroups, and_comm]

theorem nodup_groups (assigned : List (String × String)) : (mainGroup :: pathGroups assigned).Nodup :=
  List.nodup_cons.mpr ⟨fun member => (mem_pathGroups.mp member).1 rfl, Groups.nodup_eraseDups _⟩

theorem fieldsAt_eq_valuesAt (group : String) (assigned : List (String × String)) :
    fieldsAt group assigned = Entries.valuesAt group assigned := by
  induction assigned with
  | nil => rfl
  | cons pair rest ih =>
    rw [fieldsAt] at ih ⊢
    by_cases same : pair.1 = group <;> simp [Entries.valuesAt, same, ih]

theorem foldl_append_eq (assigned : List (String × String)) :
    assigned.foldl (fun groups assigned => Entries.append assigned.1 assigned.2 groups) [(mainGroup, [])] =
      (mainGroup :: pathGroups assigned).map fun group => (group, fieldsAt group assigned) := by
  have names : (mainGroup :: Entries.keys assigned).eraseDups = mainGroup :: pathGroups assigned := List.eraseDups_cons
  have collected := Entries.foldl_append_eq (List.nodup_singleton mainGroup) assigned
  rw [List.singleton_append, names] at collected
  simp only [fieldsAt_eq_valuesAt]
  exact collected

section Tabs

variable {config : Option AnchorConfig} {value : Option String}

theorem groupOf_eq (config : Option AnchorConfig) (value : Option String) (tab : FilterTab) (field : String) :
    groupOf config value tab field =
      if anchors (Anchor.ofChoice? config value) tab then (Key.parent? field).getD mainGroup else mainGroup := by
  cases config with
  | none => rfl
  | some config =>
    cases value with
    | none => rfl
    | some value =>
      by_cases empty : value = ""
      · simp [groupOf, Anchor.ofChoice?, anchors, empty]
      · simp [groupOf, Anchor.ofChoice?, anchors, AnchorConfig.appliesTo, empty]

def keyed (fields : List String) : List (String × String) := fields.map fun field => (field, field)

theorem undotted_keyed (fields : List String) :
    (Groups.undotted (keyed fields)).map Prod.snd = fields.filter fun field => (Key.parent? field).isNone := by
  have bare (field : String) : ('.' ∉ field.toList) ↔ (Key.parent? field).isNone = true := by
    rw [Key.parent?, Option.isNone_iff_eq_none, Option.map_eq_none_iff, Key.split?_eq_none_iff]
  simp only [keyed, Groups.undotted, List.filter_map, List.map_map, Function.comp_def, List.map_id', bare,
    Bool.decide_eq_true]

theorem under_keyed (path : String) (fields : List String) :
    (Groups.under path (keyed fields)).map Prod.snd = fields.filter fun field => Key.parent? field == some path := by
  induction fields with
  | nil => rfl
  | cons field rest ih =>
    have step : Groups.under path (keyed (field :: rest)) =
        Groups.under path [(field, field)] ++ Groups.under path (keyed rest) := by
      rw [keyed, List.map_cons, ← List.singleton_append, Groups.under, List.filterMap_append]
      rfl
    rw [step, List.map_append, ih, List.filter_cons]
    cases found : Key.split? '.' field with
    | none => simp [Groups.under, Key.parent?, found]
    | some parts => by_cases same : parts.1 = path <;> simp [Groups.under, Key.parent?, found, same]

theorem paths_keyed (fields : List String) :
    Groups.paths (keyed fields) = (fields.filterMap Key.parent?).eraseDups := by
  rw [Groups.paths, keyed, List.filterMap_map]
  rfl

theorem assignments_of_anchored {anchor : Option Anchor} {tab : FilterTab} (anchored : anchors anchor tab = true) :
    assignments anchor tab =
      (Groups.undotted (keyed tab.fields)).map (fun entry => (mainGroup, entry.2)) ++
        (Groups.paths (keyed tab.fields)).flatMap fun path =>
          (Groups.under path (keyed tab.fields)).map fun entry => (path, entry.2) := by
  rw [assignments, if_pos anchored, fieldGroups, ← keyed, Groups.ofEntries_eq]
  simp [List.flatMap_map]

theorem fieldsAt_map (held group : String) (entries : List (String × String)) :
    fieldsAt group (entries.map fun entry => (held, entry.2)) =
      if held = group then entries.map Prod.snd else [] := by
  by_cases same : held = group
  · subst same
    rw [if_pos rfl, fieldsAt, List.filter_eq_self.mpr fun pair member => ?_, List.map_map]
    · rfl
    · rcases List.mem_map.mp member with ⟨_, _, rfl⟩
      exact beq_self_eq_true held
  · rw [if_neg same, fieldsAt, List.filter_eq_nil_iff.mpr fun pair member => ?_, List.map_nil]
    rcases List.mem_map.mp member with ⟨_, _, rfl⟩
    simpa using same

theorem flatMap_ite_eq {α : Type} {part : String → List α} {names : List String} {name : String}
    (distinct : names.Nodup) (absent : name ∉ names → part name = []) :
    (names.flatMap fun held => if held = name then part held else []) = part name := by
  induction names with
  | nil => exact (absent List.not_mem_nil).symm
  | cons held rest ih =>
    rcases List.nodup_cons.mp distinct with ⟨fresh, distinct⟩
    rw [List.flatMap_cons]
    by_cases same : held = name
    · subst same
      have others : (rest.flatMap fun other => if other = held then part other else []) = [] := by
        refine List.flatMap_eq_nil_iff.mpr fun other member => if_neg ?_
        exact fun equal => fresh (equal ▸ member)
      rw [if_pos rfl, others, List.append_nil]
    · have other : ¬ name = held := fun equal => same equal.symm
      rw [if_neg same, List.nil_append]
      exact ih distinct fun missing => absent (by simp [other, missing])

theorem fieldsAt_assignments {anchor : Option Anchor} {tab : FilterTab} (anchored : anchors anchor tab = true)
    (group : String) :
    fieldsAt group (assignments anchor tab) =
      (if mainGroup = group then tab.fields.filter fun field => (Key.parent? field).isNone else []) ++
        tab.fields.filter fun field => Key.parent? field == some group := by
  rw [assignments_of_anchored anchored, fieldsAt_append, fieldsAt_flatMap, fieldsAt_map, undotted_keyed]
  simp only [fieldsAt_map]
  rw [flatMap_ite_eq (Groups.nodup_paths _), under_keyed]
  exact fun absent => by rw [Groups.under_eq_nil absent, List.map_nil]

theorem requestedOf_of_not_anchored {tab : FilterTab} (bare : ¬ anchors (Anchor.ofChoice? config value) tab = true) :
    requestedOf config value tab = assignments (Anchor.ofChoice? config value) tab := by
  simp only [requestedOf, groupOf_eq, assignments, if_neg bare]

theorem fieldsAt_requestedOf {tab : FilterTab} (anchored : anchors (Anchor.ofChoice? config value) tab = true)
    (group : String) :
    fieldsAt group (requestedOf config value tab) =
      tab.fields.filter fun field => (Key.parent? field).getD mainGroup == group := by
  simp [requestedOf, groupOf_eq, anchored, fieldsAt, List.filter_map, Function.comp_def]

theorem fieldsAt_eq_of_ne {group : String} (other : group ≠ mainGroup) (tab : FilterTab) :
    fieldsAt group (assignments (Anchor.ofChoice? config value) tab) =
      fieldsAt group (requestedOf config value tab) := by
  by_cases anchored : anchors (Anchor.ofChoice? config value) tab = true
  · rw [fieldsAt_assignments anchored, fieldsAt_requestedOf anchored, if_neg other.symm, List.nil_append]
    refine List.filter_congr fun field _ => ?_
    cases Key.parent? field with
    | none => simpa using other.symm
    | some path => rfl
  · rw [requestedOf_of_not_anchored anchored]

theorem fieldsAt_main_perm (tab : FilterTab) :
    (fieldsAt mainGroup (assignments (Anchor.ofChoice? config value) tab)).Perm
      (fieldsAt mainGroup (requestedOf config value tab)) := by
  by_cases anchored : anchors (Anchor.ofChoice? config value) tab = true
  · rw [fieldsAt_assignments anchored, fieldsAt_requestedOf anchored, if_pos rfl]
    have parts := List.filter_append_perm (fun field => (Key.parent? field).isNone)
      (tab.fields.filter fun field => (Key.parent? field).getD mainGroup == mainGroup)
    rw [List.filter_filter, List.filter_filter] at parts
    refine (List.Perm.of_eq (congrArg₂ (· ++ ·) ?_ ?_)).trans parts
    · refine List.filter_congr fun field _ => ?_
      cases Key.parent? field <;> simp
    · refine List.filter_congr fun field _ => ?_
      cases Key.parent? field <;> simp
  · rw [requestedOf_of_not_anchored anchored]

theorem pathGroups_assignments {anchor : Option Anchor} {tab : FilterTab} (anchored : anchors anchor tab = true) :
    pathGroups (assignments anchor tab) = (Groups.paths (keyed tab.fields)).filter (· != mainGroup) := by
  have main : (((Groups.undotted (keyed tab.fields)).map fun _ => mainGroup).filter (· != mainGroup)) = [] := by
    refine List.filter_eq_nil_iff.mpr fun name member => ?_
    rcases List.mem_map.mp member with ⟨_, _, rfl⟩
    simp
  have counted (path : String) (member : path ∈ Groups.paths (keyed tab.fields)) :
      (Groups.under path (keyed tab.fields)).length ≠ 0 := by
    rcases Groups.mem_paths.mp member with ⟨⟨key, item⟩, held, rest, found⟩
    have standing := List.ne_nil_of_mem (Groups.mem_under.mpr ⟨key, held, found⟩)
    exact fun none => standing (List.length_eq_zero_iff.mp none)
  rw [pathGroups, assignments_of_anchored anchored, List.map_append, List.map_flatMap, List.filter_append]
  simp only [List.map_map, Function.comp_def]
  rw [main, List.nil_append, Groups.eraseDups_filter]
  simp only [List.map_const']
  rw [Groups.eraseDups_flatMap_replicate (Groups.nodup_paths _) counted]

theorem pathGroups_requestedOf {tab : FilterTab} (anchored : anchors (Anchor.ofChoice? config value) tab = true) :
    pathGroups (requestedOf config value tab) = (Groups.paths (keyed tab.fields)).filter (· != mainGroup) := by
  have alike (fields : List String) :
      (fields.map fun field => (Key.parent? field).getD mainGroup).filter (· != mainGroup) =
        (fields.filterMap Key.parent?).filter (· != mainGroup) := by
    induction fields with
    | nil => rfl
    | cons field rest ih => cases found : Key.parent? field <;> simp [found, List.filter_cons, ih]
  rw [paths_keyed, ← Groups.eraseDups_filter, ← alike, pathGroups]
  simp [requestedOf, groupOf_eq, anchored, Function.comp_def]

theorem pathGroups_eq (tab : FilterTab) :
    pathGroups (assignments (Anchor.ofChoice? config value) tab) = pathGroups (requestedOf config value tab) := by
  by_cases anchored : anchors (Anchor.ofChoice? config value) tab = true
  · rw [pathGroups_assignments anchored, pathGroups_requestedOf anchored]
  · rw [requestedOf_of_not_anchored anchored]

theorem pathGroups_flatMap_congr {first second : FilterTab → List (String × String)} {tabs : List FilterTab}
    (each : ∀ tab ∈ tabs, pathGroups (first tab) = pathGroups (second tab)) :
    pathGroups (tabs.flatMap first) = pathGroups (tabs.flatMap second) := by
  simp only [pathGroups, List.map_flatMap, List.filter_flatMap]
  exact Groups.eraseDups_flatMap_congr each

end Tabs

section Plan

variable {config : Option AnchorConfig} {value : Option String} {tabs : List FilterTab}

theorem fieldsOf_eq (anchor : Option Anchor) (tabs : List FilterTab) :
    fieldsOf anchor tabs =
      (mainGroup :: pathGroups (tabs.flatMap (assignments anchor))).map fun group =>
        (group, fieldsAt group (tabs.flatMap (assignments anchor))) :=
  foldl_append_eq _

theorem keys_fieldsOf (config : Option AnchorConfig) (value : Option String) (tabs : List FilterTab) :
    Entries.keys (fieldsOf (Anchor.ofChoice? config value) tabs) =
      mainGroup :: pathGroups (requested config value tabs) := by
  rw [fieldsOf_eq, Entries.keys, List.map_map]
  simp only [Function.comp_def, List.map_id']
  exact congrArg (mainGroup :: ·) (pathGroups_flatMap_congr fun tab _ => pathGroups_eq tab)

theorem lookup_fieldsOf {group : String} (member : group ∈ mainGroup :: pathGroups (requested config value tabs)) :
    (fieldsOf (Anchor.ofChoice? config value) tabs).lookup group =
      some (tabs.flatMap fun tab => fieldsAt group (assignments (Anchor.ofChoice? config value) tab)) := by
  rw [← keys_fieldsOf, fieldsOf_eq, Entries.keys, List.map_map] at member
  simp only [Function.comp_def, List.map_id'] at member
  rw [fieldsOf_eq, Entries.lookup_map, if_pos member, fieldsAt_flatMap]

theorem fieldsAt_requested (group : String) :
    fieldsAt group (requested config value tabs) =
      tabs.flatMap fun tab => fieldsAt group (requestedOf config value tab) :=
  fieldsAt_flatMap group (requestedOf config value) tabs

theorem filterKey_injective : Function.Injective filterKey :=
  fun _ _ same => (String.append_right_inj _).mp same

theorem pathGroups_of_none (none : Anchor.ofChoice? config value = none) :
    pathGroups (requested config value tabs) = [] := by
  refine List.eq_nil_iff_forall_not_mem.mpr fun group member => ?_
  rcases mem_pathGroups.mp member with ⟨other, field, standing⟩
  rcases List.mem_flatMap.mp standing with ⟨tab, _, standing⟩
  rcases List.mem_map.mp standing with ⟨_, _, same⟩
  rw [groupOf_eq, none] at same
  exact other (Prod.mk.inj same).1.symm

theorem filterByGroup_of_some {anchor : Anchor} (chosen : Anchor.ofChoice? config value = some anchor)
    (filter : Option Query) :
    (plan tabs (Anchor.ofChoice? config value) filter).filterByGroup =
      (filterKey mainGroup, filter) :: (pathGroups (requested config value tabs)).map fun group =>
        (filterKey group, some (groupFilter filter anchor group)) := by
  have others : (mainGroup :: pathGroups (requested config value tabs)).filter (· != mainGroup) =
      pathGroups (requested config value tabs) := by
    rw [List.filter_cons_of_neg (by simp), List.filter_eq_self]
    exact fun group member => by simpa using (mem_pathGroups.mp member).1
  have keys := keys_fieldsOf config value tabs
  rw [chosen] at keys ⊢
  simp only [plan, filtersOf, keys, others]

theorem filterByGroup_of_none (none : Anchor.ofChoice? config value = none) (filter : Option Query) :
    (plan tabs (Anchor.ofChoice? config value) filter).filterByGroup = [(filterKey mainGroup, filter)] := by
  simp only [plan, filtersOf, none]

theorem keys_filterByGroup (config : Option AnchorConfig) (value : Option String) (tabs : List FilterTab)
    (filter : Option Query) :
    Entries.keys (plan tabs (Anchor.ofChoice? config value) filter).filterByGroup =
      (mainGroup :: pathGroups (requested config value tabs)).map filterKey := by
  cases chosen : Anchor.ofChoice? config value with
  | none =>
    rw [← chosen, filterByGroup_of_none chosen, pathGroups_of_none chosen]
    rfl
  | some anchor =>
    rw [← chosen, filterByGroup_of_some chosen, Entries.keys, List.map_cons, List.map_map]
    rfl

theorem nodup_filterKeys (assigned : List (String × String)) :
    ((mainGroup :: pathGroups assigned).map filterKey).Nodup :=
  (nodup_groups assigned).map filterKey_injective

theorem lookup_filterByGroup {group : String} (member : group ∈ pathGroups (requested config value tabs))
    (filter : Option Query) :
    ∃ anchor, Anchor.ofChoice? config value = some anchor ∧
      (plan tabs (Anchor.ofChoice? config value) filter).filterByGroup.lookup (filterKey group) =
        some (some (groupFilter filter anchor group)) := by
  cases chosen : Anchor.ofChoice? config value with
  | none =>
    rw [pathGroups_of_none chosen] at member
    cases member
  | some anchor =>
    refine ⟨anchor, rfl, ?_⟩
    rw [← chosen]
    refine Entries.lookup_of_mem ?_ ?_
    · rw [keys_filterByGroup]
      exact nodup_filterKeys _
    · rw [filterByGroup_of_some chosen]
      exact List.mem_cons_of_mem _ (List.mem_map.mpr ⟨group, member, rfl⟩)

/-- Each field of the tabs is planned in the group of its path or in the main one. Groups stand in the order of
    their first field behind the main one, with their fields in the order of the tabs, and have a filter each. -/
theorem plan_places_fields (config : Option AnchorConfig) (value : Option String) (tabs : List FilterTab)
    (filter : Option Query) :
    let assigned := requested config value tabs
    let groups := mainGroup :: pathGroups assigned
    let info := plan tabs (Anchor.ofChoice? config value) filter
    Entries.keys info.fieldsByGroup = groups ∧
      (∀ group ∈ pathGroups assigned, info.fieldsByGroup.lookup group = some (fieldsAt group assigned)) ∧
      (∃ fields, info.fieldsByGroup.lookup mainGroup = some fields ∧ fields.Perm (fieldsAt mainGroup assigned)) ∧
      Entries.keys info.filterByGroup = groups.map filterKey ∧ (groups.map filterKey).Nodup ∧
      info.filterByGroup.lookup (filterKey mainGroup) = some filter ∧
      ∀ group ∈ pathGroups assigned, ∃ query, info.filterByGroup.lookup (filterKey group) = some (some query) := by
  refine ⟨keys_fieldsOf config value tabs, fun group member => ?_, ⟨_, lookup_fieldsOf List.mem_cons_self, ?_⟩,
    keys_filterByGroup config value tabs filter, nodup_filterKeys _, ?_, fun group member => ?_⟩
  · have other := (mem_pathGroups.mp member).1
    refine (lookup_fieldsOf (List.mem_cons_of_mem _ member)).trans (congrArg some ?_)
    rw [fieldsAt_requested]
    exact List.flatMap_congr fun tab _ => fieldsAt_eq_of_ne other tab
  · rw [fieldsAt_requested]
    exact List.Perm.flatMap_left tabs fun tab _ => fieldsAt_main_perm tab
  · cases chosen : Anchor.ofChoice? config value with
    | none => rw [← chosen, filterByGroup_of_none chosen, List.lookup_cons_self]
    | some anchor => rw [← chosen, filterByGroup_of_some chosen, List.lookup_cons_self]
  · rcases lookup_filterByGroup member filter with ⟨anchor, -, found⟩
    exact ⟨_, found⟩

def visitTabs : List FilterTab :=
  [⟨"Labs", ["visit.day", "age", "main.x", "visit.code", "lab.value"]⟩, ⟨"Other", ["drug.code"]⟩,
    ⟨"Labs", ["sex", "visit.day"]⟩]

theorem plan_places_fields_visits :
    let config : AnchorConfig := ⟨"patient", ["p1"], ["Labs"]⟩
    let info := plan visitTabs (Anchor.ofChoice? (some config) (some "p1")) none
    "visit" ∈ pathGroups (requested (some config) (some "p1") visitTabs) ∧
      Entries.keys info.fieldsByGroup = ["main", "visit", "lab"] ∧
      info.fieldsByGroup.lookup "visit" = some ["visit.day", "visit.code", "visit.day"] ∧
      (∃ fields, info.fieldsByGroup.lookup "main" = some fields ∧ fields.Perm ["age", "main.x", "drug.code", "sex"]) ∧
      Entries.keys info.filterByGroup = ["filter_main", "filter_visit", "filter_lab"] := by
  intro config info
  have member : "visit" ∈ pathGroups (requested (some config) (some "p1") visitTabs) := by decide
  rcases plan_places_fields (some config) (some "p1") visitTabs none with ⟨keys, others, main, filters, -⟩
  exact ⟨member, keys, others "visit" member, main, filters⟩

end Plan

end QueryInfo

end CohortFilter
