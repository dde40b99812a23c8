import CohortFilter.Proofs.Planning

namespace CohortFilter

namespace QueryInfo

def mainFields (anchor : Option Anchor) (tab : FilterTab) : List String :=
  if anchors anchor tab then
    (tab.fields.filter fun field => (Key.parent? field).isNone) ++
      tab.fields.filter fun field => Key.parent? field == some mainGroup
  else tab.fields

/-- No field on a path with the name of the main group stands before a field without a path. -/
def MainFirst (fields : List String) : Prop :=
  fields.Pairwise fun earlier later => Key.parent? earlier = some mainGroup → Key.parent? later ≠ none

section Lists

variable {α β : Type}

theorem filter_append_filter_eq_iff {first second : α → Bool}
    (apart : ∀ item, second item = true → first item = false) (items : List α) :
    items.filter first ++ items.filter second = items.filter (fun item => first item || second item) ↔
      items.Pairwise fun earlier later => second earlier = true → first later = false := by
  induction items with
  | nil => simp
  | cons item rest ih =>
    rw [List.pairwise_cons, ← ih]
    cases later : second item with
    | false =>
      cases front : first item <;> simp [front, later]
    | true =>
      -- Anything of the first kind behind this item would be moved in front of it.
      have behind := apart item later
      simp only [List.filter_cons, behind, later, Bool.false_eq_true, if_false, if_true, Bool.or_true, true_implies]
      cases moved : rest.filter first with
      | nil =>
        have absent : ∀ other ∈ rest, first other = false := by simpa using List.filter_eq_nil_iff.mp moved
        have same : rest.filter (fun other => first other || second other) = rest.filter second := by
          apply List.filter_congr
          intro other member
          rw [absent other member, Bool.false_or]
        simpa [same] using absent
      | cons head tail =>
        obtain ⟨member, kind⟩ := List.mem_filter.mp (moved ▸ List.mem_cons_self : head ∈ rest.filter first)
        have different : head ≠ item := by
          rintro rfl
          cases behind.symm.trans kind
        simp only [List.cons_append, List.cons.injEq, different, false_and, false_iff, not_and]
        intro absent
        cases (absent head member).symm.trans kind

theorem flatMap_eq_flatMap_iff {first second : α → List β} {items : List α}
    (sizes : ∀ item ∈ items, (first item).length = (second item).length) :
    items.flatMap first = items.flatMap second ↔ ∀ item ∈ items, first item = second item := by
  constructor
  · intro same
    induction items with
    | nil => exact fun _ member => nomatch member
    | cons item rest ih =>
      obtain ⟨size, sizes⟩ := List.forall_mem_cons.mp sizes
      obtain ⟨here, later⟩ := List.append_inj same size
      exact List.forall_mem_cons.mpr ⟨here, ih sizes later⟩
  · exact List.flatMap_congr

end Lists

section Plan

variable {config : Option AnchorConfig} {value : Option String} {tabs : List FilterTab}

theorem fieldsAt_main_assignments (anchor : Option Anchor) (tab : FilterTab) :
    fieldsAt mainGroup (assignments anchor tab) = mainFields anchor tab := by
  by_cases anchored : anchors anchor tab = true
  · rw [fieldsAt_assignments anchored, mainFields, if_pos anchored, if_pos rfl]
  · simp [assignments, mainFields, anchored, fieldsAt, List.filter_map, Function.comp_def]

theorem mainFields_eq_iff (config : Option AnchorConfig) (value : Option String) (tab : FilterTab) :
    mainFields (Anchor.ofChoice? config value) tab = fieldsAt mainGroup (requestedOf config value tab) ↔
      (anchors (Anchor.ofChoice? config value) tab = true → MainFirst tab.fields) := by
  by_cases anchored : anchors (Anchor.ofChoice? config value) tab = true
  · have apart (field : String) (under : (Key.parent? field == some mainGroup) = true) :
        (Key.parent? field).isNone = false := by
      rw [beq_iff_eq.mp under]
      rfl
    have asked (field : String) : ((Key.parent? field).getD mainGroup == mainGroup) =
        ((Key.parent? field).isNone || Key.parent? field == some mainGroup) := by
      cases Key.parent? field with
      | none => rfl
      | some path => simp
    simp only [fieldsAt_requestedOf anchored, asked]
    rw [mainFields, if_pos anchored, filter_append_filter_eq_iff apart, MainFirst, imp_iff_right anchored]
    simp only [beq_iff_eq, Option.isNone_eq_false_iff, Option.isSome_iff_ne_none]
  · rw [requestedOf_of_not_anchored anchored, fieldsAt_main_assignments]
    simp [anchored]

/-- The main group has its fields tab by tab. They are in the order in which they are asked for exactly where no
    anchored tab has a field on a path with the name of the main group in front of a field without a path. -/
theorem plan_keeps_order_iff (config : Option AnchorConfig) (value : Option String) (tabs : List FilterTab)
    (filter : Option Query) :
    let anchor := Anchor.ofChoice? config value
    let main := (plan tabs anchor filter).fieldsByGroup.lookup mainGroup
    main = some (tabs.flatMap (mainFields anchor)) ∧
      (main = some (fieldsAt mainGroup (requested config value tabs)) ↔
        ∀ tab ∈ tabs, anchors anchor tab = true → MainFirst tab.fields) := by
  intro anchor main
  have held : main = some (tabs.flatMap (mainFields anchor)) := by
    have own : mainGroup ∈ mainGroup :: pathGroups (requested config value tabs) := List.mem_cons_self
    have found := lookup_fieldsOf own
    simp only [fieldsAt_main_assignments] at found
    exact found
  refine ⟨held, ?_⟩
  rw [held, Option.some.injEq, fieldsAt_requested, flatMap_eq_flatMap_iff]
  · exact forall₂_congr fun tab _ => mainFields_eq_iff config value tab
  · intro tab _
    rw [← fieldsAt_main_assignments]
    exact (fieldsAt_main_perm tab).length_eq

theorem plan_keeps_order_iff_visits :
    let config : AnchorConfig := ⟨"patient", ["p1"], ["Labs"]⟩
    let anchor := Anchor.ofChoice? (some config) (some "p1")
    (∀ tab ∈ visitTabs, anchors anchor tab = true → MainFirst tab.fields) ∧
      (plan visitTabs anchor none).fieldsByGroup.lookup mainGroup = some ["age", "main.x", "drug.code", "sex"] := by
  intro config anchor
  have first : ∀ tab ∈ visitTabs, anchors anchor tab = true → MainFirst tab.fields := by
    unfold MainFirst
    decide
  exact ⟨first, (plan_keeps_order_iff (some config) (some "p1") visitTabs none).2.mpr first⟩

/-- An anchored tab in which a field on a path with the name of the main group stands first. -/
theorem plan_main_reordered :
    let config : AnchorConfig := ⟨"patient", ["p1"], ["Labs"]⟩
    let tabs : List FilterTab := [⟨"Labs", ["main.x", "age"]⟩]
    let main := (plan tabs (Anchor.ofChoice? (some config) (some "p1")) none).fieldsByGroup.lookup mainGroup
    let asked := fieldsAt mainGroup (requested (some config) (some "p1") tabs)
    main = some ["age", "main.x"] ∧ asked = ["main.x", "age"] ∧ main ≠ some asked := by
  decide

end Plan

end QueryInfo

end CohortFilter
