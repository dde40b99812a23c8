import CohortFilter.Proofs.References

namespace CohortFilter

namespace Workspace

variable {workspace : Workspace}

@[elab_as_elim]
theorem inlines_induction {motive : ∀ state result, workspace.Inlines state result → Prop}
    (empty : motive _ _ .empty) (standard : ∀ mode fields, motive _ _ (.standard mode fields))
    (anchored : ∀ mode fields, motive _ _ (.anchored mode fields))
    (composed : ∀ mode refIds members results (each : List.Forall₂ workspace.Inlines members results),
      List.Forall₂ (fun member result => ∃ inlined, motive member result inlined) members results →
      motive _ _ (.composed mode refIds each))
    (reference : ∀ (ref : FilterRef) (set : FilterSet) result (kept : workspace.get? ref.id = some set)
      (inlined : workspace.Inlines set.filter result), motive _ _ inlined → motive _ _ (.reference kept inlined))
    {state result : FilterState} (inlined : workspace.Inlines state result) : motive state result inlined := by
  refine @Inlines.rec workspace motive
    (fun members results _ => List.Forall₂ (fun member result => ∃ inlined, motive member result inlined) members results)
    empty standard anchored ?_ ?_ .nil ?_ state result inlined
  · exact fun mode refIds _ _ each => composed mode refIds _ _ each
  · exact fun kept inlined => reference _ _ _ kept inlined
  · exact fun head _ here later => .cons ⟨head, here⟩ later

theorem refersAlong_cons_iff {state : FilterState} {id : String} {rest : List String} :
    workspace.RefersAlong state (id :: rest) ↔
      id ∈ state.refs ∧ (rest = [] ∨ ∃ set, workspace.get? id = some set ∧ workspace.RefersAlong set.filter rest) := by
  constructor
  · intro along
    cases along with
    | last found => exact ⟨found, .inl rfl⟩
    | next found kept later => exact ⟨found, .inr ⟨_, kept, later⟩⟩
  · intro parts
    rcases parts with ⟨found, rfl | ⟨set, kept, later⟩⟩
    · exact .last found
    · exact .next found kept later

theorem refersAlong_append_cons_iff {state : FilterState} {front back : List String} {id : String} :
    workspace.RefersAlong state (front ++ id :: back) ↔
      workspace.RefersAlong state (front ++ [id]) ∧
        (back = [] ∨ ∃ set, workspace.get? id = some set ∧ workspace.RefersAlong set.filter back) := by
  induction front generalizing state with
  | nil => simp only [List.nil_append, refersAlong_cons_iff, true_or, and_true]
  | cons first rest ih =>
    have more (later : List String) : rest ++ id :: later ≠ [] := List.append_ne_nil_of_right_ne_nil rest (by simp)
    simp only [List.cons_append, refersAlong_cons_iff, more, false_or, ih]
    constructor
    · intro parts
      rcases parts with ⟨found, set, kept, nearer, ahead⟩
      exact ⟨⟨found, set, kept, nearer⟩, ahead⟩
    · intro parts
      rcases parts with ⟨⟨found, set, kept, nearer⟩, ahead⟩
      exact ⟨found, set, kept, nearer, ahead⟩

/-- Where no way ahead of a kept filter has an id twice, none comes back to the id it is kept under: such a
    way could be gone a second time. -/
theorem not_mem_of_nodup {id : String} {set : FilterSet} {chain : List String} (kept : workspace.get? id = some set)
    (distinct : ∀ chain, workspace.RefersAlong set.filter chain → chain.Nodup)
    (along : workspace.RefersAlong set.filter chain) : id ∉ chain := by
  intro member
  rcases List.mem_iff_append.mp member with ⟨front, back, rfl⟩
  have around := (refersAlong_append_cons_iff.mp along).1
  have twice := distinct _ (refersAlong_append_cons_iff.mpr ⟨around, .inr ⟨set, kept, around⟩⟩)
  have later := (List.nodup_append.mp twice).2.1
  exact (List.nodup_cons.mp later).1 (List.mem_append_right front List.mem_cons_self)

theorem passable_of_inlines {state result : FilterState} (inlined : workspace.Inlines state result) {chain : List String}
    (along : workspace.RefersAlong state chain) : workspace.Passable .unlimited [] chain := by
  induction inlined using inlines_induction generalizing chain with
  | empty => exact absurd along (not_refersAlong .empty rfl chain)
  | standard mode fields => exact absurd along (not_refersAlong (.standard mode fields) rfl chain)
  | anchored mode fields => exact absurd along (not_refersAlong (.anchored mode fields) rfl chain)
  | composed mode refIds members results each ih =>
    rcases refersAlong_composed_iff.mp along with ⟨member, held, along⟩
    rcases Outcome.exists_of_forall₂ ih.flip held with ⟨_, _, _, passable⟩
    exact passable along
  | reference ref set result kept inlined ih =>
    have passable : ∀ chain, workspace.RefersAlong (.reference ref) chain →
        workspace.Passable .unlimited [] chain := by
      refine (passable_reference_iff List.nodup_nil).mpr ⟨List.not_mem_nil, rfl, set, kept, fun chain along => ?_⟩
      have ahead := ih along
      have fresh := not_mem_of_nodup kept (fun chain along => (ih along).distinct) along
      exact ⟨ahead.known, List.nodup_cons.mpr ⟨fresh, ahead.distinct⟩, fun limit given => nomatch given⟩
    exact passable chain along

end Workspace

namespace FilterState

variable {workspace : Workspace}

theorem resolve_unlimited_eq_ok_iff {state result : FilterState} :
    state.resolve workspace .unlimited = .ok result ↔ workspace.Inlines state result := by
  constructor
  · exact fun resolved => (inlines_iff resolved result).mpr rfl
  · intro inlined
    have through := (exists_resolveWithin_iff [] state List.nodup_nil).mpr fun _ => Workspace.passable_of_inlines inlined
    rcases through with ⟨other, resolved⟩
    rw [resolve, resolved, (inlines_iff resolved result).mp inlined]

end FilterState

end CohortFilter
