import CohortFilter.Proofs.References

namespace CohortFilter

namespace Workspace

variable {workspace other : Workspace} {related : FilterState → FilterState → Prop} {id : String}

def AgreeAt (related : FilterState → FilterState → Prop) (workspace other : Workspace) (id : String) : Prop :=
  Option.Rel (fun set held => related set.filter held.filter) (workspace.get? id) (other.get? id)

theorem AgreeAt.of_none (absent : workspace.get? id = none) (lacking : other.get? id = none) :
    workspace.AgreeAt related other id := by
  rw [AgreeAt, absent, lacking]
  exact .none

theorem AgreeAt.of_some {set held : FilterSet} (found : workspace.get? id = some set) (kept : other.get? id = some held)
    (alike : related set.filter held.filter) : workspace.AgreeAt related other id := by
  rw [AgreeAt, found, kept]
  exact .some alike

theorem AgreeAt.get?_eq_none (agree : workspace.AgreeAt related other id) (absent : workspace.get? id = none) :
    other.get? id = none := by
  rw [AgreeAt, absent] at agree
  cases kept : other.get? id with
  | none => rfl
  | some held =>
    rw [kept] at agree
    cases agree

theorem AgreeAt.exists_get? {set : FilterSet} (agree : workspace.AgreeAt related other id)
    (found : workspace.get? id = some set) : ∃ held, other.get? id = some held ∧ related set.filter held.filter := by
  rw [AgreeAt, found] at agree
  cases kept : other.get? id with
  | none =>
    rw [kept] at agree
    cases agree
  | some held =>
    rw [kept] at agree
    cases agree with
    | some alike => exact ⟨held, rfl, alike⟩

theorem AgreeAt.flip (agree : workspace.AgreeAt related other id) : other.AgreeAt (flip related) workspace id := by
  cases found : workspace.get? id with
  | none => exact .of_none (agree.get?_eq_none found) found
  | some set =>
    rcases agree.exists_get? found with ⟨held, kept, alike⟩
    exact .of_some kept found alike

theorem agreeAt_self (alike : ∀ set, workspace.get? id = some set → related set.filter set.filter) :
    workspace.AgreeAt related workspace id := by
  cases found : workspace.get? id with
  | none => exact .of_none found found
  | some set => exact .of_some found found (alike set found)

theorem AgreeAt.imp {weaker : FilterState → FilterState → Prop} (agree : workspace.AgreeAt related other id)
    (implies : ∀ {state state'}, related state state' → weaker state state') : workspace.AgreeAt weaker other id := by
  cases found : workspace.get? id with
  | none => exact .of_none found (agree.get?_eq_none found)
  | some set =>
    rcases agree.exists_get? found with ⟨held, kept, alike⟩
    exact .of_some found kept (implies alike)

def filters (workspace : Workspace) : List (String × FilterState) :=
  workspace.sets.map fun (id, set) => (id, set.filter)

theorem mem_filters {state : FilterState} :
    (id, state) ∈ workspace.filters ↔ ∃ set, workspace.get? id = some set ∧ set.filter = state := by
  constructor
  · intro member
    rcases List.mem_map.mp member with ⟨⟨held, set⟩, standing, same⟩
    rcases Prod.mk.inj same with ⟨rfl, rfl⟩
    exact ⟨set, Entries.lookup_of_mem workspace.distinct standing, rfl⟩
  · intro kept
    rcases kept with ⟨set, found, rfl⟩
    exact List.mem_map.mpr ⟨(id, set), Entries.mem_of_lookup found, rfl⟩

theorem agreeAt_of_perm (same : workspace.filters.Perm other.filters) : workspace.AgreeAt Eq other id := by
  cases found : workspace.get? id with
  | some set =>
    rcases mem_filters.mp (same.mem_iff.mp (mem_filters.mpr ⟨set, found, rfl⟩)) with ⟨held, kept, alike⟩
    exact .of_some found kept alike.symm
  | none =>
    cases kept : other.get? id with
    | none => exact .of_none found kept
    | some held =>
      rcases mem_filters.mp (same.mem_iff.mpr (mem_filters.mpr ⟨held, kept, rfl⟩)) with ⟨set, known, -⟩
      cases found.symm.trans known

def Reached (workspace : Workspace) (state : FilterState) (id : String) : Prop :=
  ∃ chain, workspace.RefersAlong state chain ∧ id ∈ chain

theorem reached_of_member {mode : Option CombineMode} {refIds : List String} {members : List FilterState}
    {member : FilterState} (held : member ∈ members) (reached : workspace.Reached member id) :
    workspace.Reached (.composed mode refIds members) id := by
  rcases reached with ⟨chain, along, inside⟩
  exact ⟨chain, refersAlong_composed_iff.mpr ⟨member, held, along⟩, inside⟩

theorem reached_reference (ref : FilterRef) : workspace.Reached (.reference ref) ref.id :=
  ⟨[ref.id], refersAlong_reference_iff.mpr (.inl rfl), List.mem_singleton_self ref.id⟩

theorem reached_of_get? {ref : FilterRef} {set : FilterSet} (found : workspace.get? ref.id = some set)
    (reached : workspace.Reached set.filter id) : workspace.Reached (.reference ref) id := by
  rcases reached with ⟨chain, along, inside⟩
  exact ⟨ref.id :: chain, refersAlong_reference_iff.mpr (.inr ⟨set, chain, found, along, rfl⟩),
    List.mem_cons_of_mem _ inside⟩

end Workspace

namespace FilterState

inductive Relabelled : FilterState → FilterState → Prop
  | empty : Relabelled .empty .empty
  | standard (mode : Option CombineMode) (fields : List (String × FieldFilter)) :
    Relabelled (.standard mode fields) (.standard mode fields)
  | anchored (mode : Option CombineMode) (fields : List (String × AnchoredFilter)) :
    Relabelled (.anchored mode fields) (.anchored mode fields)
  | composed (mode : Option CombineMode) (refIds : List String) {members others : List FilterState} :
    List.Forall₂ Relabelled members others →
    Relabelled (.composed mode refIds members) (.composed mode refIds others)
  | reference {ref other : FilterRef} : ref.id = other.id → Relabelled (.reference ref) (.reference other)

theorem Relabelled.refl (state : FilterState) : state.Relabelled state := by
  induction state using FilterState.induction with
  | empty => exact .empty
  | standard mode fields => exact .standard mode fields
  | anchored mode fields => exact .anchored mode fields
  | composed mode refIds members ih => exact .composed mode refIds (List.forall₂_same.mpr ih)
  | reference ref => exact .reference rfl

theorem Relabelled.of_eq {state other : FilterState} (same : state = other) : state.Relabelled other :=
  same ▸ .refl state

variable {workspace other : Workspace} {depth : DepthLimit}

/-- The invariant of two resolvers with the same active ids: they do the same while their workspaces agree on
    all that is reached from the filter in hand. -/
theorem resolveWithin_eq_of_relabelled {active : List String} {state state' : FilterState}
    (relabelled : state.Relabelled state')
    (agree : ∀ id, workspace.Reached state id → workspace.AgreeAt Relabelled other id) :
    state.resolveWithin workspace depth active = state'.resolveWithin other depth active := by
  induction active, state using resolving_induction workspace depth generalizing state' with
  | empty active =>
    cases relabelled
    rw [resolveWithin, resolveWithin]
  | standard active mode fields =>
    cases relabelled
    rw [resolveWithin, resolveWithin]
  | anchored active mode fields =>
    cases relabelled
    rw [resolveWithin, resolveWithin]
  | composed active mode refIds members ih =>
    cases relabelled with
    | composed mode refIds each =>
      have inner : ∀ member ∈ members, ∀ member', member.Relabelled member' →
          member.resolveWithin workspace depth active = member'.resolveWithin other depth active :=
        fun member held _ relabelled =>
          ih member held relabelled fun id reached => agree id (Workspace.reached_of_member held reached)
      have steps := ((List.forall₂_and_left _ _).mpr ⟨inner, each⟩).imp fun _ _ parts => parts.1 _ parts.2
      rw [resolveWithin_composed, resolveWithin_composed, Outcome.mapM_eq_of_forall₂ steps]
  | cyclic active ref held =>
    cases relabelled with
    | reference same => rw [resolveWithin_of_mem held, resolveWithin_of_mem (same ▸ held), same]
  | exceeded active ref limit fresh reached =>
    cases relabelled with
    | reference same => rw [resolveWithin_of_exceeded fresh reached, resolveWithin_of_exceeded (same ▸ fresh) reached]
  | unknown active ref fresh under absent =>
    have lacking := (agree ref.id (Workspace.reached_reference ref)).get?_eq_none absent
    cases relabelled with
    | reference same =>
      rw [resolveWithin_of_absent fresh under absent,
        resolveWithin_of_absent (same ▸ fresh) under (same ▸ lacking), same]
  | known active ref set fresh under found ih =>
    rcases (agree ref.id (Workspace.reached_reference ref)).exists_get? found with ⟨held, kept, alike⟩
    cases relabelled with
    | reference same =>
      rw [resolveWithin_of_found fresh under found, resolveWithin_of_found (same ▸ fresh) under (same ▸ kept), ← same]
      exact ih alike fun id reached => agree id (Workspace.reached_of_get? found reached)

/-- Workspaces that agree on what a filter reaches resolve it alike, or refuse it for the same reason. So sets
    out of reach do not matter, nor does the order of sets or what they hold beside their filters, and new labels
    for references, in the filter and in the workspace, change nothing. -/
theorem resolve_eq_of_agreeAt (workspace : Workspace) (depth : DepthLimit) (state : FilterState) :
    (∀ other : Workspace, (∀ id, workspace.Reached state id → workspace.AgreeAt Eq other id) →
      state.resolve workspace depth = state.resolve other depth) ∧
    (∀ id set, ¬ workspace.Reached state id →
      state.resolve workspace depth = state.resolve (workspace.insert id set) depth) ∧
    (∀ other : Workspace, workspace.filters.Perm other.filters →
      state.resolve workspace depth = state.resolve other depth) ∧
    ∀ (other : Workspace) state', state.Relabelled state' →
      (∀ id, workspace.Reached state id → workspace.AgreeAt Relabelled other id) →
      state.resolve workspace depth = state'.resolve other depth := by
  have relabelled (other : Workspace) (state' : FilterState) (labels : state.Relabelled state')
      (agree : ∀ id, workspace.Reached state id → workspace.AgreeAt Relabelled other id) :
      state.resolve workspace depth = state'.resolve other depth :=
    resolveWithin_eq_of_relabelled labels agree
  have equal (other : Workspace) (agree : ∀ id, workspace.Reached state id → workspace.AgreeAt Eq other id) :
      state.resolve workspace depth = state.resolve other depth :=
    relabelled other state (.refl state) fun id reached => (agree id reached).imp Relabelled.of_eq
  refine ⟨equal, fun id set away => ?_, fun other same => ?_, relabelled⟩
  · refine equal _ fun held reached => ?_
    have new : held ≠ id := fun same => away (same ▸ reached)
    rw [Workspace.AgreeAt, Workspace.get?_insert, if_neg new]
    exact Workspace.agreeAt_self fun _ _ => rfl
  · exact equal other fun id _ => Workspace.agreeAt_of_perm same

def grownUps : Workspace := .ofList [("adults", ⟨some "7", "Grown-ups", "18 and above", .standard (some .or) []⟩)]

def smokersLast : Workspace := .ofList [
  ("adults", .ofFilter "Grown-ups" (.standard (some .or) [])),
  ("smokers", .ofFilter "Smoking" (.composed (some .and) ["a"] [.reference ⟨"adults", "Adults"⟩]))]

theorem resolve_eq_of_agreeAt_adults :
    let state := reference ⟨"adults", "Adults"⟩
    (∀ id, smokers.Reached state id → smokers.AgreeAt Eq grownUps id) ∧ ¬ smokers.Reached state "smokers" ∧
      smokers.filters.Perm smokersLast.filters ∧
      state.resolve smokers .standard = state.resolve grownUps .standard ∧
      state.resolve smokers .standard = state.resolve (smokers.insert "smokers" (.ofFilter "" state)) .standard ∧
      state.resolve smokers .standard = state.resolve smokersLast .standard ∧
      state.resolve smokers .standard = (reference ⟨"adults", "Grown-ups"⟩).resolve grownUps .standard := by
  intro state
  have only (id : String) (reached : smokers.Reached state id) : id = "adults" := by
    rcases reached with ⟨chain, along, inside⟩
    rcases Workspace.refersAlong_reference_iff.mp along with rfl | ⟨set, rest, found, along, -⟩
    · exact List.mem_singleton.mp inside
    · cases found
      exact absurd along (Workspace.not_refersAlong _ rfl rest)
  have agree : ∀ id, smokers.Reached state id → smokers.AgreeAt Eq grownUps id := by
    intro id reached
    rw [only id reached]
    exact .of_some rfl rfl rfl
  have away : ¬ smokers.Reached state "smokers" := fun reached => absurd (only _ reached) (by decide)
  have same : smokers.filters.Perm smokersLast.filters := .swap _ _ []
  rcases resolve_eq_of_agreeAt smokers .standard state with ⟨equal, unreached, permuted, relabelled⟩
  refine ⟨agree, away, same, equal _ agree, unreached _ _ away, permuted _ same, relabelled _ _ (.reference rfl) ?_⟩
  exact fun id reached => (agree id reached).imp Relabelled.of_eq

end FilterState

end CohortFilter
