import Mathlib.Data.List.Nodup
import CohortFilter.Proofs.Outcomes
import CohortFilter.Proofs.Parts
import CohortFilter.Resolve

namespace CohortFilter

theorem DepthLimit.exceeded_eq_none_iff {depth : DepthLimit} {count : Nat} :
    depth.exceeded count = none ↔ ∀ limit, depth.limit = some limit → count < limit := by
  simp [DepthLimit.exceeded, Option.filter_eq_none_iff]

namespace Workspace

/-- The ids met on a way along references: each of them stands in the filter kept under the one before. -/
inductive RefersAlong (workspace : Workspace) : FilterState → List String → Prop
  | last {state : FilterState} {id : String} : id ∈ state.refs → RefersAlong workspace state [id]
  | next {state : FilterState} {id : String} {set : FilterSet} {chain : List String} : id ∈ state.refs →
    workspace.get? id = some set → RefersAlong workspace set.filter chain →
    RefersAlong workspace state (id :: chain)

/-- The second filter is the first one with the filters of the workspace in the place of its references. -/
inductive Inlines (workspace : Workspace) : FilterState → FilterState → Prop
  | empty : Inlines workspace .empty .empty
  | standard (mode : Option CombineMode) (fields : List (String × FieldFilter)) :
    Inlines workspace (.standard mode fields) (.standard mode fields)
  | anchored (mode : Option CombineMode) (fields : List (String × AnchoredFilter)) :
    Inlines workspace (.anchored mode fields) (.anchored mode fields)
  | composed (mode : Option CombineMode) (refIds : List String) {members results : List FilterState} :
    List.Forall₂ (Inlines workspace) members results →
    Inlines workspace (.composed mode refIds members) (.composed mode refIds results)
  | reference {ref : FilterRef} {set : FilterSet} {result : FilterState} :
    workspace.get? ref.id = some set → Inlines workspace set.filter result →
    Inlines workspace (.reference ref) result

variable {workspace : Workspace}

theorem not_refersAlong (state : FilterState) (bare : state.refs = []) (chain : List String) :
    ¬ workspace.RefersAlong state chain := by
  intro along
  cases along with
  | last found | next found => simp [bare] at found

theorem refersAlong_composed_iff {mode : Option CombineMode} {refIds : List String}
    {members : List FilterState} {chain : List String} :
    workspace.RefersAlong (.composed mode refIds members) chain ↔
      ∃ member ∈ members, workspace.RefersAlong member chain := by
  constructor
  · intro along
    cases along with
    | last found =>
      rcases FilterState.mem_refs_composed.mp found with ⟨member, held, found⟩
      exact ⟨member, held, .last found⟩
    | next found kept later =>
      rcases FilterState.mem_refs_composed.mp found with ⟨member, held, found⟩
      exact ⟨member, held, .next found kept later⟩
  · intro inner
    rcases inner with ⟨member, held, along⟩
    cases along with
    | last found => exact .last (FilterState.mem_refs_composed.mpr ⟨member, held, found⟩)
    | next found kept later =>
      exact .next (FilterState.mem_refs_composed.mpr ⟨member, held, found⟩) kept later

theorem refersAlong_reference_iff {ref : FilterRef} {chain : List String} :
    workspace.RefersAlong (.reference ref) chain ↔
      chain = [ref.id] ∨ ∃ set rest, workspace.get? ref.id = some set ∧
        workspace.RefersAlong set.filter rest ∧ chain = ref.id :: rest := by
  have only {id : String} : id ∈ (FilterState.reference ref).refs ↔ id = ref.id := by
    simp [FilterState.refs]
  constructor
  · intro along
    cases along with
    | last found => exact .inl (by rw [only.mp found])
    | next found kept later =>
      rw [only.mp found] at kept ⊢
      exact .inr ⟨_, _, kept, later, rfl⟩
  · intro ways
    rcases ways with rfl | ⟨set, rest, kept, later, rfl⟩
    · exact .last (only.mpr rfl)
    · exact .next (only.mpr rfl) kept later

theorem inlines_composed_iff {mode : Option CombineMode} {refIds : List String}
    {members : List FilterState} {result : FilterState} :
    workspace.Inlines (.composed mode refIds members) result ↔
      ∃ results, List.Forall₂ workspace.Inlines members results ∧ .composed mode refIds results = result := by
  constructor
  · intro inlined
    cases inlined with
    | composed mode refIds each => exact ⟨_, each, rfl⟩
  · intro inlined
    rcases inlined with ⟨results, each, rfl⟩
    exact .composed mode refIds each

theorem inlines_reference_iff {ref : FilterRef} {result : FilterState} :
    workspace.Inlines (.reference ref) result ↔
      ∃ set, workspace.get? ref.id = some set ∧ workspace.Inlines set.filter result := by
  constructor
  · intro inlined
    cases inlined with
    | reference kept inlined => exact ⟨_, kept, inlined⟩
  · intro inlined
    rcases inlined with ⟨set, kept, inlined⟩
    exact .reference kept inlined

/-- A way that can be gone on with where `active` has been gone: every id is known and new, and there are
    not too many. -/
structure Passable (workspace : Workspace) (depth : DepthLimit) (active chain : List String) : Prop where
  known : ∀ id ∈ chain, (workspace.get? id).isSome
  distinct : (active ++ chain).Nodup
  within : ∀ limit, depth.limit = some limit → (active ++ chain).length ≤ limit

theorem passable_nil_nil (depth : DepthLimit) : workspace.Passable depth [] [] :=
  ⟨fun _ member => absurd member List.not_mem_nil, List.nodup_nil, fun limit _ => Nat.zero_le limit⟩

theorem passable_cons_iff {depth : DepthLimit} {active rest : List String} {id : String} :
    workspace.Passable depth active (id :: rest) ↔
      (workspace.get? id).isSome ∧ workspace.Passable depth (active ++ [id]) rest := by
  have same : active ++ id :: rest = active ++ [id] ++ rest := List.append_cons active id rest
  constructor
  · intro passable
    rcases List.forall_mem_cons.mp passable.known with ⟨first, later⟩
    exact ⟨first, later, same ▸ passable.distinct, same ▸ passable.within⟩
  · intro passable
    rcases passable with ⟨first, later⟩
    exact ⟨List.forall_mem_cons.mpr ⟨first, later.known⟩, same ▸ later.distinct, same ▸ later.within⟩

theorem passable_concat_nil {depth : DepthLimit} {active : List String} {id : String} (distinct : active.Nodup)
    (fresh : id ∉ active) (under : depth.exceeded active.length = none) :
    workspace.Passable depth (active ++ [id]) [] := by
  rw [DepthLimit.exceeded_eq_none_iff] at under
  refine ⟨fun _ member => absurd member List.not_mem_nil, ?_, fun limit given => ?_⟩
  · rw [List.append_nil]
    exact List.concat_eq_append ▸ distinct.concat fresh
  · have below := under limit given
    simp only [List.append_nil, List.length_append, List.length_singleton]
    omega

theorem passable_reference_iff {depth : DepthLimit} {active : List String} {ref : FilterRef}
    (distinct : active.Nodup) :
    (∀ chain, workspace.RefersAlong (.reference ref) chain → workspace.Passable depth active chain) ↔
      ref.id ∉ active ∧ depth.exceeded active.length = none ∧ ∃ set, workspace.get? ref.id = some set ∧
        ∀ chain, workspace.RefersAlong set.filter chain →
          workspace.Passable depth (active ++ [ref.id]) chain := by
  constructor
  · intro passable
    -- The way that ends at once says what is asked of the id itself.
    have alone := passable [ref.id] (refersAlong_reference_iff.mpr (.inl rfl))
    have fresh : ref.id ∉ active := fun held =>
      (List.nodup_append.mp alone.distinct).2.2 _ held _ List.mem_cons_self rfl
    rcases Option.isSome_iff_exists.mp (alone.known ref.id List.mem_cons_self) with ⟨set, kept⟩
    refine ⟨fresh, DepthLimit.exceeded_eq_none_iff.mpr fun limit given => ?_, set, kept, fun chain along => ?_⟩
    · have within := alone.within limit given
      simp only [List.length_append, List.length_singleton] at within
      omega
    · have later := passable (ref.id :: chain)
        (refersAlong_reference_iff.mpr (.inr ⟨set, chain, kept, along, rfl⟩))
      exact (passable_cons_iff.mp later).2
  · intro free chain along
    rcases free with ⟨fresh, under, set, kept, passable⟩
    have known : (workspace.get? ref.id).isSome := by rw [kept, Option.isSome_some]
    rcases refersAlong_reference_iff.mp along with rfl | ⟨other, rest, found, along, rfl⟩
    · exact passable_cons_iff.mpr ⟨known, passable_concat_nil distinct fresh under⟩
    · cases kept.symm.trans found
      exact passable_cons_iff.mpr ⟨known, passable rest along⟩

end Workspace

namespace FilterState

variable {workspace : Workspace} {depth : DepthLimit}

@[elab_as_elim]
theorem resolving_induction (workspace : Workspace) (depth : DepthLimit) {motive : List String → FilterState → Prop}
    (empty : ∀ active, motive active .empty)
    (standard : ∀ active mode fields, motive active (.standard mode fields))
    (anchored : ∀ active mode fields, motive active (.anchored mode fields))
    (composed : ∀ active mode refIds members, (∀ member ∈ members, motive active member) →
      motive active (.composed mode refIds members))
    (cyclic : ∀ active (ref : FilterRef), ref.id ∈ active → motive active (.reference ref))
    (exceeded : ∀ active (ref : FilterRef) limit, ref.id ∉ active →
      depth.exceeded active.length = some limit → motive active (.reference ref))
    (unknown : ∀ active (ref : FilterRef), ref.id ∉ active → depth.exceeded active.length = none →
      workspace.get? ref.id = none → motive active (.reference ref))
    (known : ∀ active (ref : FilterRef) (set : FilterSet), ref.id ∉ active →
      depth.exceeded active.length = none → workspace.get? ref.id = some set →
      motive (active ++ [ref.id]) set.filter → motive active (.reference ref))
    (active : List String) (state : FilterState) : motive active state := by
  refine resolveWithin.induct workspace depth motive
    (fun active members => ∀ member ∈ members, motive active member)
    empty standard anchored composed cyclic ?_ unknown ?_ ?_ ?_ active state
  · exact fun active ref fresh limit reached => exceeded active ref limit fresh reached
  · exact fun active ref fresh under set found later => known active ref set fresh under found later
  · exact fun _ _ member => nomatch member
  · exact fun _ _ _ head later => List.forall_mem_cons.mpr ⟨head, later⟩

theorem resolveMembers_eq (active : List String) (members : List FilterState) :
    resolveMembers workspace depth active members =
      members.mapM (resolveWithin workspace depth active) := by
  induction members with
  | nil => simp [resolveMembers, pure, Except.pure]
  | cons member rest ih => rw [resolveMembers, List.mapM_cons, ih]

theorem resolveWithin_composed (active : List String) (mode : Option CombineMode) (refIds : List String)
    (members : List FilterState) :
    (composed mode refIds members).resolveWithin workspace depth active =
      (members.mapM (resolveWithin workspace depth active)).map (composed mode refIds) := by
  rw [resolveWithin, resolveMembers_eq]
  cases members.mapM (resolveWithin workspace depth active) <;> rfl

theorem resolveWithin_composed_eq_ok_iff {active : List String} {mode : Option CombineMode}
    {refIds : List String} {members : List FilterState} {result : FilterState} :
    (composed mode refIds members).resolveWithin workspace depth active = .ok result ↔
      ∃ results, List.Forall₂ (fun member result => member.resolveWithin workspace depth active = .ok result)
        members results ∧ composed mode refIds results = result := by
  simp only [resolveWithin_composed, Outcome.map_eq_ok_iff, Outcome.mapM_eq_ok_iff]

theorem resolveWithin_composed_eq_error_iff {active : List String} {mode : Option CombineMode}
    {refIds : List String} {members : List FilterState} {error : FilterError} :
    (composed mode refIds members).resolveWithin workspace depth active = .error error ↔
      ∃ front member back, members = front ++ member :: back ∧
        (∀ earlier ∈ front, ∃ result, earlier.resolveWithin workspace depth active = .ok result) ∧
        member.resolveWithin workspace depth active = .error error := by
  simp only [resolveWithin_composed, Outcome.map_eq_error_iff, Outcome.mapM_eq_error_iff]

section Reference

variable {active : List String} {ref : FilterRef}

theorem resolveWithin_of_mem (held : ref.id ∈ active) :
    (reference ref).resolveWithin workspace depth active = .error (.cyclicReference ref.id (active ++ [ref.id])) := by
  rw [resolveWithin, dif_pos held]

theorem resolveWithin_of_exceeded {limit : Nat} (fresh : ref.id ∉ active)
    (reached : depth.exceeded active.length = some limit) :
    (reference ref).resolveWithin workspace depth active = .error (.depthExceeded limit (active.length + 1)) := by
  rw [resolveWithin, dif_neg fresh]
  simp only [reached]

theorem resolveWithin_of_absent (fresh : ref.id ∉ active) (under : depth.exceeded active.length = none)
    (absent : workspace.get? ref.id = none) :
    (reference ref).resolveWithin workspace depth active = .error (.unknownFilterSet ref.id) := by
  rw [resolveWithin, dif_neg fresh]
  simp only [under]
  split
  · rfl
  · next set found => cases found.symm.trans absent

theorem resolveWithin_of_found {set : FilterSet} (fresh : ref.id ∉ active)
    (under : depth.exceeded active.length = none) (found : workspace.get? ref.id = some set) :
    (reference ref).resolveWithin workspace depth active =
      set.filter.resolveWithin workspace depth (active ++ [ref.id]) := by
  rw [resolveWithin, dif_neg fresh]
  simp only [under]
  split
  · next absent => cases found.symm.trans absent
  · next other same =>
    cases found.symm.trans same
    rfl

theorem resolveWithin_reference_eq_ok_iff {result : FilterState} :
    (reference ref).resolveWithin workspace depth active = .ok result ↔
      ref.id ∉ active ∧ depth.exceeded active.length = none ∧ ∃ set, workspace.get? ref.id = some set ∧
        set.filter.resolveWithin workspace depth (active ++ [ref.id]) = .ok result := by
  by_cases held : ref.id ∈ active
  · simp [resolveWithin_of_mem held, held]
  · cases reached : depth.exceeded active.length with
    | some limit => simp [resolveWithin_of_exceeded held reached]
    | none =>
      cases found : workspace.get? ref.id with
      | none => simp [resolveWithin_of_absent held reached found]
      | some set => simp [resolveWithin_of_found held reached found, held]

end Reference

theorem resolved_induction {motive : FilterState → FilterState → Prop} (empty : motive .empty .empty)
    (standard : ∀ mode fields, motive (.standard mode fields) (.standard mode fields))
    (anchored : ∀ mode fields, motive (.anchored mode fields) (.anchored mode fields))
    (composed : ∀ mode refIds members results, List.Forall₂ motive members results →
      motive (.composed mode refIds members) (.composed mode refIds results))
    (reference : ∀ (ref : FilterRef) (set : FilterSet) result, workspace.get? ref.id = some set →
      motive set.filter result → motive (.reference ref) result)
    {active : List String} {state result : FilterState}
    (resolved : state.resolveWithin workspace depth active = .ok result) : motive state result := by
  induction active, state using resolving_induction workspace depth generalizing result with
  | empty active =>
    rw [resolveWithin] at resolved
    cases resolved
    exact empty
  | standard active mode fields =>
    rw [resolveWithin] at resolved
    cases resolved
    exact standard mode fields
  | anchored active mode fields =>
    rw [resolveWithin] at resolved
    cases resolved
    exact anchored mode fields
  | composed active mode refIds members ih =>
    rcases resolveWithin_composed_eq_ok_iff.mp resolved with ⟨results, answered, rfl⟩
    have each : ∀ member ∈ members, ∀ result, member.resolveWithin workspace depth active = .ok result →
        motive member result := fun member held _ resolved => ih member held resolved
    refine composed mode refIds members results ?_
    exact ((List.forall₂_and_left _ _).mpr ⟨each, answered⟩).imp fun _ _ held => held.1 _ held.2
  | cyclic active ref held => simp [resolveWithin_reference_eq_ok_iff, held] at resolved
  | exceeded active ref limit fresh reached => simp [resolveWithin_reference_eq_ok_iff, reached] at resolved
  | unknown active ref fresh under absent => simp [resolveWithin_reference_eq_ok_iff, absent] at resolved
  | known active ref set fresh under found ih =>
    rcases resolveWithin_reference_eq_ok_iff.mp resolved with ⟨-, -, kept, same, resolved⟩
    cases found.symm.trans same
    exact reference ref set result found (ih resolved)

/-- The invariant of the resolver: with `active` behind it, it gets through when every way ahead is passable. -/
theorem exists_resolveWithin_iff (active : List String) (state : FilterState) (distinct : active.Nodup) :
    (∃ result, state.resolveWithin workspace depth active = .ok result) ↔
      ∀ chain, workspace.RefersAlong state chain → workspace.Passable depth active chain := by
  induction active, state using resolving_induction workspace depth with
  | empty active => simp [resolveWithin, Workspace.not_refersAlong .empty rfl]
  | standard active mode fields =>
    simp [resolveWithin, Workspace.not_refersAlong (.standard mode fields) rfl]
  | anchored active mode fields =>
    simp [resolveWithin, Workspace.not_refersAlong (.anchored mode fields) rfl]
  | composed active mode refIds members ih =>
    have each : (∃ result, (composed mode refIds members).resolveWithin workspace depth active = .ok result) ↔
        ∀ member ∈ members, ∃ result, member.resolveWithin workspace depth active = .ok result := by
      simp only [resolveWithin_composed_eq_ok_iff]
      rw [← Outcome.exists_forall₂_iff]
      constructor
      · intro resolved
        rcases resolved with ⟨_, results, answered, -⟩
        exact ⟨results, answered⟩
      · intro resolved
        rcases resolved with ⟨results, answered⟩
        exact ⟨_, results, answered, rfl⟩
    rw [each]
    constructor
    · intro resolved chain along
      rcases Workspace.refersAlong_composed_iff.mp along with ⟨member, held, along⟩
      exact (ih member held distinct).mp (resolved member held) chain along
    · intro passable member held
      exact (ih member held distinct).mpr fun chain along =>
        passable chain (Workspace.refersAlong_composed_iff.mpr ⟨member, held, along⟩)
  | cyclic active ref held =>
    simp [resolveWithin_reference_eq_ok_iff, Workspace.passable_reference_iff distinct, held]
  | exceeded active ref limit fresh reached =>
    simp [resolveWithin_reference_eq_ok_iff, Workspace.passable_reference_iff distinct, reached]
  | unknown active ref fresh under absent =>
    simp [resolveWithin_reference_eq_ok_iff, Workspace.passable_reference_iff distinct, absent]
  | known active ref set fresh under found ih =>
    have further : (active ++ [ref.id]).Nodup := List.concat_eq_append ▸ distinct.concat fresh
    simp [resolveWithin_reference_eq_ok_iff, Workspace.passable_reference_iff distinct, fresh, under, found,
      ih further]

theorem inlines_iff {active : List String} {state result : FilterState}
    (resolved : state.resolveWithin workspace depth active = .ok result) (other : FilterState) :
    workspace.Inlines state other ↔ other = result := by
  have plain {state other : FilterState} (same : workspace.Inlines state state)
      (only : workspace.Inlines state other → other = state) : workspace.Inlines state other ↔ other = state :=
    ⟨only, fun equal => equal ▸ same⟩
  refine resolved_induction (motive := fun state result => ∀ other, workspace.Inlines state other ↔ other = result)
    ?_ ?_ ?_ ?_ ?_ resolved other
  · exact fun other => plain .empty fun inlined => by cases inlined; rfl
  · exact fun mode fields other => plain (.standard mode fields) fun inlined => by cases inlined; rfl
  · exact fun mode fields other => plain (.anchored mode fields) fun inlined => by cases inlined; rfl
  · intro mode refIds members results each other
    simp only [Workspace.inlines_composed_iff, Outcome.forall₂_iff_eq each, exists_eq_left]
    exact eq_comm
  · intro ref set result found only other
    simp only [Workspace.inlines_reference_iff, found, Option.some.injEq, exists_eq_left', only]

theorem refs_resolveWithin {active : List String} {state result : FilterState}
    (resolved : state.resolveWithin workspace depth active = .ok result) : result.refs = [] := by
  refine resolved_induction (motive := fun _ result => result.refs = []) rfl ?_ ?_ ?_ ?_ resolved
  · exact fun mode fields => rfl
  · exact fun mode fields => rfl
  · intro mode refIds members results each
    apply refs_composed_eq_nil_iff.mpr
    intro result held
    rcases Outcome.exists_of_forall₂ each held with ⟨_, _, bare⟩
    exact bare
  · exact fun ref set result found bare => bare

theorem resolveWithin_of_refs_eq_nil (workspace : Workspace) (depth : DepthLimit) (active : List String)
    {state : FilterState} (bare : state.refs = []) : state.resolveWithin workspace depth active = .ok state := by
  induction state using FilterState.induction with
  | empty | standard mode fields | anchored mode fields => rw [resolveWithin]
  | composed mode refIds members ih =>
    have each := refs_composed_eq_nil_iff.mp bare
    refine resolveWithin_composed_eq_ok_iff.mpr ⟨members, List.forall₂_same.mpr ?_, rfl⟩
    exact fun member held => ih member held (each member held)
  | reference ref => simp [refs] at bare

/-- The resolver gets through exactly when every way along references has known ids, none of them twice and
    not more than the limit; it then gives the one filter that has no references left. -/
theorem resolve_ok_iff (workspace : Workspace) (depth : DepthLimit) (state : FilterState) :
    ((∃ result, state.resolve workspace depth = .ok result) ↔
      ∀ chain, workspace.RefersAlong state chain →
        (∀ id ∈ chain, (workspace.get? id).isSome) ∧ chain.Nodup ∧
          ∀ limit, depth.limit = some limit → chain.length ≤ limit) ∧
    ∀ result, state.resolve workspace depth = .ok result →
      (∀ other, workspace.Inlines state other ↔ other = result) ∧ result.refs = [] ∧
        ∀ workspace' depth', result.resolve workspace' depth' = .ok result := by
  refine ⟨?_, fun result resolved => ?_⟩
  · refine (exists_resolveWithin_iff [] state List.nodup_nil).trans ?_
    refine forall₂_congr fun chain along => ?_
    exact ⟨fun passable => ⟨passable.known, passable.distinct, passable.within⟩,
      fun ⟨known, distinct, within⟩ => ⟨known, distinct, within⟩⟩
  · have bare := refs_resolveWithin resolved
    exact ⟨inlines_iff resolved, bare, fun _ _ => resolveWithin_of_refs_eq_nil _ _ _ bare⟩

def smokers : Workspace := .ofList [
  ("smokers", .ofFilter "Smokers" (.composed (some .and) ["a"] [.reference ⟨"adults", "Adults"⟩])),
  ("adults", .ofFilter "Adults" (.standard (some .or) []))]

theorem resolve_ok_iff_smokers :
    let state := reference ⟨"smokers", "Smokers"⟩
    let result := composed (some .and) ["a"] [.standard (some .or) []]
    state.resolve smokers .standard = .ok result ∧ (∀ other, smokers.Inlines state other ↔ other = result) ∧
      result.refs = [] ∧ ∀ workspace depth, result.resolve workspace depth = .ok result := by
  intro state result
  have resolved : state.resolve smokers .standard = .ok result := by
    refine resolveWithin_reference_eq_ok_iff.mpr ⟨by decide, by decide, _, rfl, ?_⟩
    refine resolveWithin_composed_eq_ok_iff.mpr ⟨_, .cons ?_ .nil, rfl⟩
    refine resolveWithin_reference_eq_ok_iff.mpr ⟨by decide, by decide, _, rfl, ?_⟩
    rw [FilterSet.ofFilter, resolveWithin]
  exact ⟨resolved, (resolve_ok_iff smokers .standard state).2 result resolved⟩

end FilterState

end CohortFilter
