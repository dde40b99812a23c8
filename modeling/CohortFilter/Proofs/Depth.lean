import Mathlib.Data.List.Perm.Subperm
import CohortFilter.Proofs.Refusals

namespace CohortFilter

namespace Workspace

mutual

/-- A run of the resolver with its outcome, and the active ids at each filter that it comes to on the way. -/
inductive Run (workspace : Workspace) (depth : DepthLimit) :
    List String → FilterState → List (List String) → Except FilterError FilterState → Prop
  | empty {active : List String} : Run workspace depth active .empty [active] (.ok .empty)
  | standard {active : List String} {mode : Option CombineMode} {fields : List (String × FieldFilter)} :
    Run workspace depth active (.standard mode fields) [active] (.ok (.standard mode fields))
  | anchored {active : List String} {mode : Option CombineMode} {fields : List (String × AnchoredFilter)} :
    Run workspace depth active (.anchored mode fields) [active] (.ok (.anchored mode fields))
  | composed {active : List String} {mode : Option CombineMode} {refIds : List String} {members : List FilterState}
    {visited : List (List String)} {outcome : Except FilterError (List FilterState)} :
    MembersRun workspace depth active members visited outcome →
    Run workspace depth active (.composed mode refIds members) (active :: visited)
      (outcome.map (.composed mode refIds))
  | cyclic {active : List String} {ref : FilterRef} : ref.id ∈ active →
    Run workspace depth active (.reference ref) [active]
      (.error (.cyclicReference ref.id (active ++ [ref.id])))
  | exceeded {active : List String} {ref : FilterRef} {limit : Nat} : ref.id ∉ active →
    depth.exceeded active.length = some limit →
    Run workspace depth active (.reference ref) [active] (.error (.depthExceeded limit (active.length + 1)))
  | unknown {active : List String} {ref : FilterRef} : ref.id ∉ active → depth.exceeded active.length = none →
    workspace.get? ref.id = none →
    Run workspace depth active (.reference ref) [active] (.error (.unknownFilterSet ref.id))
  | known {active : List String} {ref : FilterRef} {set : FilterSet} {visited : List (List String)}
    {outcome : Except FilterError FilterState} : ref.id ∉ active → depth.exceeded active.length = none →
    workspace.get? ref.id = some set → Run workspace depth (active ++ [ref.id]) set.filter visited outcome →
    Run workspace depth active (.reference ref) (active :: visited) outcome

inductive MembersRun (workspace : Workspace) (depth : DepthLimit) :
    List String → List FilterState → List (List String) → Except FilterError (List FilterState) → Prop
  | done {active : List String} : MembersRun workspace depth active [] [] (.ok [])
  | failed {active : List String} {member : FilterState} {rest : List FilterState} {visited : List (List String)}
    {error : FilterError} : Run workspace depth active member visited (.error error) →
    MembersRun workspace depth active (member :: rest) visited (.error error)
  | passed {active : List String} {member result : FilterState} {rest : List FilterState}
    {visited later : List (List String)} {outcome : Except FilterError (List FilterState)} :
    Run workspace depth active member visited (.ok result) → MembersRun workspace depth active rest later outcome →
    MembersRun workspace depth active (member :: rest) (visited ++ later) (outcome.map (result :: ·))

end

variable {workspace : Workspace} {depth : DepthLimit}

theorem length_le_size {ids : List String} (known : ∀ id ∈ ids, (workspace.get? id).isSome) (distinct : ids.Nodup) :
    ids.length ≤ workspace.size := by
  have within : ids ⊆ Entries.keys workspace.sets := by
    intro id member
    rcases Option.isSome_iff_exists.mp (known id member) with ⟨set, found⟩
    exact List.mem_map_of_mem (Entries.mem_of_lookup found)
  have bound := (distinct.subperm within).length_le
  rw [Entries.keys, List.length_map] at bound
  exact bound

theorem passable_nil_concat {active : List String} {id : String} (passable : workspace.Passable depth [] active)
    (known : (workspace.get? id).isSome) (fresh : id ∉ active) (under : depth.exceeded active.length = none) :
    workspace.Passable depth [] (active ++ [id]) := by
  have next : workspace.Passable depth (active ++ [id]) [] := passable_concat_nil passable.distinct fresh under
  refine ⟨fun other member => ?_, ?_, ?_⟩
  · rcases List.mem_append.mp member with member | member
    · exact passable.known other member
    · rw [List.mem_singleton.mp member]
      exact known
  · exact List.append_nil (active ++ [id]) ▸ next.distinct
  · exact List.append_nil (active ++ [id]) ▸ next.within

end Workspace

namespace FilterState

open Workspace

variable {workspace : Workspace} {depth : DepthLimit}

theorem exists_membersRun {active : List String} {members : List FilterState}
    (each : ∀ member ∈ members, ∃ visited,
      workspace.Run depth active member visited (member.resolveWithin workspace depth active)) :
    ∃ visited, workspace.MembersRun depth active members visited
      (members.mapM (resolveWithin workspace depth active)) := by
  induction members with
  | nil => exact ⟨_, .done⟩
  | cons member rest ih =>
    rcases List.forall_mem_cons.mp each with ⟨⟨visited, run⟩, others⟩
    cases made : member.resolveWithin workspace depth active with
    | error error =>
      rw [Outcome.mapM_cons_of_error rest made]
      exact ⟨_, .failed (made ▸ run)⟩
    | ok result =>
      rcases ih others with ⟨later, runs⟩
      rw [Outcome.mapM_cons_of_ok rest made]
      exact ⟨_, .passed (made ▸ run) runs⟩

theorem exists_run (workspace : Workspace) (depth : DepthLimit) (active : List String) (state : FilterState) :
    ∃ visited, workspace.Run depth active state visited (state.resolveWithin workspace depth active) := by
  induction active, state using resolving_induction workspace depth with
  | empty active =>
    rw [resolveWithin]
    exact ⟨_, .empty⟩
  | standard active mode fields =>
    rw [resolveWithin]
    exact ⟨_, .standard⟩
  | anchored active mode fields =>
    rw [resolveWithin]
    exact ⟨_, .anchored⟩
  | composed active mode refIds members ih =>
    rcases exists_membersRun ih with ⟨visited, runs⟩
    rw [resolveWithin_composed]
    exact ⟨_, .composed runs⟩
  | cyclic active ref held =>
    rw [resolveWithin_of_mem held]
    exact ⟨_, .cyclic held⟩
  | exceeded active ref limit fresh reached =>
    rw [resolveWithin_of_exceeded fresh reached]
    exact ⟨_, .exceeded fresh reached⟩
  | unknown active ref fresh under absent =>
    rw [resolveWithin_of_absent fresh under absent]
    exact ⟨_, .unknown fresh under absent⟩
  | known active ref set fresh under found ih =>
    rw [resolveWithin_of_found fresh under found]
    rcases ih with ⟨visited, run⟩
    exact ⟨_, .known fresh under found run⟩

mutual

theorem outcome_of_run {active : List String} {state : FilterState} {visited : List (List String)}
    {outcome : Except FilterError FilterState} (run : workspace.Run depth active state visited outcome) :
    outcome = state.resolveWithin workspace depth active := by
  match run with
  | .empty | .standard | .anchored => rw [resolveWithin]
  | .composed runs => rw [resolveWithin_composed, outcome_of_membersRun runs]
  | .cyclic held => rw [resolveWithin_of_mem held]
  | .exceeded fresh reached => rw [resolveWithin_of_exceeded fresh reached]
  | .unknown fresh under absent => rw [resolveWithin_of_absent fresh under absent]
  | .known fresh under found run => rw [resolveWithin_of_found fresh under found, outcome_of_run run]
termination_by structural run

theorem outcome_of_membersRun {active : List String} {members : List FilterState} {visited : List (List String)}
    {outcome : Except FilterError (List FilterState)}
    (runs : workspace.MembersRun depth active members visited outcome) :
    outcome = members.mapM (resolveWithin workspace depth active) := by
  match runs with
  | .done => rfl
  | .failed run => rw [Outcome.mapM_cons_of_error _ (outcome_of_run run).symm]
  | .passed run later =>
    rw [Outcome.mapM_cons_of_ok _ (outcome_of_run run).symm, outcome_of_membersRun later]
termination_by structural runs

end

mutual

theorem passable_of_run {active : List String} {state : FilterState} {visited : List (List String)}
    {outcome : Except FilterError FilterState} (run : workspace.Run depth active state visited outcome)
    (start : workspace.Passable depth [] active) : ∀ stack ∈ visited, workspace.Passable depth [] stack := by
  have alone : ∀ stack ∈ [active], workspace.Passable depth [] stack :=
    fun stack member => List.mem_singleton.mp member ▸ start
  match run with
  | .empty | .standard | .anchored | .cyclic _ | .exceeded .. | .unknown .. => exact alone
  | .composed runs => exact List.forall_mem_cons.mpr ⟨start, passable_of_membersRun runs start⟩
  | .known fresh under found run =>
    have next := passable_nil_concat start (Option.isSome_of_eq_some found) fresh under
    exact List.forall_mem_cons.mpr ⟨start, passable_of_run run next⟩
termination_by structural run

theorem passable_of_membersRun {active : List String} {members : List FilterState} {visited : List (List String)}
    {outcome : Except FilterError (List FilterState)}
    (runs : workspace.MembersRun depth active members visited outcome) (start : workspace.Passable depth [] active) :
    ∀ stack ∈ visited, workspace.Passable depth [] stack := by
  match runs with
  | .done => exact fun stack member => absurd member List.not_mem_nil
  | .failed run => exact passable_of_run run start
  | .passed run later =>
    intro stack member
    rcases List.mem_append.mp member with member | member
    · exact passable_of_run run start stack member
    · exact passable_of_membersRun later start stack member
termination_by structural runs

end

theorem exceeded_of_larger {limit count : Nat} {larger : DepthLimit}
    (allows : ∀ other, larger.limit = some other → limit ≤ other)
    (under : DepthLimit.exceeded ⟨some limit⟩ count = none) : larger.exceeded count = none := by
  rw [DepthLimit.exceeded_eq_none_iff] at under ⊢
  exact fun other given => Nat.lt_of_lt_of_le (under limit rfl) (allows other given)

/-- The invariant of a limited resolver: while the limit is not reached, one with a larger limit does the same. -/
theorem resolveWithin_of_larger {limit : Nat} {larger : DepthLimit}
    (allows : ∀ other, larger.limit = some other → limit ≤ other) {active : List String} {state : FilterState}
    (within : active.length ≤ limit) :
    state.resolveWithin workspace ⟨some limit⟩ active = .error (.depthExceeded limit (limit + 1)) ∨
      state.resolveWithin workspace ⟨some limit⟩ active = state.resolveWithin workspace larger active := by
  induction active, state using resolving_induction workspace ⟨some limit⟩ with
  | empty active | standard active mode fields | anchored active mode fields =>
    right
    rw [resolveWithin, resolveWithin]
  | composed active mode refIds members ih =>
    rw [resolveWithin_composed, resolveWithin_composed]
    rcases Outcome.mapM_eq_error_or_eq fun member held => ih member held within with failed | same
    · exact .inl (Outcome.map_eq_error_iff.mpr failed)
    · exact .inr (congrArg (Except.map (composed mode refIds)) same)
  | cyclic active ref held =>
    right
    rw [resolveWithin_of_mem held, resolveWithin_of_mem held]
  | exceeded active ref other fresh reached =>
    left
    have bounded : ∀ other, (⟨some limit⟩ : DepthLimit).limit = some other → active.length ≤ other :=
      fun other given => Option.some.inj given ▸ within
    rcases limit_of_exceeded bounded reached with ⟨given, same⟩
    cases given
    rw [resolveWithin_of_exceeded fresh reached, same]
  | unknown active ref fresh under absent =>
    right
    rw [resolveWithin_of_absent fresh under absent, resolveWithin_of_absent fresh (exceeded_of_larger allows under) absent]
  | known active ref set fresh under found ih =>
    rw [resolveWithin_of_found fresh under found, resolveWithin_of_found fresh (exceeded_of_larger allows under) found]
    have below := DepthLimit.exceeded_eq_none_iff.mp under limit rfl
    apply ih
    rw [List.length_append, List.length_singleton]
    exact below

theorem resolve_ne_depthExceeded {limit reached : Nat} {state : FilterState} (beyond : workspace.size < limit) :
    state.resolve workspace ⟨some limit⟩ ≠ .error (.depthExceeded limit reached) := by
  intro failed
  rcases justifies_of_resolve failed with ⟨-, -, chain, id, -, count, distinct, known, -⟩
  have bound := length_le_size known distinct
  omega

/-- Without a limit the resolver comes to an end, and no more ids are active on the way than the workspace
    has sets. Limits beyond that make no difference; any other one either stops the resolver or makes none. -/
theorem resolve_depth_limit (workspace : Workspace) (state : FilterState) :
    (∃ visited, workspace.Run .unlimited [] state visited (state.resolve workspace .unlimited)) ∧
      (∀ visited outcome, workspace.Run .unlimited [] state visited outcome →
        outcome = state.resolve workspace .unlimited ∧ ∀ stack ∈ visited, stack.length ≤ workspace.size) ∧
      (∀ limit, workspace.size < limit →
        state.resolve workspace ⟨some limit⟩ = state.resolve workspace .unlimited) ∧
      ∀ limit, state.resolve workspace ⟨some limit⟩ = .error (.depthExceeded limit (limit + 1)) ∨
        state.resolve workspace ⟨some limit⟩ = state.resolve workspace .unlimited ∧
          ∀ larger, limit < larger → state.resolve workspace ⟨some limit⟩ = state.resolve workspace ⟨some larger⟩ := by
  have cuts (limit : Nat) {larger : DepthLimit} (allows : ∀ other, larger.limit = some other → limit ≤ other) :
      state.resolve workspace ⟨some limit⟩ = .error (.depthExceeded limit (limit + 1)) ∨
        state.resolve workspace ⟨some limit⟩ = state.resolve workspace larger :=
    resolveWithin_of_larger allows (Nat.zero_le limit)
  have unbounded (limit : Nat) : ∀ other, DepthLimit.unlimited.limit = some other → limit ≤ other := by
    intro other given
    cases given
  refine ⟨exists_run workspace .unlimited [] state, fun visited outcome run => ⟨outcome_of_run run, ?_⟩, ?_, ?_⟩
  · intro stack member
    have passable := passable_of_run run (passable_nil_nil .unlimited) stack member
    exact length_le_size passable.known passable.distinct
  · intro limit beyond
    exact (cuts limit (unbounded limit)).resolve_left (resolve_ne_depthExceeded beyond)
  · intro limit
    by_cases stopped : state.resolve workspace ⟨some limit⟩ = .error (.depthExceeded limit (limit + 1))
    · exact .inl stopped
    · refine .inr ⟨(cuts limit (unbounded limit)).resolve_left stopped, fun larger above => ?_⟩
      refine (cuts limit fun other given => ?_).resolve_left stopped
      cases given
      exact Nat.le_of_lt above

def dangling : Workspace := .ofList [("a", .ofFilter "A" (.reference ⟨"b", "B"⟩))]

theorem resolve_depth_limit_dangling :
    let state := reference ⟨"a", "A"⟩
    dangling.size = 1 ∧ state.resolve dangling ⟨some 1⟩ = .error (.depthExceeded 1 2) ∧
      state.resolve dangling .unlimited = .error (.unknownFilterSet "b") ∧
      state.resolve dangling ⟨some 2⟩ = .error (.unknownFilterSet "b") ∧
      ∃ visited, dangling.Run .unlimited [] state visited (.error (.unknownFilterSet "b")) ∧
        ∀ stack ∈ visited, stack.length ≤ 1 := by
  intro state
  have size : dangling.size = 1 := rfl
  have stopped : state.resolve dangling ⟨some 1⟩ = .error (.depthExceeded 1 2) := by
    rw [resolve, resolveWithin_of_found (by decide) rfl rfl]
    exact resolveWithin_of_exceeded (by decide) rfl
  have missing : state.resolve dangling .unlimited = .error (.unknownFilterSet "b") := by
    rw [resolve, resolveWithin_of_found (by decide) rfl rfl]
    exact resolveWithin_of_absent (by decide) rfl rfl
  rcases resolve_depth_limit dangling state with ⟨⟨visited, run⟩, bounded, beyond, -⟩
  have larger := beyond 2 (by decide)
  refine ⟨size, stopped, missing, larger.trans missing, visited, missing ▸ run, ?_⟩
  exact (bounded visited _ run).2

end FilterState

end CohortFilter
