import CohortFilter.Workspace

namespace CohortFilter

/-- How many references may be active at once; none is no limit. -/
structure DepthLimit where
  limit : Option Nat

namespace DepthLimit

def standard : DepthLimit := ⟨some 32⟩

def unlimited : DepthLimit := ⟨none⟩

def merge (base : DepthLimit) (given : Option Nat) : DepthLimit := ⟨given.or base.limit⟩

def exceeded (depth : DepthLimit) (active : Nat) : Option Nat := depth.limit.filter (· ≤ active)

end DepthLimit

namespace Workspace

def inactive (workspace : Workspace) (active : List String) : Nat :=
  (workspace.sets.filter fun (id, _) => !active.contains id).length

theorem inactive_lt {sets : List (String × FilterSet)} {active : List String} {id : String} {set : FilterSet}
    (fresh : id ∉ active) (found : sets.lookup id = some set) :
    (sets.filter fun entry => !(active ++ [id]).contains entry.1).length <
      (sets.filter fun entry => !active.contains entry.1).length := by
  induction sets with
  | nil => simp at found
  | cons entry rest ih =>
    obtain ⟨key, value⟩ := entry
    have fewer : (rest.filter fun entry => !(active ++ [id]).contains entry.1).length ≤
        (rest.filter fun entry => !active.contains entry.1).length := by
      rw [← List.countP_eq_length_filter, ← List.countP_eq_length_filter]
      exact List.countP_mono_left fun entry _ kept => by simp at kept ⊢; exact kept.1
    by_cases same : id = key
    · subst same
      simp [fresh] at fewer ⊢
      omega
    · have different : (id == key) = false := by simpa using same
      simp only [List.lookup_cons, different] at found
      have smaller := ih found
      by_cases held : key ∈ active
      · simpa [List.filter_cons, held] using smaller
      · have other : ¬ key = id := fun equal => same equal.symm
        simpa [List.filter_cons, held, other] using smaller

end Workspace

mutual

/-- The filter without references. At each one it is told first that the id is active already, then
    that the limit is reached, then that the workspace does not have it. -/
def FilterState.resolveWithin (workspace : Workspace) (depth : DepthLimit) (active : List String)
    (state : FilterState) : Except FilterError FilterState :=
  match state with
  | .empty => .ok .empty
  | .standard mode fields => .ok (.standard mode fields)
  | .anchored mode fields => .ok (.anchored mode fields)
  | .composed mode refIds members => do
    return .composed mode refIds (← FilterState.resolveMembers workspace depth active members)
  | .reference ref =>
    if _ : ref.id ∈ active then .error (.cyclicReference ref.id (active ++ [ref.id]))
    else
      match depth.exceeded active.length with
      | some limit => .error (.depthExceeded limit (active.length + 1))
      | none =>
        match _ : workspace.get? ref.id with
        | none => .error (.unknownFilterSet ref.id)
        | some set => set.filter.resolveWithin workspace depth (active ++ [ref.id])
termination_by (workspace.inactive active, sizeOf state)
decreasing_by
  · right
    simp only [FilterState.composed.sizeOf_spec]
    omega
  · left
    exact Workspace.inactive_lt (by assumption) (by assumption)

def FilterState.resolveMembers (workspace : Workspace) (depth : DepthLimit) (active : List String)
    (members : List FilterState) : Except FilterError (List FilterState) :=
  match members with
  | [] => .ok []
  | member :: rest => do
    let member ← member.resolveWithin workspace depth active
    return member :: (← FilterState.resolveMembers workspace depth active rest)
termination_by (workspace.inactive active, sizeOf members)
decreasing_by
  all_goals
    right
    simp only [List.cons.sizeOf_spec]
    omega

end

def FilterState.resolve (workspace : Workspace) (depth : DepthLimit) (state : FilterState) :
    Except FilterError FilterState :=
  state.resolveWithin workspace depth []

end CohortFilter
