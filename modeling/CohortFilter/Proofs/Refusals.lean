import CohortFilter.Proofs.References

namespace CohortFilter

namespace Workspace

variable {workspace : Workspace} {depth : DepthLimit}

inductive Refuses (workspace : Workspace) (depth : DepthLimit) (way : List String) (id : String) : FilterError → Prop
  | cyclic : id ∈ way → Refuses workspace depth way id (.cyclicReference id (way ++ [id]))
  | exceeded {limit : Nat} : id ∉ way → depth.exceeded way.length = some limit →
    Refuses workspace depth way id (.depthExceeded limit (way.length + 1))
  | unknown : id ∉ way → depth.exceeded way.length = none → workspace.get? id = none →
    Refuses workspace depth way id (.unknownFilterSet id)

/-- What an error of the resolver says of the filter that it was to resolve. -/
def Justifies (workspace : Workspace) (depth : DepthLimit) (state : FilterState) : FilterError → Prop
  | .cyclicReference id chain =>
    workspace.RefersAlong state chain ∧ chain.getLast? = some id ∧
      (∀ known ∈ chain.dropLast, (workspace.get? known).isSome) ∧ chain.dropLast.Nodup ∧
      chain.dropLast.count id = 1 ∧ ∀ limit, depth.limit = some limit → chain.length - 1 ≤ limit
  | .depthExceeded limit reached =>
    depth.limit = some limit ∧ reached = limit + 1 ∧
      ∃ chain id, workspace.RefersAlong state (chain ++ [id]) ∧ chain.length = limit ∧ chain.Nodup ∧
        (∀ known ∈ chain, (workspace.get? known).isSome) ∧ id ∉ chain
  | .unknownFilterSet id =>
    workspace.get? id = none ∧
      ∃ chain, workspace.RefersAlong state (chain ++ [id]) ∧ chain.Nodup ∧
        (∀ known ∈ chain, (workspace.get? known).isSome) ∧ ∀ limit, depth.limit = some limit → chain.length < limit
  | .invalidValue .. | .invalidState _ | .unresolvedReference _ | .invalidShape _ => False

theorem limit_of_exceeded {limit : Nat} {way : List String}
    (within : ∀ limit, depth.limit = some limit → way.length ≤ limit)
    (reached : depth.exceeded way.length = some limit) : depth.limit = some limit ∧ way.length = limit := by
  rcases Option.filter_eq_some_iff.mp reached with ⟨given, above⟩
  have under := within limit given
  exact ⟨given, Nat.le_antisymm under (of_decide_eq_true above)⟩

def Blocks (workspace : Workspace) (depth : DepthLimit) (active : List String) (state : FilterState)
    (error : FilterError) : Prop :=
  ∃ ahead id, workspace.RefersAlong state (ahead ++ [id]) ∧ workspace.Passable depth active ahead ∧
    workspace.Refuses depth (active ++ ahead) id error

theorem blocks_of_refuses {active : List String} {ref : FilterRef} {error : FilterError}
    (start : workspace.Passable depth active []) (refused : workspace.Refuses depth active ref.id error) :
    workspace.Blocks depth active (.reference ref) error := by
  refine ⟨[], ref.id, refersAlong_reference_iff.mpr (.inl rfl), start, ?_⟩
  rw [List.append_nil]
  exact refused

theorem blocks_of_get? {active : List String} {ref : FilterRef} {set : FilterSet} {error : FilterError}
    (found : workspace.get? ref.id = some set)
    (blocked : workspace.Blocks depth (active ++ [ref.id]) set.filter error) :
    workspace.Blocks depth active (.reference ref) error := by
  rcases blocked with ⟨ahead, id, along, passable, refused⟩
  have known : (workspace.get? ref.id).isSome := by rw [found, Option.isSome_some]
  refine ⟨ref.id :: ahead, id, ?_, passable_cons_iff.mpr ⟨known, passable⟩, ?_⟩
  · exact refersAlong_reference_iff.mpr (.inr ⟨set, ahead ++ [id], found, along, rfl⟩)
  · rw [List.append_cons]
    exact refused

theorem blocks_composed {active : List String} {mode : Option CombineMode} {refIds : List String}
    {members : List FilterState} {member : FilterState} {error : FilterError} (held : member ∈ members)
    (blocked : workspace.Blocks depth active member error) :
    workspace.Blocks depth active (.composed mode refIds members) error := by
  rcases blocked with ⟨ahead, id, along, rest⟩
  exact ⟨ahead, id, refersAlong_composed_iff.mpr ⟨member, held, along⟩, rest⟩

theorem justifies_of_blocks {state : FilterState} {error : FilterError} (blocked : workspace.Blocks depth [] state error) :
    workspace.Justifies depth state error := by
  rcases blocked with ⟨ahead, id, along, passable, refused⟩
  rcases passable with ⟨known, distinct, within⟩
  rw [List.nil_append] at distinct within refused
  cases refused with
  | cyclic held =>
    refine ⟨along, List.getLast?_concat, ?_, ?_, ?_, fun limit given => ?_⟩
    · rw [List.dropLast_concat]
      exact known
    · rw [List.dropLast_concat]
      exact distinct
    · rw [List.dropLast_concat]
      exact List.count_eq_one_of_mem distinct held
    · have under := within limit given
      rw [List.length_append, List.length_singleton, Nat.add_sub_cancel]
      exact under
  | exceeded fresh reached =>
    rcases limit_of_exceeded within reached with ⟨given, same⟩
    exact ⟨given, congrArg (· + 1) same, ahead, id, along, same, distinct, known, fresh⟩
  | unknown fresh under absent =>
    exact ⟨absent, ahead, along, distinct, known, DepthLimit.exceeded_eq_none_iff.mp under⟩

end Workspace

namespace FilterState

variable {workspace : Workspace} {depth : DepthLimit}

/-- The invariant of a failing resolver: what is ahead of `active` at the filter in hand goes on what is
    ahead at the whole filter. -/
theorem blocks_of_resolveWithin {active : List String} {state : FilterState} {error : FilterError}
    (start : workspace.Passable depth active [])
    (failed : state.resolveWithin workspace depth active = .error error) :
    workspace.Blocks depth active state error := by
  induction active, state using resolving_induction workspace depth with
  | empty active | standard active mode fields | anchored active mode fields =>
    rw [resolveWithin] at failed
    cases failed
  | composed active mode refIds members ih =>
    rcases resolveWithin_composed_eq_error_iff.mp failed with ⟨front, member, back, rfl, -, failed⟩
    have held : member ∈ front ++ member :: back := List.mem_append_right front List.mem_cons_self
    exact Workspace.blocks_composed held (ih member held start failed)
  | cyclic active ref held =>
    rw [resolveWithin_of_mem held] at failed
    cases failed
    exact Workspace.blocks_of_refuses start (.cyclic held)
  | exceeded active ref limit fresh reached =>
    rw [resolveWithin_of_exceeded fresh reached] at failed
    cases failed
    exact Workspace.blocks_of_refuses start (.exceeded fresh reached)
  | unknown active ref fresh under absent =>
    rw [resolveWithin_of_absent fresh under absent] at failed
    cases failed
    exact Workspace.blocks_of_refuses start (.unknown fresh under absent)
  | known active ref set fresh under found ih =>
    rw [resolveWithin_of_found fresh under found] at failed
    have distinct : active.Nodup := List.append_nil active ▸ start.distinct
    exact Workspace.blocks_of_get? found (ih (Workspace.passable_concat_nil distinct fresh under) failed)

theorem justifies_of_resolve {state : FilterState} {error : FilterError}
    (failed : state.resolve workspace depth = .error error) : workspace.Justifies depth state error :=
  Workspace.justifies_of_blocks (blocks_of_resolveWithin (Workspace.passable_nil_nil depth) failed)

/-- Each error of the resolver shows a real way to the reference that is refused, and is the error of the
    first member that cannot be resolved by itself. -/
theorem resolve_error_justified {state : FilterState} {error : FilterError}
    (failed : state.resolve workspace depth = .error error) :
    workspace.Justifies depth state error ∧
      ∀ mode refIds members, state = .composed mode refIds members →
        ∃ front member back, members = front ++ member :: back ∧
          (∀ earlier ∈ front, ∃ result, earlier.resolve workspace depth = .ok result) ∧
          member.resolve workspace depth = .error error := by
  refine ⟨justifies_of_resolve failed, fun mode refIds members same => ?_⟩
  subst same
  exact resolveWithin_composed_eq_error_iff.mp failed

def ring : Workspace := .ofList [
  ("a", .ofFilter "A" (.composed none [] [.reference ⟨"b", "B"⟩])),
  ("b", .ofFilter "B" (.composed none [] [.empty, .reference ⟨"a", "A"⟩]))]

theorem resolve_error_justified_ring :
    let members : List FilterState := [.empty, .reference ⟨"a", "A"⟩, .reference ⟨"c", "C"⟩]
    let cyclic := FilterError.cyclicReference "a" ["a", "b", "a"]
    (composed none [] members).resolve ring .unlimited = .error cyclic ∧
      ring.Justifies .unlimited (composed none [] members) cyclic ∧
      (∃ front member back, members = front ++ member :: back ∧
        (∀ earlier ∈ front, ∃ result, earlier.resolve ring .unlimited = .ok result) ∧
        member.resolve ring .unlimited = .error cyclic) ∧
      ring.Justifies ⟨some 1⟩ (.reference ⟨"a", "A"⟩) (.depthExceeded 1 2) ∧
      ring.Justifies .standard (.reference ⟨"c", "C"⟩) (.unknownFilterSet "c") := by
  intro members cyclic
  have passed (active : List String) :
      ∀ earlier ∈ [empty], ∃ result, earlier.resolveWithin ring .unlimited active = .ok result := by
    intro earlier member
    rw [List.mem_singleton.mp member, resolveWithin]
    exact ⟨_, rfl⟩
  have failed : (composed none [] members).resolve ring .unlimited = .error cyclic := by
    refine resolveWithin_composed_eq_error_iff.mpr ⟨[.empty], _, _, rfl, passed [], ?_⟩
    rw [resolveWithin_of_found (by decide) rfl rfl]
    refine resolveWithin_composed_eq_error_iff.mpr ⟨[], _, _, rfl, fun _ member => absurd member List.not_mem_nil, ?_⟩
    rw [resolveWithin_of_found (by decide) rfl rfl]
    refine resolveWithin_composed_eq_error_iff.mpr ⟨[.empty], _, _, rfl, passed _, ?_⟩
    exact resolveWithin_of_mem (by decide)
  have deep : (reference ⟨"a", "A"⟩).resolve ring ⟨some 1⟩ = .error (.depthExceeded 1 2) := by
    rw [resolve, resolveWithin_of_found (by decide) rfl rfl]
    refine resolveWithin_composed_eq_error_iff.mpr ⟨[], _, _, rfl, fun _ member => absurd member List.not_mem_nil, ?_⟩
    exact resolveWithin_of_exceeded (by decide) rfl
  have unknown : (reference ⟨"c", "C"⟩).resolve ring .standard = .error (.unknownFilterSet "c") :=
    resolveWithin_of_absent (by decide) rfl rfl
  have justified := resolve_error_justified failed
  exact ⟨failed, justified.1, justified.2 none [] members rfl, (resolve_error_justified deep).1,
    (resolve_error_justified unknown).1⟩

end FilterState

end CohortFilter
