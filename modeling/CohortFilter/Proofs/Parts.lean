import CohortFilter.Compile

namespace CohortFilter

@[elab_as_elim]
theorem FieldFilter.induction {motive : FieldFilter → Prop}
    (option : ∀ filter, motive (.option filter)) (range : ∀ filter, motive (.range filter))
    (anchored : ∀ filter : AnchoredFilter, (∀ entry ∈ filter.fields, motive entry.2) → motive (.anchored filter))
    (filter : FieldFilter) : motive filter := by
  refine @FieldFilter.rec motive (fun filter => ∀ entry ∈ filter.fields, motive entry.2)
    (fun entries => ∀ entry ∈ entries, motive entry.2) (fun entry => motive entry.2)
    option range ?_ ?_ ?_ ?_ ?_ filter
  · exact fun filter inner => anchored filter inner
  · exact fun _ _ _ _ inner => inner
  · exact fun _ member => nomatch member
  · exact fun entry rest head later => List.forall_mem_cons.mpr ⟨head, later⟩
  · exact fun _ _ inner => inner

def AnchoredFilter.Flat (filter : AnchoredFilter) : Prop := ∀ entry ∈ filter.fields, entry.2.isAnchored = false

def FieldFilter.Flat : FieldFilter → Prop
  | .option _ | .range _ => True
  | .anchored filter => filter.Flat

namespace FilterState

@[elab_as_elim]
theorem induction {motive : FilterState → Prop} (empty : motive .empty)
    (standard : ∀ mode fields, motive (.standard mode fields))
    (anchored : ∀ mode fields, motive (.anchored mode fields))
    (composed : ∀ mode refIds members, (∀ member ∈ members, motive member) →
      motive (.composed mode refIds members))
    (reference : ∀ ref, motive (.reference ref)) (state : FilterState) : motive state := by
  refine @FilterState.rec motive (fun members => ∀ member ∈ members, motive member)
    empty standard anchored composed reference ?_ ?_ state
  · exact fun _ member => nomatch member
  · exact fun member rest head later => List.forall_mem_cons.mpr ⟨head, later⟩

mutual

def refs : FilterState → List String
  | .empty | .standard .. | .anchored .. => []
  | .composed _ _ members => memberRefs members
  | .reference ref => [ref.id]

def memberRefs : List FilterState → List String
  | [] => []
  | member :: rest => member.refs ++ memberRefs rest

end

theorem memberRefs_eq (members : List FilterState) : memberRefs members = members.flatMap refs := by
  induction members with
  | nil => rfl
  | cons member rest ih => rw [memberRefs, ih, List.flatMap_cons]

theorem refs_composed (mode : Option CombineMode) (refIds : List String) (members : List FilterState) :
    (composed mode refIds members).refs = members.flatMap refs := by
  rw [refs, memberRefs_eq]

theorem mem_refs_composed {mode : Option CombineMode} {refIds : List String} {members : List FilterState}
    {id : String} : id ∈ (composed mode refIds members).refs ↔ ∃ member ∈ members, id ∈ member.refs := by
  rw [refs_composed, List.mem_flatMap]

theorem refs_composed_eq_nil_iff {mode : Option CombineMode} {refIds : List String}
    {members : List FilterState} :
    (composed mode refIds members).refs = [] ↔ ∀ member ∈ members, member.refs = [] := by
  rw [refs_composed, List.flatMap_eq_nil_iff]

mutual

def Flat : FilterState → Prop
  | .empty | .reference _ => True
  | .standard _ fields => ∀ entry ∈ fields, entry.2.Flat
  | .anchored _ fields => ∀ entry ∈ fields, entry.2.Flat
  | .composed _ _ members => allFlat members

def allFlat : List FilterState → Prop
  | [] => True
  | member :: rest => member.Flat ∧ allFlat rest

end

theorem allFlat_iff (members : List FilterState) : allFlat members ↔ ∀ member ∈ members, member.Flat := by
  induction members with
  | nil => simp [allFlat]
  | cons member rest ih => simp [allFlat, ih]

end FilterState

end CohortFilter
