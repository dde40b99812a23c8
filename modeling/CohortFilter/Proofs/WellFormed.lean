import Mathlib.Data.List.Nodup
import Mathlib.Data.List.Perm.Subperm
import CohortFilter.Filter.Marker
import CohortFilter.Filter.State
import CohortFilter.Key
import CohortFilter.Proofs.Outcomes
import CohortFilter.Proofs.Parts

namespace CohortFilter

namespace Entries

variable {α β : Type} {related : α → β → Bool} {left : List (String × α)} {right : List (String × β)}

theorem exists_right_of_agree (agreed : agree related left right = true) :
    ∀ entry ∈ left, ∃ value, (entry.1, value) ∈ right ∧ related entry.2 value = true := by
  intro entry member
  simp only [agree, Bool.and_eq_true, List.all_eq_true] at agreed
  obtain ⟨value, found, alike⟩ := (Option.any_eq_true _ _).mp (agreed.2 entry member)
  obtain ⟨front, back, parts, -⟩ := List.lookup_eq_some_iff.mp found
  exact ⟨value, by simp [parts], alike⟩

theorem exists_left_of_agree (distinct : (keys left).Nodup) (distinct' : (keys right).Nodup)
    (agreed : agree related left right = true) :
    ∀ entry ∈ right, ∃ value, (entry.1, value) ∈ left ∧ related value entry.2 = true := by
  intro entry member
  have within : keys left ⊆ keys right := by
    intro key held
    obtain ⟨entry, member, rfl⟩ := List.mem_map.mp held
    obtain ⟨value, found, -⟩ := exists_right_of_agree agreed entry member
    exact List.mem_map.mpr ⟨_, found, rfl⟩
  have sizes : (keys right).length ≤ (keys left).length := by
    simp only [agree, Bool.and_eq_true, beq_iff_eq] at agreed
    simp [keys, agreed.1]
  have all : entry.1 ∈ keys left :=
    ((distinct.subperm within).perm_of_length_le sizes).mem_iff.mpr (List.mem_map_of_mem member)
  obtain ⟨held, standing, same⟩ := List.mem_map.mp all
  obtain ⟨value, found, alike⟩ := exists_right_of_agree agreed held standing
  -- With its key only once on the right, the value met there is the one of `entry`.
  have only := List.inj_on_of_nodup_map distinct' found member same
  refine ⟨held.2, same ▸ standing, ?_⟩
  rw [← only]
  exact alike

theorem forall_iff_of_agree {P : String → α → Prop} {Q : String → β → Prop} (distinct : (keys left).Nodup)
    (distinct' : (keys right).Nodup) (agreed : agree related left right = true)
    (alike : ∀ key, ∀ value value', (key, value) ∈ left → (key, value') ∈ right →
      related value value' = true → (P key value ↔ Q key value')) :
    (∀ entry ∈ left, P entry.1 entry.2) ↔ ∀ entry ∈ right, Q entry.1 entry.2 := by
  constructor
  · intro all entry member
    obtain ⟨value, found, same⟩ := exists_left_of_agree distinct distinct' agreed entry member
    exact (alike _ _ _ found member same).mp (all _ found)
  · intro all entry member
    obtain ⟨value, found, same⟩ := exists_right_of_agree agreed entry member
    exact (alike _ _ _ member found same).mpr (all _ found)

end Entries

def OptionFilter.WellFormed (filter : OptionFilter) : Prop :=
  filter.selectedValues.isSome ∨ filter.combineMode.isSome

def FieldFilter.Plain : FieldFilter → Prop
  | .option filter => filter.WellFormed
  | .range _ => True
  | .anchored _ => False

structure AnchoredFilter.WellFormed (key : String) (filter : AnchoredFilter) : Prop where
  anchor : Key.anchor? key = some (filter.anchorField, filter.anchorValue)
  fields : ∀ entry ∈ filter.fields, Marker.isModeKey entry.1 = false ∧ entry.2.Plain

def FieldFilter.WellFormed (key : String) : FieldFilter → Prop
  | .option filter => filter.WellFormed
  | .range _ => True
  | .anchored filter => filter.WellFormed key

def AnchoredFilter.Distinct (filter : AnchoredFilter) : Prop := (Entries.keys filter.fields).Nodup

def FieldFilter.Distinct : FieldFilter → Prop
  | .option _ | .range _ => True
  | .anchored filter => filter.Distinct

theorem FieldFilter.Plain.unanchored {filter : FieldFilter} (plain : filter.Plain) : filter.isAnchored = false := by
  cases filter with
  | option filter => rfl
  | range filter => rfl
  | anchored filter => exact plain.elim

namespace FilterState

mutual

/-- A document can hold the filter: what its fields are can be seen from their keys and their documents. -/
def WellFormed : FilterState → Prop
  | .empty | .reference _ => True
  | .standard _ fields => ∀ entry ∈ fields, Marker.isModeKey entry.1 = false ∧ entry.2.WellFormed entry.1
  | .anchored _ fields => ∀ entry ∈ fields, entry.2.WellFormed entry.1
  | .composed _ _ members => allWellFormed members

def allWellFormed : List FilterState → Prop
  | [] => True
  | member :: rest => member.WellFormed ∧ allWellFormed rest

end

theorem allWellFormed_iff (members : List FilterState) :
    allWellFormed members ↔ ∀ member ∈ members, member.WellFormed := by
  induction members with
  | nil => simp [allWellFormed]
  | cons member rest ih => simp [allWellFormed, ih]

mutual

/-- The maps of the filter, and those of its anchored fields, have each key once, as ordered maps do. -/
def Distinct : FilterState → Prop
  | .empty | .reference _ => True
  | .standard _ fields => (Entries.keys fields).Nodup ∧ ∀ entry ∈ fields, entry.2.Distinct
  | .anchored _ fields => (Entries.keys fields).Nodup ∧ ∀ entry ∈ fields, entry.2.Distinct
  | .composed _ _ members => allDistinct members

def allDistinct : List FilterState → Prop
  | [] => True
  | member :: rest => member.Distinct ∧ allDistinct rest

end

theorem allDistinct_iff (members : List FilterState) :
    allDistinct members ↔ ∀ member ∈ members, member.Distinct := by
  induction members with
  | nil => simp [allDistinct]
  | cons member rest ih => simp [allDistinct, ih]

end FilterState

theorem FieldFilter.allIn_eq (fields others : List (String × FieldFilter)) :
    allIn fields others = fields.all fun (key, filter) => (others.lookup key).any filter.same := by
  induction fields with
  | nil => simp [allIn]
  | cons entry rest ih =>
    obtain ⟨key, filter⟩ := entry
    simp only [allIn, ih, List.all_cons]
    cases others.lookup key <;> rfl

theorem FieldFilter.plain_iff_of_same {left right : FieldFilter} (same : left.same right = true) :
    left.Plain ↔ right.Plain := by
  cases left <;> cases right <;> simp_all [FieldFilter.same, Plain]

theorem AnchoredFilter.wellFormed_iff_of_same {key : String} {left right : AnchoredFilter}
    (distinct : left.Distinct) (distinct' : right.Distinct) (same : left.same right = true) :
    left.WellFormed key ↔ right.WellFormed key := by
  obtain ⟨field, value, mode, fields⟩ := left
  obtain ⟨field', value', mode', fields'⟩ := right
  simp only [AnchoredFilter.same, FieldFilter.allIn_eq, Bool.and_eq_true, beq_iff_eq] at same
  obtain ⟨⟨⟨⟨rfl, rfl⟩, rfl⟩, sizes⟩, all⟩ := same
  have agreed : Entries.agree FieldFilter.same fields fields' = true := by
    simp only [Entries.agree, sizes, BEq.rfl, Bool.true_and, all]
  have inner := Entries.forall_iff_of_agree (P := fun key filter => Marker.isModeKey key = false ∧ filter.Plain)
    (Q := fun key filter => Marker.isModeKey key = false ∧ filter.Plain) distinct distinct' agreed
    fun key _ _ _ _ alike => and_congr_right fun _ => FieldFilter.plain_iff_of_same alike
  exact ⟨fun ⟨anchor, all⟩ => ⟨anchor, inner.mp all⟩, fun ⟨anchor, all⟩ => ⟨anchor, inner.mpr all⟩⟩

theorem FieldFilter.wellFormed_iff_of_same {key : String} {left right : FieldFilter}
    (distinct : left.Distinct) (distinct' : right.Distinct) (same : left.same right = true) :
    left.WellFormed key ↔ right.WellFormed key := by
  cases left <;> cases right <;> simp_all [FieldFilter.same, WellFormed]
  exact AnchoredFilter.wellFormed_iff_of_same distinct distinct' same

namespace FilterState

theorem allSame_iff {members members' : List FilterState} :
    allSame members members' = true ↔ List.Forall₂ (fun left right => left.same right = true) members members' := by
  induction members generalizing members' with
  | nil => cases members' <;> simp [allSame]
  | cons member rest ih => cases members' <;> simp [allSame, ih]

theorem wellFormed_iff_of_same {left right : FilterState} (distinct : left.Distinct)
    (distinct' : right.Distinct) (same : left.same right = true) : left.WellFormed ↔ right.WellFormed := by
  induction left using FilterState.induction generalizing right with
  | empty => cases right <;> simp_all [FilterState.same, WellFormed]
  | reference ref => cases right <;> simp_all [FilterState.same, WellFormed]
  | standard mode fields =>
    cases right with
    | standard mode' fields' =>
      simp only [FilterState.same, FieldFilter.allIn_eq, Bool.and_eq_true] at same
      have agreed : Entries.agree FieldFilter.same fields fields' = true := by
        simp only [Entries.agree, same.1.2, Bool.true_and, same.2]
      refine Entries.forall_iff_of_agree
        (P := fun key filter => Marker.isModeKey key = false ∧ filter.WellFormed key)
        (Q := fun key filter => Marker.isModeKey key = false ∧ filter.WellFormed key)
        distinct.1 distinct'.1 agreed fun key value value' member member' alike => ?_
      exact and_congr_right fun _ =>
        FieldFilter.wellFormed_iff_of_same (distinct.2 _ member) (distinct'.2 _ member') alike
    | _ => simp [FilterState.same] at same
  | anchored mode fields =>
    cases right with
    | anchored mode' fields' =>
      simp only [FilterState.same, Bool.and_eq_true] at same
      refine Entries.forall_iff_of_agree (P := fun key filter => filter.WellFormed key)
        (Q := fun key filter => filter.WellFormed key) distinct.1 distinct'.1 same.2
        fun key value value' member member' alike => ?_
      exact AnchoredFilter.wellFormed_iff_of_same (distinct.2 _ member) (distinct'.2 _ member') alike
    | _ => simp [FilterState.same] at same
  | composed mode refIds members ih =>
    cases right with
    | composed mode' refIds' members' =>
      simp only [FilterState.same, Bool.and_eq_true, allSame_iff] at same
      simp only [Distinct, allDistinct_iff] at distinct distinct'
      simp only [WellFormed, allWellFormed_iff]
      exact Outcome.forall_iff_of_forall₂ same.2 fun member held member' held' alike =>
        ih member held (distinct member held) (distinct' member' held') alike
    | _ => simp [FilterState.same] at same

end FilterState

end CohortFilter
