import CohortFilter.Compile
import CohortFilter.Proofs.Dependence
import CohortFilter.Proofs.Inlining

namespace CohortFilter

namespace FilterState

variable {id : String} {part : FilterState}

/-- The second filter is the first one with references to `id` in the place of some of the parts that are
    equal to `part`. -/
inductive Named (id : String) (part : FilterState) : FilterState → FilterState → Prop
  | same {state : FilterState} : id ∉ state.refs → Named id part state state
  | named (label : String) : Named id part part (.reference ⟨id, label⟩)
  | composed (mode : Option CombineMode) (refIds : List String) {members others : List FilterState} :
    List.Forall₂ (Named id part) members others →
    Named id part (.composed mode refIds members) (.composed mode refIds others)

theorem forall₂_named_self {members : List FilterState} (clear : ∀ member ∈ members, id ∉ member.refs) :
    List.Forall₂ (Named id part) members members :=
  List.forall₂_same.mpr fun member held => .same (clear member held)

theorem named_composed_iff {mode : Option CombineMode} {refIds : List String} {state : FilterState}
    {others : List FilterState} :
    Named id part state (.composed mode refIds others) ↔
      ∃ members, List.Forall₂ (Named id part) members others ∧ state = .composed mode refIds members := by
  constructor
  · intro named
    cases named with
    | same clear =>
      have each (member : FilterState) (held : member ∈ others) : id ∉ member.refs :=
        fun found => clear (mem_refs_composed.mpr ⟨member, held, found⟩)
      exact ⟨others, forall₂_named_self each, rfl⟩
    | composed mode refIds each => exact ⟨_, each, rfl⟩
  · intro named
    rcases named with ⟨members, each, rfl⟩
    exact .composed mode refIds each

end FilterState

namespace Workspace

variable {old new : Workspace} {id : String} {part : FilterState}

/-- The second workspace has `part` under `id`, and else the filters of the first one, which do not refer to
    `id`, with that part named or not. -/
structure Names (old new : Workspace) (id : String) (part : FilterState) : Prop where
  clear : id ∉ part.refs
  held : ∃ set, new.get? id = some set ∧ set.filter = part
  others : ∀ key, key ≠ id → old.AgreeAt (FilterState.Named id part) new key

theorem inlines_old_of_new (names : old.Names new id part) {before after result : FilterState}
    (named : FilterState.Named id part before after) (inlined : new.Inlines after result) :
    old.Inlines before result := by
  induction inlined using inlines_induction generalizing before with
  | empty =>
    cases named with
    | same => exact .empty
  | standard mode fields =>
    cases named with
    | same => exact .standard mode fields
  | anchored mode fields =>
    cases named with
    | same => exact .anchored mode fields
  | composed mode refIds others results each ih =>
    rcases FilterState.named_composed_iff.mp named with ⟨members, parts, rfl⟩
    refine .composed mode refIds (Outcome.forall₂_of_forall₂ ih parts.flip ?_)
    exact fun _ _ member inlined named => inlined.elim fun _ inlined => inlined named
  | reference ref set result found inlined ih =>
    cases named with
    | same clear =>
      have other : ref.id ≠ id := fun same => clear (same ▸ List.mem_singleton_self ref.id)
      rcases (names.others ref.id other).flip.exists_get? found with ⟨kept, known, named⟩
      exact .reference known (ih named)
    | named label =>
      -- The set behind the reference has the part itself, and the part is as it was.
      rcases names.held with ⟨kept, known, same⟩
      cases known.symm.trans found
      refine ih ?_
      rw [same]
      exact .same names.clear

theorem Names.inlines_of (names : old.Names new id part) {before after result : FilterState}
    (named : FilterState.Named id part before after) (kept : id ∉ before.refs → new.Inlines before result)
    (inner : ∀ mode refIds members others, before = .composed mode refIds members →
      List.Forall₂ (FilterState.Named id part) members others → new.Inlines (.composed mode refIds others) result) :
    new.Inlines after result := by
  cases named with
  | same clear => exact kept clear
  | named label =>
    rcases names.held with ⟨set, found, same⟩
    exact .reference found (same ▸ kept names.clear)
  | composed mode refIds each => exact inner mode refIds _ _ rfl each

theorem inlines_new_of_old (names : old.Names new id part) {before after result : FilterState}
    (named : FilterState.Named id part before after) (inlined : old.Inlines before result) :
    new.Inlines after result := by
  induction inlined using inlines_induction generalizing after with
  | empty => exact names.inlines_of named (fun _ => .empty) nofun
  | standard mode fields => exact names.inlines_of named (fun _ => .standard mode fields) nofun
  | anchored mode fields => exact names.inlines_of named (fun _ => .anchored mode fields) nofun
  | composed mode refIds members results each ih =>
    have inner {others : List FilterState} (named : List.Forall₂ (FilterState.Named id part) members others) :
        new.Inlines (.composed mode refIds others) (.composed mode refIds results) :=
      .composed mode refIds (Outcome.forall₂_of_forall₂ ih named fun _ _ other inlined named =>
        inlined.elim fun _ inlined => inlined named)
    refine names.inlines_of named (fun clear => ?_) fun _ _ _ others same named => ?_
    · have kept : FilterState.Named id part (.composed mode refIds members) (.composed mode refIds members) :=
        .same clear
      rcases FilterState.named_composed_iff.mp kept with ⟨_, named, same⟩
      cases same
      exact inner named
    · cases same
      exact inner named
  | reference ref set result found inlined ih =>
    refine names.inlines_of named (fun clear => ?_) nofun
    have other : ref.id ≠ id := fun same => clear (same ▸ List.mem_singleton_self ref.id)
    rcases (names.others ref.id other).exists_get? found with ⟨kept, known, named⟩
    exact .reference known (ih named)

end Workspace

namespace FilterState

/-- Without a limit both filters, each in its workspace, resolve to the same or to nothing, and have the same
    query. -/
structure Alike (workspace : Workspace) (state : FilterState) (workspace' : Workspace) (state' : FilterState) :
    Prop where
  resolved : ∀ result,
    state'.resolve workspace' .unlimited = .ok result ↔ state.resolve workspace .unlimited = .ok result
  compiled : ∀ result, state.resolve workspace .unlimited = .ok result →
    state'.compileIn workspace' .unlimited = state.compileIn workspace .unlimited

theorem alike_of_names {old new : Workspace} {id : String} {part before after : FilterState}
    (names : old.Names new id part) (named : Named id part before after) : Alike old before new after := by
  have resolved (result : FilterState) :
      after.resolve new .unlimited = .ok result ↔ before.resolve old .unlimited = .ok result := by
    rw [resolve_unlimited_eq_ok_iff, resolve_unlimited_eq_ok_iff]
    exact ⟨Workspace.inlines_old_of_new names named, Workspace.inlines_new_of_old names named⟩
  refine ⟨resolved, fun result found => ?_⟩
  rw [compileIn, compileIn, (resolved result).mpr found, found]

/-- A filter with one of its parts left open: the whole of it, or a part of one of its members. -/
inductive Place
  | whole
  | member (mode : Option CombineMode) (refIds : List String) (front : List FilterState) (place : Place)
    (back : List FilterState)

namespace Place

def fill (part : FilterState) : Place → FilterState
  | .whole => part
  | .member mode refIds front place back => .composed mode refIds (front ++ place.fill part :: back)

variable {id : String} {part : FilterState} {place : Place}

theorem mem_refs_fill (found : id ∈ part.refs) : id ∈ (place.fill part).refs := by
  induction place with
  | whole => exact found
  | member mode refIds front place back ih =>
    exact mem_refs_composed.mpr ⟨_, List.mem_append_right front List.mem_cons_self, ih⟩

theorem named_fill (label : String) (clear : id ∉ (place.fill part).refs) :
    Named id part (place.fill part) (place.fill (.reference ⟨id, label⟩)) := by
  induction place with
  | whole => exact .named label
  | member mode refIds front place back ih =>
    have each (member : FilterState) (held : member ∈ front ++ place.fill part :: back) : id ∉ member.refs :=
      fun found => clear (mem_refs_composed.mpr ⟨member, held, found⟩)
    rcases List.forall_mem_append.mp each with ⟨before, behind⟩
    rcases List.forall_mem_cons.mp behind with ⟨here, after⟩
    have parts : List.Forall₂ (Named id part) (place.fill part :: back) (place.fill (.reference ⟨id, label⟩) :: back) :=
      .cons (ih here) (forall₂_named_self after)
    exact .composed mode refIds (List.rel_append (forall₂_named_self before) parts)

end Place

open Workspace

variable {workspace : Workspace} {id : String}

theorem agreeAt_named_self (unused : ∀ entry ∈ workspace.sets, id ∉ entry.2.filter.refs) (part : FilterState)
    (key : String) : workspace.AgreeAt (Named id part) workspace key :=
  agreeAt_self fun _ found => .same (unused _ (Entries.mem_of_lookup found))

theorem names_insert {set : FilterSet} (clear : id ∉ set.filter.refs)
    (unused : ∀ entry ∈ workspace.sets, id ∉ entry.2.filter.refs) :
    workspace.Names (workspace.insert id set) id set.filter := by
  refine ⟨clear, ⟨set, by rw [get?_insert, if_pos rfl], rfl⟩, fun key other => ?_⟩
  rw [AgreeAt, get?_insert, if_neg other]
  exact agreeAt_named_self unused set.filter key

theorem names_insert_insert {key : String} {held set : FilterSet} {place : Place} (label : String)
    (found : workspace.get? key = some held) (part : place.fill set.filter = held.filter)
    (unused : ∀ entry ∈ workspace.sets, id ∉ entry.2.filter.refs) :
    workspace.Names ((workspace.insert key { held with filter := place.fill (.reference ⟨id, label⟩) }).insert id set)
      id set.filter := by
  have clear : id ∉ (place.fill set.filter).refs := part ▸ unused _ (Entries.mem_of_lookup found)
  refine ⟨fun inner => clear (Place.mem_refs_fill inner), ⟨set, by rw [get?_insert, if_pos rfl], rfl⟩, ?_⟩
  intro other new
  by_cases same : other = key
  · subst same
    refine .of_some found (by rw [get?_insert, if_neg new, get?_insert, if_pos rfl]) ?_
    rw [← part]
    exact Place.named_fill label clear
  · rw [AgreeAt, get?_insert, if_neg new, get?_insert, if_neg same]
    exact agreeAt_named_self unused set.filter other

/-- A part of a filter, or of a filter in the workspace, can be kept as a set of its own under an id that
    nothing refers to, with a reference to it in its place. Without a limit the filter resolves as before. -/
theorem resolve_extracted_iff (workspace : Workspace) (state : FilterState) (id label : String) (set : FilterSet)
    (place : Place) (clear : id ∉ state.refs) (unused : ∀ entry ∈ workspace.sets, id ∉ entry.2.filter.refs) :
    (place.fill set.filter = state →
      Alike workspace state (workspace.insert id set) (place.fill (.reference ⟨id, label⟩))) ∧
    ∀ key held, workspace.get? key = some held → place.fill set.filter = held.filter →
      Alike workspace state
        ((workspace.insert key { held with filter := place.fill (.reference ⟨id, label⟩) }).insert id set) state := by
  constructor
  · intro part
    subst part
    have inner : id ∉ set.filter.refs := fun found => clear (Place.mem_refs_fill found)
    exact alike_of_names (names_insert inner unused) (Place.named_fill label clear)
  · intro key held found part
    exact alike_of_names (names_insert_insert label found part unused) (.same clear)

def paired : Workspace := .ofList [
  ("pair", .ofFilter "Pair" (.composed none [] [.standard (some .or) [], .anchored none []]))]

theorem resolve_extracted_iff_paired :
    let ref := reference ⟨"pair", "Pair"⟩
    let twice := composed none [] [ref, ref]
    let pair := composed none [] [.standard (some .or) [], .anchored none []]
    "new" ∉ twice.refs ∧ (∀ entry ∈ paired.sets, "new" ∉ entry.2.filter.refs) ∧
      (composed none [] [ref, .reference ⟨"new", "New"⟩]).resolve (paired.insert "new" (.ofFilter "New" ref))
        .unlimited = .ok (.composed none [] [pair, pair]) ∧
      twice.resolve ((paired.insert "pair" (.ofFilter "Pair" (.composed none []
          [.reference ⟨"new", "New"⟩, .anchored none []]))).insert "new" (.ofFilter "New" (.standard (some .or) [])))
        .unlimited = .ok (.composed none [] [pair, pair]) := by
  intro ref twice pair
  have clear : "new" ∉ twice.refs := by decide
  have unused : ∀ entry ∈ paired.sets, "new" ∉ entry.2.filter.refs := by decide
  have inlined : paired.Inlines ref pair :=
    .reference rfl (.composed _ _ (.cons (.standard _ _) (.cons (.anchored _ _) .nil)))
  have resolved : twice.resolve paired .unlimited = .ok (.composed none [] [pair, pair]) :=
    resolve_unlimited_eq_ok_iff.mpr (.composed _ _ (.cons inlined (.cons inlined .nil)))
  have member := resolve_extracted_iff paired twice "new" "New" (.ofFilter "New" ref)
    (.member none [] [ref] .whole []) clear unused
  have kept := resolve_extracted_iff paired twice "new" "New" (.ofFilter "New" (.standard (some .or) []))
    (.member none [] [] .whole [.anchored none []]) clear unused
  exact ⟨clear, unused, ((member.1 rfl).resolved _).mpr resolved, ((kept.2 "pair" _ rfl rfl).resolved _).mpr resolved⟩

end FilterState

end CohortFilter
