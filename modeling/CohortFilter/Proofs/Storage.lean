import CohortFilter.Proofs.Documents
import CohortFilter.Proofs.References

namespace CohortFilter

namespace Shape

variable {α ρ τ ε : Type}

theorem entries_eq_ok_iff {refuse : ShapeFault → ε} {value : Document → Except ε α} {document : Document}
    {pairs : List (String × α)} :
    entries refuse value document = .ok pairs ↔
      ∃ members, document = .object members true ∧
        List.Forall₂ (fun member pair => member.1 = some pair.1 ∧ value member.2 = .ok pair.2) members pairs := by
  cases document with
  | object members closed =>
    simp only [entries, Outcome.bind_eq_ok_iff, Outcome.mapM_eq_ok_iff]
    constructor
    · intro made
      rcases made with ⟨read, each, finished⟩
      cases closed with
      | false => cases finished
      | true =>
        cases finished
        refine ⟨members, rfl, each.imp fun member pair one => ?_⟩
        rcases member with ⟨_ | key, document⟩
        · cases one
        · rcases Outcome.bind_eq_ok_iff.mp one with ⟨found, read, same⟩
          cases same
          exact ⟨rfl, read⟩
    · intro parts
      rcases parts with ⟨_, same, each⟩
      cases same
      refine ⟨pairs, each.imp fun member pair one => ?_, rfl⟩
      rcases member with ⟨key, document⟩
      rcases one with ⟨rfl, read⟩
      exact Outcome.bind_eq_ok_iff.mpr ⟨pair.2, read, rfl⟩
  | _ => simp [entries]

namespace Record

variable {record : Record ρ τ ε} {P : ρ → Prop}

theorem putMembers_preserves
    (step : ∀ field ∈ record.fields, ∀ document draft draft', P draft → field.put document draft = .ok draft' →
      P draft')
    {seen : List String} {draft draft' : ρ} {members : List (Option String × Document)} (start : P draft)
    (put : record.putMembers seen draft members = .ok draft') : P draft' := by
  induction members generalizing seen draft with
  | nil =>
    cases put
    exact start
  | cons member rest ih =>
    rcases member with ⟨key, document⟩
    cases key with
    | none => cases put
    | some key =>
      rw [putMembers] at put
      split at put
      · split at put
        · exact ih start put
        · cases put
      · next field found =>
        split at put
        · cases put
        · split at put
          · next made =>
            exact ih (step field (List.mem_of_find?_eq_some found) _ _ _ start made) put
          · cases put

theorem putItems_preserves {fields : List (Field ρ ε)}
    (step : ∀ field ∈ fields, ∀ document draft draft', P draft → field.put document draft = .ok draft' → P draft')
    {draft : ρ} {items : List Document} {result : ρ × List Document} (start : P draft)
    (put : putItems draft fields items = .ok result) : P result.1 := by
  induction fields generalizing draft items with
  | nil =>
    cases items <;>
    · cases put
      exact start
  | cons field rest ih =>
    rcases List.forall_mem_cons.mp step with ⟨first, later⟩
    cases items with
    | nil =>
      cases put
      exact start
    | cons item items =>
      rcases Outcome.bind_eq_ok_iff.mp put with ⟨made, read, put⟩
      exact ih later (first item draft made start read) put

theorem exists_draft_of_read
    (step : ∀ field ∈ record.fields, ∀ document draft draft', P draft → field.put document draft = .ok draft' →
      P draft')
    {source : Source} {document : Document} {value : τ} (start : P record.blank)
    (read : record.read source document = .ok value) : ∃ draft, P draft ∧ record.finish draft = .ok value := by
  cases document with
  | object members closed =>
    rcases Outcome.bind_eq_ok_iff.mp read with ⟨draft, put, read⟩
    refine ⟨draft, putMembers_preserves step start put, ?_⟩
    cases closed with
    | false => cases read
    | true => exact Outcome.mapError_eq_ok_iff.mp read
  | array items closed =>
    rcases Outcome.bind_eq_ok_iff.mp read with ⟨⟨draft, rest⟩, put, read⟩
    refine ⟨draft, putItems_preserves step start put, ?_⟩
    dsimp only at read
    split at read
    · cases read
    · rcases Outcome.bind_eq_ok_iff.mp read with ⟨result, made, read⟩
      split at read
      · cases read
        exact Outcome.mapError_eq_ok_iff.mp made
      · cases read
  | _ => cases read

end Record

end Shape

structure FilterState.Storable (state : FilterState) : Prop where
  wellFormed : state.WellFormed
  distinct : state.Distinct

namespace FilterState

theorem storable_empty : empty.Storable := ⟨True.intro, True.intro⟩

theorem storable_of_ofDocument {document : Document} {state : FilterState}
    (read : ofDocument document = .ok state) : state.Storable := by
  unfold ofDocument at read
  split at read
  · next value found =>
    have decoded := Outcome.mapError_eq_ok_iff.mp read
    have distinct := Document.distinct_of_value? found
    exact ⟨wellFormed_of_ofJson decoded, distinct_of_ofJson distinct decoded⟩
  · cases read

theorem ofDocument_ofJson_toJson {state : FilterState} (storable : state.Storable) :
    ofDocument (Document.ofJson state.toJson) = .ok state := by
  have value := Document.value?_ofJson (distinct_toJson storable.wellFormed storable.distinct)
  rw [ofDocument, value]
  exact Outcome.mapError_eq_ok_iff.mpr (ofJson_toJson storable.wellFormed)

end FilterState

namespace FilterSet

theorem storable_of_read {source : Source} {document : Document} {set : FilterSet}
    (read : record.read source document = .ok set) : set.filter.Storable := by
  have kept : ∀ field ∈ record.fields, ∀ document draft draft',
      (∀ filter, draft.filter = some filter → filter.Storable) → field.put document draft = .ok draft' →
        ∀ filter, draft'.filter = some filter → filter.Storable := by
    intro field member document draft draft' storable put
    simp only [record, List.mem_cons, List.not_mem_nil, or_false] at member
    rcases member with rfl | rfl | rfl | rfl
    all_goals
      rcases Outcome.bind_eq_ok_iff.mp put with ⟨part, found, same⟩
      cases same
    · exact storable
    · exact storable
    · exact storable
    · intro filter held
      cases held
      exact FilterState.storable_of_ofDocument found
  rcases Shape.Record.exists_draft_of_read kept (fun _ held => nomatch held) read with ⟨draft, storable, finished⟩
  simp only [record] at finished
  split at finished
  · cases finished
    cases held : draft.filter with
    | none => simpa [held] using FilterState.storable_empty
    | some filter => simpa [held] using storable filter held
  · cases finished

theorem read_ofJson_toJson {source : Source} {set : FilterSet} (storable : set.filter.Storable) :
    record.read source (Document.ofJson set.toJson) = .ok set := by
  have filter := FilterState.ofDocument_ofJson_toJson storable
  rcases set with ⟨id, name, description, state⟩
  cases id
  all_goals
    simp [toJson, Document.ofJson, Document.ofMembers, Shape.Record.read, Shape.Record.putMembers, record, filter,
      Shape.text, Shape.optionalText]
    rfl

end FilterSet

namespace Workspace

def Storable (workspace : Workspace) : Prop := ∀ entry ∈ workspace.sets, entry.2.filter.Storable

theorem storable_of_read {source : Source} {document : Document} {workspace : Workspace}
    (opened : read source document = .ok workspace) : workspace.Storable := by
  rcases Outcome.map_eq_ok_iff.mp opened with ⟨pairs, found, rfl⟩
  rcases Shape.entries_eq_ok_iff.mp found with ⟨members, -, each⟩
  intro entry member
  rcases Outcome.exists_of_forall₂ each (Entries.mem_of_mem_ofList member) with ⟨_, -, -, read⟩
  exact FilterSet.storable_of_read read

theorem ofList_sets (workspace : Workspace) : ofList workspace.sets = workspace := by
  rcases workspace with ⟨sets, distinct⟩
  simp only [ofList, Entries.ofList_eq_self distinct]

theorem forall₂_ofMembers (source : Source) {sets : List (String × FilterSet)}
    (each : ∀ entry ∈ sets, entry.2.filter.Storable) :
    List.Forall₂ (fun member pair => member.1 = some pair.1 ∧ FilterSet.record.read source member.2 = .ok pair.2)
      (Document.ofMembers (sets.map fun entry => (entry.1, entry.2.toJson))) sets := by
  induction sets with
  | nil => exact .nil
  | cons entry rest ih =>
    rcases List.forall_mem_cons.mp each with ⟨first, later⟩
    exact .cons ⟨rfl, FilterSet.read_ofJson_toJson first⟩ (ih later)

theorem read_ofJson_toJson {source : Source} {workspace : Workspace} (storable : workspace.Storable) :
    read source (Document.ofJson workspace.toJson) = .ok workspace := by
  have entries : Shape.entries .shape (FilterSet.record.read source) (Document.ofJson workspace.toJson) =
      .ok workspace.sets := by
    rw [toJson, Document.ofJson]
    exact Shape.entries_eq_ok_iff.mpr ⟨_, rfl, forall₂_ofMembers source storable⟩
  rw [read, entries]
  exact congrArg Except.ok workspace.ofList_sets

theorem storable_of_get? {workspace : Workspace} {id : String} {set : FilterSet} (storable : workspace.Storable)
    (found : workspace.get? id = some set) : set.filter.Storable :=
  storable _ (Entries.mem_of_lookup found)

end Workspace

namespace FilterState

theorem wellFormed_resolveWithin {workspace : Workspace} {depth : DepthLimit} {active : List String}
    {state result : FilterState} (storable : workspace.Storable)
    (resolved : state.resolveWithin workspace depth active = .ok result) (wellFormed : state.WellFormed) :
    result.WellFormed := by
  revert wellFormed
  refine resolved_induction (motive := fun state result => state.WellFormed → result.WellFormed)
    id (fun _ _ => id) (fun _ _ => id) ?_ ?_ resolved
  · intro mode refIds members results each wellFormed
    simp only [WellFormed, allWellFormed_iff] at wellFormed ⊢
    intro result held
    rcases Outcome.exists_of_forall₂ each held with ⟨member, standing, kept⟩
    exact kept (wellFormed member standing)
  · intro ref set result found kept _
    exact kept (Workspace.storable_of_get? storable found).wellFormed

end FilterState

/-- Filters and workspaces from documents come back from documents of their own, and so does whatever the
    resolver makes of them. -/
theorem Workspace.documents_read_back {value : Json} {state : FilterState} {source : Source} {document : Document}
    {workspace : Workspace} (decoded : FilterState.ofJson value = .ok state)
    (opened : Workspace.read source document = .ok workspace) (depth : DepthLimit) :
    FilterState.ofJson state.toJson = .ok state ∧
      (∀ result, state.resolve workspace depth = .ok result → FilterState.ofJson result.toJson = .ok result) ∧
      Shape.ofJson Workspace.read workspace.toJson = .ok workspace := by
  have wellFormed := FilterState.wellFormed_of_ofJson decoded
  have storable := Workspace.storable_of_read opened
  refine ⟨FilterState.ofJson_toJson wellFormed, fun result resolved => ?_, Workspace.read_ofJson_toJson storable⟩
  exact FilterState.ofJson_toJson (FilterState.wellFormed_resolveWithin storable resolved wellFormed)

theorem Workspace.documents_read_back_untagged :
    let value := Json.object [("value", .array [
      .object [("value", .object [("id", .text "adults")])],
      .object [("value", .object [("combineMode", .text "OR"), ("age", .object [("combineMode", .text "AND")])])]])]
    let document := Document.object [
      (some "adults", .array [.text "1", .text "Adults"] true),
      (some "all", .object [(some "size", .refused), (some "name", .text "All")] true)] true
    let state := FilterState.composed none [] [.reference ⟨"adults", ""⟩,
      .standard (some .or) [("age", .option ⟨none, .containsAny, some .and⟩)]]
    let workspace := Workspace.ofList [("adults", ⟨some "1", "Adults", "", .empty⟩), ("all", ⟨none, "All", "", .empty⟩)]
    let result := FilterState.composed none [] [.empty,
      .standard (some .or) [("age", .option ⟨none, .containsAny, some .and⟩)]]
    FilterState.ofJson value = .ok state ∧ Workspace.read .text document = .ok workspace ∧
      FilterState.ofJson state.toJson = .ok state ∧
      state.resolve workspace .standard = .ok result ∧ FilterState.ofJson result.toJson = .ok result ∧
      Shape.ofJson Workspace.read workspace.toJson = .ok workspace := by
  intro value document state workspace result
  have decoded : FilterState.ofJson value = .ok state := rfl
  have opened : Workspace.read .text document = .ok workspace := rfl
  have resolved : state.resolve workspace .standard = .ok result := by
    refine FilterState.resolveWithin_composed_eq_ok_iff.mpr ⟨_, .cons ?_ (.cons ?_ .nil), rfl⟩
    · refine FilterState.resolveWithin_reference_eq_ok_iff.mpr ⟨by decide, by decide, _, rfl, ?_⟩
      rw [FilterState.resolveWithin]
    · rw [FilterState.resolveWithin]
  have back := Workspace.documents_read_back decoded opened .standard
  exact ⟨decoded, opened, back.1, resolved, back.2.1 result resolved, back.2.2⟩

end CohortFilter
