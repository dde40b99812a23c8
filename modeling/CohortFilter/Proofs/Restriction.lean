import CohortFilter.Proofs.Meaning
import CohortFilter.Proofs.Planning

namespace CohortFilter

namespace Query

theorem nested_cases (path : String) (clauses : List Query) :
    (∀ clause ∈ clauses, clause.nestedPath? ≠ some path) ∨
      ∃ front mode inner back, clauses = front ++ .nested path mode inner :: back ∧
        ∀ clause ∈ front, clause.nestedPath? ≠ some path := by
  induction clauses with
  | nil => exact .inl (List.forall_mem_nil _)
  | cons clause rest ih =>
    by_cases here : clause.nestedPath? = some path
    · cases clause with
      | nested held mode inner =>
        cases here
        exact .inr ⟨[], mode, inner, rest, rfl, List.forall_mem_nil _⟩
      | group | matching | atLeast | atMost => cases here
    · rcases ih with absent | ⟨front, mode, inner, back, rfl, first⟩
      · exact .inl (List.forall_mem_cons.mpr ⟨here, absent⟩)
      · exact .inr ⟨clause :: front, mode, inner, back, rfl, List.forall_mem_cons.mpr ⟨here, first⟩⟩

end Query

namespace Interpretation

variable {ρ : Type} (world : Interpretation ρ)

def admits : Option Query → ρ → Prop
  | none, _ => True
  | some query, record => world.holds query record

theorem holds_all_iff {clauses : List Query} {record : ρ} :
    world.holds (.all clauses) record ↔ ∀ clause ∈ clauses, world.holds clause record := by
  rw [Query.all, holds, joined_and_iff]

theorem admits_iff {filter : Option Query} {record : ρ} :
    world.admits filter record ↔ ∀ clause ∈ QueryInfo.conjuncts filter, world.holds clause record := by
  cases filter with
  | none => simp [admits, QueryInfo.conjuncts]
  | some query =>
    cases query with
    | group mode clauses =>
      cases mode with
      | and => exact world.holds_all_iff
      | or => simp [admits, QueryInfo.conjuncts]
    | matching | atLeast | atMost | nested => simp [admits, QueryInfo.conjuncts]

theorem holds_anchor_iff {path : String} {anchor : Query} {record : ρ} :
    world.holds (.nested path .and [anchor]) record ↔
      ∃ other, world.related record path other ∧ world.holds anchor other := by
  simp only [holds, joined, and_true]

end Interpretation

theorem Anchor.eq_of_ofChoice? {config : AnchorConfig} {value : String} {anchor : Anchor}
    (chosen : Anchor.ofChoice? (some config) (some value) = some anchor) : anchor = ⟨config, value⟩ := by
  by_cases empty : value.isEmpty
  · simp [ofChoice?, empty] at chosen
  · simpa [ofChoice?, empty] using chosen.symm

namespace QueryInfo

variable {path : String} {anchor : Query}

def narrowed (path : String) (anchor : Query) : CombineMode → List Query → Query
  | .and, clauses => .nested path .and (clauses ++ [anchor])
  | .or, clauses => .nested path .and [.group .or clauses, anchor]

theorem restrict_cons_of_ne {clause : Query} (rest : List Query) (other : clause.nestedPath? ≠ some path) :
    restrict path anchor (clause :: rest) = clause :: restrict path anchor rest := by
  cases clause with
  | nested held mode clauses =>
    have away : held ≠ path := fun same => other (congrArg some same)
    simp only [restrict, if_neg away]
  | group | matching | atLeast | atMost => rfl

theorem restrict_cons_nested (mode : CombineMode) (clauses rest : List Query) :
    restrict path anchor (.nested path mode clauses :: rest) = narrowed path anchor mode clauses :: rest := by
  simp only [restrict, if_pos]
  cases mode <;> rfl

theorem restrict_append {front : List Query} (others : ∀ clause ∈ front, clause.nestedPath? ≠ some path)
    (back : List Query) : restrict path anchor (front ++ back) = front ++ restrict path anchor back := by
  induction front with
  | nil => rfl
  | cons clause rest ih =>
    rcases List.forall_mem_cons.mp others with ⟨other, others⟩
    rw [List.cons_append, restrict_cons_of_ne _ other, ih others, List.cons_append]

theorem restrict_of_absent {clauses : List Query} (absent : ∀ clause ∈ clauses, clause.nestedPath? ≠ some path) :
    restrict path anchor clauses = clauses ++ [.nested path .and [anchor]] := by
  calc restrict path anchor clauses
    _ = restrict path anchor (clauses ++ []) := by rw [List.append_nil]
    _ = clauses ++ [.nested path .and [anchor]] := restrict_append absent []

section Holds

variable {ρ : Type} (world : Interpretation ρ)

theorem holds_narrowed_iff (mode : CombineMode) {clauses : List Query} {record : ρ} :
    world.holds (narrowed path anchor mode clauses) record ↔
      ∃ other, world.related record path other ∧ world.joined mode clauses other ∧ world.holds anchor other := by
  cases mode with
  | and =>
    simp only [narrowed, Interpretation.holds, Interpretation.joined_and_iff, List.forall_mem_append,
      List.forall_mem_singleton]
  | or => simp only [narrowed, Interpretation.holds, Interpretation.joined, and_true]

theorem holds_restrict_of_absent {filter : Option Query} {record : ρ}
    (absent : ∀ clause ∈ conjuncts filter, clause.nestedPath? ≠ some path) :
    world.holds (.all (restrict path anchor (conjuncts filter))) record ↔
      world.admits filter record ∧ ∃ other, world.related record path other ∧ world.holds anchor other := by
  rw [world.holds_all_iff, restrict_of_absent absent, List.forall_mem_append, List.forall_mem_singleton,
    world.admits_iff, world.holds_anchor_iff]

theorem holds_restrict_of_first {front back clauses : List Query} {mode : CombineMode} {record : ρ}
    (first : ∀ clause ∈ front, clause.nestedPath? ≠ some path) :
    world.holds (.all (restrict path anchor (front ++ .nested path mode clauses :: back))) record ↔
      (∀ clause ∈ front ++ back, world.holds clause record) ∧
        ∃ other, world.related record path other ∧ world.joined mode clauses other ∧ world.holds anchor other := by
  rw [world.holds_all_iff, restrict_append first, restrict_cons_nested, List.forall_mem_append,
    List.forall_mem_append, List.forall_mem_cons, holds_narrowed_iff]
  exact ⟨fun parts => ⟨⟨parts.1, parts.2.2⟩, parts.2.1⟩, fun parts => ⟨parts.1.1, parts.2, parts.1.2⟩⟩

theorem admits_of_holds_restrict {filter : Option Query} {record : ρ}
    (held : world.holds (.all (restrict path anchor (conjuncts filter))) record) : world.admits filter record := by
  rcases Query.nested_cases path (conjuncts filter) with absent | ⟨front, mode, clauses, back, parts, first⟩
  · exact ((holds_restrict_of_absent world absent).mp held).1
  -- The record that meets the narrowed clause meets the clause it was made from.
  · rw [parts, holds_restrict_of_first world first, List.forall_mem_append] at held
    rcases held with ⟨⟨before, behind⟩, other, near, met, -⟩
    have here : world.holds (.nested path mode clauses) record := by
      rw [Interpretation.holds]
      exact ⟨other, near, met⟩
    rw [world.admits_iff, parts]
    exact List.forall_mem_append.mpr ⟨before, List.forall_mem_cons.mpr ⟨here, behind⟩⟩

end Holds

def onDays : Query :=
  .nested "visit" .or [.atLeast "day" (.integer 2 (by decide)), .atMost "day" (.integer 7 (by decide))]

end QueryInfo

end CohortFilter
