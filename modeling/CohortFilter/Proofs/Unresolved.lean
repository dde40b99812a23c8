import CohortFilter.Proofs.Clauses
import CohortFilter.Proofs.References

namespace CohortFilter

theorem FieldFilter.clauses_of_mem_main {entries : List (String × FieldFilter)} {entry : String × FieldFilter}
    (member : entry ∈ (Groups.ofEntries (plain entries)).main) :
    ∃ clauses, entry.2.clauses entry.1 = .ok clauses := by
  rw [Groups.ofEntries_eq] at member
  have unanchored := (mem_plain.mp (List.mem_filter.mp member).1).2
  exact ⟨_, clauses_of_plain entry.1 unanchored⟩

namespace FilterState

theorem outcome_compile_composed_eq_error_iff {mode : Option CombineMode} {refIds : List String}
    {members : List FilterState} {error : FilterError} :
    (composed mode refIds members).compile.outcome = .error error ↔
      ∃ front member back, members = front ++ member :: back ∧
        (∀ earlier ∈ front, ∃ query?, earlier.compile.outcome = .ok query?) ∧
        member.compile.outcome = .error error := by
  have asked (member : FilterState) :
      (∃ query, member.compile.outcome.map (·.getD (.all [])) = .ok query) ↔
        ∃ query?, member.compile.outcome = .ok query? := by
    simp only [Outcome.map_eq_ok_iff, ↓existsAndEq, and_true]
  by_cases filled : members = []
  · simp [filled, compile, Warned.outcome_pure]
  · rw [outcome_compile_composed_eq mode refIds filled, outcome_compileMembers]
    simp only [Outcome.map_eq_error_iff, Outcome.mapM_eq_error_iff, asked]

theorem exists_outcome_compile_iff {state : FilterState}
    (fails : ∀ error, state.compile.outcome = .error error ↔
      ∃ id, state.refs.head? = some id ∧ error = .unresolvedReference id) :
    (∃ query?, state.compile.outcome = .ok query?) ↔ state.refs = [] := by
  constructor
  · intro made
    rcases made with ⟨query?, made⟩
    by_contra some
    rcases List.exists_cons_of_ne_nil some with ⟨id, rest, same⟩
    have failed := (fails (.unresolvedReference id)).mpr ⟨id, by rw [same, List.head?_cons], rfl⟩
    cases made.symm.trans failed
  · intro bare
    cases made : state.compile.outcome with
    | ok query? => exact ⟨query?, rfl⟩
    | error error =>
      rcases (fails error).mp made with ⟨id, first, -⟩
      rw [bare] at first
      cases first

theorem outcome_compile_eq_error_iff (state : FilterState) (error : FilterError) :
    state.compile.outcome = .error error ↔
      ∃ id, state.refs.head? = some id ∧ error = .unresolvedReference id := by
  induction state using FilterState.induction generalizing error with
  | empty => simp [compile, refs, Warned.outcome_pure]
  | standard mode fields =>
    by_cases filled : fields = []
    · simp [filled, compile, refs, Warned.outcome_pure]
    · simp [outcome_compile_standard mode filled, refs]
  | anchored mode fields =>
    by_cases filled : fields = []
    · simp [filled, compile, refs, Warned.outcome_pure]
    · simp [outcome_compile_anchored mode filled, refs]
  | composed mode refIds members ih =>
    rw [outcome_compile_composed_eq_error_iff]
    simp only [refs_composed, List.head?_flatMap, List.findSome?_eq_some_iff, List.head?_eq_none_iff]
    constructor
    · intro parts
      rcases parts with ⟨front, member, back, rfl, through, failed⟩
      rcases (ih member (by simp) error).mp failed with ⟨id, first, rfl⟩
      refine ⟨id, ⟨front, member, back, rfl, first, fun earlier held => ?_⟩, rfl⟩
      exact (exists_outcome_compile_iff (ih earlier (List.mem_append_left _ held))).mp (through earlier held)
    · intro parts
      rcases parts with ⟨id, ⟨front, member, back, rfl, first, bare⟩, rfl⟩
      refine ⟨front, member, back, rfl, fun earlier held => ?_, (ih member (by simp) _).mpr ⟨id, first, rfl⟩⟩
      exact (exists_outcome_compile_iff (ih earlier (List.mem_append_left _ held))).mpr (bare earlier held)
  | reference ref => simp [compile, refs, Warned.fail, eq_comm]

theorem outcome_compileIn_eq_error_iff (workspace : Workspace) (depth : DepthLimit) (state : FilterState)
    (error : FilterError) :
    (state.compileIn workspace depth).outcome = .error error ↔ state.resolve workspace depth = .error error := by
  rw [compileIn, Warned.outcome_bind_eq, Outcome.bind_eq_error_iff]
  refine or_iff_left fun compiled => ?_
  rcases compiled with ⟨result, resolved, failed⟩
  rcases (outcome_compile_eq_error_iff result error).mp failed with ⟨id, first, -⟩
  rw [refs_resolveWithin resolved] at first
  cases first

/-- The compiler fails on the first reference of a filter and on nothing else, whatever fields it has; after
    the resolver it does not fail at all. -/
theorem compile_error_iff (state : FilterState) :
    (∀ error, state.compile.outcome = .error error ↔
      ∃ id, state.refs.head? = some id ∧ error = .unresolvedReference id) ∧
    ((∃ error, state.compile.outcome = .error error) ↔ state.refs ≠ []) ∧
    (∀ key value, state.compile.outcome ≠ .error (.invalidValue key value)) ∧
    (∀ filter : AnchoredFilter, ∃ clauses, filter.compile.outcome = .ok clauses) ∧
    (∀ mode entries, (∃ clauses, (FieldFilter.compile mode entries).outcome = .ok clauses) ∧
      ∀ entry ∈ (Groups.ofEntries (FieldFilter.plain entries)).main,
        ∃ clauses, entry.2.clauses entry.1 = .ok clauses) ∧
    ∀ workspace depth error,
      (state.compileIn workspace depth).outcome = .error error ↔ state.resolve workspace depth = .error error := by
  have first := outcome_compile_eq_error_iff state
  refine ⟨first, ?_, ?_, ?_, ?_, fun workspace depth => outcome_compileIn_eq_error_iff workspace depth state⟩
  · rw [Ne, ← exists_outcome_compile_iff first]
    cases state.compile.outcome <;> simp
  · intro key value failed
    rcases (first _).mp failed with ⟨id, -, same⟩
    cases same
  · exact fun filter => ⟨_, CohortFilter.outcome_compile.2 filter⟩
  · exact fun mode entries =>
      ⟨⟨_, CohortFilter.outcome_compile.1 mode entries⟩, fun entry => FieldFilter.clauses_of_mem_main⟩

def mixedFields : List (String × FieldFilter) := [
  ("age", .option ⟨some ["40"], .containsAny, none⟩),
  ("patient:p1", .anchored ⟨"patient", "p1", none, [
    ("visit.site:s", .anchored ⟨"site", "s", none, [("visit.day", .option ⟨none, .containsAny, none⟩)]⟩)]⟩)]

def mixed : FilterState :=
  .composed none [] [.standard none mixedFields,
    .composed (some .or) [] [.empty, .reference ⟨"smokers", "Smokers"⟩],
    .reference ⟨"adults", "Adults"⟩]

theorem compile_error_iff_mixed :
    mixed.compile.outcome = .error (.unresolvedReference "smokers") ∧
      (∃ clauses, (FieldFilter.compile .and mixedFields).outcome = .ok clauses) ∧
      (∃ clauses, FieldFilter.clauses "age" (.option ⟨some ["40"], .containsAny, none⟩) = .ok clauses) ∧
      (mixed.compileIn .empty .standard).outcome = .error (.unknownFilterSet "smokers") := by
  rcases compile_error_iff mixed with ⟨fails, -, -, -, fields, within⟩
  have listed : ("age", FieldFilter.option ⟨some ["40"], .containsAny, none⟩) ∈
      (Groups.ofEntries (FieldFilter.plain mixedFields)).main := by
    rw [Groups.ofEntries_eq]
    exact List.mem_cons_self
  have passed (state : FilterState) (bare : state.refs = []) :
      ∀ earlier ∈ [state], ∃ result, earlier.resolveWithin .empty .standard [] = .ok result := by
    intro earlier held
    rw [List.mem_singleton.mp held]
    exact ⟨state, resolveWithin_of_refs_eq_nil _ _ _ bare⟩
  refine ⟨(fails _).mpr ⟨"smokers", rfl, rfl⟩, (fields .and mixedFields).1, (fields .and mixedFields).2 _ listed,
    (within _ _ _).mpr ?_⟩
  refine resolveWithin_composed_eq_error_iff.mpr ⟨[.standard none mixedFields], _, _, rfl, passed _ rfl, ?_⟩
  refine resolveWithin_composed_eq_error_iff.mpr ⟨[.empty], _, _, rfl, passed _ rfl, ?_⟩
  exact resolveWithin_of_absent (by decide) rfl rfl

end FilterState

end CohortFilter
