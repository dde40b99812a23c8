import CohortFilter.Proofs.Commands
import CohortFilter.Proofs.Storage

namespace CohortFilter

namespace FilterState

theorem storable_composed_iff {mode : Option CombineMode} {refIds : List String} {members : List FilterState} :
    (composed mode refIds members).Storable ↔ ∀ member ∈ members, member.Storable := by
  constructor
  · intro storable member held
    have wellFormed := storable.wellFormed
    have distinct := storable.distinct
    rw [WellFormed, allWellFormed_iff] at wellFormed
    rw [Distinct, allDistinct_iff] at distinct
    exact ⟨wellFormed member held, distinct member held⟩
  · intro each
    constructor
    · rw [WellFormed, allWellFormed_iff]
      exact fun member held => (each member held).wellFormed
    · rw [Distinct, allDistinct_iff]
      exact fun member held => (each member held).distinct

theorem storable_resolveWithin {workspace : Workspace} {depth : DepthLimit} {active : List String}
    {state result : FilterState} (kept : workspace.Storable)
    (resolved : state.resolveWithin workspace depth active = .ok result) (storable : state.Storable) :
    result.Storable := by
  revert storable
  refine resolved_induction (motive := fun state result => state.Storable → result.Storable)
    id (fun _ _ => id) (fun _ _ => id) ?_ ?_ resolved
  · intro mode refIds members results each storable
    rw [storable_composed_iff] at storable ⊢
    intro result held
    rcases Outcome.exists_of_forall₂ each held with ⟨member, standing, same⟩
    exact same (storable member standing)
  · exact fun ref set result found same _ => same (Workspace.storable_of_get? kept found)

end FilterState

namespace Files

variable {files : Files} {depth : DepthLimit} {filter name : String} {result : FilterState} {pretty : Bool}
  {ending : String}

theorem storable_of_state (found : files.state depth filter (some name) = .ok result) : result.Storable := by
  rcases state_some_eq_ok_iff.mp found with ⟨given, workspace, first, second, resolved⟩
  rcases document_eq_ok_iff.mp first with ⟨text, -, -, read⟩
  rcases document_eq_ok_iff.mp second with ⟨text', -, -, opened⟩
  exact FilterState.storable_resolveWithin (Workspace.storable_of_read opened) resolved
    (FilterState.storable_of_ofDocument read)

theorem state_of_shallow (storable : result.Storable) (lexed : ∀ number ∈ result.toJson.numbers, number.Lexed)
    (line : ending ∈ ["", "\n"]) (held : files name = .ok (result.toJson.printed pretty ++ ending))
    (shallow : result.toJson.depth ≤ nestingLimit) : files.state depth name none = .ok result := by
  rw [state, document_of_shallow lexed line held shallow, FilterState.ofDocument_ofJson_toJson storable]
  rfl

theorem state_of_deep (lexed : ∀ number ∈ result.toJson.numbers, number.Lexed) (line : ending ∈ ["", "\n"])
    (held : files name = .ok (result.toJson.printed pretty ++ ending)) (deep : nestingLimit < result.toJson.depth) :
    files.state depth name none = .error (.invalid name (.shape .unreadable)) := by
  have nothing : (result.toJson.readWithin 0).value? = none :=
    Json.value?_readWithin_eq_none (by rwa [Nat.zero_add]) (Nat.zero_le _)
  rw [state, document_of_printed lexed line held, FilterState.ofDocument, nothing]
  rfl

end Files

def Json.FloatsReadBack (value : Json) : Prop :=
  ∀ x, .float x ∈ value.numbers → parse? (Number.float x).text = some (.number (.float x))

theorem Json.FloatsReadBack.lexed {value : Json} (floats : value.FloatsReadBack) :
    ∀ number ∈ value.numbers, number.Lexed := by
  intro number member
  cases number with
  | integer value fits => exact Number.lexed_integer value fits
  | float x => exact Number.lexed_float (floats x member)

namespace Invocation

/-- What `resolve` prints, saved as a filter, compiles without a workspace to what the filter that it was made of
    compiles to with one, if the doubles in it are read back and it is not nested too deep. Nested deeper, it is no
    document. -/
theorem printed_filter_compiles (files : Files) (filter workspace logLevel : String) (maxDepth : Option Nat)
    (pretty : Bool) (text : String)
    (ran : run files ⟨.resolve filter workspace, logLevel, maxDepth, pretty⟩ = .ok text) :
    ∃ result : FilterState, files.state (DepthLimit.standard.merge maxDepth) filter (some workspace) = .ok result ∧
      text = result.toJson.printed pretty ∧
      (result.toJson.FloatsReadBack →
        ∀ (others : Files) (name ending : String), ending ∈ ["", "\n"] → others name = .ok (text ++ ending) →
        ∀ (level level' : String) (maxDepth' : Option Nat) (pretty' : Bool),
          (result.toJson.depth ≤ nestingLimit → ∃ output,
            run files ⟨.compile filter (some workspace), level, maxDepth, pretty'⟩ = .ok output ∧
              run others ⟨.compile name none, level', maxDepth', pretty'⟩ = .ok output) ∧
          (nestingLimit < result.toJson.depth →
            run others ⟨.compile name none, level', maxDepth', pretty'⟩ =
              .error (.invalid name (.shape .unreadable)))) := by
  rcases run_eq_ok_iff.mp ran with ⟨value, made, rfl⟩
  rcases Command.resolve_eq_ok_iff.mp made with ⟨result, found, rfl⟩
  refine ⟨result, found, rfl, fun floats others name ending line held level level' maxDepth' pretty' => ?_⟩
  have lexed := floats.lexed
  constructor
  · intro shallow
    -- Both commands come to the same filter, and that has one query.
    rcases Files.exists_compile_of_state found with ⟨query?, compiled⟩
    have again : others.state (DepthLimit.standard.merge maxDepth') name none = .ok result :=
      Files.state_of_shallow (Files.storable_of_state found) lexed line held shallow
    have queried := Files.query_eq_ok_of_state found compiled
    have requeried := Files.query_eq_ok_of_state again compiled
    exact ⟨_, run_eq_ok_iff.mpr ⟨_, Command.compile_eq_ok_iff.mpr ⟨query?, queried, rfl⟩, rfl⟩,
      run_eq_ok_iff.mpr ⟨_, Command.compile_eq_ok_iff.mpr ⟨query?, requeried, rfl⟩, rfl⟩⟩
  · intro deep
    rw [run_eq_error_iff, Command.compile_eq_error_iff, Files.query, Files.state_of_deep lexed line held deep]
    rfl

def adults : Workspace :=
  ⟨[("adults", .ofFilter "Adults" (.standard none [("age", .option ⟨some ["40"], .containsAny, none⟩)]))],
    List.nodup_singleton _⟩

theorem storable_adults : adults.Storable := by
  refine List.forall_mem_singleton.mpr ⟨?_, ?_⟩
  · exact List.forall_mem_singleton.mpr ⟨by decide, .inl rfl⟩
  · exact ⟨List.nodup_singleton _, List.forall_mem_singleton.mpr True.intro⟩

def filesOf (filter : FilterState) : Files :=
  Files.ofList [("filter.json", .ok (filter.toJson.printed false ++ "")),
    ("workspace.json", .ok (adults.toJson.printed true ++ "\n"))]

theorem state_filesOf {filter result : FilterState} (storable : filter.Storable)
    (lexed : ∀ number ∈ filter.toJson.numbers, number.Lexed) (shallow : filter.toJson.depth ≤ nestingLimit)
    {depth : DepthLimit} (resolved : filter.resolve adults depth = .ok result) :
    (filesOf filter).state depth "filter.json" (some "workspace.json") = .ok result := by
  have held : filesOf filter "filter.json" = .ok (filter.toJson.printed false ++ "") := rfl
  have given : (filesOf filter).document (fun _ => FilterState.ofDocument) "filter.json" = .ok filter := by
    rw [Files.document_of_shallow lexed List.mem_cons_self held shallow,
      FilterState.ofDocument_ofJson_toJson storable]
    rfl
  have held' : filesOf filter "workspace.json" = .ok (adults.toJson.printed true ++ "\n") := rfl
  have numbers : ∀ number ∈ adults.toJson.numbers, number.Lexed := fun _ member => nomatch member
  have opened : (filesOf filter).document Workspace.read "workspace.json" = .ok adults := by
    rw [Files.document_of_shallow numbers (List.mem_cons_of_mem _ List.mem_cons_self) held' (by decide),
      Workspace.read_ofJson_toJson storable_adults]
    rfl
  exact Files.state_some_eq_ok_iff.mpr ⟨filter, adults, given, opened, resolved⟩

theorem resolve_adults (active : List String) (fresh : "adults" ∉ active) (depth : DepthLimit)
    (under : depth.exceeded active.length = none) :
    (FilterState.reference ⟨"adults", "Adults"⟩).resolveWithin adults depth active =
      .ok (.standard none [("age", .option ⟨some ["40"], .containsAny, none⟩)]) := by
  refine FilterState.resolveWithin_reference_eq_ok_iff.mpr ⟨fresh, under, _, rfl, ?_⟩
  rw [FilterSet.ofFilter, FilterState.resolveWithin]

def half : Binary64 := ⟨false, Nat.pow 2 52, 1021, by decide⟩

theorem parse?_half : Json.parse? (Number.float half).text = some (.number (.float half)) := by
  have digits : (Number.float half).chars = ['0', '.', '5'] := by decide +kernel
  have token : Token.Lexeme.scan .blank ['0', '.', '5'] = [.ofNumeral ⟨false, 5, -1, false, false, 0, false⟩] := rfl
  have number : Numeral.number? ⟨false, 5, -1, false, false, 0, false⟩ = some (.float half) := by decide +kernel
  rw [Json.parse?, Reading.ofText_eq, Number.text, digits, String.toList_ofList, token, Token.ofNumeral, number]
  rfl

def doses : FilterState :=
  .composed (some .or) [] [.reference ⟨"adults", "Adults"⟩,
    .standard none [("dose", .range ⟨.float half, .integer 3 (by decide)⟩)]]

theorem storable_doses : doses.Storable := by
  refine FilterState.storable_composed_iff.mpr (List.forall_mem_cons.mpr ⟨⟨True.intro, True.intro⟩, ?_⟩)
  refine List.forall_mem_singleton.mpr ⟨List.forall_mem_singleton.mpr ⟨by decide, True.intro⟩, ?_⟩
  exact ⟨List.nodup_singleton _, List.forall_mem_singleton.mpr True.intro⟩

theorem printed_filter_compiles_doses :
    ∃ text output, run (filesOf doses) ⟨.resolve "filter.json" "workspace.json", "warn", none, true⟩ = .ok text ∧
      run (filesOf doses) ⟨.compile "filter.json" (some "workspace.json"), "warn", none, false⟩ = .ok output ∧
      run (Files.ofList [("printed.json", .ok (text ++ "\n"))]) ⟨.compile "printed.json" none, "warn", none, false⟩ =
        .ok output := by
  have floats : doses.toJson.FloatsReadBack := by
    intro x member
    rcases List.mem_pair.mp (member : _ ∈ [Number.float half, .integer 3 (by decide)]) with same | same
    · cases same
      exact parse?_half
    · cases same
  have resolved : doses.resolve adults .standard = .ok (.composed (some .or) [] [
      .standard none [("age", .option ⟨some ["40"], .containsAny, none⟩)],
      .standard none [("dose", .range ⟨.float half, .integer 3 (by decide)⟩)]]) := by
    refine FilterState.resolveWithin_composed_eq_ok_iff.mpr ⟨_, .cons (resolve_adults [] (by decide) _ rfl) ?_, rfl⟩
    exact .cons (by rw [FilterState.resolveWithin]) .nil
  have found := state_filesOf storable_doses floats.lexed (by decide) resolved
  have ran : run (filesOf doses) ⟨.resolve "filter.json" "workspace.json", "warn", none, true⟩ = .ok _ :=
    run_eq_ok_iff.mpr ⟨_, Command.resolve_eq_ok_iff.mpr ⟨_, found, rfl⟩, rfl⟩
  rcases printed_filter_compiles _ _ _ _ _ _ _ ran with ⟨result, same, -, compiles⟩
  cases found.symm.trans same
  rcases (compiles floats (Files.ofList [("printed.json", .ok (_ ++ "\n"))]) "printed.json" "\n"
    (List.mem_cons_of_mem _ List.mem_cons_self) rfl "warn" "warn" none false).1 (by decide) with
    ⟨output, compiled, again⟩
  exact ⟨_, output, ran, compiled, again⟩

def wrapped (filter : FilterState) : Nat → FilterState
  | 0 => filter
  | count + 1 => .composed none [] [wrapped filter count]

theorem depth_wrapped (filter : FilterState) (count : Nat) :
    (wrapped filter count).toJson.depth = filter.toJson.depth + 2 * count := by
  induction count with
  | zero => rfl
  | succ count ih =>
    have outer : (wrapped filter (count + 1)).toJson.depth = (wrapped filter count).toJson.depth + 2 := by
      simp [wrapped, FilterState.toJson, FilterState.toItems, FilterState.tagged, Json.modeMember, Json.texts,
        Json.depth, Json.membersDepth, Json.itemsDepth]
    rw [outer, ih]
    omega

theorem numbers_wrapped (filter : FilterState) (count : Nat) :
    (wrapped filter count).toJson.numbers = filter.toJson.numbers := by
  induction count with
  | zero => rfl
  | succ count ih =>
    rw [← ih]
    simp [wrapped, FilterState.toJson, FilterState.toItems, FilterState.tagged, Json.modeMember, Json.texts,
      Json.numbers, Json.membersNumbers, Json.itemsNumbers]

theorem storable_wrapped {filter : FilterState} (storable : filter.Storable) (count : Nat) :
    (wrapped filter count).Storable := by
  induction count with
  | zero => exact storable
  | succ count ih => exact FilterState.storable_composed_iff.mpr (List.forall_mem_singleton.mpr ih)

theorem resolveWithin_wrapped {filter result : FilterState} {workspace : Workspace} {depth : DepthLimit}
    {active : List String} (resolved : filter.resolveWithin workspace depth active = .ok result) (count : Nat) :
    (wrapped filter count).resolveWithin workspace depth active = .ok (wrapped result count) := by
  induction count with
  | zero => exact resolved
  | succ count ih => exact FilterState.resolveWithin_composed_eq_ok_iff.mpr ⟨_, .cons ih .nil, rfl⟩

/-- A reference that stands as deep as one can be read has a filter in its place that does not fit there. -/
theorem printed_wrapped_unreadable :
    let files := filesOf (wrapped (.reference ⟨"adults", "Adults"⟩) 62)
    ∃ text output, run files ⟨.resolve "filter.json" "workspace.json", "warn", none, false⟩ = .ok text ∧
      run files ⟨.compile "filter.json" (some "workspace.json"), "warn", none, false⟩ = .ok output ∧
      run (Files.ofList [("printed.json", .ok text)]) ⟨.compile "printed.json" none, "warn", none, false⟩ =
        .error (.invalid "printed.json" (.shape .unreadable)) := by
  intro files
  have bare (filter : FilterState) (none : filter.toJson.numbers = []) :
      ∀ number ∈ (wrapped filter 62).toJson.numbers, number.Lexed := by
    rw [numbers_wrapped, none]
    exact List.forall_mem_nil _
  have shallow : (wrapped (.reference ⟨"adults", "Adults"⟩) 62).toJson.depth ≤ nestingLimit := by
    rw [depth_wrapped]
    decide
  have reference : (FilterState.reference ⟨"adults", "Adults"⟩).Storable := ⟨True.intro, True.intro⟩
  have found := state_filesOf (storable_wrapped reference 62) (bare _ rfl) shallow
    (resolveWithin_wrapped (resolve_adults [] (by decide) .standard rfl) 62)
  rcases Files.exists_compile_of_state found with ⟨query?, compiled⟩
  have queried := Files.query_eq_ok_of_state found compiled
  refine ⟨_, _, run_eq_ok_iff.mpr ⟨_, Command.resolve_eq_ok_iff.mpr ⟨_, found, rfl⟩, rfl⟩,
    run_eq_ok_iff.mpr ⟨_, Command.compile_eq_ok_iff.mpr ⟨query?, queried, rfl⟩, rfl⟩, ?_⟩
  rw [run_eq_error_iff, Command.compile_eq_error_iff, Files.query, Files.state_of_deep (bare _ rfl) List.mem_cons_self
    (by rw [String.append_empty]; rfl) (by rw [depth_wrapped]; decide)]
  rfl

end Invocation

end CohortFilter
