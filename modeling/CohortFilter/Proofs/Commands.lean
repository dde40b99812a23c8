import CohortFilter.CommandLine.Invocation
import CohortFilter.Proofs.Planning
import CohortFilter.Proofs.Reading
import CohortFilter.Proofs.Unresolved

namespace CohortFilter

namespace Files

variable {files : Files} {depth : DepthLimit} {filter name : String} {state : FilterState}

theorem document_eq_ok_iff {α : Type} {decode : Source → Document → Except DecodeError α} {value : α} :
    files.document decode name = .ok value ↔
      ∃ text, files name = .ok text ∧ (Reading.ofText text).trailing = false ∧
        decode .text (Reading.ofText text).root = .ok value := by
  simp only [document, Outcome.bind_eq_ok_iff, Outcome.mapError_eq_ok_iff, Shape.ofText]
  constructor
  · intro made
    rcases made with ⟨text, held, found, read, ended⟩
    cases trailing : (Reading.ofText text).trailing with
    | false =>
      simp only [trailing, Bool.false_eq_true, if_false] at ended
      cases ended
      exact ⟨text, held, trailing, read⟩
    | true =>
      simp only [trailing, if_true] at ended
      cases ended
  · intro parts
    rcases parts with ⟨text, held, trailing, read⟩
    refine ⟨text, held, value, read, ?_⟩
    simp only [trailing, Bool.false_eq_true, if_false]
    rfl

theorem document_of_printed {α : Type} {decode : Source → Document → Except DecodeError α} {value : Json}
    {pretty : Bool} {ending : String} (lexed : ∀ number ∈ value.numbers, number.Lexed)
    (line : ending ∈ ["", "\n"]) (held : files name = .ok (value.printed pretty ++ ending)) :
    files.document decode name = (decode .text (value.readWithin 0)).mapError (.invalid name) := by
  rw [document, held]
  change (Shape.ofText .shape decode (value.printed pretty ++ ending)).mapError _ = _
  rw [Shape.ofText, Reading.ofText_printed pretty lexed line]
  cases decode .text (value.readWithin 0) <;> rfl

theorem document_of_shallow {α : Type} {decode : Source → Document → Except DecodeError α} {value : Json}
    {pretty : Bool} {ending : String} (lexed : ∀ number ∈ value.numbers, number.Lexed)
    (line : ending ∈ ["", "\n"]) (held : files name = .ok (value.printed pretty ++ ending))
    (shallow : value.depth ≤ nestingLimit) :
    files.document decode name = (decode .text (Document.ofJson value)).mapError (.invalid name) := by
  rw [document_of_printed lexed line held, Json.readWithin_eq_ofJson (by rwa [Nat.zero_add])]

theorem state_some_eq_ok_iff :
    files.state depth filter (some name) = .ok state ↔
      ∃ given workspace, files.document (fun _ => FilterState.ofDocument) filter = .ok given ∧
        files.document Workspace.read name = .ok workspace ∧ given.resolve workspace depth = .ok state := by
  simp only [Files.state, Outcome.bind_eq_ok_iff, Outcome.mapError_eq_ok_iff]
  constructor
  · intro made
    rcases made with ⟨given, first, workspace, second, resolved⟩
    exact ⟨given, workspace, first, second, resolved⟩
  · intro parts
    rcases parts with ⟨given, workspace, first, second, resolved⟩
    exact ⟨given, first, workspace, second, resolved⟩

theorem exists_compile_of_state (found : files.state depth filter (some name) = .ok state) :
    ∃ query?, state.compile.outcome = .ok query? := by
  rcases state_some_eq_ok_iff.mp found with ⟨given, workspace, -, -, resolved⟩
  exact (FilterState.exists_outcome_compile_iff (FilterState.outcome_compile_eq_error_iff state)).mpr
    (FilterState.refs_resolveWithin resolved)

theorem query_eq_ok_of_state {workspace : Option String} {query? : Option Query}
    (found : files.state depth filter workspace = .ok state) (compiled : state.compile.outcome = .ok query?) :
    files.query depth filter workspace = .ok query? := by
  rw [query, found]
  exact Outcome.mapError_eq_ok_iff.mpr compiled

theorem query_eq_error_iff {error : CommandError} :
    files.query depth filter (some name) = .error error ↔ files.state depth filter (some name) = .error error := by
  rw [query, Outcome.bind_eq_error_iff]
  refine or_iff_left fun failed => ?_
  rcases failed with ⟨state, found, failed⟩
  rcases exists_compile_of_state found with ⟨query?, compiled⟩
  rw [compiled] at failed
  cases failed

end Files

namespace Invocation

variable {files : Files} {command : Command} {logLevel : String} {maxDepth : Option Nat} {pretty : Bool}

theorem run_eq_ok_iff {text : String} :
    run files ⟨command, logLevel, maxDepth, pretty⟩ = .ok text ↔
      ∃ value, command.run files (DepthLimit.standard.merge maxDepth) = .ok value ∧ value.printed pretty = text := by
  simp only [run, Outcome.bind_eq_ok_iff, Outcome.pure_eq_ok_iff, Json.printed]

theorem run_eq_error_iff {error : CommandError} :
    run files ⟨command, logLevel, maxDepth, pretty⟩ = .error error ↔
      command.run files (DepthLimit.standard.merge maxDepth) = .error error := by
  rw [run, Outcome.bind_eq_error_iff]
  exact or_iff_left fun failed => nomatch failed.choose_spec.2

end Invocation

namespace Command

variable {files : Files} {depth : DepthLimit} {filter : String}

theorem compile_eq_ok_iff {workspace : Option String} {value : Json} :
    (Command.compile filter workspace).run files depth = .ok value ↔
      ∃ query?, files.query depth filter workspace = .ok query? ∧ (query?.map Query.toJson).getD .null = value := by
  simp only [run, Outcome.bind_eq_ok_iff, Outcome.pure_eq_ok_iff]

theorem compile_eq_error_iff {workspace : Option String} {error : CommandError} :
    (Command.compile filter workspace).run files depth = .error error ↔
      files.query depth filter workspace = .error error := by
  rw [run, Outcome.bind_eq_error_iff]
  exact or_iff_left fun failed => nomatch failed.choose_spec.2

theorem resolve_eq_ok_iff {workspace : String} {value : Json} :
    (Command.resolve filter workspace).run files depth = .ok value ↔
      ∃ state, files.state depth filter (some workspace) = .ok state ∧ state.toJson = value := by
  simp only [run, Outcome.bind_eq_ok_iff, Outcome.pure_eq_ok_iff]

theorem resolve_eq_error_iff {workspace : String} {error : CommandError} :
    (Command.resolve filter workspace).run files depth = .error error ↔
      files.state depth filter (some workspace) = .error error := by
  rw [run, Outcome.bind_eq_error_iff]
  exact or_iff_left fun failed => nomatch failed.choose_spec.2

theorem queryInfo_eq {tabs : String} {config value workspace : Option String} {read : List FilterTab}
    {chosen : Option AnchorConfig} (listed : files.tabs tabs = .ok read)
    (configured : Files.given files.anchorConfig config = .ok chosen) :
    (Command.queryInfo tabs config value (some filter) workspace).run files depth =
      (files.query depth filter workspace).map fun query? =>
        (QueryInfo.plan read (Anchor.ofChoice? chosen value) query?).toJson := by
  rw [run, listed, configured]
  change (files.query depth filter workspace >>= fun query? => pure _) = _
  cases files.query depth filter workspace <;> rfl

end Command

namespace QueryInfo

theorem lookup_main_toJson (tabs : List FilterTab) (config : Option AnchorConfig) (value : Option String)
    (filter : Option Query) :
    ∃ info filters, (plan tabs (Anchor.ofChoice? config value) filter).toJson = .object info ∧
      info.lookup "gqlFilterByGroup" = some (.object filters) ∧
      filters.lookup "filter_main" = some ((filter.map Query.toJson).getD .null) :=
  ⟨_, _, rfl, rfl, rfl⟩

end QueryInfo

namespace Invocation

/-- On the same files `compile` and `resolve` stop with the same error or not at all, and so do `query-info` and
    `compile` once the tabs and the config are read. What `query-info` then has for the main group is what `compile`
    gives. -/
theorem commands_agree (files : Files) (filter : String) (maxDepth : Option Nat) (level level' level'' : String)
    (pretty pretty' pretty'' : Bool) :
    (∀ workspace error,
      run files ⟨.compile filter (some workspace), level, maxDepth, pretty⟩ = .error error ↔
        run files ⟨.resolve filter workspace, level', maxDepth, pretty'⟩ = .error error) ∧
    (∀ workspace state, files.state (DepthLimit.standard.merge maxDepth) filter (some workspace) = .ok state →
      ∃ query?, state.compile.outcome = .ok query?) ∧
    ∀ (tabs : String) (config value workspace : Option String) (read : List FilterTab) (chosen : Option AnchorConfig),
      files.tabs tabs = .ok read → Files.given files.anchorConfig config = .ok chosen →
      (∀ error, run files ⟨.queryInfo tabs config value (some filter) workspace, level'', maxDepth, pretty''⟩ =
          .error error ↔
        run files ⟨.compile filter workspace, level, maxDepth, pretty⟩ = .error error) ∧
      ∀ text, run files ⟨.queryInfo tabs config value (some filter) workspace, level'', maxDepth, pretty''⟩ =
          .ok text →
        ∃ query info filters, run files ⟨.compile filter workspace, level, maxDepth, pretty⟩ =
            .ok (query.printed pretty) ∧
          text = (Json.object info).printed pretty'' ∧ info.lookup "gqlFilterByGroup" = some (.object filters) ∧
          filters.lookup "filter_main" = some query := by
  refine ⟨fun workspace error => ?_, fun workspace state => Files.exists_compile_of_state, ?_⟩
  · rw [run_eq_error_iff, run_eq_error_iff, Command.compile_eq_error_iff, Command.resolve_eq_error_iff,
      Files.query_eq_error_iff]
  · intro tabs config value workspace read chosen listed configured
    refine ⟨fun error => ?_, fun text ran => ?_⟩
    · rw [run_eq_error_iff, run_eq_error_iff, Command.compile_eq_error_iff, Command.queryInfo_eq listed configured,
        Outcome.map_eq_error_iff]
    · rcases run_eq_ok_iff.mp ran with ⟨value, made, rfl⟩
      rw [Command.queryInfo_eq listed configured] at made
      rcases Outcome.map_eq_ok_iff.mp made with ⟨query?, found, rfl⟩
      rcases QueryInfo.lookup_main_toJson read chosen _ query? with ⟨info, filters, same, groups, main⟩
      refine ⟨_, info, filters, run_eq_ok_iff.mpr ⟨_, Command.compile_eq_ok_iff.mpr ⟨query?, found, rfl⟩, rfl⟩, ?_,
        groups, main⟩
      rw [same]

def labs : FilterTab := ⟨"Labs", ["visit.day", "age"]⟩

def labsAnchor : AnchorConfig := ⟨"patient", ["p1"], ["Labs"]⟩

def mondays : FilterState := .standard none [("visit.day", .option ⟨some ["mon"], .containsAny, none⟩)]

def visitFiles : Files :=
  Files.ofList [("tabs.json", .ok ((Json.array [labs.toJson]).printed false ++ "")),
    ("anchor.json", .ok (labsAnchor.toJson.printed false ++ "")),
    ("filter.json", .ok (mondays.toJson.printed true ++ "\n"))]

theorem document_visitFiles {α : Type} (decode : Source → Document → Except DecodeError α) {name ending : String}
    {value : Json} {pretty : Bool} (held : visitFiles name = .ok (value.printed pretty ++ ending))
    (line : ending ∈ ["", "\n"]) (none : value.numbers = []) (shallow : value.depth ≤ nestingLimit) :
    visitFiles.document decode name = (decode .text (Document.ofJson value)).mapError (.invalid name) := by
  refine Files.document_of_shallow ?_ line held shallow
  rw [none]
  exact List.forall_mem_nil _

theorem commands_agree_visits :
    Files.given visitFiles.anchorConfig (some "anchor.json") = .ok (some labsAnchor) ∧
      visitFiles.tabs "tabs.json" = .ok [labs] ∧
      run visitFiles ⟨.resolve "filter.json" "workspace.json", "warn", none, false⟩ =
        .error (.unreadable "workspace.json" .absent) ∧
      run visitFiles ⟨.queryInfo "tabs.json" (some "anchor.json") (some "p1") (some "filter.json")
        (some "workspace.json"), "warn", none, false⟩ = .error (.unreadable "workspace.json" .absent) ∧
      ∃ query info filters,
        run visitFiles ⟨.compile "filter.json" none, "warn", none, true⟩ = .ok (query.printed true) ∧
        run visitFiles ⟨.queryInfo "tabs.json" (some "anchor.json") (some "p1") (some "filter.json") none,
          "warn", none, false⟩ = .ok ((Json.object info).printed false) ∧
        info.lookup "gqlFilterByGroup" = some (.object filters) ∧ filters.lookup "filter_main" = some query := by
  have held : visitFiles "filter.json" = .ok (mondays.toJson.printed true ++ "\n") := rfl
  have read : visitFiles.document (fun _ => FilterState.ofDocument) "filter.json" = .ok mondays :=
    document_visitFiles _ held (by decide) rfl (by decide)
  have held' : visitFiles "tabs.json" = .ok ((Json.array [labs.toJson]).printed false ++ "") := rfl
  have listed : visitFiles.tabs "tabs.json" = .ok [labs] := by
    rw [Files.tabs, document_visitFiles _ held' (by decide) rfl (by decide)]
    rfl
  have held'' : visitFiles "anchor.json" = .ok (labsAnchor.toJson.printed false ++ "") := rfl
  have configured : Files.given visitFiles.anchorConfig (some "anchor.json") = .ok (some labsAnchor) := by
    rw [Files.given, Files.anchorConfig, document_visitFiles _ held'' (by decide) rfl (by decide)]
    rfl
  have absent : visitFiles.state .standard "filter.json" (some "workspace.json") =
      .error (.unreadable "workspace.json" .absent) := by
    rw [Files.state, read]
    rfl
  have alone : visitFiles.state .standard "filter.json" none = .ok mondays := by
    rw [Files.state, read]
    rfl
  rcases (FilterState.exists_outcome_compile_iff (FilterState.outcome_compile_eq_error_iff mondays)).mpr rfl with
    ⟨query?, compiled⟩
  have queried := Files.query_eq_ok_of_state alone compiled
  rcases commands_agree visitFiles "filter.json" none "warn" "warn" "warn" true false false with ⟨fails, -, plans⟩
  have stopped : run visitFiles ⟨.resolve "filter.json" "workspace.json", "warn", none, false⟩ =
      .error (.unreadable "workspace.json" .absent) :=
    run_eq_error_iff.mpr (Command.resolve_eq_error_iff.mpr absent)
  have without := (plans "tabs.json" (some "anchor.json") (some "p1") (some "workspace.json") _ _ listed configured).1
  have made : (Command.queryInfo "tabs.json" (some "anchor.json") (some "p1") (some "filter.json") none).run
      visitFiles .standard = .ok (QueryInfo.plan [labs] (Anchor.ofChoice? labsAnchor "p1") query?).toJson := by
    rw [Command.queryInfo_eq listed configured, queried]
    rfl
  have ran : run visitFiles ⟨.queryInfo "tabs.json" (some "anchor.json") (some "p1") (some "filter.json") none,
      "warn", none, false⟩ = .ok _ := run_eq_ok_iff.mpr ⟨_, made, rfl⟩
  rcases (plans "tabs.json" (some "anchor.json") (some "p1") none _ _ listed configured).2 _ ran with
    ⟨query, info, filters, alike, same, groups, main⟩
  exact ⟨configured, listed, stopped, (without _).mpr ((fails _ _).mpr stopped), query, info, filters, alike,
    same ▸ ran, groups, main⟩

end Invocation

end CohortFilter
