import Mathlib.Data.List.Forall2
import CohortFilter.Query.Printer
import CohortFilter.Proofs.RoundTrip

namespace CohortFilter

theorem CombineMode.ofName?_eq_some_iff {name : String} {mode : CombineMode} :
    ofName? name = some mode ↔ name = mode.name := by
  constructor
  · intro found
    rw [ofName?] at found
    have named := List.find?_some found
    exact (beq_iff_eq.mp named).symm
  · rintro rfl
    exact ofName?_name mode

theorem FilterMode.ofName?_eq_some_iff {name : String} {mode : FilterMode} :
    ofName? name = some mode ↔ name = mode.name := by
  constructor
  · intro found
    rw [ofName?] at found
    have named := List.find?_some found
    exact (beq_iff_eq.mp named).symm
  · rintro rfl
    exact ofName?_name mode

theorem Json.mapM_text?_eq_some_iff {items : List Json} {values : List String} :
    items.mapM Json.text? = some values ↔ items = values.map .text := by
  constructor
  · intro read
    induction items generalizing values with
    | nil =>
      cases read
      rfl
    | cons item rest ih =>
      rw [List.mapM_cons] at read
      rcases Option.bind_eq_some_iff.mp read with ⟨value, first, read⟩
      rcases Option.bind_eq_some_iff.mp read with ⟨later, found, same⟩
      cases same
      cases item with
      | text held =>
        cases first
        rw [List.map_cons, ih found]
      | _ => cases first
  · rintro rfl
    exact mapM_text?_texts values

namespace Query

/-- The value is one of the ways in which the query is sent: an object whose only member is named by what it asks.
    In a nested clause the path may stand before or behind the clauses. -/
inductive Spelled : Json → Query → Prop
  | group (mode : CombineMode) {items : List Json} {clauses : List Query} :
    List.Forall₂ Spelled items clauses → Spelled (.object [(mode.name, .array items)]) (.group mode clauses)
  | matching (mode : FilterMode) (field : String) (values : List String) :
    Spelled (.object [(mode.name, .object [(field, .texts values)])]) (.matching mode field values)
  | atLeast (field : String) (bound : Number) :
    Spelled (.object [("GTE", .object [(field, .number bound)])]) (.atLeast field bound)
  | atMost (field : String) (bound : Number) :
    Spelled (.object [("LTE", .object [(field, .number bound)])]) (.atMost field bound)
  | nested (path : String) (mode : CombineMode) {items : List Json} {clauses : List Query} :
    List.Forall₂ Spelled items clauses →
    Spelled (.object [("nested", .object [("path", .text path), (mode.name, .array items)])])
      (.nested path mode clauses)
  | nestedBehind (path : String) (mode : CombineMode) {items : List Json} {clauses : List Query} :
    List.Forall₂ Spelled items clauses →
    Spelled (.object [("nested", .object [(mode.name, .array items), ("path", .text path)])])
      (.nested path mode clauses)

theorem ofJson?_group (tag : String) (items : List Json) :
    ofJson? (.object [(tag, .array items)]) =
      (CombineMode.ofName? tag).bind fun mode => (ofItems? items).bind fun clauses => some (.group mode clauses) := by
  rw [ofJson?]
  rfl

theorem ofJson?_nested (path name : String) (items : List Json) :
    ofJson? (.object [("nested", .object [("path", .text path), (name, .array items)])]) =
      (CombineMode.ofName? name).bind fun mode =>
        (ofItems? items).bind fun clauses => some (.nested path mode clauses) := by
  rw [ofJson?]
  rfl

theorem ofJson?_nestedBehind (path name : String) (items : List Json) :
    ofJson? (.object [("nested", .object [(name, .array items), ("path", .text path)])]) =
      (CombineMode.ofName? name).bind fun mode =>
        (ofItems? items).bind fun clauses => some (.nested path mode clauses) := by
  rw [ofJson?]
  rfl

theorem ofJson?_matching (tag field : String) (items : List Json) :
    ofJson? (.object [(tag, .object [(field, .array items)])]) =
      (FilterMode.ofName? tag).bind fun mode =>
        (items.mapM Json.text?).bind fun values => some (.matching mode field values) := by
  rw [ofJson?]
  rfl

theorem ofItems?_cons (item : Json) (rest : List Json) :
    ofItems? (item :: rest) =
      (ofJson? item).bind fun clause => (ofItems? rest).bind fun later => some (clause :: later) := by
  rw [ofItems?]
  rfl

theorem ofJson?_of_spelled {value : Json} {query : Query} (spelled : Spelled value query) :
    ofJson? value = some query := by
  refine @Spelled.rec (fun value query _ => ofJson? value = some query)
    (fun items clauses _ => ofItems? items = some clauses) ?group ?matching ?atLeast ?atMost ?nested ?nestedBehind
    rfl ?cons value query spelled
  case group =>
    intro mode items clauses _ read
    rw [ofJson?_group, CombineMode.ofName?_name, read]
    rfl
  case matching =>
    intro mode field values
    rw [Json.texts, ofJson?_matching, FilterMode.ofName?_name, Json.mapM_text?_texts]
    rfl
  case atLeast =>
    intro field bound
    rw [ofJson?]
  case atMost =>
    intro field bound
    rw [ofJson?]
  case nested =>
    intro path mode items clauses _ read
    rw [ofJson?_nested, CombineMode.ofName?_name, read]
    rfl
  case nestedBehind =>
    intro path mode items clauses _ read
    rw [ofJson?_nestedBehind, CombineMode.ofName?_name, read]
    rfl
  case cons =>
    intro item clause rest later _ _ first others
    rw [ofItems?_cons, first, others]
    rfl

theorem spelled_of_ofJson? {value : Json} {query : Query} (read : ofJson? value = some query) :
    Spelled value query := by
  revert query
  refine ofJson?.induct (fun value => ∀ {query}, ofJson? value = some query → Spelled value query)
    (fun items => ∀ {clauses}, ofItems? items = some clauses → List.Forall₂ Spelled items clauses)
    ?group ?nested ?nestedBehind ?atLeast ?atMost ?matching ?other ?nil ?cons value
  case group =>
    intro tag items ih query read
    simp only [ofJson?_group, Option.bind_eq_some_iff, CombineMode.ofName?_eq_some_iff] at read
    rcases read with ⟨mode, rfl, clauses, read, same⟩
    cases same
    exact .group mode (ih read)
  case nested =>
    intro path name items ih query read
    simp only [ofJson?_nested, Option.bind_eq_some_iff, CombineMode.ofName?_eq_some_iff] at read
    rcases read with ⟨mode, rfl, clauses, read, same⟩
    cases same
    exact .nested path mode (ih read)
  case nestedBehind =>
    intro name items path ih query read
    simp only [ofJson?_nestedBehind, Option.bind_eq_some_iff, CombineMode.ofName?_eq_some_iff] at read
    rcases read with ⟨mode, rfl, clauses, read, same⟩
    cases same
    exact .nestedBehind path mode (ih read)
  case atLeast =>
    intro field bound query read
    rw [ofJson?] at read
    cases read
    exact .atLeast field bound
  case atMost =>
    intro field bound query read
    rw [ofJson?] at read
    cases read
    exact .atMost field bound
  case matching =>
    intro tag field items query read
    simp only [ofJson?_matching, Option.bind_eq_some_iff, FilterMode.ofName?_eq_some_iff,
      Json.mapM_text?_eq_some_iff] at read
    rcases read with ⟨mode, rfl, values, rfl, same⟩
    cases same
    exact .matching mode field values
  -- What has none of the shapes is read as nothing, so here the reader has to be opened.
  case other =>
    intro value group nested nestedBehind atLeast atMost matching query read
    rw [ofJson?.eq_def] at read
    split at read
    · exact (group _ _ rfl).elim
    · exact (nested _ _ _ rfl).elim
    · exact (nestedBehind _ _ _ rfl).elim
    · exact (atLeast _ _ rfl).elim
    · exact (atMost _ _ rfl).elim
    · exact (matching _ _ _ rfl).elim
    · cases read
  case nil =>
    intro clauses read
    cases read
    exact .nil
  case cons =>
    intro item rest first later clauses read
    simp only [ofItems?_cons, Option.bind_eq_some_iff] at read
    rcases read with ⟨clause, made, others, read, same⟩
    cases same
    exact .cons (first made) (later read)

@[elab_as_elim]
theorem induction {motive : Query → Prop}
    (group : ∀ mode clauses, (∀ clause ∈ clauses, motive clause) → motive (.group mode clauses))
    (matching : ∀ mode field values, motive (.matching mode field values))
    (atLeast : ∀ field bound, motive (.atLeast field bound)) (atMost : ∀ field bound, motive (.atMost field bound))
    (nested : ∀ path mode clauses, (∀ clause ∈ clauses, motive clause) → motive (.nested path mode clauses))
    (query : Query) : motive query := by
  refine @Query.rec motive (fun clauses => ∀ clause ∈ clauses, motive clause)
    group matching atLeast atMost nested ?_ ?_ query
  · exact fun _ member => nomatch member
  · exact fun clause rest head later => List.forall_mem_cons.mpr ⟨head, later⟩

theorem toItems_eq (clauses : List Query) : toItems clauses = clauses.map toJson := by
  induction clauses with
  | nil => rfl
  | cons clause rest ih => rw [toItems, ih, List.map_cons]

theorem clauseChars_eq (clauses : List Query) : clauseChars clauses = clauses.map chars := by
  induction clauses with
  | nil => rfl
  | cons clause rest ih => rw [clauseChars, ih, List.map_cons]

theorem spelled_toJson (query : Query) : Spelled query.toJson query := by
  induction query using induction with
  | group mode clauses ih =>
    rw [toJson, toItems_eq]
    exact .group mode (List.forall₂_map_left_iff.mpr (List.forall₂_same.mpr ih))
  | matching mode field values => exact .matching mode field values
  | atLeast field bound => exact .atLeast field bound
  | atMost field bound => exact .atMost field bound
  | nested path mode clauses ih =>
    rw [toJson, toItems_eq]
    exact .nested path mode (List.forall₂_map_left_iff.mpr (List.forall₂_same.mpr ih))

theorem ofJson?_toJson (query : Query) : ofJson? query.toJson = some query := ofJson?_of_spelled (spelled_toJson query)

theorem chars_object_singleton (name : String) (value : Json) :
    (Json.object [(name, value)]).chars = entryChars name value.chars := by
  simp [Json.chars, Json.membersChars, entryChars]

theorem chars_array (items : List Json) : (Json.array items).chars = listChars (items.map Json.chars) := by
  have behind (items : List Json) : Json.itemsChars items = (items.map Json.chars).flatMap (',' :: ·) ++ [']'] := by
    induction items with
    | nil => rfl
    | cons item rest ih => simp [Json.itemsChars, ih]
  cases items with
  | nil => rfl
  | cons item rest => rw [Json.chars, behind, List.map_cons, listChars]

theorem chars_texts (values : List String) : (Json.texts values).chars = listChars (values.map Json.quoted) := by
  rw [Json.texts, chars_array, List.map_map]
  exact congrArg listChars (List.map_congr_left fun value _ => by rw [Function.comp_apply, Json.chars])

theorem chars_eq (query : Query) : query.chars = query.toJson.chars := by
  have list (clauses : List Query) (each : ∀ clause ∈ clauses, clause.chars = clause.toJson.chars) :
      listChars (clauseChars clauses) = (Json.array (toItems clauses)).chars := by
    rw [clauseChars_eq, toItems_eq, chars_array, List.map_map, List.map_congr_left each]
    rfl
  induction query using induction with
  | group mode clauses ih => rw [chars, toJson, chars_object_singleton, list clauses ih]
  | matching mode field values => rw [chars, toJson, chars_object_singleton, chars_object_singleton, chars_texts]
  | atLeast field bound | atMost field bound =>
    rw [chars, toJson, chars_object_singleton, chars_object_singleton, Json.chars]
  | nested path mode clauses ih =>
    rw [chars, toJson, chars_object_singleton, list clauses ih, Json.chars, Json.membersChars, Json.membersChars,
      Json.chars]

/-- What a query is sent as is read back as that query and is the document of no other one, whatever its fields and
    paths are called. Its text is the same on both ways to it. -/
theorem toJson_unambiguous (query : Query) :
    (∀ value other, ofJson? value = some other ↔ Spelled value other) ∧
      ofJson? query.toJson = some query ∧
      (∀ other : Query, other.toJson = query.toJson ↔ other = query) ∧
      query.text = query.toJson.compact := by
  refine ⟨fun value other => ⟨spelled_of_ofJson?, ofJson?_of_spelled⟩, ofJson?_toJson query, fun other => ?_, ?_⟩
  · constructor
    · intro same
      have read := ofJson?_toJson other
      rw [same, ofJson?_toJson query] at read
      exact (Option.some.inj read).symm
    · exact fun same => congrArg toJson same
  · rw [text, chars_eq, Json.compact]

end Query

end CohortFilter
