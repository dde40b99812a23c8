import CohortFilter.Proofs.Documents

namespace CohortFilter

namespace FilterError

def kind : FilterError → String
  | .invalidValue .. => "InvalidFilterValue"
  | .invalidState .. => "InvalidFilterState"
  | .unknownFilterSet .. => "UnknownFilterSet"
  | .cyclicReference .. => "CyclicReference"
  | .depthExceeded .. => "MaxDepthExceeded"
  | .unresolvedReference .. => "UnresolvedReference"
  | .invalidShape .. => "Serde"

def SameKind (error fault : FilterError) : Prop := error.kind = fault.kind

end FilterError

inductive Json.Like : Json → Json → Prop
  | same (value : Json) : Like value value
  | array {items others : List Json} : List.Forall₂ Like items others → Like (.array items) (.array others)
  | object (members others : List (String × Json)) : Like (.object members) (.object others)

namespace Json

variable {value other : Json} {items others : List Json}

theorem Like.text?_eq (alike : Like value other) : value.text? = other.text? := by
  cases alike <;> rfl

theorem Like.exists_of_array {items : List Json} (alike : Like (.array items) other) :
    ∃ items', other = .array items' := by
  cases alike <;> exact ⟨_, rfl⟩

theorem Like.exists_of_object {members : List (String × Json)} (alike : Like (.object members) other) :
    ∃ members', other = .object members' := by
  cases alike <;> exact ⟨_, rfl⟩

theorem mapM_text?_eq (each : List.Forall₂ Like items others) : items.mapM text? = others.mapM text? := by
  induction each with
  | nil => rfl
  | cons head _ ih => rw [List.mapM_cons, List.mapM_cons, head.text?_eq, ih]

theorem Like.agree_text (alike : Like value other) :
    Outcome.Agree (fun _ _ => True) Eq (Shape.text (Document.ofJson value)) (Shape.text (Document.ofJson other)) := by
  cases alike with
  | same => exact .of_eq _ (fun _ => True.intro) rfl
  | array => exact .failed True.intro
  | object => exact .failed True.intro

end Json

namespace Document

theorem ofItems_eq (items : List Json) : ofItems items = items.map ofJson := by
  induction items with
  | nil => rfl
  | cons item rest ih => rw [ofItems, ih, List.map_cons]

end Document

theorem Json.Like.agree_texts {value other : Json} (alike : Like value other) :
    Outcome.Agree (fun _ _ => True) Eq (Shape.texts (Document.ofJson value)) (Shape.texts (Document.ofJson other)) := by
  cases alike with
  | same => exact .of_eq _ (fun _ => True.intro) rfl
  | object => exact .failed True.intro
  | array each =>
    have read := Outcome.Agree.mapM (each.imp fun _ _ alike => alike.agree_text)
    simp only [Document.ofJson, Document.ofItems_eq, Shape.texts, Shape.list, List.mapM_map]
    apply read.bind
    intro values results same
    rw [List.forall₂_eq_eq_eq] at same
    exact .made same

theorem Json.cases_of_rel {first second : Option Json} (alike : Option.Rel Json.Like first second) :
    (first = none ∧ second = none) ∨ ∃ value other, first = some value ∧ second = some other ∧ value.Like other := by
  cases alike with
  | none => exact .inl ⟨rfl, rfl⟩
  | some like => exact .inr ⟨_, _, rfl, rfl, like⟩

namespace Marker

/-- A reader finds like values under the same names, with the markers under either of their names. -/
structure LooksAlike (members others : List (String × Json)) : Prop where
  tag : Option.Rel Json.Like (find? tagKeys members) (find? tagKeys others)
  mode : Option.Rel Json.Like (find? modeKeys members) (find? modeKeys others)
  rest : ∀ name, isMarker name = false → Option.Rel Json.Like (members.lookup name) (others.lookup name)

variable {members others : List (String × Json)}

theorem find?_rel {names : List String} (each : ∀ name, Option.Rel Json.Like (members.lookup name) (others.lookup name)) :
    Option.Rel Json.Like (find? names members) (find? names others) := by
  unfold find?
  induction names with
  | nil => exact .none
  | cons name rest ih =>
    rw [List.findSome?_cons, List.findSome?_cons]
    rcases Json.cases_of_rel (each name) with ⟨here, there⟩ | ⟨_, _, here, there, like⟩
    · rw [here, there]
      exact ih
    · rw [here, there]
      exact .some like

theorem LooksAlike.of_lookup (each : ∀ name, Option.Rel Json.Like (members.lookup name) (others.lookup name)) :
    LooksAlike members others :=
  ⟨find?_rel each, find?_rel each, fun name _ => each name⟩

theorem any_isModeKey_eq (members : List (String × Json)) :
    (members.any fun entry => isModeKey entry.1) = (find? modeKeys members).isSome := by
  rw [Bool.eq_iff_iff, List.any_eq_true, find?, List.findSome?_isSome_iff]
  constructor
  · intro found
    obtain ⟨⟨key, value⟩, member, marked⟩ := found
    refine ⟨key, List.contains_iff_mem.mp marked, ?_⟩
    rw [Option.isSome_iff_ne_none]
    intro absent
    exact Entries.lookup_eq_none_iff.mp absent (List.mem_map_of_mem member)
  · intro found
    obtain ⟨name, marked, shown⟩ := found
    obtain ⟨value, held⟩ := Option.isSome_iff_exists.mp shown
    exact ⟨(name, value), Entries.mem_of_lookup held, List.contains_iff_mem.mpr marked⟩

theorem find?_unmarked_eq_none_iff :
    members.find? (!isMarker ·.1) = none ↔ ∀ name, isMarker name = false → members.lookup name = none := by
  rw [List.find?_eq_none]
  constructor
  · intro marked name unmarked
    apply Entries.lookup_eq_none_iff.mpr
    intro held
    rcases List.mem_map.mp held with ⟨entry, member, rfl⟩
    have here := marked entry member
    simp [unmarked] at here
  · intro absent entry member
    by_contra unmarked
    have free : isMarker entry.1 = false := by simpa using unmarked
    exact Entries.lookup_eq_none_iff.mp (absent entry.1 free) (List.mem_map_of_mem member)

namespace LooksAlike

theorem isSome_eq (alike : LooksAlike members others) {name : String} (unmarked : isMarker name = false) :
    (members.lookup name).isSome = (others.lookup name).isSome := by
  rcases Json.cases_of_rel (alike.rest name unmarked) with ⟨here, there⟩ | ⟨_, _, here, there, -⟩ <;> rw [here, there]
  rfl

theorem tag?_eq (alike : LooksAlike members others) : tag? members = tag? others := by
  unfold tag?
  rcases Json.cases_of_rel alike.tag with ⟨here, there⟩ | ⟨value, other, here, there, like⟩
  · rw [here, there]
  · rw [here, there]
    exact like.text?_eq

theorem agree_mode (alike : LooksAlike members others) (owner : String) :
    Outcome.Agree FilterError.SameKind Eq (Marker.mode owner members) (Marker.mode owner others) := by
  unfold Marker.mode
  rcases Json.cases_of_rel alike.mode with ⟨here, there⟩ | ⟨value, other, here, there, like⟩
  · rw [here, there]
    exact .made rfl
  · rw [here, there]
    cases like with
    | same => exact .of_eq _ (fun _ => rfl) rfl
    | array => exact .failed rfl
    | object => exact .failed rfl

theorem any_eq (alike : LooksAlike members others) :
    (members.any fun entry => isModeKey entry.1) = others.any fun entry => isModeKey entry.1 := by
  rw [any_isModeKey_eq, any_isModeKey_eq]
  rcases Json.cases_of_rel alike.mode with ⟨here, there⟩ | ⟨_, _, here, there, -⟩ <;> rw [here, there]
  rfl

theorem unmarked_iff (alike : LooksAlike members others) :
    members.find? (!isMarker ·.1) = none ↔ others.find? (!isMarker ·.1) = none := by
  rw [find?_unmarked_eq_none_iff, find?_unmarked_eq_none_iff]
  apply forall_congr'
  intro name
  apply imp_congr_right
  intro unmarked
  rcases Json.cases_of_rel (alike.rest name unmarked) with ⟨here, there⟩ | ⟨_, _, here, there, -⟩ <;>
    simp [here, there]

end LooksAlike

end Marker

namespace Marker

theorem error_of_modeOf {owner : String} {value : Json} {error : FilterError}
    (failed : modeOf owner value = .error error) :
    error = .invalidValue owner value ∧ value ≠ .text "AND" ∧ value ≠ .text "OR" := by
  unfold modeOf at failed
  split at failed
  · cases failed
  · next unnamed =>
    cases failed
    refine ⟨rfl, ?_, ?_⟩ <;> rintro rfl <;> exact absurd unnamed (by decide)

theorem exists_of_mode_error {owner : String} {members : List (String × Json)} {error : FilterError}
    (failed : mode owner members = .error error) :
    ∃ name value, isModeKey name = true ∧ members.lookup name = some value ∧ modeOf owner value = .error error := by
  unfold mode at failed
  split at failed
  · cases failed
  · cases failed
  · next value _ found =>
    obtain ⟨name, marked, held⟩ := List.exists_of_findSome?_eq_some found
    exact ⟨name, value, List.contains_iff_mem.mpr marked, held, Outcome.map_eq_error_iff.mp failed⟩

theorem kind_of_modeOf_error {owner : String} {value : Json} {error : FilterError}
    (failed : modeOf owner value = .error error) : error.kind = "InvalidFilterValue" := by
  rw [(error_of_modeOf failed).1]
  rfl

theorem kind_of_mode_error {owner : String} {members : List (String × Json)} {error : FilterError}
    (failed : mode owner members = .error error) : error.kind = "InvalidFilterValue" := by
  rcases exists_of_mode_error failed with ⟨_, _, -, -, unnamed⟩
  exact kind_of_modeOf_error unnamed

end Marker

section Readers

open Marker

variable {members others : List (String × Json)}

theorem FieldKind.ofMembers?_eq (alike : LooksAlike members others) : ofMembers? members = ofMembers? others := by
  have has (name : String) (unmarked : isMarker name = false) := alike.isSome_eq unmarked
  have shape : ofShape? members = ofShape? others := by
    simp only [ofShape?, alike.any_eq, has "selectedValues" (by decide), has "lowerBound" (by decide),
      has "upperBound" (by decide), has "filterMode" (by decide), has "isExclusion" (by decide)]
    rcases Json.cases_of_rel (alike.rest "value" (by decide)) with ⟨here, there⟩ | ⟨_, _, here, there, like⟩
    · rw [here, there]
    · rw [here, there]
      cases like <;> rfl
  rw [ofMembers?, ofMembers?, alike.tag?_eq, shape]

namespace OptionFilter

theorem selection?_eq {first second : Option Json} (alike : Option.Rel Json.Like first second) :
    selection? first = selection? second := by
  rcases Json.cases_of_rel alike with ⟨rfl, rfl⟩ | ⟨_, _, rfl, rfl, like⟩
  · rfl
  · cases like with
    | same => rfl
    | object => rfl
    | array each => exact congrArg (Option.map some) (Json.mapM_text?_eq each)

theorem filterMode?_of_excluded (bare : members.lookup "filterMode" = none ∨ members.lookup "filterMode" = some .null)
    (excluded : members.lookup "isExclusion" = some (.bool true)) : filterMode? members = some .excludesAny := by
  unfold filterMode?
  rcases bare with bare | bare <;> rw [bare, excluded]

theorem filterMode?_of_not_excluded
    (bare : members.lookup "filterMode" = none ∨ members.lookup "filterMode" = some .null)
    (included : members.lookup "isExclusion" ≠ some (.bool true)) : filterMode? members = some .containsAny := by
  unfold filterMode?
  rcases bare with bare | bare <;> simp only [bare]

theorem filterMode?_eq (alike : LooksAlike members others) : filterMode? members = filterMode? others := by
  have excluded : members.lookup "isExclusion" = some (.bool true) ↔ others.lookup "isExclusion" = some (.bool true) := by
    rcases Json.cases_of_rel (alike.rest "isExclusion" (by decide)) with ⟨here, there⟩ | ⟨_, _, here, there, like⟩
    · rw [here, there]
    · rw [here, there]
      cases like <;> simp
  have absent (here : members.lookup "filterMode" = none ∨ members.lookup "filterMode" = some .null)
      (there : others.lookup "filterMode" = none ∨ others.lookup "filterMode" = some .null) :
      filterMode? members = filterMode? others := by
    by_cases shown : members.lookup "isExclusion" = some (.bool true)
    · rw [filterMode?_of_excluded here shown, filterMode?_of_excluded there (excluded.mp shown)]
    · rw [filterMode?_of_not_excluded here shown,
        filterMode?_of_not_excluded there fun shown' => shown (excluded.mpr shown')]
  rcases Json.cases_of_rel (alike.rest "filterMode" (by decide)) with ⟨here, there⟩ | ⟨value, _, here, there, like⟩
  · exact absent (.inl here) (.inl there)
  · cases value with
    | null =>
      cases like
      exact absent (.inr here) (.inr there)
    | bool | number | text | array | object =>
      unfold filterMode?
      rw [here, there]
      cases like <;> rfl

theorem cases_of_error {key : String} {error : FilterError} (failed : ofMembers key members = .error error) :
    error = .invalidValue key (.object members) ∨ Marker.mode key members = .error error := by
  unfold ofMembers at failed
  extract_lets invalid completed at failed
  have refused {α β : Type} {next : α → Except FilterError β}
      (thrown : (throw invalid : Except FilterError α) >>= next = .error error) : error = invalid :=
    (Except.error.inj thrown).symm
  have later (values : Option (List String)) (failed : completed values = .error error) :
      error = invalid ∨ Marker.mode key members = .error error := by
    rcases Outcome.bind_eq_error_iff.mp failed with unnamed | ⟨mode, -, failed⟩
    · exact .inr unnamed
    · left
      dsimp only at failed
      split at failed
      · exact refused failed
      · split at failed
        · split at failed <;> cases failed
        · split at failed <;> cases failed
        · split at failed
          · cases failed
          · exact refused failed
  split at failed
  · exact later none failed
  · exact later none failed
  · split at failed
    · exact later _ failed
    · exact .inl (refused failed)
  · exact .inl (refused failed)

theorem kind_of_error {key : String} {error : FilterError} (failed : ofMembers key members = .error error) :
    error.kind = "InvalidFilterValue" := by
  rcases cases_of_error failed with rfl | unnamed
  · rfl
  · exact Marker.kind_of_mode_error unnamed

theorem agree_ofMembers (alike : LooksAlike members others) (key : String) :
    Outcome.Agree FilterError.SameKind Eq (ofMembers key members) (ofMembers key others) := by
  have selected := selection?_eq (alike.rest "selectedValues" (by decide))
  have filterMode := filterMode?_eq alike
  apply Outcome.Agree.of_ok_iff
  · intro filter
    rw [ofMembers_eq_ok_iff, ofMembers_eq_ok_iff, selected, filterMode, (alike.agree_mode key).ok_iff]
  · intro error fault failed failed'
    exact (kind_of_error failed).trans (kind_of_error failed').symm

end OptionFilter

namespace RangeFilter

theorem ofMembers_eq_ok_iff {key : String} {filter : RangeFilter} :
    ofMembers key members = .ok filter ↔ members.lookup "lowerBound" = some (.number filter.lowerBound) ∧
      members.lookup "upperBound" = some (.number filter.upperBound) := by
  obtain ⟨lower, upper⟩ := filter
  unfold ofMembers
  split
  · next found found' => simp [found, found']
  · next missing =>
    constructor
    · intro read
      cases read
    · intro found
      exact absurd found.2 (missing _ _ found.1)

theorem eq_of_error {key : String} {error : FilterError} (failed : ofMembers key members = .error error) :
    error = .invalidValue key (.object members) := by
  unfold ofMembers at failed
  split at failed
  · cases failed
  · exact (Except.error.inj failed).symm

theorem kind_of_error {key : String} {error : FilterError} (failed : ofMembers key members = .error error) :
    error.kind = "InvalidFilterValue" := by
  rw [eq_of_error failed]
  rfl

theorem agree_ofMembers (alike : LooksAlike members others) (key : String) :
    Outcome.Agree FilterError.SameKind Eq (ofMembers key members) (ofMembers key others) := by
  have bound {name : String} (unmarked : isMarker name = false) (number : Number) :
      members.lookup name = some (.number number) ↔ others.lookup name = some (.number number) := by
    rcases Json.cases_of_rel (alike.rest name unmarked) with ⟨here, there⟩ | ⟨_, _, here, there, like⟩
    · simp [here, there]
    · rw [here, there]
      cases like <;> simp
  apply Outcome.Agree.of_ok_iff
  · intro filter
    rw [ofMembers_eq_ok_iff, ofMembers_eq_ok_iff, bound (by decide), bound (by decide)]
  · intro error fault failed failed'
    exact (kind_of_error failed).trans (kind_of_error failed').symm

end RangeFilter

end Readers

end CohortFilter
