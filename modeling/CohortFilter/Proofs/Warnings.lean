import Mathlib.Algebra.Order.BigOperators.Group.List
import CohortFilter.Proofs.Decoding
import CohortFilter.Proofs.Leaves
import CohortFilter.Proofs.Meaning
import CohortFilter.Proofs.Unresolved

namespace CohortFilter

namespace Warned

variable {ε α β : Type}

theorem warnings_bind {first : Warned ε α} {next : α → Warned ε β} {value : α}
    (found : first.outcome = .ok value) :
    (first >>= next).warnings = first.warnings ++ (next value).warnings := by
  change (bind first next).warnings = _
  simp only [bind, found]

theorem warnings_bind_pure (first : Warned ε α) (f : α → β) :
    (first >>= fun value => pure (f value)).warnings = first.warnings := by
  change (bind first fun value => pure (f value)).warnings = _
  cases found : first.outcome with
  | error => simp only [bind, found]
  | ok value => simp only [bind, found]; exact List.append_nil _

end Warned

namespace AnchoredFilter

def unplaced (filter : AnchoredFilter) : Bool :=
  filter.fields.any fun entry => '.' ∉ entry.1.toList

def unplacedFields (filter : AnchoredFilter) : List String :=
  (Entries.keys filter.fields).filter fun key => '.' ∉ key.toList

theorem keys_undotted (filter : AnchoredFilter) :
    Entries.keys (Groups.undotted filter.fields) = filter.unplacedFields := by
  rw [unplacedFields, Entries.keys, Entries.keys, List.filter_map]
  rfl

end AnchoredFilter

namespace FieldFilter

theorem warnings_compile_of_plain (mode : CombineMode) {entries : List (String × FieldFilter)}
    (unanchored : ∀ entry ∈ entries, entry.2.isAnchored = false) : (compile mode entries).warnings = [] := by
  induction entries using Groups.induction with
  | step entries ih =>
    have silent : ∀ entry ∈ entries, entry.2.warnings = [] := by
      intro entry member
      obtain ⟨key, filter⟩ := entry
      cases filter with
      | option | range => rfl
      | anchored => cases unanchored _ member
    have under (path : String) (member : path ∈ Groups.paths entries) :
        (compile mode (Groups.under path entries)).warnings = [] :=
      ih path member (plain_under path unanchored)
    rw [compile_eq, allWarnings, plain_eq_self unanchored, List.flatMap_eq_nil_iff.mpr under,
      List.flatMap_eq_nil_iff.mpr silent, List.append_nil]

end FieldFilter

namespace AnchoredFilter

def told (filter : AnchoredFilter) : List Warning :=
  if filter.unplaced then [.unanchoredFields filter.key filter.unplacedFields] else []

theorem unplaced_eq (filter : AnchoredFilter) : filter.unplaced = !(Groups.undotted filter.fields).isEmpty := by
  rw [Bool.eq_iff_iff, unplaced, List.any_eq_true, Bool.not_eq_true', List.isEmpty_eq_false_iff_exists_mem]
  simp [Groups.undotted]

theorem warnings_compile_of_flat {filter : AnchoredFilter} (flat : filter.Flat) :
    filter.compile.warnings = filter.told := by
  have silent (path : String) :
      (FieldFilter.compile (filter.combineMode.getD .and) (Groups.under path filter.fields)).warnings = [] :=
    FieldFilter.warnings_compile_of_plain _ (FieldFilter.plain_under path flat)
  rw [compile_eq, allWarnings, List.flatMap_eq_nil_iff.mpr fun path _ => silent path, List.append_nil, told,
    unplaced_eq, keys_undotted]
  cases (Groups.undotted filter.fields).isEmpty <;> rfl

end AnchoredFilter

namespace FieldFilter

def anchored? : FieldFilter → Option AnchoredFilter
  | .anchored filter => some filter
  | .option _ | .range _ => none

def anchoredEntries (fields : List (String × FieldFilter)) : List (String × AnchoredFilter) :=
  fields.filterMap fun (key, filter) => filter.anchored?.map fun anchored => (key, anchored)

theorem eq_of_anchored? {filter : FieldFilter} {anchored : AnchoredFilter}
    (kind : filter.anchored? = some anchored) : filter = .anchored anchored := by
  cases filter with
  | option | range => cases kind
  | anchored filter => exact congrArg FieldFilter.anchored (Option.some.inj kind)

theorem mem_anchoredEntries {fields : List (String × FieldFilter)} {key : String} {filter : AnchoredFilter} :
    (key, filter) ∈ anchoredEntries fields ↔ (key, .anchored filter) ∈ fields := by
  simp only [anchoredEntries, List.mem_filterMap, Prod.exists, Option.map_eq_some_iff, Prod.mk.injEq]
  constructor
  · intro found
    rcases found with ⟨held, field, member, anchored, kind, rfl, rfl⟩
    rwa [← eq_of_anchored? kind]
  · intro member
    exact ⟨key, .anchored filter, member, filter, rfl, rfl, rfl⟩

theorem warnings_compile_of_flat (mode : CombineMode) {fields : List (String × FieldFilter)}
    (flat : ∀ entry ∈ fields, entry.2.Flat) :
    (compile mode fields).warnings = (anchoredEntries fields).flatMap fun entry => entry.2.told := by
  -- Only plain fields are compiled again under a path, so all warnings are those of the fields themselves.
  have under (path : String) :
      (compile mode (Groups.under path (plain fields))).warnings = [] :=
    warnings_compile_of_plain mode (plain_under path fun entry member => (mem_plain.mp member).2)
  have here : (compile mode fields).warnings = fields.flatMap fun entry => entry.2.warnings := by
    rw [compile_eq, allWarnings, List.flatMap_eq_nil_iff.mpr fun path _ => under path, List.nil_append]
  rw [here]
  clear under here
  induction fields with
  | nil => rfl
  | cons entry rest ih =>
    obtain ⟨here, later⟩ := List.forall_mem_cons.mp flat
    obtain ⟨key, filter⟩ := entry
    rw [List.flatMap_cons, ih later]
    cases filter with
    | option | range => rfl
    | anchored filter =>
      have told : filter.compile.warnings = filter.told := AnchoredFilter.warnings_compile_of_flat here
      rw [warnings, told]
      rfl

end FieldFilter

namespace FilterState

mutual

def anchoredEntries : FilterState → List (String × AnchoredFilter)
  | .empty | .reference _ => []
  | .standard _ fields => FieldFilter.anchoredEntries fields
  | .anchored _ fields => fields
  | .composed _ _ members => allAnchoredEntries members

def allAnchoredEntries : List FilterState → List (String × AnchoredFilter)
  | [] => []
  | member :: rest => member.anchoredEntries ++ allAnchoredEntries rest

end

theorem allAnchoredEntries_eq (members : List FilterState) :
    allAnchoredEntries members = members.flatMap anchoredEntries := by
  induction members with
  | nil => rfl
  | cons member rest ih => rw [allAnchoredEntries, ih, List.flatMap_cons]

theorem warnings_compileMembers {members : List FilterState}
    (each : ∀ member ∈ members, ∃ query?, member.compile.outcome = .ok query?) :
    (∃ queries, (compileMembers members).outcome = .ok queries) ∧
    (compileMembers members).warnings = members.flatMap fun member => member.compile.warnings := by
  induction members with
  | nil => exact ⟨⟨[], rfl⟩, rfl⟩
  | cons member rest ih =>
    obtain ⟨⟨query?, made⟩, later⟩ := List.forall_mem_cons.mp each
    obtain ⟨⟨queries, others⟩, warnings⟩ := ih later
    constructor
    · rw [compileMembers, Warned.outcome_bind made, Warned.outcome_bind others]
      exact ⟨_, rfl⟩
    · rw [compileMembers, Warned.warnings_bind made, Warned.warnings_bind_pure, warnings, List.flatMap_cons]

theorem warnings_compile {state : FilterState} (resolved : state.refs = []) (flat : state.Flat) :
    state.compile.warnings = state.anchoredEntries.flatMap fun entry => entry.2.told := by
  induction state using induction with
  | empty => rfl
  | reference ref => cases resolved
  | standard mode fields =>
    cases fields with
    | nil => rfl
    | cons entry rest =>
      rw [compile, Warned.warnings_bind_pure, FieldFilter.warnings_compile_of_flat _ flat, anchoredEntries]
  | anchored mode fields =>
    by_cases filled : fields = []
    · subst filled
      rfl
    · rw [compile_anchored_eq mode filled]
      apply List.flatMap_congr
      intro entry member
      exact AnchoredFilter.warnings_compile_of_flat (flat entry member)
  | composed mode refIds members ih =>
    by_cases filled : members = []
    · subst filled
      rfl
    · have bare := refs_composed_eq_nil_iff.mp resolved
      have each (member : FilterState) (held : member ∈ members) : ∃ query?, member.compile.outcome = .ok query? :=
        (exists_outcome_compile_iff (outcome_compile_eq_error_iff member)).mpr (bare member held)
      rw [compile_composed_eq mode refIds filled, Warned.warnings_bind_pure, (warnings_compileMembers each).2,
        anchoredEntries, allAnchoredEntries_eq, List.flatMap_assoc]
      apply List.flatMap_congr
      intro member held
      exact ih member held (bare member held) ((allFlat_iff members).mp flat member held)

end FilterState

theorem OptionFilter.allLeaves_clauses_ne_zero {filter : OptionFilter} (field : String)
    (selected : filter.isPlaceholder = false) : Query.allLeaves (filter.clauses field) ≠ 0 := by
  obtain ⟨selectedValues, filterMode, combineMode⟩ := filter
  cases selectedValues with
  | none => cases selected
  | some values =>
    dsimp only [clauses]
    split <;> simp [Query.allLeaves, Query.leaves, Query.all]

namespace FieldFilter

theorem leaves_ne_zero {filter : FieldFilter} (key : String) (unanchored : filter.isAnchored = false)
    (selected : filter.isPlaceholder = false) : filter.leaves key ≠ 0 := by
  rw [leaves, Ne, Multiset.map_eq_zero]
  cases filter with
  | option filter => exact OptionFilter.allLeaves_clauses_ne_zero _ selected
  | range filter => simp [ownClauses, RangeFilter.clauses, Query.all, Query.allLeaves, Query.leaves]
  | anchored => cases unanchored

def plainEntries (key : String) : FieldFilter → List (String × FieldFilter)
  | .option filter => [(key, .option filter)]
  | .range filter => [(key, .range filter)]
  | .anchored filter => plain filter.fields

end FieldFilter

theorem AnchoredFilter.sum_leaves_le {filter : AnchoredFilter} (flat : filter.Flat) (placed : filter.unplaced = false) :
    ((FieldFilter.plain filter.fields).map fun entry => entry.2.leaves entry.1).sum ≤ filter.leaves := by
  have dotted : Groups.dotted filter.fields = filter.fields := by
    apply List.filter_eq_self.mpr
    simpa [unplaced] using placed
  rw [FieldFilter.plain_eq_self flat, leaves, dotted]
  exact Multiset.le_add_left _ _

namespace FieldFilter

theorem sum_plainEntries_le {filter : FieldFilter} (key : String) (flat : filter.Flat)
    (placed : ∀ anchored, filter.anchored? = some anchored → anchored.unplaced = false) :
    ((filter.plainEntries key).map fun entry => entry.2.leaves entry.1).sum ≤ filter.constraints key := by
  cases filter with
  | option | range => simp [plainEntries, constraints]
  | anchored filter => exact AnchoredFilter.sum_leaves_le flat (placed filter rfl)

end FieldFilter

namespace FilterState

mutual

/-- The option and range filters in a filter, those in anchored filters too, with the keys they stand under. -/
def plainEntries : FilterState → List (String × FieldFilter)
  | .empty | .reference _ => []
  | .standard _ fields => fields.flatMap fun (key, filter) => filter.plainEntries key
  | .anchored _ fields => fields.flatMap fun (_, filter) => FieldFilter.plain filter.fields
  | .composed _ _ members => allPlainEntries members

def allPlainEntries : List FilterState → List (String × FieldFilter)
  | [] => []
  | member :: rest => member.plainEntries ++ allPlainEntries rest

end

theorem allPlainEntries_eq (members : List FilterState) : allPlainEntries members = members.flatMap plainEntries := by
  induction members with
  | nil => rfl
  | cons member rest ih => rw [allPlainEntries, ih, List.flatMap_cons]

theorem sum_leaves_flatMap_le {α : Type} {items : List α} {entries : α → List (String × FieldFilter)}
    {bound : α → Multiset (List String × Query)}
    (each : ∀ item ∈ items, ((entries item).map fun entry => entry.2.leaves entry.1).sum ≤ bound item) :
    ((items.flatMap entries).map fun entry => entry.2.leaves entry.1).sum ≤ (items.map bound).sum := by
  rw [List.flatMap_def, List.map_flatten, List.sum_flatten, List.map_map, List.map_map]
  exact List.sum_le_sum each

theorem sum_plainEntries_le {state : FilterState} (flat : state.Flat)
    (placed : ∀ entry ∈ state.anchoredEntries, entry.2.unplaced = false) {query? : Option Query}
    (built : state.compile.outcome = .ok query?) :
    (state.plainEntries.map fun entry => entry.2.leaves entry.1).sum ≤ query?.elim 0 Query.leaves := by
  induction state using induction generalizing query? with
  | empty | reference => exact Multiset.zero_le _
  | standard mode fields =>
    by_cases filled : fields = []
    · subst filled
      exact Multiset.zero_le _
    · cases (outcome_compile_standard mode filled).symm.trans built
      rw [Option.elim_some, Query.leaves, FieldFilter.allLeaves_clauseList _ flat]
      apply sum_leaves_flatMap_le
      rintro ⟨key, filter⟩ member
      apply FieldFilter.sum_plainEntries_le key (flat _ member)
      intro anchored kind
      apply placed (key, anchored) (FieldFilter.mem_anchoredEntries.mpr _)
      rwa [← FieldFilter.eq_of_anchored? kind]
  | anchored mode fields =>
    by_cases filled : fields = []
    · subst filled
      exact Multiset.zero_le _
    · cases (outcome_compile_anchored mode filled).symm.trans built
      rw [Option.elim_some, Query.leaves, Query.allLeaves_separate, List.flatMap_def, List.map_flatten,
        List.sum_flatten, List.map_map, List.map_map]
      apply sum_leaves_flatMap_le
      intro entry member
      rw [Function.comp_apply, Function.comp_apply, AnchoredFilter.sum_leaves_clauseList (flat entry member)]
      exact AnchoredFilter.sum_leaves_le (flat entry member) (placed entry member)
  | composed mode refIds members ih =>
    by_cases filled : members = []
    · subst filled
      exact Multiset.zero_le _
    · have bare : (composed mode refIds members).refs = [] :=
        (exists_outcome_compile_iff (outcome_compile_eq_error_iff _)).mp ⟨query?, built⟩
      have made (member : FilterState) (held : member ∈ members) : member.compile.outcome = .ok member.query? := by
        have resolved := refs_composed_eq_nil_iff.mp bare member held
        obtain ⟨query?, made⟩ := (exists_outcome_compile_iff (outcome_compile_eq_error_iff member)).mpr resolved
        rwa [outcome_eq_query? made]
      cases (outcome_compile_composed filled made).symm.trans built
      rw [Option.elim_some, Query.leaves, Query.allLeaves_eq, List.map_map, plainEntries, allPlainEntries_eq]
      apply sum_leaves_flatMap_le
      intro member held
      have inner (entry : String × AnchoredFilter) (found : entry ∈ member.anchoredEntries) :
          entry.2.unplaced = false := by
        apply placed entry
        rw [anchoredEntries, allAnchoredEntries_eq]
        exact List.mem_flatMap.mpr ⟨member, held, found⟩
      apply (ih member held ((allFlat_iff members).mp flat member held) inner (made member held)).trans_eq
      rw [Function.comp_apply]
      -- A member without a query stands as a clause without leaves.
      cases member.query? <;> rfl

end FilterState

theorem Key.eq_of_anchor? {key field value : String} (found : anchor? key = some (field, value)) :
    key = field ++ ":" ++ value := by
  have parts := (split?_eq_some_iff.mp (Option.filter_eq_some_iff.mp found).1).2
  apply String.toList_injective
  rw [parts, String.toList_append, String.toList_append, List.append_assoc]
  rfl

namespace AnchoredFilter

theorem WellFormed.key_eq {key : String} {filter : AnchoredFilter} (wellFormed : filter.WellFormed key) :
    filter.key = key :=
  (Key.eq_of_anchor? wellFormed.anchor).symm

theorem WellFormed.flat {key : String} {filter : AnchoredFilter} (wellFormed : filter.WellFormed key) : filter.Flat :=
  fun entry member => (wellFormed.fields entry member).2.unanchored

end AnchoredFilter

theorem FieldFilter.WellFormed.flat {key : String} {filter : FieldFilter} (wellFormed : filter.WellFormed key) :
    filter.Flat := by
  cases filter with
  | option | range => exact True.intro
  | anchored filter => exact AnchoredFilter.WellFormed.flat wellFormed

namespace FilterState

theorem WellFormed.flat {state : FilterState} (wellFormed : state.WellFormed) : state.Flat := by
  induction state using induction with
  | empty | reference => exact True.intro
  | standard mode fields => exact fun entry member => (wellFormed entry member).2.flat
  | anchored mode fields => exact fun entry member => (wellFormed entry member).flat
  | composed mode refIds members ih =>
    apply (allFlat_iff members).mpr
    intro member held
    exact ih member held ((allWellFormed_iff members).mp wellFormed member held)

theorem WellFormed.key_eq {state : FilterState} (wellFormed : state.WellFormed) :
    ∀ entry ∈ state.anchoredEntries, entry.2.key = entry.1 := by
  induction state using induction with
  | empty | reference => exact fun _ member => nomatch member
  | standard mode fields =>
    rintro ⟨key, filter⟩ member
    exact AnchoredFilter.WellFormed.key_eq (wellFormed _ (FieldFilter.mem_anchoredEntries.mp member)).2
  | anchored mode fields => exact fun entry member => (wellFormed entry member).key_eq
  | composed mode refIds members ih =>
    intro entry member
    rw [anchoredEntries, allAnchoredEntries_eq] at member
    rcases List.mem_flatMap.mp member with ⟨inner, held, found⟩
    exact ih inner held ((allWellFormed_iff members).mp wellFormed inner held) entry found

theorem isAnchored_of_mem_plainEntries {state : FilterState} (flat : state.Flat) :
    ∀ entry ∈ state.plainEntries, entry.2.isAnchored = false := by
  induction state using induction with
  | empty | reference => exact fun _ member => nomatch member
  | standard mode fields =>
    intro entry member
    rcases List.mem_flatMap.mp member with ⟨⟨key, filter⟩, -, inner⟩
    cases filter with
    | option | range =>
      cases List.mem_singleton.mp inner
      rfl
    | anchored filter => exact (FieldFilter.mem_plain.mp inner).2
  | anchored mode fields =>
    intro entry member
    rcases List.mem_flatMap.mp member with ⟨_, -, inner⟩
    exact (FieldFilter.mem_plain.mp inner).2
  | composed mode refIds members ih =>
    intro entry member
    rw [plainEntries, allPlainEntries_eq] at member
    rcases List.mem_flatMap.mp member with ⟨inner, held, found⟩
    exact ih inner held ((allFlat_iff members).mp flat inner held) entry found

end FilterState

theorem AnchoredFilter.flatMap_told (entries : List (String × AnchoredFilter)) :
    (entries.flatMap fun entry => entry.2.told) =
      (entries.filter fun entry => entry.2.unplaced).map fun entry =>
        .unanchoredFields entry.2.key entry.2.unplacedFields := by
  induction entries with
  | nil => rfl
  | cons entry rest ih =>
    rw [List.flatMap_cons, ih, told, List.filter_cons]
    cases entry.2.unplaced <;> rfl

namespace FilterState

/-- Nothing is left out of a query without a warning. There is one for each anchored filter with fields outside of
    paths, in the order of the filters, with the key that each stands under and the names of those fields. Where there
    is none, the query holds together all that the option and range filters ask for, each of them something unless it
    is a placeholder. -/
theorem compile_tells_losses (value : Json) (state : FilterState) (read : ofJson value = .ok state)
    (resolved : state.refs = []) :
    state.compile.warnings = (state.anchoredEntries.filter fun entry => entry.2.unplaced).map
        (fun entry => .unanchoredFields entry.2.key entry.2.unplacedFields) ∧
      (∀ entry ∈ state.anchoredEntries, entry.2.key = entry.1) ∧
      ∃ query?, state.compile.outcome = .ok query? ∧ (state.compile.warnings = [] →
        (state.plainEntries.map fun entry => entry.2.leaves entry.1).sum ≤ query?.elim 0 Query.leaves ∧
        ∀ entry ∈ state.plainEntries, entry.2.isPlaceholder = false → entry.2.leaves entry.1 ≠ 0) := by
  have wellFormed := wellFormed_of_ofJson read
  have told := warnings_compile resolved wellFormed.flat
  obtain ⟨query?, built⟩ := (exists_outcome_compile_iff (outcome_compile_eq_error_iff state)).mpr resolved
  refine ⟨told.trans (AnchoredFilter.flatMap_told _), wellFormed.key_eq, query?, built, ?_⟩
  intro silent
  have placed (entry : String × AnchoredFilter) (member : entry ∈ state.anchoredEntries) :
      entry.2.unplaced = false := by
    rw [told, AnchoredFilter.flatMap_told, List.map_eq_nil_iff, List.filter_eq_nil_iff] at silent
    exact Bool.eq_false_iff.mpr (silent entry member)
  refine ⟨sum_plainEntries_le wellFormed.flat placed built, ?_⟩
  intro entry member selected
  exact FieldFilter.leaves_ne_zero entry.1 (isAnchored_of_mem_plainEntries wellFormed.flat entry member) selected

def patientVisits (others : List (String × FieldFilter)) : FilterState :=
  .composed none [] [.standard none [("age", .option ⟨some ["40"], .containsAny, none⟩),
    ("patient:p1", .anchored ⟨"patient", "p1", none,
      others ++ [("visit.day", .option ⟨some ["mon"], .containsAny, none⟩)]⟩)]]

def patientVisitsDocument (others : List (String × Json)) : Json :=
  .object [("value", .array [.object [("value", .object [("age", .object [("selectedValues", .texts ["40"])]),
    ("patient:p1", .object [("value", .object
      (others ++ [("visit.day", .object [("selectedValues", .texts ["mon"])])]))])])]])]

theorem compile_tells_losses_visits :
    let document := patientVisitsDocument [("sex", .object [("selectedValues", .texts ["f"])])]
    let state := patientVisits [("sex", .option ⟨some ["f"], .containsAny, none⟩)]
    ofJson document = .ok state ∧ state.refs = [] ∧ state.compile.warnings = [.unanchoredFields "patient:p1" ["sex"]] ∧
      ofJson (patientVisitsDocument []) = .ok (patientVisits []) ∧ (patientVisits []).refs = [] ∧
      (patientVisits []).compile.warnings = [] ∧ ∃ query?, (patientVisits []).compile.outcome = .ok query? ∧
        {([], .matching .containsAny "age" ["40"]), (["visit"], .matching .containsAny "day" ["mon"])} ≤
          query?.elim 0 Query.leaves := by
  have asked : ((patientVisits []).plainEntries.map fun entry => entry.2.leaves entry.1).sum =
      {([], .matching .containsAny "age" ["40"]), (["visit"], .matching .containsAny "day" ["mon"])} := rfl
  intro document state
  have told := (compile_tells_losses document state rfl rfl).1
  obtain ⟨silent, -, query?, built, kept⟩ :=
    compile_tells_losses (patientVisitsDocument []) (patientVisits []) rfl rfl
  have none := silent.trans rfl
  exact ⟨rfl, rfl, told.trans rfl, rfl, rfl, none, query?, built, asked ▸ (kept none).1⟩

end FilterState

end CohortFilter
