import CohortFilter.Proofs.Clauses

namespace CohortFilter

/-- Records, those related to each of them under a path, and what single clauses hold of. -/
structure Interpretation (ρ : Type) where
  related : ρ → String → ρ → Prop
  matching : FilterMode → String → List String → ρ → Prop
  atLeast : String → Number → ρ → Prop
  atMost : String → Number → ρ → Prop

namespace Interpretation

variable {ρ : Type} (world : Interpretation ρ)

mutual

def holds : Query → ρ → Prop
  | .group mode clauses, record => joined mode clauses record
  | .matching mode field values, record => world.matching mode field values record
  | .atLeast field bound, record => world.atLeast field bound record
  | .atMost field bound, record => world.atMost field bound record
  | .nested path mode clauses, record =>
    ∃ other, world.related record path other ∧ joined mode clauses other

def joined : CombineMode → List Query → ρ → Prop
  | .and, [], _ => True
  | .and, clause :: rest, record => holds clause record ∧ joined .and rest record
  | .or, [], _ => False
  | .or, clause :: rest, record => holds clause record ∨ joined .or rest record

end

theorem joined_and_iff {clauses : List Query} {record : ρ} :
    world.joined .and clauses record ↔ ∀ clause ∈ clauses, world.holds clause record := by
  induction clauses with
  | nil => simp [joined]
  | cons clause rest ih => simp [joined, ih]

theorem joined_or_iff {clauses : List Query} {record : ρ} :
    world.joined .or clauses record ↔ ∃ clause ∈ clauses, world.holds clause record := by
  induction clauses with
  | nil => simp [joined]
  | cons clause rest ih => simp [joined, ih]

/-- A choice of one record for each path, related to the record of the path before it, such that every
    field meets its clauses at the record of its path. -/
structure Shares (entries : List (String × FieldFilter)) (chosen : List String → ρ) : Prop where
  related : ∀ entry ∈ entries, ∀ path name, path ++ [name] <+: (Key.segments entry.1).dropLast →
    world.related (chosen path) name (chosen (path ++ [name]))
  meets : ∀ entry ∈ entries, ∀ path field, Key.segments entry.1 = path ++ [field] →
    ∃ clauses, entry.2.clauses field = .ok clauses ∧ ∀ clause ∈ clauses, world.holds clause (chosen path)

/-- The second record is reached from the first by going to a related record for each name. -/
inductive Reaches : ρ → List String → ρ → Prop
  | here (record : ρ) : Reaches record [] record
  | step {record other last : ρ} {name : String} {path : List String} :
    world.related record name other → Reaches other path last → Reaches record (name :: path) last

variable {entries : List (String × FieldFilter)}

theorem shares_iff (plain : ∀ entry ∈ entries, entry.2.isAnchored = false) (chosen : List String → ρ) :
    world.Shares entries chosen ↔
      (∀ entry ∈ Groups.undotted entries, ∀ clause ∈ entry.2.ownClauses entry.1,
        world.holds clause (chosen [])) ∧
      ∀ name ∈ Groups.paths entries, world.related (chosen []) name (chosen [name]) ∧
        world.Shares (Groups.under name entries) fun path => chosen (name :: path) := by
  constructor
  · intro shares
    refine ⟨?_, fun name member => ⟨?_, ?_, ?_⟩⟩
    · intro entry member clause own
      obtain ⟨held, found⟩ := Groups.mem_undotted.mp member
      obtain ⟨clauses, built, met⟩ := shares.meets entry held [] entry.1 (Key.segments_of_split?_none found)
      rw [FieldFilter.clauses_of_plain _ (plain entry held)] at built
      cases built
      exact met clause own
    · obtain ⟨entry, held, rest, found⟩ := Groups.mem_paths.mp member
      apply shares.related entry held []
      rw [Key.segments_of_split?_some found, List.dropLast_cons_of_ne_nil (Key.segments_ne_nil rest)]
      simp
    · intro entry short path last front
      rcases entry with ⟨rest, filter⟩
      obtain ⟨key, held, found⟩ := Groups.mem_under.mp short
      apply shares.related (key, filter) held (name :: path)
      rw [Key.segments_of_split?_some found, List.dropLast_cons_of_ne_nil (Key.segments_ne_nil rest)]
      simpa using front
    · intro entry short path field parts
      rcases entry with ⟨rest, filter⟩
      obtain ⟨key, held, found⟩ := Groups.mem_under.mp short
      apply shares.meets (key, filter) held (name :: path)
      rw [Key.segments_of_split?_some found, parts]
      rfl
  · intro parts
    rcases parts with ⟨main, nested⟩
    refine ⟨?_, ?_⟩
    · intro entry member path name front
      rcases entry with ⟨key, filter⟩
      cases found : Key.split? '.' key with
      | none => simp [Key.segments_of_split?_none found] at front
      | some parts =>
        obtain ⟨first, rest⟩ := parts
        obtain ⟨near, shares⟩ := nested first (Groups.mem_paths.mpr ⟨_, member, rest, found⟩)
        rw [Key.segments_of_split?_some found,
          List.dropLast_cons_of_ne_nil (Key.segments_ne_nil rest)] at front
        cases path with
        | nil =>
          obtain ⟨rfl, -⟩ := List.cons_prefix_cons.mp front
          exact near
        | cons head path =>
          obtain ⟨same, later⟩ := List.cons_prefix_cons.mp front
          subst same
          exact shares.related (rest, filter) (Groups.mem_under.mpr ⟨key, member, found⟩) path name later
    · intro entry member path field parts
      rcases entry with ⟨key, filter⟩
      rcases Key.segments_eq_concat_iff.mp parts with
        ⟨found, rfl, rfl⟩ | ⟨first, rest, tail, found, rfl, later⟩
      · exact ⟨_, FieldFilter.clauses_of_plain _ (plain _ member),
          main _ (Groups.mem_undotted.mpr ⟨member, found⟩)⟩
      · obtain ⟨-, shares⟩ := nested first (Groups.mem_paths.mpr ⟨_, member, rest, found⟩)
        exact shares.meets (rest, filter) (Groups.mem_under.mpr ⟨key, member, found⟩) tail field later

def choiceFrom (record : ρ) (parts : String → List String → ρ) : List String → ρ
  | [] => record
  | name :: path => parts name path

theorem exists_shares_iff (plain : ∀ entry ∈ entries, entry.2.isAnchored = false) (record : ρ) :
    (∃ chosen, chosen [] = record ∧ world.Shares entries chosen) ↔
      (∀ entry ∈ Groups.undotted entries, ∀ clause ∈ entry.2.ownClauses entry.1,
        world.holds clause record) ∧
      ∀ name ∈ Groups.paths entries, ∃ other, world.related record name other ∧
        ∃ chosen, chosen [] = other ∧ world.Shares (Groups.under name entries) chosen := by
  constructor
  · intro choice
    rcases choice with ⟨chosen, rfl, shares⟩
    obtain ⟨main, nested⟩ := (world.shares_iff plain chosen).mp shares
    refine ⟨main, fun name member => ?_⟩
    obtain ⟨near, later⟩ := nested name member
    exact ⟨_, near, _, rfl, later⟩
  · intro parts
    rcases parts with ⟨main, nested⟩
    have total (name : String) : ∃ chosen : List String → ρ, name ∈ Groups.paths entries →
        world.related record name (chosen []) ∧ world.Shares (Groups.under name entries) chosen := by
      by_cases member : name ∈ Groups.paths entries
      · obtain ⟨_, near, chosen, rfl, shares⟩ := nested name member
        exact ⟨chosen, fun _ => ⟨near, shares⟩⟩
      · exact ⟨fun _ => record, fun held => absurd held member⟩
    choose parts spec using total
    exact ⟨choiceFrom record parts, rfl, (world.shares_iff plain (choiceFrom record parts)).mpr ⟨main, spec⟩⟩

theorem joined_and_clauseList (plain : ∀ entry ∈ entries, entry.2.isAnchored = false) (record : ρ) :
    world.joined .and (FieldFilter.clauseList .and entries) record ↔
      ∃ chosen, chosen [] = record ∧ world.Shares entries chosen := by
  induction entries using Groups.induction generalizing record with
  | step entries ih =>
    have under (name : String) (member : name ∈ Groups.paths entries) (other : ρ) :=
      ih name member (FieldFilter.plain_under name plain) other
    rw [exists_shares_iff world plain, FieldFilter.clauseList_of_plain .and plain, joined_and_iff]
    simp only [List.mem_append, List.mem_flatMap, List.mem_map]
    constructor
    · intro all
      refine ⟨fun entry member clause own => all clause (.inl ⟨entry, member, own⟩), fun name member => ?_⟩
      have nested := all _ (.inr ⟨name, member, rfl⟩)
      rw [holds] at nested
      obtain ⟨other, near, met⟩ := nested
      exact ⟨other, near, (under name member other).mp met⟩
    · rintro ⟨main, nested⟩ clause (⟨entry, member, own⟩ | ⟨name, member, rfl⟩)
      · exact main entry member clause own
      · obtain ⟨other, near, shares⟩ := nested name member
        rw [holds]
        exact ⟨other, near, (under name member other).mpr shares⟩

theorem joined_or_clauseList (plain : ∀ entry ∈ entries, entry.2.isAnchored = false) (record : ρ) :
    world.joined .or (FieldFilter.clauseList .or entries) record ↔
      ∃ entry ∈ entries, ∃ path field last, Key.segments entry.1 = path ++ [field] ∧
        world.Reaches record path last ∧ ∃ clause ∈ entry.2.ownClauses field, world.holds clause last := by
  induction entries using Groups.induction generalizing record with
  | step entries ih =>
    have under (name : String) (member : name ∈ Groups.paths entries) (other : ρ) :=
      ih name member (FieldFilter.plain_under name plain) other
    rw [FieldFilter.clauseList_of_plain .or plain, joined_or_iff]
    simp only [List.mem_append, List.mem_flatMap, List.mem_map]
    constructor
    · rintro ⟨clause, ⟨entry, member, own⟩ | ⟨name, member, rfl⟩, met⟩
      · obtain ⟨held, found⟩ := Groups.mem_undotted.mp member
        exact ⟨entry, held, [], entry.1, record, Key.segments_of_split?_none found, .here record,
          clause, own, met⟩
      · rw [holds] at met
        obtain ⟨other, near, met⟩ := met
        obtain ⟨⟨rest, filter⟩, short, path, field, last, parts, reaches, met⟩ :=
          (under name member other).mp met
        obtain ⟨key, held, found⟩ := Groups.mem_under.mp short
        refine ⟨(key, filter), held, name :: path, field, last, ?_, .step near reaches, met⟩
        rw [Key.segments_of_split?_some found, parts]
        rfl
    · rintro ⟨⟨key, filter⟩, member, path, field, last, parts, reaches, clause, own, met⟩
      rcases Key.segments_eq_concat_iff.mp parts with
        ⟨found, rfl, rfl⟩ | ⟨first, rest, tail, found, rfl, later⟩
      · cases reaches
        exact ⟨clause, .inl ⟨_, Groups.mem_undotted.mpr ⟨member, found⟩, own⟩, met⟩
      · have held := Groups.mem_paths.mpr ⟨_, member, rest, found⟩
        have short : (rest, filter) ∈ Groups.under first entries := Groups.mem_under.mpr ⟨key, member, found⟩
        cases reaches with
        | step near reaches =>
          refine ⟨_, .inr ⟨first, held, rfl⟩, ?_⟩
          rw [holds]
          exact ⟨_, near, (under first held _).mpr
            ⟨_, short, tail, field, last, later, reaches, clause, own, met⟩⟩

end Interpretation

namespace FieldFilter

def isPlaceholder : FieldFilter → Bool
  | .option filter => filter.isPlaceholder
  | .range _ | .anchored _ => false

theorem ownClauses_of_placeholder {filter : FieldFilter} (field : String)
    (placeholder : filter.isPlaceholder = true) : filter.ownClauses field = [] := by
  cases filter with
  | option filter =>
    have absent : filter.selectedValues = none := by
      simpa [isPlaceholder, OptionFilter.isPlaceholder] using placeholder
    simp [ownClauses, OptionFilter.clauses, absent]
  | range | anchored => cases placeholder

end FieldFilter

namespace FilterState

/-- A standard filter of plain fields asks for one related record for each path prefix where all fields
    must hold, and for one field at a record its path leads to where one of them suffices. -/
theorem compile_holds_iff (mode : Option CombineMode) (fields : List (String × FieldFilter))
    (filled : fields ≠ []) (plain : ∀ entry ∈ fields, entry.2.isAnchored = false) :
    ∃ query, (standard mode fields).compile.outcome = .ok (some query) ∧
      ∀ (ρ : Type) (world : Interpretation ρ) (record : ρ),
        ((standard mode fields).combineMode = .and →
          (world.holds query record ↔ ∃ chosen, chosen [] = record ∧ world.Shares fields chosen)) ∧
        ((standard mode fields).combineMode = .or →
          (world.holds query record ↔ ∃ entry ∈ fields, entry.2.isPlaceholder = false ∧
            ∃ path field last, Key.segments entry.1 = path ++ [field] ∧ world.Reaches record path last ∧
              ∃ clauses, entry.2.clauses field = .ok clauses ∧ ∃ clause ∈ clauses, world.holds clause last)) := by
  refine ⟨_, outcome_compile_standard mode filled, fun ρ world record => ⟨fun all => ?_, fun some => ?_⟩⟩
  · rw [Interpretation.holds, show mode.getD .and = .and from all]
    exact world.joined_and_clauseList plain record
  · rw [Interpretation.holds, show mode.getD .and = .or from some, world.joined_or_clauseList plain record]
    constructor
    · rintro ⟨entry, member, path, field, last, parts, reaches, clause, own, met⟩
      refine ⟨entry, member, ?_, path, field, last, parts, reaches, _,
        FieldFilter.clauses_of_plain field (plain entry member), clause, own, met⟩
      cases placeholder : entry.2.isPlaceholder with
      | false => rfl
      | true =>
        rw [FieldFilter.ownClauses_of_placeholder field placeholder] at own
        cases own
    · rintro ⟨entry, member, -, path, field, last, parts, reaches, clauses, built, clause, own, met⟩
      rw [FieldFilter.clauses_of_plain field (plain entry member)] at built
      cases built
      exact ⟨entry, member, path, field, last, parts, reaches, clause, own, met⟩

def visitFields : List (String × FieldFilter) :=
  [("visit.code", .option ⟨some ["J45"], .containsAny, none⟩),
    ("visit.day", .range ⟨.integer 1 (by decide), .integer 5 (by decide)⟩)]

def twoVisits : Interpretation (Fin 3) where
  related _ path other := path = "visit" ∧ other ≠ 0
  matching _ _ _ record := record = 1
  atLeast _ _ record := record = 2
  atMost _ _ record := record = 2

theorem compile_holds_iff_visits : visitFields ≠ [] ∧
    (∀ entry ∈ visitFields, entry.2.isAnchored = false) ∧
      ∃ query, (standard none visitFields).compile.outcome = .ok (some query) ∧ ¬ twoVisits.holds query 0 := by
  have filled : visitFields ≠ [] := by simp [visitFields]
  have plain : ∀ entry ∈ visitFields, entry.2.isAnchored = false := by decide
  refine ⟨filled, plain, ?_⟩
  obtain ⟨query, built, meaning⟩ := compile_holds_iff none visitFields filled plain
  refine ⟨query, built, fun holds => ?_⟩
  obtain ⟨chosen, -, shares⟩ := ((meaning _ twoVisits 0).1 rfl).mp holds
  obtain ⟨_, code, withCode⟩ := shares.meets _ List.mem_cons_self ["visit"] "code" (by decide)
  obtain ⟨_, days, onDays⟩ :=
    shares.meets _ (List.mem_cons_of_mem _ List.mem_cons_self) ["visit"] "day" (by decide)
  cases code
  cases days
  have first : chosen ["visit"] = 1 := withCode _ (List.mem_singleton_self _)
  have second : chosen ["visit"] = 2 := (onDays _ (List.mem_singleton_self _)).1
  exact absurd (first.symm.trans second) (by decide)

end FilterState

end CohortFilter
