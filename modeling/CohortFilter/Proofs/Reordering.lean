import Mathlib.Data.List.Perm.Basic
import CohortFilter.Proofs.Clauses
import CohortFilter.Proofs.WellFormed

namespace CohortFilter

def Shuffled {α β : Type} (related : α → β → Prop) (left : List α) (right : List β) : Prop :=
  ∃ middle, left.Perm middle ∧ List.Forall₂ related middle right

namespace Shuffled

variable {α β γ δ : Type} {related : α → β → Prop} {made : γ → δ → Prop} {left : List α} {right : List β}

theorem of_forall₂ (each : List.Forall₂ related left right) : Shuffled related left right :=
  ⟨left, .refl left, each⟩

theorem imp {others : α → β → Prop} (shuffled : Shuffled related left right)
    (each : ∀ item other, related item other → others item other) : Shuffled others left right := by
  rcases shuffled with ⟨middle, perm, paired⟩
  exact ⟨middle, perm, paired.imp each⟩

theorem append {back : List α} {rear : List β} (first : Shuffled related left right)
    (second : Shuffled related back rear) : Shuffled related (left ++ back) (right ++ rear) := by
  rcases first with ⟨front, frontPerm, frontEach⟩
  rcases second with ⟨last, lastPerm, lastEach⟩
  exact ⟨front ++ last, frontPerm.append lastPerm, List.rel_append frontEach lastEach⟩

theorem eq_nil_iff (shuffled : Shuffled related left right) : left = [] ↔ right = [] := by
  rcases shuffled with ⟨middle, perm, each⟩
  rw [← List.length_eq_zero_iff, ← List.length_eq_zero_iff, perm.length_eq, each.length_eq]

theorem perm {others : List α} (shuffled : Shuffled Eq left others) : left.Perm others := by
  rcases shuffled with ⟨middle, perm, each⟩
  rw [List.forall₂_eq_eq_eq] at each
  exact each ▸ perm

theorem flatMap {first : α → List γ} {second : β → List δ} (shuffled : Shuffled related left right)
    (each : ∀ item ∈ left, ∀ other, related item other → Shuffled made (first item) (second other)) :
    Shuffled made (left.flatMap first) (right.flatMap second) := by
  rcases shuffled with ⟨middle, perm, paired⟩
  have inOrder : Shuffled made (middle.flatMap first) (right.flatMap second) := by
    have inner : ∀ item ∈ middle, ∀ other, related item other → Shuffled made (first item) (second other) :=
      fun item member => each item (perm.mem_iff.mpr member)
    clear perm each
    induction paired with
    | nil => exact of_forall₂ .nil
    | cons head _ ih =>
      rcases List.forall_mem_cons.mp inner with ⟨here, later⟩
      rw [List.flatMap_cons, List.flatMap_cons]
      exact (here _ head).append (ih later)
  rcases inOrder with ⟨list, inner, each⟩
  exact ⟨list, (perm.flatMap_right first).trans inner, each⟩

theorem map {first : α → γ} {second : β → δ} (shuffled : Shuffled related left right)
    (each : ∀ item other, related item other → made (first item) (second other)) :
    Shuffled made (left.map first) (right.map second) := by
  rcases shuffled with ⟨middle, perm, paired⟩
  exact ⟨middle.map first, perm.map first, List.rel_map (fun item other => each item other) paired⟩

theorem filter {first : α → Bool} {second : β → Bool} (shuffled : Shuffled related left right)
    (each : ∀ item other, related item other → first item = second other) :
    Shuffled related (left.filter first) (right.filter second) := by
  rcases shuffled with ⟨middle, perm, paired⟩
  refine ⟨middle.filter first, perm.filter first, List.rel_filter (fun item other alike => ?_) paired⟩
  exact iff_of_eq (congrArg (· = true) (each item other alike))

theorem filterMap {first : α → Option γ} {second : β → Option δ} (shuffled : Shuffled related left right)
    (each : ∀ item other, related item other → Option.Rel made (first item) (second other)) :
    Shuffled made (left.filterMap first) (right.filterMap second) := by
  rcases shuffled with ⟨middle, perm, paired⟩
  exact ⟨middle.filterMap first, perm.filterMap first, List.rel_filterMap (fun item other => each item other) paired⟩

theorem map_of_perm {names others : List String} {first : String → γ} {second : String → δ}
    (perm : names.Perm others) (each : ∀ name ∈ names, made (first name) (second name)) :
    Shuffled made (names.map first) (others.map second) := by
  refine ⟨others.map first, perm.map first, ?_⟩
  rw [List.forall₂_map_left_iff, List.forall₂_map_right_iff, List.forall₂_same]
  exact fun name member => each name (perm.mem_iff.mpr member)

end Shuffled

theorem Groups.eraseDups_perm {names others : List String} (perm : names.Perm others) :
    names.eraseDups.Perm others.eraseDups := by
  refine (List.perm_ext_iff_of_nodup (nodup_eraseDups names) (nodup_eraseDups others)).mpr fun name => ?_
  rw [List.mem_eraseDups, List.mem_eraseDups, perm.mem_iff]

namespace Entries

variable {α β : Type}

def Matching (related : α → β → Prop) (entry : String × α) (other : String × β) : Prop :=
  entry.1 = other.1 ∧ related entry.2 other.2

theorem shuffled_of_agree {related : α → β → Bool} {left : List (String × α)} {right : List (String × β)}
    (distinct : (keys left).Nodup) (distinct' : (keys right).Nodup) (agreed : agree related left right = true) :
    Shuffled (fun entry other => entry ∈ left ∧ other ∈ right ∧
      Matching (fun value value' => related value value' = true) entry other) left right := by
  have found : ∀ other ∈ right, ∃ entry, entry ∈ left ∧ other ∈ right ∧
      Matching (fun value value' => related value value' = true) entry other := by
    intro other member
    rcases exists_left_of_agree distinct distinct' agreed other member with ⟨value, held, alike⟩
    exact ⟨_, held, member, rfl, alike⟩
  rcases Outcome.exists_forall₂_iff.mpr found with ⟨middle, paired⟩
  have names : keys right = keys middle := by
    rw [← List.forall₂_eq_eq_eq, keys, keys, List.forall₂_map_left_iff, List.forall₂_map_right_iff]
    exact paired.imp fun other entry alike => alike.2.2.1.symm
  have within : middle ⊆ left := by
    intro entry member
    rcases Outcome.exists_of_forall₂ paired member with ⟨other, _, held, _⟩
    exact held
  have sizes : left.length ≤ middle.length := by
    simp only [agree, Bool.and_eq_true, beq_iff_eq] at agreed
    rw [agreed.1, paired.length_eq]
  rw [names] at distinct'
  have once : middle.Nodup := List.Nodup.of_map Prod.fst distinct'
  exact ⟨middle, ((once.subperm within).perm_of_length_le sizes).symm, paired.flip⟩

end Entries

namespace Query

/-- The queries are equal, with numbers compared as numbers, but for the order of the clauses in groups and in nested
    clauses at every depth. -/
inductive Similar : Query → Query → Prop
  | group (mode : CombineMode) {clauses middle others : List Query} :
    clauses.Perm middle → List.Forall₂ Similar middle others → Similar (.group mode clauses) (.group mode others)
  | nested (path : String) (mode : CombineMode) {clauses middle others : List Query} :
    clauses.Perm middle → List.Forall₂ Similar middle others →
    Similar (.nested path mode clauses) (.nested path mode others)
  | matching (mode : FilterMode) (field : String) (values : List String) :
    Similar (.matching mode field values) (.matching mode field values)
  | atLeast (field : String) {bound other : Number} :
    bound.numericEq other = true → Similar (.atLeast field bound) (.atLeast field other)
  | atMost (field : String) {bound other : Number} :
    bound.numericEq other = true → Similar (.atMost field bound) (.atMost field other)

theorem similar_group (mode : CombineMode) {clauses others : List Query} (shuffled : Shuffled Similar clauses others) :
    Similar (.group mode clauses) (.group mode others) := by
  rcases shuffled with ⟨middle, perm, each⟩
  exact .group mode perm each

theorem similar_nested (path : String) (mode : CombineMode) {clauses others : List Query}
    (shuffled : Shuffled Similar clauses others) :
    Similar (.nested path mode clauses) (.nested path mode others) := by
  rcases shuffled with ⟨middle, perm, each⟩
  exact .nested path mode perm each

end Query

mutual

def FieldFilter.Keyed : FieldFilter → Prop
  | .option _ | .range _ => True
  | .anchored filter => filter.Keyed

def AnchoredFilter.Keyed : AnchoredFilter → Prop
  | ⟨_, _, _, fields⟩ => (Entries.keys fields).Nodup ∧ FieldFilter.allKeyed fields

def FieldFilter.allKeyed : List (String × FieldFilter) → Prop
  | [] => True
  | (_, filter) :: rest => filter.Keyed ∧ FieldFilter.allKeyed rest

end

namespace FieldFilter

theorem allKeyed_iff {entries : List (String × FieldFilter)} :
    allKeyed entries ↔ ∀ entry ∈ entries, entry.2.Keyed := by
  induction entries with
  | nil => simp [allKeyed]
  | cons entry rest ih => rw [allKeyed, ih, List.forall_mem_cons]

structure Equal (left right : FieldFilter) : Prop where
  same : left.same right = true
  keyed : left.Keyed
  keyed' : right.Keyed

theorem shuffled_of_same {fields others : List (String × FieldFilter)} (keyed : (Entries.keys fields).Nodup)
    (keyed' : (Entries.keys others).Nodup) (each : allKeyed fields) (each' : allKeyed others)
    (sizes : fields.length = others.length) (same : allIn fields others = true) :
    Shuffled (Entries.Matching Equal) fields others := by
  have agreed : Entries.agree FieldFilter.same fields others = true := by
    simp only [Entries.agree, sizes, BEq.rfl, Bool.true_and, ← allIn_eq, same]
  refine (Entries.shuffled_of_agree keyed keyed' agreed).imp fun entry other alike => ?_
  exact ⟨alike.2.2.1, alike.2.2.2, allKeyed_iff.mp each entry alike.1, allKeyed_iff.mp each' other alike.2.1⟩

theorem shuffled_of_equal {left right : AnchoredFilter} (equal : Equal (.anchored left) (.anchored right)) :
    left.anchor = right.anchor ∧ left.combineMode = right.combineMode ∧
      Shuffled (Entries.Matching Equal) left.fields right.fields := by
  rcases left with ⟨field, value, mode, fields⟩
  rcases right with ⟨field', value', mode', fields'⟩
  rcases equal with ⟨same, keyed, keyed'⟩
  simp only [FieldFilter.same, AnchoredFilter.same, Bool.and_eq_true, beq_iff_eq] at same
  rcases same with ⟨⟨⟨⟨rfl, rfl⟩, rfl⟩, sizes⟩, all⟩
  exact ⟨rfl, rfl, shuffled_of_same keyed.1 keyed'.1 keyed.2 keyed'.2 sizes all⟩

theorem Equal.isAnchored_eq {left right : FieldFilter} (equal : Equal left right) :
    left.isAnchored = right.isAnchored := by
  have same := equal.same
  cases left <;> cases right <;> simp_all [FieldFilter.same, isAnchored]

theorem similar_of_mem_optionClauses {field : String} {filter : OptionFilter} {clause : Query}
    (member : clause ∈ filter.clauses field) : clause.Similar clause := by
  rw [OptionFilter.clauses] at member
  split at member
  · cases member
  · split at member
    · rw [List.mem_singleton.mp member]
      refine .group .and (.refl _) (List.forall₂_same.mpr fun part held => ?_)
      rcases List.mem_map.mp held with ⟨value, _, rfl⟩
      exact .matching _ field [value]
    · rw [List.mem_singleton.mp member]
      exact .matching _ field _

theorem similar_ownClauses {left right : FieldFilter} (field : String) (equal : Equal left right) :
    List.Forall₂ Query.Similar (left.ownClauses field) (right.ownClauses field) := by
  have same := equal.same
  cases left with
  | option filter =>
    cases right with
    | option other =>
      rw [FieldFilter.same, beq_iff_eq] at same
      subst same
      exact List.forall₂_same.mpr fun clause member => similar_of_mem_optionClauses member
    | range | anchored => cases same
  | range filter =>
    cases right with
    | range other =>
      rw [FieldFilter.same, RangeFilter.same, Bool.and_eq_true] at same
      refine .cons (.group .and (.refl _) ?_) .nil
      exact .cons (.atLeast field same.1) (.cons (.atMost field same.2) .nil)
    | option | anchored => cases same
  | anchored filter =>
    cases right with
    | anchored other => exact .nil
    | option | range => cases same

variable {entries others : List (String × FieldFilter)}

theorem parent?_rel {entry other : String × FieldFilter} (matching : Entries.Matching Equal entry other) :
    Option.Rel Eq (Key.parent? entry.1) (Key.parent? other.1) := by
  rw [matching.1]
  cases Key.parent? other.1 with
  | none => exact .none
  | some path => exact .some rfl

theorem paths_perm {entry other : String × FieldFilter} (matching : Entries.Matching Equal entry other) :
    (entry.2.paths entry.1).Perm (other.2.paths other.1) := by
  rcases entry with ⟨key, filter⟩
  rcases other with ⟨key', filter'⟩
  rcases matching with ⟨rfl, equal⟩
  have same := equal.same
  cases filter with
  | anchored filter =>
    cases filter' with
    | anchored filter' => exact ((shuffled_of_equal equal).2.2.filterMap fun _ _ => parent?_rel).perm
    | option | range => cases same
  | option filter | range filter =>
    cases filter' with
    | anchored => cases same
    | option | range => exact .refl _

theorem allPaths_perm (shuffled : Shuffled (Entries.Matching Equal) entries others) :
    (allPaths entries).Perm (allPaths others) := by
  refine Groups.eraseDups_perm (Shuffled.perm ?_)
  refine shuffled.flatMap fun entry _ other matching => ?_
  exact ⟨_, paths_perm matching, List.forall₂_eq_eq_eq ▸ rfl⟩

theorem groupPaths_perm (shuffled : Shuffled (Entries.Matching Equal) entries others) :
    (Groups.paths entries).Perm (Groups.paths others) :=
  Groups.eraseDups_perm (shuffled.filterMap fun _ _ => parent?_rel).perm

theorem shuffled_plain (shuffled : Shuffled (Entries.Matching Equal) entries others) :
    Shuffled (Entries.Matching Equal) (plain entries) (plain others) :=
  shuffled.filter fun _ _ matching => congrArg (!·) matching.2.isAnchored_eq

theorem shuffled_undotted (shuffled : Shuffled (Entries.Matching Equal) entries others) :
    Shuffled (Entries.Matching Equal) (Groups.undotted entries) (Groups.undotted others) :=
  shuffled.filter fun _ _ matching => by rw [matching.1]

theorem shuffled_under (path : String) (shuffled : Shuffled (Entries.Matching Equal) entries others) :
    Shuffled (Entries.Matching Equal) (Groups.under path entries) (Groups.under path others) := by
  refine shuffled.filterMap fun entry other matching => ?_
  rw [matching.1]
  cases Key.split? '.' other.1 with
  | none => exact .none
  | some parts =>
    rcases parts with ⟨front, rest⟩
    by_cases same : front = path
    · simp only [if_pos same]
      exact .some ⟨rfl, matching.2⟩
    · simp only [if_neg same]
      exact .none

theorem shuffled_anchoredAt (path : String) (shuffled : Shuffled (Entries.Matching Equal) entries others)
    (each : ∀ name filter, (name, .anchored filter) ∈ entries → ∀ other, Equal (.anchored filter) (.anchored other) →
      Shuffled (Entries.Matching Query.Similar) filter.clauseList other.clauseList) :
    Shuffled Query.Similar (anchoredAt path entries) (anchoredAt path others) := by
  have clauses : Shuffled (Entries.Matching Query.Similar) (entries.flatMap fun entry => entry.2.anchoredClauses)
      (others.flatMap fun other => other.2.anchoredClauses) := by
    refine shuffled.flatMap fun entry member other matching => ?_
    rcases entry with ⟨key, filter⟩
    rcases other with ⟨key', filter'⟩
    have same := matching.2.same
    cases filter with
    | anchored filter =>
      cases filter' with
      | anchored filter' => exact each key filter member filter' matching.2
      | option | range => cases same
    | option filter | range filter =>
      cases filter' with
      | anchored => cases same
      | option | range => exact .of_forall₂ .nil
  refine clauses.filterMap fun part other matching => ?_
  rcases part with ⟨place, clause⟩
  rcases other with ⟨place', clause'⟩
  rcases matching with ⟨rfl, similar⟩
  by_cases here : place = path
  · simp only [if_pos here]
    exact .some similar
  · simp only [if_neg here]
    exact .none

end FieldFilter

theorem shuffled_clauses :
    (∀ mode entries, ∀ others, Shuffled (Entries.Matching FieldFilter.Equal) entries others →
      Shuffled Query.Similar (FieldFilter.clauseList mode entries) (FieldFilter.clauseList mode others)) ∧
      ∀ filter : AnchoredFilter, ∀ other, FieldFilter.Equal (.anchored filter) (.anchored other) →
        Shuffled (Entries.Matching Query.Similar) filter.clauseList other.clauseList := by
  apply compile_induction
  case fields =>
    intro mode entries plainParts anchoredParts others shuffled
    have plain := FieldFilter.shuffled_plain shuffled
    rw [FieldFilter.clauseList_eq, FieldFilter.clauseList_eq, FieldFilter.assembled, FieldFilter.assembled]
    apply Shuffled.append
    · refine (FieldFilter.shuffled_undotted plain).flatMap fun entry _ other matching => ?_
      rw [matching.1]
      exact .of_forall₂ (FieldFilter.similar_ownClauses other.1 matching.2)
    · refine Shuffled.map_of_perm (FieldFilter.allPaths_perm shuffled) fun path _ => ?_
      refine Query.similar_nested path mode (Shuffled.append ?_ ?_)
      · have under := FieldFilter.shuffled_under path plain
        by_cases member : path ∈ Groups.paths (FieldFilter.plain entries)
        · exact plainParts path member _ under
        · have bare := Groups.under_eq_nil member
          rw [bare, under.eq_nil_iff.mp bare, FieldFilter.clauseList_nil]
          exact .of_forall₂ .nil
      · exact FieldFilter.shuffled_anchoredAt path shuffled anchoredParts
  case anchored =>
    intro filter parts other equal
    rcases FieldFilter.shuffled_of_equal equal with ⟨anchor, mode, shuffled⟩
    rw [AnchoredFilter.clauseList_eq, AnchoredFilter.clauseList_eq, AnchoredFilter.assembled,
      AnchoredFilter.assembled, ← anchor, ← mode]
    refine Shuffled.map_of_perm (FieldFilter.groupPaths_perm shuffled) fun path member => ⟨rfl, ?_⟩
    have inner := parts path member _ (FieldFilter.shuffled_under path shuffled)
    refine .group .and (.refl _) (.cons ?_ (.cons ?_ .nil))
    · exact .matching .containsAny filter.anchorField [filter.anchorValue]
    · exact Query.similar_group _ inner

namespace FilterState

mutual

def Keyed : FilterState → Prop
  | .empty | .reference _ => True
  | .standard _ fields => (Entries.keys fields).Nodup ∧ FieldFilter.allKeyed fields
  | .anchored _ fields => (Entries.keys fields).Nodup ∧ ∀ entry ∈ fields, entry.2.Keyed
  | .composed _ _ members => allKeyed members

def allKeyed : List FilterState → Prop
  | [] => True
  | member :: rest => member.Keyed ∧ allKeyed rest

end

theorem allKeyed_iff {members : List FilterState} : allKeyed members ↔ ∀ member ∈ members, member.Keyed := by
  induction members with
  | nil => simp [allKeyed]
  | cons member rest ih => rw [allKeyed, ih, List.forall_mem_cons]

/-- What two filters come to: one error, no query, or queries that are equal but for the order of their clauses. -/
inductive AskAlike : Except FilterError (Option Query) → Except FilterError (Option Query) → Prop
  | refused (error : FilterError) : AskAlike (.error error) (.error error)
  | nothing : AskAlike (.ok none) (.ok none)
  | similar {query other : Query} : query.Similar other → AskAlike (.ok (some query)) (.ok (some other))

theorem AskAlike.clause {first second : Except FilterError (Option Query)} (alike : AskAlike first second) :
    (∃ error, first.map (·.getD (.all [])) = .error error ∧ second.map (·.getD (.all [])) = .error error) ∨
      ∃ clause other, first.map (·.getD (.all [])) = .ok clause ∧ second.map (·.getD (.all [])) = .ok other ∧
        clause.Similar other := by
  cases alike with
  | refused error => exact .inl ⟨error, rfl, rfl⟩
  | nothing => exact .inr ⟨_, _, rfl, rfl, .group .and (.refl _) .nil⟩
  | similar alike => exact .inr ⟨_, _, rfl, rfl, alike⟩

theorem askAlike_members {members others : List FilterState}
    (each : List.Forall₂ (fun member other => AskAlike member.compile.outcome other.compile.outcome) members others) :
    (∃ error, (compileMembers members).outcome = .error error ∧ (compileMembers others).outcome = .error error) ∨
      ∃ queries queries', (compileMembers members).outcome = .ok queries ∧
        (compileMembers others).outcome = .ok queries' ∧ List.Forall₂ Query.Similar queries queries' := by
  simp only [outcome_compileMembers]
  induction each with
  | nil => exact .inr ⟨[], [], rfl, rfl, .nil⟩
  | @cons member other rest rest' head _ ih =>
    rcases head.clause with ⟨error, failed, failed'⟩ | ⟨clause, clause', made, made', similar⟩
    · exact .inl ⟨error, Outcome.mapM_cons_of_error rest failed, Outcome.mapM_cons_of_error rest' failed'⟩
    · rw [Outcome.mapM_cons_of_ok rest made, Outcome.mapM_cons_of_ok rest' made']
      rcases ih with ⟨error, failed, failed'⟩ | ⟨queries, queries', later, later', alike⟩
      · rw [failed, failed']
        exact .inl ⟨error, rfl, rfl⟩
      · rw [later, later']
        exact .inr ⟨clause :: queries, clause' :: queries', rfl, rfl, .cons similar alike⟩

theorem askAlike_composed (mode : Option CombineMode) (refIds : List String) {members others : List FilterState}
    (each : List.Forall₂ (fun member other => AskAlike member.compile.outcome other.compile.outcome) members others) :
    AskAlike (composed mode refIds members).compile.outcome (composed mode refIds others).compile.outcome := by
  cases each with
  | nil => exact .nothing
  | cons head tail =>
    rw [outcome_compile_composed_eq mode refIds (List.cons_ne_nil _ _),
      outcome_compile_composed_eq mode refIds (List.cons_ne_nil _ _)]
    rcases askAlike_members (.cons head tail) with ⟨error, failed, failed'⟩ | ⟨queries, queries', made, made', similar⟩
    · rw [failed, failed']
      exact .refused error
    · rw [made, made']
      exact .similar (.group _ (.refl _) similar)

theorem shuffled_anchored {mode mode' : Option CombineMode} {fields others : List (String × AnchoredFilter)}
    (keyed : (anchored mode fields).Keyed) (keyed' : (anchored mode' others).Keyed)
    (agreed : Entries.agree AnchoredFilter.same fields others = true) :
    Shuffled (Entries.Matching fun filter other => FieldFilter.Equal (.anchored filter) (.anchored other))
      fields others := by
  refine (Entries.shuffled_of_agree keyed.1 keyed'.1 agreed).imp fun entry other alike => ?_
  exact ⟨alike.2.2.1, alike.2.2.2, keyed.2 entry alike.1, keyed'.2 other alike.2.1⟩

theorem askAlike_standard (mode : Option CombineMode) {fields others : List (String × FieldFilter)}
    (shuffled : Shuffled (Entries.Matching FieldFilter.Equal) fields others) :
    AskAlike (standard mode fields).compile.outcome (standard mode others).compile.outcome := by
  by_cases filled : fields = []
  · rw [filled, shuffled.eq_nil_iff.mp filled]
    exact .nothing
  · have filled' : others ≠ [] := fun none => filled (shuffled.eq_nil_iff.mpr none)
    rw [outcome_compile_standard mode filled, outcome_compile_standard mode filled']
    exact .similar (Query.similar_group _ (shuffled_clauses.1 _ _ _ shuffled))

theorem askAlike_anchored (mode : Option CombineMode) {fields others : List (String × AnchoredFilter)}
    (shuffled : Shuffled (Entries.Matching fun filter other => FieldFilter.Equal (.anchored filter) (.anchored other))
      fields others) :
    AskAlike (anchored mode fields).compile.outcome (anchored mode others).compile.outcome := by
  by_cases filled : fields = []
  · rw [filled, shuffled.eq_nil_iff.mp filled]
    exact .nothing
  · have filled' : others ≠ [] := fun none => filled (shuffled.eq_nil_iff.mpr none)
    rw [outcome_compile_anchored mode filled, outcome_compile_anchored mode filled']
    have parts := shuffled.flatMap fun entry _ other matching => shuffled_clauses.2 entry.2 other.2 matching.2
    refine .similar (Query.similar_group _ (parts.map fun part other matching => ?_))
    rcases part with ⟨path, clause⟩
    rcases other with ⟨path', clause'⟩
    rcases matching with ⟨rfl, similar⟩
    exact .nested path _ (.refl _) (.cons similar .nil)

/-- Filters that are equal but for the order of their fields ask the same question. -/
theorem compile_alike_of_same {left right : FilterState} (keyed : left.Keyed) (keyed' : right.Keyed)
    (same : left.same right = true) : AskAlike left.compile.outcome right.compile.outcome := by
  induction left using FilterState.induction generalizing right with
  | empty =>
    cases right with
    | empty => exact .nothing
    | _ => simp [FilterState.same] at same
  | reference ref =>
    cases right with
    | reference other =>
      rw [FilterState.same, beq_iff_eq] at same
      subst same
      exact .refused (.unresolvedReference ref.id)
    | _ => simp [FilterState.same] at same
  | standard mode fields =>
    cases right with
    | standard mode' fields' =>
      simp only [FilterState.same, Bool.and_eq_true, beq_iff_eq] at same
      rcases same with ⟨⟨rfl, sizes⟩, all⟩
      exact askAlike_standard mode (FieldFilter.shuffled_of_same keyed.1 keyed'.1 keyed.2 keyed'.2 sizes all)
    | _ => simp [FilterState.same] at same
  | anchored mode fields =>
    cases right with
    | anchored mode' fields' =>
      simp only [FilterState.same, Bool.and_eq_true, beq_iff_eq] at same
      rcases same with ⟨rfl, agreed⟩
      exact askAlike_anchored mode (shuffled_anchored keyed keyed' agreed)
    | _ => simp [FilterState.same] at same
  | composed mode refIds members ih =>
    cases right with
    | composed mode' refIds' members' =>
      simp only [FilterState.same, Bool.and_eq_true, beq_iff_eq, allSame_iff] at same
      rcases same with ⟨⟨rfl, rfl⟩, each⟩
      rw [Keyed, allKeyed_iff] at keyed keyed'
      apply askAlike_composed
      refine Outcome.forall₂_imp_of_mem each fun member held other held' alike => ?_
      exact ih member held (keyed member held) (keyed' other held') alike
    | _ => simp [FilterState.same] at same

def dayFirst : List (String × FieldFilter) := [
  ("visit.day", .option ⟨some ["mon"], .containsAny, none⟩),
  ("age", .range ⟨.float (.zero false), .integer 18 (by decide)⟩),
  ("patient:p1", .anchored ⟨"patient", "p1", none, [
    ("visit.code", .option ⟨some ["K"], .containsAny, none⟩), ("lab.kind", .option ⟨some ["x"], .containsAny, none⟩)]⟩)]

def dayLast : List (String × FieldFilter) := [
  ("patient:p1", .anchored ⟨"patient", "p1", none, [
    ("lab.kind", .option ⟨some ["x"], .containsAny, none⟩), ("visit.code", .option ⟨some ["K"], .containsAny, none⟩)]⟩),
  ("age", .range ⟨.float (.zero true), .integer 18 (by decide)⟩),
  ("visit.day", .option ⟨some ["mon"], .containsAny, none⟩)]

theorem compile_alike_of_same_days :
    (standard none dayFirst).Keyed ∧ (standard none dayLast).Keyed ∧
      (standard none dayFirst).same (standard none dayLast) = true ∧
      ∃ query other, (standard none dayFirst).compile.outcome = .ok (some query) ∧
        (standard none dayLast).compile.outcome = .ok (some other) ∧ query.Similar other := by
  have keyed : (standard none dayFirst).Keyed := by
    simp [dayFirst, Keyed, FieldFilter.allKeyed, FieldFilter.Keyed, AnchoredFilter.Keyed, Entries.keys]
  have keyed' : (standard none dayLast).Keyed := by
    simp [dayLast, Keyed, FieldFilter.allKeyed, FieldFilter.Keyed, AnchoredFilter.Keyed, Entries.keys]
  have same : (standard none dayFirst).same (standard none dayLast) = true := by decide
  have compiled := outcome_compile_standard none (show dayFirst ≠ [] from List.cons_ne_nil _ _)
  have compiled' := outcome_compile_standard none (show dayLast ≠ [] from List.cons_ne_nil _ _)
  have alike := compile_alike_of_same keyed keyed' same
  rw [compiled, compiled'] at alike
  cases alike with
  | similar similar => exact ⟨keyed, keyed', same, _, _, compiled, compiled', similar⟩

end FilterState

end CohortFilter
