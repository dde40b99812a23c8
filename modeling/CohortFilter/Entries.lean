namespace CohortFilter.Entries

variable {α β : Type}

def insert (key : String) (value : α) : List (String × α) → List (String × α)
  | [] => [(key, value)]
  | (held, old) :: rest =>
    if held = key then (key, value) :: rest else (held, old) :: insert key value rest

def ofList (pairs : List (String × α)) : List (String × α) :=
  pairs.foldl (fun held pair => insert pair.1 pair.2 held) []

/-- Adds to the list that `key` holds, which starts empty at the end of the entries. -/
def extend (key : String) (added : List α) : List (String × List α) → List (String × List α)
  | [] => [(key, added)]
  | (held, values) :: rest =>
    if held = key then (held, values ++ added) :: rest else (held, values) :: extend key added rest

def append (key : String) (value : α) : List (String × List α) → List (String × List α) := extend key [value]

def keys (entries : List (String × α)) : List String := entries.map Prod.fst

def agree (related : α → β → Bool) (left : List (String × α)) (right : List (String × β)) : Bool :=
  left.length == right.length && left.all fun (key, value) =>
    (right.lookup key).any (related value)

theorem keys_insert (key : String) (value : α) (entries : List (String × α)) :
    keys (insert key value entries) = if key ∈ keys entries then keys entries else keys entries ++ [key] := by
  induction entries with
  | nil => simp [insert, keys]
  | cons entry rest ih =>
    obtain ⟨held, old⟩ := entry
    simp only [keys] at ih
    by_cases same : held = key
    · simp [insert, keys, same]
    · have other : ¬ key = held := fun equal => same equal.symm
      by_cases member : key ∈ rest.map Prod.fst <;>
        simp [insert, same, keys, ih, other, member]

theorem nodup_keys_insert {key : String} {value : α} {entries : List (String × α)}
    (distinct : (keys entries).Nodup) : (keys (insert key value entries)).Nodup := by
  rw [keys_insert]
  split
  · exact distinct
  · rename_i absent
    refine List.nodup_append.mpr ⟨distinct, by simp, fun held member other same => ?_⟩
    rintro rfl
    simp at same
    exact absent (same ▸ member)

theorem nodup_keys_ofList (pairs : List (String × α)) : (keys (ofList pairs)).Nodup := by
  suffices step : ∀ held : List (String × α), (keys held).Nodup →
      (keys (pairs.foldl (fun held pair => insert pair.1 pair.2 held) held)).Nodup from step [] (by simp [keys])
  induction pairs with
  | nil => exact fun _ distinct => distinct
  | cons pair rest ih => exact fun held distinct => ih _ (nodup_keys_insert distinct)

theorem mem_of_lookup {key : String} {value : α} {entries : List (String × α)}
    (found : entries.lookup key = some value) : (key, value) ∈ entries := by
  rcases List.lookup_eq_some_iff.mp found with ⟨front, back, rfl, -⟩
  exact List.mem_append_right front List.mem_cons_self

theorem lookup_of_mem {key : String} {value : α} {entries : List (String × α)} (distinct : (keys entries).Nodup)
    (member : (key, value) ∈ entries) : entries.lookup key = some value := by
  rcases List.mem_iff_append.mp member with ⟨front, back, rfl⟩
  refine List.lookup_eq_some_iff.mpr ⟨front, back, rfl, fun entry held => ?_⟩
  rw [keys, List.map_append, List.map_cons] at distinct
  have other := (List.nodup_append.mp distinct).2.2 _ (List.mem_map_of_mem held) _ List.mem_cons_self
  simpa using other.symm

theorem lookup_eq_none_iff {key : String} {entries : List (String × α)} :
    entries.lookup key = none ↔ key ∉ keys entries := by
  simp only [List.lookup_eq_none_iff, bne_iff_ne, keys, List.mem_map, not_exists, not_and]
  constructor
  · exact fun other entry member same => other entry member same.symm
  · exact fun absent entry member same => absent entry member same.symm

theorem lookup_cons_of_ne {key name : String} {value : α} {entries : List (String × α)} (other : name ≠ key) :
    ((key, value) :: entries).lookup name = entries.lookup name := by
  rw [List.lookup_cons, beq_eq_false_iff_ne.mpr other]

theorem lookup_append_cons_of_ne {name key : String} (front back : List (String × α)) (value : α) (other : name ≠ key) :
    (front ++ (key, value) :: back).lookup name = (front ++ back).lookup name := by
  rw [List.lookup_append, List.lookup_append, lookup_cons_of_ne other]

theorem lookup_append_cons_self {key : String} {front : List (String × α)} (back : List (String × α)) (value : α)
    (absent : key ∉ keys front) : (front ++ (key, value) :: back).lookup key = some value := by
  rw [List.lookup_append, lookup_eq_none_iff.mpr absent, List.lookup_cons_self, Option.none_or]

theorem lookup_insert (key held : String) (value : α) (entries : List (String × α)) :
    (insert held value entries).lookup key = if key = held then some value else entries.lookup key := by
  induction entries with
  | nil =>
    by_cases same : key = held
    · simp [insert, same]
    · have other : (key == held) = false := by simpa using same
      simp [insert, List.lookup_cons, same, other]
  | cons entry rest ih =>
    obtain ⟨first, old⟩ := entry
    rw [insert]
    by_cases same : key = first
    · subst same
      by_cases replaced : key = held <;> simp [replaced]
    · have other : (key == first) = false := by simpa using same
      by_cases replaced : first = held
      · subst replaced
        simp [List.lookup_cons, other, same]
      · simp [replaced, List.lookup_cons, other, ih]

theorem mem_of_mem_insert {key : String} {value : α} {entries : List (String × α)} {entry : String × α}
    (member : entry ∈ insert key value entries) : entry = (key, value) ∨ entry ∈ entries := by
  induction entries with
  | nil => exact .inl (List.mem_singleton.mp member)
  | cons first rest ih =>
    rw [insert] at member
    split at member
    · rcases List.mem_cons.mp member with same | member
      · exact .inl same
      · exact .inr (List.mem_cons_of_mem first member)
    · rcases List.mem_cons.mp member with rfl | member
      · exact .inr List.mem_cons_self
      · exact (ih member).imp_right (List.mem_cons_of_mem first)

theorem mem_of_mem_ofList {pairs : List (String × α)} {entry : String × α} (member : entry ∈ ofList pairs) :
    entry ∈ pairs := by
  suffices step : ∀ held : List (String × α),
      entry ∈ pairs.foldl (fun held pair => insert pair.1 pair.2 held) held → entry ∈ held ∨ entry ∈ pairs from
    (step [] member).resolve_left List.not_mem_nil
  clear member
  induction pairs with
  | nil => exact fun held member => .inl member
  | cons pair rest ih =>
    intro held member
    rcases ih _ member with member | member
    · rcases mem_of_mem_insert member with same | member
      · exact .inr (List.mem_cons.mpr (.inl same))
      · exact .inl member
    · exact .inr (List.mem_cons_of_mem pair member)

theorem insert_of_not_mem {key : String} (value : α) {entries : List (String × α)}
    (absent : key ∉ keys entries) : insert key value entries = entries ++ [(key, value)] := by
  induction entries with
  | nil => rfl
  | cons entry rest ih =>
    have other : entry.1 ≠ key := fun same => absent (same ▸ List.mem_cons_self)
    have later : key ∉ keys rest := fun member => absent (List.mem_cons_of_mem _ member)
    rw [insert, if_neg other, ih later, List.cons_append]

theorem ofList_eq_self {pairs : List (String × α)} (distinct : (keys pairs).Nodup) : ofList pairs = pairs := by
  suffices step : ∀ held : List (String × α), (keys (held ++ pairs)).Nodup →
      pairs.foldl (fun held pair => insert pair.1 pair.2 held) held = held ++ pairs from step [] distinct
  clear distinct
  induction pairs with
  | nil => exact fun held _ => (List.append_nil held).symm
  | cons pair rest ih =>
    intro held distinct
    have absent : pair.1 ∉ keys held := by
      rw [keys, List.map_append, List.map_cons] at distinct
      exact fun member => (List.nodup_append.mp distinct).2.2 _ member _ List.mem_cons_self rfl
    rw [List.append_cons] at distinct ⊢
    rw [List.foldl_cons, insert_of_not_mem pair.2 absent]
    exact ih _ distinct

end CohortFilter.Entries
