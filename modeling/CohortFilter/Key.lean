import CohortFilter.Entries

namespace CohortFilter

namespace Key

def split? (mark : Char) (key : String) : Option (String × String) :=
  match key.toList.dropWhile (· != mark) with
  | [] => none
  | _ :: rest => some (String.ofList (key.toList.takeWhile (· != mark)), String.ofList rest)

def parent? (key : String) : Option String := (split? '.' key).map Prod.fst

/-- The field and the value of an anchor key, neither of them empty. -/
def anchor? (key : String) : Option (String × String) :=
  (split? ':' key).filter fun (field, value) => !field.isEmpty && !value.isEmpty

theorem length_split? {mark : Char} {key front rest : String} (found : split? mark key = some (front, rest)) :
    rest.length < key.length := by
  unfold split? at found
  split at found
  · cases found
  · rename_i head tail same
    cases found
    have bound : (key.toList.dropWhile (· != mark)).length ≤ key.toList.length :=
      (List.dropWhile_sublist _).length_le
    rw [same] at bound
    simp [← String.length_toList] at bound ⊢
    omega

end Key

/-- Entries without a point in their key, and for each path the entries under it with the rest of their
    key. Paths stand in the order of their first entry. -/
structure Groups (α : Type) where
  main : List (String × α)
  nested : List (String × List (String × α))

namespace Groups

variable {α : Type}

def empty : Groups α := ⟨[], []⟩

def add (groups : Groups α) (key : String) (item : α) : Groups α :=
  match Key.split? '.' key with
  | some (path, rest) => { groups with nested := Entries.append path (rest, item) groups.nested }
  | none => { groups with main := groups.main ++ [(key, item)] }

def ofEntries (entries : List (String × α)) : Groups α :=
  entries.foldl (fun groups entry => groups.add entry.1 entry.2) empty

def entryWeight (weight : α → Nat) (entry : String × α) : Nat := entry.1.length + weight entry.2

def entriesWeight (weight : α → Nat) : List (String × α) → Nat
  | [] => 0
  | entry :: rest => entryWeight weight entry + entriesWeight weight rest

def nestedWeight (weight : α → Nat) : List (String × List (String × α)) → Nat
  | [] => 0
  | (_, members) :: rest => 1 + entriesWeight weight members + nestedWeight weight rest

theorem entriesWeight_append (weight : α → Nat) (left right : List (String × α)) :
    entriesWeight weight (left ++ right) = entriesWeight weight left + entriesWeight weight right := by
  induction left with
  | nil => simp [entriesWeight]
  | cons entry rest ih =>
    simp only [List.cons_append, entriesWeight, ih]
    omega

theorem nestedWeight_append (weight : α → Nat) (path : String) (entry : String × α)
    (nested : List (String × List (String × α))) :
    nestedWeight weight (Entries.append path entry nested) ≤
      nestedWeight weight nested + 1 + entryWeight weight entry := by
  induction nested with
  | nil =>
    simp only [Entries.append, Entries.extend, nestedWeight, entriesWeight]
    omega
  | cons group rest ih =>
    obtain ⟨held, members⟩ := group
    rw [Entries.append] at ih ⊢
    by_cases same : held = path
    · simp only [Entries.extend, same, if_true, nestedWeight, entriesWeight_append, entriesWeight]
      omega
    · simp only [Entries.extend, same, if_false, nestedWeight]
      omega

theorem nestedWeight_foldl (weight : α → Nat) (entries : List (String × α)) (groups : Groups α) :
    nestedWeight weight (entries.foldl (fun groups entry => groups.add entry.1 entry.2) groups).nested ≤
      nestedWeight weight groups.nested + entriesWeight weight entries := by
  induction entries generalizing groups with
  | nil => simp [entriesWeight]
  | cons entry rest ih =>
    obtain ⟨key, item⟩ := entry
    have step : nestedWeight weight (groups.add key item).nested ≤
        nestedWeight weight groups.nested + entryWeight weight (key, item) := by
      unfold add
      split
      · rename_i path short found
        have shorter := Key.length_split? found
        have bound := nestedWeight_append weight path (short, item) groups.nested
        simp only [entryWeight] at bound ⊢
        omega
      · simp
    have tail := ih (groups.add key item)
    simp only [List.foldl_cons, entriesWeight] at tail ⊢
    omega

theorem entriesWeight_lt_nestedWeight {weight : α → Nat} {nested : List (String × List (String × α))}
    {group : String × List (String × α)} (member : group ∈ nested) :
    entriesWeight weight group.2 < nestedWeight weight nested := by
  induction nested with
  | nil => cases member
  | cons head rest ih =>
    simp only [nestedWeight]
    rcases List.mem_cons.mp member with rfl | member
    · omega
    · have := ih member
      omega

theorem entriesWeight_of_mem_nested {weight : α → Nat} {entries : List (String × α)}
    {group : String × List (String × α)} (member : group ∈ (ofEntries entries).nested) :
    entriesWeight weight group.2 < entriesWeight weight entries := by
  have total := nestedWeight_foldl weight entries empty
  have part := @entriesWeight_lt_nestedWeight _ weight _ _ member
  have start : nestedWeight weight (empty : Groups α).nested = 0 := rfl
  rw [start, Nat.zero_add] at total
  exact Nat.lt_of_lt_of_le part total

end Groups

end CohortFilter
