import Mathlib.Data.List.Induction
import Mathlib.Data.List.TakeWhile
import CohortFilter.Key

namespace CohortFilter

namespace Key

def segments (key : String) : List String := (key.toList.splitOn '.').map String.ofList

theorem split?_eq_some_iff {mark : Char} {key front rest : String} :
    split? mark key = some (front, rest) ↔
      mark ∉ front.toList ∧ key.toList = front.toList ++ mark :: rest.toList := by
  constructor
  · intro found
    unfold split? at found
    cases tail : key.toList.dropWhile (· != mark) with
    | nil => simp [tail] at found
    | cons head others =>
      simp only [tail, Option.some.injEq, Prod.mk.injEq] at found
      rcases found with ⟨rfl, rfl⟩
      have marked := List.head?_dropWhile_not (· != mark) key.toList
      rw [tail] at marked
      have same : head = mark := by simpa using marked
      have parts := List.takeWhile_append_dropWhile (p := (· != mark)) (l := key.toList)
      rw [tail, same] at parts
      refine ⟨fun member => ?_, by simpa using parts.symm⟩
      have unmarked := List.mem_takeWhile_imp (by simpa using member)
      simp at unmarked
  · intro parts
    rcases parts with ⟨absent, parts⟩
    have clear : ∀ c ∈ front.toList, (c != mark) = true := by
      intro c member
      simpa using fun same : c = mark => absent (same ▸ member)
    simp [split?, parts, List.dropWhile_append_of_pos clear, List.takeWhile_append_of_pos clear]

theorem split?_eq_none_iff {mark : Char} {key : String} : split? mark key = none ↔ mark ∉ key.toList := by
  have clear : key.toList.dropWhile (· != mark) = [] ↔ mark ∉ key.toList := by
    rw [List.dropWhile_eq_nil_iff]
    simpa using ⟨fun all member => all mark member rfl, fun absent c member same => absent (same ▸ member)⟩
  rw [← clear]
  unfold split?
  cases key.toList.dropWhile (· != mark) <;> simp

theorem mem_of_split? {mark : Char} {key front rest : String} (found : split? mark key = some (front, rest)) :
    mark ∈ key.toList := by
  rw [(split?_eq_some_iff.mp found).2]
  simp

theorem parent?_of_split? {key path rest : String} (found : split? '.' key = some (path, rest)) :
    parent? key = some path := by
  simp [parent?, found]

theorem dotless_of_parent? {key path : String} (parent : parent? key = some path) : '.' ∉ path.toList := by
  rcases Option.map_eq_some_iff.mp parent with ⟨⟨front, rest⟩, found, rfl⟩
  exact (split?_eq_some_iff.mp found).1

theorem split?_point_iff {path rest key : String} :
    split? '.' key = some (path, rest) ↔ '.' ∉ path.toList ∧ key = path ++ "." ++ rest := by
  rw [split?_eq_some_iff, ← String.toList_inj]
  simp [String.toList_append]

theorem segments_of_split?_none {key : String} (found : split? '.' key = none) : segments key = [key] := by
  have absent := split?_eq_none_iff.mp found
  simp [segments, List.splitOn_eq_singleton absent]

theorem segments_of_split?_some {key path rest : String} (found : split? '.' key = some (path, rest)) :
    segments key = path :: segments rest := by
  rcases split?_eq_some_iff.mp found with ⟨absent, parts⟩
  simp [segments, parts, List.splitOn_append_cons_self_of_not_mem absent]

theorem segments_ne_nil (key : String) : segments key ≠ [] := by
  simp [segments]

theorem segments_eq_concat_iff {key field : String} {path : List String} :
    segments key = path ++ [field] ↔
      (split? '.' key = none ∧ path = [] ∧ field = key) ∨
        ∃ first rest tail, split? '.' key = some (first, rest) ∧ path = first :: tail ∧
          segments rest = tail ++ [field] := by
  cases found : split? '.' key with
  | none =>
    rw [segments_of_split?_none found]
    cases path with
    | nil => simp [eq_comm]
    | cons => simp
  | some parts =>
    rcases parts with ⟨first, rest⟩
    rw [segments_of_split?_some found]
    cases path with
    | nil => simp [segments_ne_nil]
    | cons head tail => simp [and_assoc, eq_comm]

end Key

namespace Entries

variable {α : Type}

theorem extend_map (key : String) (added : List α) (values : String → List α) {keys : List String}
    (distinct : keys.Nodup) :
    extend key added (keys.map fun held => (held, values held)) =
      (keys.map fun held => (held, if key = held then values held ++ added else values held)) ++
        if key ∈ keys then [] else [(key, added)] := by
  induction keys with
  | nil => simp [extend]
  | cons held rest ih =>
    rcases List.nodup_cons.mp distinct with ⟨fresh, distinct⟩
    by_cases same : held = key
    · subst same
      have others : ∀ other ∈ rest, (other, if held = other then values other ++ added else values other) =
          (other, values other) := by
        intro other member
        have different : held ≠ other := fun equal => fresh (equal ▸ member)
        simp [different]
      simp [extend, List.map_congr_left others]
    · have other : ¬ key = held := fun equal => same equal.symm
      simp [extend, same, other, ih distinct]

theorem lookup_map (key : String) (value : String → α) (keys : List String) :
    (keys.map fun held => (held, value held)).lookup key = if key ∈ keys then some (value key) else none := by
  induction keys with
  | nil => rfl
  | cons held rest ih =>
    by_cases same : key = held
    · subst same
      simp
    · have different : (key == held) = false := by simpa using same
      simp [List.lookup_cons, different, same, ih]

end Entries

namespace Groups

variable {α : Type}

def undotted (entries : List (String × α)) : List (String × α) :=
  entries.filter fun entry => '.' ∉ entry.1.toList

def dotted (entries : List (String × α)) : List (String × α) :=
  entries.filter fun entry => '.' ∈ entry.1.toList

def paths (entries : List (String × α)) : List String :=
  (entries.filterMap fun entry => Key.parent? entry.1).eraseDups

def under (path : String) (entries : List (String × α)) : List (String × α) :=
  entries.filterMap fun entry =>
    match Key.split? '.' entry.1 with
    | some (front, rest) => if front = path then some (rest, entry.2) else none
    | none => none

theorem nodup_eraseDups (names : List String) : names.eraseDups.Nodup := by
  induction bound : names.length using Nat.strongRecOn generalizing names with
  | ind count ih =>
    cases names with
    | nil => simp
    | cons name rest =>
      rw [List.eraseDups_cons]
      have shorter := List.length_filter_le (fun other => !other == name) rest
      rw [List.length_cons] at bound
      exact List.nodup_cons.mpr ⟨by simp, ih _ (by omega) _ rfl⟩

theorem eraseDups_concat (names : List String) (name : String) :
    (names ++ [name]).eraseDups = names.eraseDups ++ if name ∈ names then [] else [name] := by
  rw [List.eraseDups_append]
  by_cases member : name ∈ names <;> simp [member, List.removeAll, List.eraseDups_cons]

theorem eraseDups_append_of_subset {names later : List String} (known : ∀ name ∈ later, name ∈ names) :
    (names ++ later).eraseDups = names.eraseDups := by
  have none : later.removeAll names = [] := List.filter_eq_nil_iff.mpr fun name member => by simp [known name member]
  rw [List.eraseDups_append, none, List.eraseDups_nil, List.append_nil]

theorem eraseDups_eq_self_iff {names : List String} : names.eraseDups = names ↔ names.Nodup := by
  refine ⟨fun same => same ▸ nodup_eraseDups names, fun distinct => ?_⟩
  induction names using List.reverseRecOn with
  | nil => rfl
  | append_singleton names name ih =>
    have parts := List.nodup_append.mp distinct
    have fresh : name ∉ names := fun member => parts.2.2 name member name List.mem_cons_self rfl
    rw [eraseDups_concat, ih parts.1, if_neg fresh]

theorem eraseDups_filter (keep : String → Bool) (names : List String) :
    (names.filter keep).eraseDups = names.eraseDups.filter keep := by
  induction names using List.reverseRecOn with
  | nil => rfl
  | append_singleton names name ih =>
    rw [List.filter_append, eraseDups_concat, List.filter_append]
    by_cases kept : keep name
    · rw [List.filter_cons_of_pos kept, List.filter_nil, eraseDups_concat, ih]
      by_cases member : name ∈ names <;> simp [member, kept]
    · by_cases member : name ∈ names <;> simp [member, kept, ih]

theorem eraseDups_append_congr {first second front back : List String} (starts : first.eraseDups = second.eraseDups)
    (ends : front.eraseDups = back.eraseDups) : (first ++ front).eraseDups = (second ++ back).eraseDups := by
  have members (name : String) : name ∈ first ↔ name ∈ second := by
    rw [← List.mem_eraseDups, starts, List.mem_eraseDups]
  have removed : front.removeAll first = front.removeAll second := by
    simp only [List.removeAll, List.elem_eq_mem, members]
  rw [List.eraseDups_append, List.eraseDups_append, starts, removed, List.removeAll, List.removeAll, eraseDups_filter,
    eraseDups_filter, ends]

theorem eraseDups_flatMap_congr {β : Type} {first second : β → List String} {items : List β}
    (each : ∀ item ∈ items, (first item).eraseDups = (second item).eraseDups) :
    (items.flatMap first).eraseDups = (items.flatMap second).eraseDups := by
  induction items with
  | nil => rfl
  | cons item rest ih =>
    rcases List.forall_mem_cons.mp each with ⟨here, later⟩
    rw [List.flatMap_cons, List.flatMap_cons]
    exact eraseDups_append_congr here (ih later)

theorem eraseDups_flatMap_replicate {count : String → Nat} {names : List String} (distinct : names.Nodup)
    (some : ∀ name ∈ names, count name ≠ 0) :
    (names.flatMap fun name => List.replicate (count name) name).eraseDups = names := by
  induction names with
  | nil => rfl
  | cons name rest ih =>
    rcases List.nodup_cons.mp distinct with ⟨fresh, distinct⟩
    rcases List.forall_mem_cons.mp some with ⟨first, later⟩
    rcases Nat.exists_eq_succ_of_ne_zero first with ⟨more, same⟩
    have others : (rest.flatMap fun name => List.replicate (count name) name).filter (fun other => !other == name) =
        rest.flatMap fun name => List.replicate (count name) name := by
      refine List.filter_eq_self.mpr fun other member => ?_
      rcases List.mem_flatMap.mp member with ⟨held, standing, repeated⟩
      rw [List.eq_of_mem_replicate repeated]
      have different : held ≠ name := fun equal => fresh (equal ▸ standing)
      simpa using different
    rw [List.flatMap_cons, same, List.replicate_succ, List.cons_append, List.eraseDups_cons, List.filter_append, others]
    simp [ih distinct later]

theorem nodup_paths (entries : List (String × α)) : (paths entries).Nodup := nodup_eraseDups _

theorem mem_paths {entries : List (String × α)} {path : String} :
    path ∈ paths entries ↔ ∃ entry ∈ entries, ∃ rest, Key.split? '.' entry.1 = some (path, rest) := by
  simp [paths, Key.parent?]

theorem mem_undotted {entries : List (String × α)} {entry : String × α} :
    entry ∈ undotted entries ↔ entry ∈ entries ∧ Key.split? '.' entry.1 = none := by
  simp [undotted, Key.split?_eq_none_iff]

theorem mem_under {entries : List (String × α)} {path rest : String} {item : α} :
    (rest, item) ∈ under path entries ↔
      ∃ key, (key, item) ∈ entries ∧ Key.split? '.' key = some (path, rest) := by
  simp only [under, List.mem_filterMap, Prod.exists]
  constructor
  · intro found
    rcases found with ⟨key, held, member, found⟩
    cases split : Key.split? '.' key with
    | none => simp [split] at found
    | some parts =>
      rcases parts with ⟨front, tail⟩
      simp only [split, Option.ite_none_right_eq_some, Option.some.injEq, Prod.mk.injEq] at found
      rcases found with ⟨rfl, rfl, rfl⟩
      exact ⟨key, member, split⟩
  · intro found
    rcases found with ⟨key, member, split⟩
    exact ⟨key, item, member, by simp [split]⟩

theorem under_eq_nil {entries : List (String × α)} {path : String} (absent : path ∉ paths entries) :
    under path entries = [] := by
  rw [List.eq_nil_iff_forall_not_mem]
  intro entry member
  rcases entry with ⟨rest, item⟩
  rcases mem_under.mp member with ⟨key, member, found⟩
  exact absent (mem_paths.mpr ⟨_, member, rest, found⟩)

theorem paths_concat_of_none {entries : List (String × α)} {entry : String × α}
    (found : Key.split? '.' entry.1 = none) : paths (entries ++ [entry]) = paths entries := by
  simp [paths, Key.parent?, found]

theorem paths_concat_of_some {entries : List (String × α)} {entry : String × α} {path rest : String}
    (found : Key.split? '.' entry.1 = some (path, rest)) :
    paths (entries ++ [entry]) = paths entries ++ if path ∈ paths entries then [] else [path] := by
  have parent := Key.parent?_of_split? found
  rw [paths, List.filterMap_append, List.filterMap_cons, parent, List.filterMap_nil, eraseDups_concat, paths]
  simp only [List.mem_eraseDups]

theorem under_concat_of_none {entries : List (String × α)} {entry : String × α} (path : String)
    (found : Key.split? '.' entry.1 = none) : under path (entries ++ [entry]) = under path entries := by
  simp [under, found]

theorem under_concat_of_some {entries : List (String × α)} {entry : String × α} {front rest : String}
    (path : String) (found : Key.split? '.' entry.1 = some (front, rest)) :
    under path (entries ++ [entry]) =
      if front = path then under path entries ++ [(rest, entry.2)] else under path entries := by
  by_cases same : front = path <;> simp [under, found, same]

theorem ofEntries_eq (entries : List (String × α)) :
    ofEntries entries =
      ⟨undotted entries, (paths entries).map fun path => (path, under path entries)⟩ := by
  induction entries using List.reverseRecOn with
  | nil => rfl
  | append_singleton entries entry ih =>
    have step : ofEntries (entries ++ [entry]) = (ofEntries entries).add entry.1 entry.2 := by
      simp [ofEntries]
    rw [step, ih]
    cases found : Key.split? '.' entry.1 with
    | none =>
      simp only [add, found, paths_concat_of_none found, under_concat_of_none _ found]
      simp [undotted, Key.split?_eq_none_iff.mp found]
    | some parts =>
      rcases parts with ⟨path, rest⟩
      simp only [add, found, Entries.append, Entries.extend_map _ _ _ (nodup_paths entries), paths_concat_of_some found,
        under_concat_of_some _ found, List.map_append]
      have main : undotted (entries ++ [entry]) = undotted entries := by
        simp [undotted, Key.mem_of_split? found]
      rw [main]
      by_cases member : path ∈ paths entries
      · simp [member]
      · simp [member, under_eq_nil member]

theorem mem_nested {entries : List (String × α)} {path : String} (member : path ∈ paths entries) :
    (path, under path entries) ∈ (ofEntries entries).nested := by
  rw [ofEntries_eq]
  exact List.mem_map.mpr ⟨path, member, rfl⟩

theorem under_lt {weight : α → Nat} {entries : List (String × α)} {path : String}
    (member : path ∈ paths entries) :
    entriesWeight weight (under path entries) < entriesWeight weight entries := by
  exact entriesWeight_of_mem_nested (mem_nested member)

@[elab_as_elim]
theorem induction {motive : List (String × α) → Prop}
    (step : ∀ entries, (∀ path ∈ paths entries, motive (under path entries)) → motive entries)
    (entries : List (String × α)) : motive entries := by
  induction size : entriesWeight (fun _ => 0) entries using Nat.strongRecOn generalizing entries with
  | ind size ih =>
    subst size
    exact step entries fun path member => ih _ (under_lt member) _ rfl

end Groups

namespace Entries

variable {α : Type}

def valuesAt (key : String) (pairs : List (String × α)) : List α :=
  pairs.filterMap fun (held, value) => if held = key then some value else none

theorem valuesAt_concat (key : String) (pairs : List (String × α)) (pair : String × α) :
    valuesAt key (pairs ++ [pair]) =
      if pair.1 = key then valuesAt key pairs ++ [pair.2] else valuesAt key pairs := by
  by_cases same : pair.1 = key <;> simp [valuesAt, same]

theorem valuesAt_eq_nil {key : String} {pairs : List (String × α)} (absent : key ∉ keys pairs) :
    valuesAt key pairs = [] := by
  refine List.filterMap_eq_nil_iff.mpr fun pair member => if_neg ?_
  rintro rfl
  exact absent (List.mem_map_of_mem member)

theorem valuesAt_of_mem {key : String} {value : α} {pairs : List (String × α)} (distinct : (keys pairs).Nodup)
    (member : (key, value) ∈ pairs) : valuesAt key pairs = [value] := by
  rcases List.mem_iff_append.mp member with ⟨front, back, rfl⟩
  rw [keys, List.map_append, List.map_cons, List.nodup_append] at distinct
  rcases distinct with ⟨-, behind, apart⟩
  have before : key ∉ keys front := fun held => apart key held key List.mem_cons_self rfl
  have after : key ∉ keys back := (List.nodup_cons.mp behind).1
  calc valuesAt key (front ++ (key, value) :: back)
    _ = valuesAt key front ++ valuesAt key ((key, value) :: back) := List.filterMap_append
    _ = [] ++ (value :: valuesAt key back) := by rw [valuesAt_eq_nil before]; simp [valuesAt]
    _ = [value] := by rw [valuesAt_eq_nil after, List.nil_append]

theorem valuesAt_append (key : String) (front back : List (String × α)) :
    valuesAt key (front ++ back) = valuesAt key front ++ valuesAt key back := List.filterMap_append

theorem valuesAt_map {β : Type} (key : String) (f : α → β) (pairs : List (String × α)) :
    valuesAt key (pairs.map fun pair => (pair.1, f pair.2)) = (valuesAt key pairs).map f := by
  induction pairs using List.reverseRecOn with
  | nil => rfl
  | append_singleton pairs pair ih =>
    rw [List.map_append, List.map_singleton, valuesAt_concat, valuesAt_concat, ih]
    split
    · rw [List.map_append, List.map_singleton]
    · rfl

/-- Lists added one by one are collected by their keys, behind the names that stood there with empty lists. -/
theorem foldl_extend_eq {names : List String} (distinct : names.Nodup) (pairs : List (String × List α)) :
    pairs.foldl (fun groups pair => extend pair.1 pair.2 groups) (names.map fun name => (name, [])) =
      (names ++ keys pairs).eraseDups.map fun key => (key, (valuesAt key pairs).flatten) := by
  induction pairs using List.reverseRecOn with
  | nil =>
    rw [keys, List.map_nil, List.append_nil, Groups.eraseDups_eq_self_iff.mpr distinct]
    rfl
  | append_singleton pairs pair ih =>
    have known : names ++ keys (pairs ++ [pair]) = (names ++ keys pairs) ++ [pair.1] := by
      rw [keys, List.map_append, ← List.append_assoc, keys, List.map_singleton]
    have joined (key : String) : (valuesAt key (pairs ++ [pair])).flatten =
        if pair.1 = key then (valuesAt key pairs).flatten ++ pair.2 else (valuesAt key pairs).flatten := by
      rw [valuesAt_concat]
      split <;> simp
    rw [List.foldl_append, ih, List.foldl_cons, List.foldl_nil, extend_map _ _ _ (Groups.nodup_eraseDups _), known,
      Groups.eraseDups_concat, List.map_append]
    simp only [joined, List.mem_eraseDups]
    -- A list goes to the key it finds, or opens one that has had no lists so far.
    by_cases member : pair.1 ∈ names ++ keys pairs
    · simp only [if_pos member, List.map_nil]
    · have absent : pair.1 ∉ keys pairs := fun held => member (List.mem_append_right names held)
      simp only [if_neg member, List.map_singleton, valuesAt_eq_nil absent, List.flatten_nil, List.nil_append, if_pos]

theorem foldl_append_eq {names : List String} (distinct : names.Nodup) (pairs : List (String × α)) :
    pairs.foldl (fun groups pair => append pair.1 pair.2 groups) (names.map fun name => (name, [])) =
      (names ++ keys pairs).eraseDups.map fun key => (key, valuesAt key pairs) := by
  have collected := foldl_extend_eq distinct (pairs.map fun pair => (pair.1, [pair.2]))
  have names' : keys (pairs.map fun pair => (pair.1, [pair.2])) = keys pairs := by simp [keys]
  have single (key : String) :
      (valuesAt key (pairs.map fun pair => (pair.1, [pair.2]))).flatten = valuesAt key pairs := by
    rw [valuesAt_map key fun value => [value]]
    exact List.flatMap_singleton' _
  rw [List.foldl_map, names'] at collected
  simp only [single] at collected
  exact collected

end Entries

end CohortFilter
