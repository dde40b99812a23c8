import Mathlib.Data.List.Perm.Basic
import CohortFilter.Proofs.Grouping

namespace CohortFilter

namespace Key

def front (key : String) : String := (segments key).head (segments_ne_nil key)

def isUnder (path key : String) : Bool := (path ++ ".").toList.isPrefixOf key.toList

theorem parent?_eq (key : String) : parent? key = if '.' ∈ key.toList then some (front key) else none := by
  cases found : split? '.' key with
  | none => rw [parent?, found, if_neg (split?_eq_none_iff.mp found), Option.map_none]
  | some parts =>
    have first : front key = parts.1 := by simp [front, segments_of_split?_some found]
    rw [parent?_of_split? found, if_pos (mem_of_split? found), first]

theorem isUnder_iff {path key : String} : isUnder path key ↔ ∃ rest, key = path ++ "." ++ rest := by
  rw [isUnder, List.isPrefixOf_iff_prefix]
  constructor
  · rintro ⟨rest, parts⟩
    refine ⟨String.ofList rest, String.toList_injective ?_⟩
    rw [String.toList_append, String.toList_ofList, parts]
  · rintro ⟨rest, rfl⟩
    exact ⟨rest.toList, String.toList_append.symm⟩

theorem isUnder_iff_exists_split? {path key : String} (dotless : '.' ∉ path.toList) :
    isUnder path key ↔ ∃ rest, split? '.' key = some (path, rest) := by
  rw [isUnder_iff]
  exact exists_congr fun rest => by rw [split?_point_iff, and_iff_right dotless]

end Key

namespace Groups

variable {α : Type}

def sources (path : String) (entries : List (String × α)) : List (String × α) :=
  entries.filter fun entry => Key.isUnder path entry.1

def rejoin (path : String) (members : List (String × α)) : List (String × α) :=
  members.map fun member => (path ++ "." ++ member.1, member.2)

def rejoinAll (nested : List (String × List (String × α))) : List (String × α) :=
  nested.flatMap fun group => rejoin group.1 group.2

def rejoined (groups : Groups α) : List (String × α) := groups.main ++ rejoinAll groups.nested

def pointCount (entries : List (String × α)) : Nat := (entries.flatMap fun entry => entry.1.toList).count '.'

/-- Each group has its entries in their order, and the paths come in the order in which the entries bring them. -/
structure Partitions (groups : Groups α) (entries : List (String × α)) : Prop where
  main : groups.main = undotted entries
  distinct : (Entries.keys groups.nested).Nodup
  dotless : ∀ path ∈ Entries.keys groups.nested, '.' ∉ path.toList
  ordered : Entries.keys groups.nested = ((dotted entries).map fun entry => Key.front entry.1).eraseDups
  members : ∀ group ∈ groups.nested, rejoin group.1 group.2 = sources group.1 entries

section Rejoining

theorem rejoin_injective (path : String) : Function.Injective (rejoin (α := α) path) := by
  apply List.map_injective_iff.mpr
  rintro ⟨rest, item⟩ ⟨other, _⟩ same
  obtain ⟨keys, rfl⟩ := Prod.mk.inj same
  have rests := congrArg String.toList keys
  simp only [String.toList_append, List.append_cancel_left_eq] at rests
  rw [String.toList_injective rests]

theorem sources_concat (path : String) (entries : List (String × α)) (entry : String × α) :
    sources path (entries ++ [entry]) =
      if Key.isUnder path entry.1 then sources path entries ++ [entry] else sources path entries := by
  by_cases standing : Key.isUnder path entry.1 <;> simp [sources, standing]

/-- The path must have no point: a longer one is a beginning of keys that stand under its first part. -/
theorem rejoin_under {path : String} (dotless : '.' ∉ path.toList) (entries : List (String × α)) :
    rejoin path (under path entries) = sources path entries := by
  induction entries using List.reverseRecOn with
  | nil => rfl
  | append_singleton entries entry ih =>
    rw [sources_concat]
    cases found : Key.split? '.' entry.1 with
    | none =>
      have other : ¬ Key.isUnder path entry.1 := by simp [Key.isUnder_iff_exists_split? dotless, found]
      rw [under_concat_of_none path found, if_neg other, ih]
    | some parts =>
      obtain ⟨front, rest⟩ := parts
      have standing : Key.isUnder path entry.1 ↔ front = path := by
        simp [Key.isUnder_iff_exists_split? dotless, found]
      simp only [under_concat_of_some path found, standing]
      by_cases same : front = path
      · subst same
        have whole := (Key.split?_point_iff.mp found).2
        rw [if_pos rfl, if_pos rfl, rejoin, List.map_append, ← rejoin, ih, List.map_singleton, ← whole]
      · rw [if_neg same, if_neg same, ih]

theorem rejoinAll_append (path rest : String) (item : α) (nested : List (String × List (String × α))) :
    (rejoinAll (Entries.append path (rest, item) nested)).Perm (rejoinAll nested ++ [(path ++ "." ++ rest, item)]) := by
  induction nested with
  | nil => rfl
  | cons group others ih =>
    obtain ⟨held, members⟩ := group
    by_cases same : held = path
    · subst same
      -- The entry is the last of its group, so it has to pass the groups behind that one.
      have moved : ([(held ++ "." ++ rest, item)] ++ rejoinAll others).Perm
          (rejoinAll others ++ [(held ++ "." ++ rest, item)]) := List.perm_append_comm
      simpa [Entries.append, Entries.extend, rejoinAll, rejoin] using moved.append_left (rejoin held members)
    · simpa [Entries.append, Entries.extend, rejoinAll, same] using ih.append_left (rejoin held members)

theorem rejoined_add (groups : Groups α) (key : String) (item : α) :
    (groups.add key item).rejoined.Perm (groups.rejoined ++ [(key, item)]) := by
  cases found : Key.split? '.' key with
  | none =>
    have moved : ([(key, item)] ++ rejoinAll groups.nested).Perm (rejoinAll groups.nested ++ [(key, item)]) :=
      List.perm_append_comm
    simpa [add, found, rejoined] using moved.append_left groups.main
  | some parts =>
    obtain ⟨path, rest⟩ := parts
    have appended := (rejoinAll_append path rest item groups.nested).append_left groups.main
    rw [← (Key.split?_point_iff.mp found).2] at appended
    simpa [add, found, rejoined] using appended

theorem rejoined_foldl (entries : List (String × α)) (groups : Groups α) :
    (entries.foldl (fun groups entry => groups.add entry.1 entry.2) groups).rejoined.Perm
      (groups.rejoined ++ entries) := by
  induction entries generalizing groups with
  | nil => simp
  | cons entry rest ih =>
    rw [List.foldl_cons, List.append_cons]
    exact (ih _).trans ((rejoined_add groups entry.1 entry.2).append_right rest)

theorem rejoined_ofEntries (entries : List (String × α)) : (ofEntries entries).rejoined.Perm entries :=
  rejoined_foldl entries empty

end Rejoining

section Members

variable {entries : List (String × α)} {path : String}

theorem dotless_of_mem_paths (member : path ∈ paths entries) : '.' ∉ path.toList := by
  rw [paths, List.mem_eraseDups] at member
  obtain ⟨entry, -, parent⟩ := List.mem_filterMap.mp member
  exact Key.dotless_of_parent? parent

theorem paths_eq (entries : List (String × α)) :
    paths entries = ((dotted entries).map fun entry => Key.front entry.1).eraseDups := by
  have fronts : (entries.filterMap fun entry => Key.parent? entry.1) =
      (dotted entries).map fun entry => Key.front entry.1 := by
    induction entries with
    | nil => rfl
    | cons entry rest ih =>
      rw [List.filterMap_cons, Key.parent?_eq, ih]
      by_cases point : '.' ∈ entry.1.toList <;> simp [dotted, point]
  rw [paths, fronts]

theorem keys_nested (entries : List (String × α)) : Entries.keys (ofEntries entries).nested = paths entries := by
  rw [ofEntries_eq, Entries.keys, List.map_map]
  exact List.map_id _

theorem exists_of_mem_nested {group : String × List (String × α)} (member : group ∈ (ofEntries entries).nested) :
    ∃ path ∈ paths entries, group = (path, under path entries) := by
  rw [ofEntries_eq] at member
  obtain ⟨path, named, rfl⟩ := List.mem_map.mp member
  exact ⟨path, named, rfl⟩

theorem under_ne_nil (member : path ∈ paths entries) : under path entries ≠ [] := by
  obtain ⟨⟨key, item⟩, held, rest, found⟩ := mem_paths.mp member
  exact List.ne_nil_of_mem (mem_under.mpr ⟨key, held, found⟩)

theorem partitions_ofEntries (entries : List (String × α)) : (ofEntries entries).Partitions entries where
  main := by rw [ofEntries_eq]
  distinct := by
    rw [keys_nested]
    exact nodup_paths entries
  dotless path member := by
    rw [keys_nested] at member
    exact dotless_of_mem_paths member
  ordered := by rw [keys_nested, paths_eq]
  members group member := by
    obtain ⟨path, named, rfl⟩ := exists_of_mem_nested member
    exact rejoin_under (dotless_of_mem_paths named) entries

theorem Partitions.eq_ofEntries {groups : Groups α} (parts : groups.Partitions entries) :
    groups = ofEntries entries := by
  have names : Entries.keys groups.nested = paths entries := parts.ordered.trans (paths_eq entries).symm
  -- A path and the whole keys leave only one rest for each member.
  have each : ∀ group ∈ groups.nested, group = (group.1, under group.1 entries) := by
    intro group member
    have dotless := parts.dotless group.1 (List.mem_map_of_mem member)
    have same := (parts.members group member).trans (rejoin_under dotless entries).symm
    exact Prod.ext rfl (rejoin_injective group.1 same)
  have nested : groups.nested = (paths entries).map fun path => (path, under path entries) :=
    calc groups.nested
      _ = groups.nested.map fun group => (group.1, under group.1 entries) :=
        (List.map_id _).symm.trans (List.map_congr_left each)
      _ = (Entries.keys groups.nested).map fun path => (path, under path entries) := by
        rw [Entries.keys, List.map_map]
        rfl
      _ = (paths entries).map fun path => (path, under path entries) := by rw [names]
  rw [ofEntries_eq]
  cases groups
  exact congrArg₂ Groups.mk parts.main nested

end Members

section Points

theorem pointCount_cons (entry : String × α) (rest : List (String × α)) :
    pointCount (entry :: rest) = entry.1.toList.count '.' + pointCount rest := by
  rw [pointCount, List.flatMap_cons, List.count_append, ← pointCount]

theorem pointCount_rejoin {path : String} (dotless : '.' ∉ path.toList) (members : List (String × α)) :
    pointCount (rejoin path members) = pointCount members + members.length := by
  induction members with
  | nil => rfl
  | cons member rest ih =>
    have clear : path.toList.count '.' = 0 := List.count_eq_zero.mpr dotless
    have whole : (path ++ "." ++ member.1).toList.count '.' = member.1.toList.count '.' + 1 := by
      simp [String.toList_append, clear, Nat.add_comm]
    rw [rejoin, List.map_cons, ← rejoin, pointCount_cons, pointCount_cons, List.length_cons, whole, ih]
    omega

theorem pointCount_lt_of_mem {entries : List (String × α)} {group : String × List (String × α)}
    (member : group ∈ (ofEntries entries).nested) : pointCount group.2 < pointCount (sources group.1 entries) := by
  obtain ⟨path, named, rfl⟩ := exists_of_mem_nested member
  have dotless := dotless_of_mem_paths named
  rw [← rejoin_under dotless, pointCount_rejoin dotless]
  exact Nat.lt_add_of_pos_right (List.length_pos_iff.mpr (under_ne_nil named))

end Points

/-- The groups of entries are the only partition of them that keeps their order. With their whole keys the members are
    the entries again, and the keys under a path have fewer points than those they come from. -/
theorem ofEntries_stable_partition (entries : List (String × α)) :
    let groups := ofEntries entries
    groups.Partitions entries ∧ (∀ others : Groups α, others.Partitions entries → others = groups) ∧
      groups.rejoined.Perm entries ∧
      ∀ group ∈ groups.nested, pointCount group.2 < pointCount (sources group.1 entries) := by
  intro groups
  refine ⟨partitions_ofEntries entries, ?_, rejoined_ofEntries entries, ?_⟩
  · exact fun others parts => parts.eq_ofEntries
  · exact fun group member => pointCount_lt_of_mem member

theorem ofEntries_stable_partition_emptyParts :
    let entries := [("a.", 0), ("top", 1), (".a", 2), ("a..b", 3), ("ab.c", 4), ("a.", 5), ("..", 6)]
    let members := [("", 0), (".b", 3), ("", 5)]
    let groups : Groups Nat := ⟨[("top", 1)], [("a", members), ("", [("a", 2), (".", 6)]), ("ab", [("c", 4)])]⟩
    groups.Partitions entries ∧ groups = ofEntries entries ∧ groups.rejoined.Perm entries ∧
      ("a", members) ∈ (ofEntries entries).nested ∧ pointCount members < pointCount (sources "a" entries) := by
  intro entries members groups
  have parts : groups.Partitions entries :=
    ⟨by decide, by decide, by decide, by decide, by decide⟩
  obtain ⟨-, only, rejoined, fewer⟩ := ofEntries_stable_partition entries
  have same : groups = ofEntries entries := only groups parts
  have member : ("a", members) ∈ groups.nested := by decide
  rw [same] at member
  exact ⟨parts, same, same ▸ rejoined, member, fewer _ member⟩

end Groups

end CohortFilter
