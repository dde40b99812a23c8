import Mathlib.Logic.Relation
import CohortFilter.Proofs.Counterparts

namespace CohortFilter

/-- What an object is read as: a filter, the filter of a field, or the map of fields under a `value`. -/
inductive Role
  | state
  | field
  | map

namespace Role

def markers : Role → List (List String)
  | .state | .field => [Marker.tagKeys, Marker.modeKeys]
  | .map => [Marker.modeKeys]

def under? : Role → String → Option Role
  | .state, name | .field, name => if name = "value" then some .map else none
  | .map, key => if Marker.isModeKey key then none else some .field

end Role

/-- One marker has its other name. It stands once in its object, so the other name is free there. An array under a
    `value` holds filters. -/
inductive Respelled : Role → Json → Json → Prop
  | marker {role : Role} {names : List String} {old new : String} (front back : List (String × Json)) (value : Json) :
    names ∈ role.markers → old ∈ names → new ∈ names → (∀ name ∈ names, name ∉ Entries.keys (front ++ back)) →
    Respelled role (.object (front ++ (old, value) :: back)) (.object (front ++ (new, value) :: back))
  | member {role inner : Role} {key : String} {value other : Json} (front back : List (String × Json)) :
    role.under? key = some inner → Respelled inner value other →
    Respelled role (.object (front ++ (key, value) :: back)) (.object (front ++ (key, other) :: back))
  | item {item other : Json} (front back : List Json) : Respelled .state item other →
    Respelled .map (.array (front ++ item :: back)) (.array (front ++ other :: back))

theorem Respelled.like {role : Role} {value other : Json} (respelled : Respelled role value other) :
    value.Like other := by
  induction respelled with
  | marker => exact .object _ _
  | member => exact .object _ _
  | item front back _ ih =>
    have same (items : List Json) : List.Forall₂ Json.Like items items :=
      List.forall₂_same.mpr fun item _ => .same item
    exact .array (List.rel_append (same front) (.cons ih (same back)))

theorem Entries.lookup_eq_of_not_mem {α : Type} {names : List String} {old new name : String}
    (front back : List (String × α)) (value : α) (named : old ∈ names) (named' : new ∈ names) (different : name ∉ names) :
    (front ++ (old, value) :: back).lookup name = (front ++ (new, value) :: back).lookup name := by
  have first : name ≠ old := fun same => different (same.symm ▸ named)
  have second : name ≠ new := fun same => different (same.symm ▸ named')
  rw [lookup_append_cons_of_ne front back value first, lookup_append_cons_of_ne front back value second]

theorem Entries.lookup_append_cons_rel {α : Type} {related : α → α → Prop} (same : ∀ value, related value value)
    (front back : List (String × α)) (key : String) {value value' : α} (alike : related value value') (name : String) :
    Option.Rel related ((front ++ (key, value) :: back).lookup name) ((front ++ (key, value') :: back).lookup name) := by
  rw [List.lookup_append, List.lookup_append]
  cases front.lookup name with
  | some found => exact .some (same found)
  | none =>
    rw [List.lookup_cons, List.lookup_cons]
    cases name == key with
    | true => exact .some alike
    | false => exact Outcome.rel_refl same (back.lookup name)

namespace Marker

variable {names : List String} {front back members others : List (String × Json)}

theorem find?_of_once {key : String} (value : Json) (named : key ∈ names)
    (once : ∀ name ∈ names, name ∉ Entries.keys (front ++ back)) :
    find? names (front ++ (key, value) :: back) = some value := by
  have other (name : String) (member : name ∈ names) (different : name ≠ key) :
      (front ++ (key, value) :: back).lookup name = none := by
    rw [Entries.lookup_append_cons_of_ne front back value different]
    exact Entries.lookup_eq_none_iff.mpr (once name member)
  have own : (front ++ (key, value) :: back).lookup key = some value := by
    apply Entries.lookup_append_cons_self
    intro member
    rcases List.mem_map.mp member with ⟨entry, held, same⟩
    exact once key named (List.mem_map.mpr ⟨entry, List.mem_append_left back held, same⟩)
  unfold find?
  clear once
  induction names with
  | nil => nomatch named
  | cons name rest ih =>
    rw [List.findSome?_cons]
    by_cases same : name = key
    · rw [same, own]
    · rw [other name List.mem_cons_self same]
      exact ih ((List.mem_cons.mp named).resolve_left (Ne.symm same)) fun name member =>
        other name (List.mem_cons_of_mem _ member)

theorem LooksAlike.of_marker {old new : String} (value : Json) (marker : names ∈ Role.state.markers)
    (named : old ∈ names) (named' : new ∈ names) (once : ∀ name ∈ names, name ∉ Entries.keys (front ++ back)) :
    LooksAlike (front ++ (old, value) :: back) (front ++ (new, value) :: back) := by
  have own : Option.Rel Json.Like (find? names (front ++ (old, value) :: back))
      (find? names (front ++ (new, value) :: back)) := by
    rw [find?_of_once value named once, find?_of_once value named' once]
    exact .some (.same value)
  have passed (name : String) (different : name ∉ names) :
      (front ++ (old, value) :: back).lookup name = (front ++ (new, value) :: back).lookup name :=
    Entries.lookup_eq_of_not_mem front back value named named' different
  have other {others : List String} (apart : ∀ name ∈ others, name ∉ names) :
      Option.Rel Json.Like (find? others (front ++ (old, value) :: back))
        (find? others (front ++ (new, value) :: back)) := by
    rw [find?_congr fun name member => passed name (apart name member)]
    exact Outcome.rel_refl .same _
  have rest (hidden : ∀ name ∈ names, isMarker name = true) (name : String) (unmarked : isMarker name = false) :
      Option.Rel Json.Like ((front ++ (old, value) :: back).lookup name)
        ((front ++ (new, value) :: back).lookup name) := by
    rw [passed name fun member => Bool.noConfusion ((hidden name member).symm.trans unmarked)]
    exact Outcome.rel_refl .same _
  simp only [Role.markers, List.mem_cons, List.not_mem_nil, or_false] at marker
  rcases marker with rfl | rfl
  · exact ⟨own, other (by decide), rest (by decide)⟩
  · exact ⟨other (by decide), own, rest (by decide)⟩

end Marker

namespace FilterRef

def SameMember (entry other : String × Json) : Prop :=
  entry.2.Like other.2 ∧ (entry.1 = other.1 ∨ Skipped entry.1 ∧ Skipped other.1)

theorem agree_putMembers {entries others : List (String × Json)} {seen : List String} {draft : FilterRef.Draft}
    (each : List.Forall₂ SameMember entries others) :
    Outcome.Agree (fun _ _ => True) Eq (record.putMembers seen draft (Document.ofMembers entries))
      (record.putMembers seen draft (Document.ofMembers others)) := by
  induction each generalizing seen draft with
  | nil => exact .made rfl
  | @cons entry other entries others head rest ih =>
    obtain ⟨key, value⟩ := entry
    obtain ⟨key', value'⟩ := other
    obtain ⟨like, named⟩ := head
    rcases named with same | ⟨skipped, skipped'⟩
    · dsimp only at same
      subst same
      cases found : record.fields.find? (·.name == key) with
      | none =>
        rw [putMembers_cons_of_skipped found, putMembers_cons_of_skipped found]
        exact ih
      | some field =>
        simp only [Document.ofMembers, Shape.Record.putMembers, found]
        split
        · exact .failed True.intro
        · have put := agree_put like field (List.mem_of_find?_eq_some found) draft
          generalize field.put (Document.ofJson value) draft = here at put
          generalize field.put (Document.ofJson value') draft = there at put
          cases put with
          | failed => exact .failed True.intro
          | made same =>
            subst same
            exact ih
    · rw [putMembers_cons_of_skipped skipped, putMembers_cons_of_skipped skipped']
      exact ih

theorem agree_read_object {entry other : String × Json} (front back : List (String × Json))
    (same : SameMember entry other) :
    Outcome.Agree (fun _ _ => True) Eq (Shape.ofJson record.read (.object (front ++ entry :: back)))
      (Shape.ofJson record.read (.object (front ++ other :: back))) := by
  have kept (entries : List (String × Json)) : List.Forall₂ SameMember entries entries :=
    List.forall₂_same.mpr fun entry _ => ⟨.same entry.2, .inl rfl⟩
  apply (agree_putMembers (List.rel_append (kept front) (.cons same (kept back)))).bind_eq
  exact fun draft _ => .of_eq _ (fun _ => True.intro) rfl

end FilterRef

namespace Marker

variable {α : Type} {front back : List (String × Json)} {key : String} {value other : Json}

theorem foundMode_append_cons (owner : Option String) (known : Option CombineMode) (unmarked : isModeKey key = false) :
    foundMode owner known (front ++ (key, value) :: back) = foundMode owner known (front ++ back) := by
  have skipped : (front ++ (key, value) :: back).find? (fun entry => isModeKey entry.1) =
      (front ++ back).find? fun entry => isModeKey entry.1 := by
    rw [List.find?_append, List.find?_append, List.find?_cons_of_neg]
    simp [unmarked]
  unfold foundMode
  rw [skipped]

theorem agree_foundMode {old new : String} (owner : Option String) (known : Option CombineMode) (value : Json)
    (named : old ∈ modeKeys) (named' : new ∈ modeKeys)
    (once : ∀ name ∈ modeKeys, name ∉ Entries.keys (front ++ back)) :
    Outcome.Agree (fun _ _ => True) Eq (foundMode owner known (front ++ (old, value) :: back))
      (foundMode owner known (front ++ (new, value) :: back)) := by
  have found {name : String} (named : name ∈ modeKeys) :
      (front ++ (name, value) :: back).find? (fun entry => isModeKey entry.1) = some (name, value) := by
    have passed : front.find? (fun entry => isModeKey entry.1) = none := by
      rw [List.find?_eq_none]
      intro entry member marked
      exact once entry.1 (List.contains_iff_mem.mp marked) (List.mem_map_of_mem (List.mem_append_left back member))
    rw [List.find?_append, passed, Option.none_or, List.find?_cons_of_pos]
    exact List.contains_iff_mem.mpr named
  unfold foundMode
  rw [found named, found named']
  cases known with
  | some mode => exact .made rfl
  | none =>
    dsimp only
    unfold modeOf
    cases value.text?.bind CombineMode.ofName? with
    | some mode => exact .made rfl
    | none => exact .failed True.intro

theorem agree_readFields {read : String → Json → Except FilterError α} (unmarked : isModeKey key = false)
    (agreed : Outcome.Agree FilterError.SameKind Eq (read key value) (read key other)) :
    Outcome.Agree (fun _ _ => True) Eq (readFields read (front ++ (key, value) :: back))
      (readFields read (front ++ (key, other) :: back)) := by
  let step (entry : String × Json) : Except FilterError (String × α) :=
    (read entry.1 entry.2).map fun field => (entry.1, field)
  have same (entries : List (String × Json)) : List.Forall₂ (fun entry other =>
      Outcome.Agree (fun _ _ => True) Eq (step entry) (step other)) entries entries :=
    List.forall₂_same.mpr fun entry _ => .of_eq _ (fun _ => True.intro) rfl
  have here : Outcome.Agree (fun _ _ => True) Eq (step (key, value)) (step (key, other)) := by
    have unnamed : Outcome.Agree (fun _ _ => True) Eq (read key value) (read key other) :=
      agreed.imp (fun _ _ _ => True.intro) fun _ _ same => same
    exact unnamed.map_eq _
  have kept (value : Json) : Marker.unmarked (front ++ (key, value) :: back) =
      Marker.unmarked front ++ (key, value) :: Marker.unmarked back := by
    simp [Marker.unmarked, unmarked]
  unfold readFields
  rw [kept, kept, ← List.forall₂_eq_eq_eq]
  exact Outcome.Agree.mapM (List.rel_append (same _) (.cons here (same _)))

theorem readFields_marker {read : String → Json → Except FilterError α} {old new : String} (value : Json)
    (named : old ∈ modeKeys) (named' : new ∈ modeKeys) :
    readFields read (front ++ (old, value) :: back) = readFields read (front ++ (new, value) :: back) := by
  have passed {name : String} (named : name ∈ modeKeys) :
      unmarked (front ++ (name, value) :: back) = unmarked front ++ unmarked back := by
    have marked : isModeKey name = true := List.contains_iff_mem.mpr named
    simp [unmarked, marked]
  unfold readFields
  rw [passed named, passed named']

end Marker

structure MapsAlike (entries others : List (String × Json)) : Prop where
  id : Option.Rel Json.Like (entries.lookup "id") (others.lookup "id")
  reference : Outcome.Agree (fun _ _ => True) Eq (Shape.ofJson FilterRef.record.read (.object entries))
    (Shape.ofJson FilterRef.record.read (.object others))
  mode (owner : Option String) (known : Option CombineMode) :
    Outcome.Agree (fun _ _ => True) Eq (Marker.foundMode owner known entries) (Marker.foundMode owner known others)
  fields : Outcome.Agree (fun _ _ => True) Eq (Marker.readFields FieldFilter.ofJson entries)
    (Marker.readFields FieldFilter.ofJson others)
  anchored : Outcome.Agree (fun _ _ => True) Eq (Marker.readFields AnchoredFilter.ofJson entries)
    (Marker.readFields AnchoredFilter.ofJson others)
  plain : Outcome.Agree (fun _ _ => True) Eq (Marker.readFields AnchoredFilter.plainField entries)
    (Marker.readFields AnchoredFilter.plainField others)

namespace Role

/-- The readers for this role give the same filter for both values, or refuse both for one kind of fault. -/
def Alike : Role → Json → Json → Prop
  | .state, value, other =>
    Outcome.Agree FilterError.SameKind Eq (FilterState.ofJson value) (FilterState.ofJson other)
  | .field, value, other => ∀ key,
    Outcome.Agree FilterError.SameKind Eq (FieldFilter.ofJson key value) (FieldFilter.ofJson key other) ∧
      Outcome.Agree FilterError.SameKind Eq (AnchoredFilter.ofJson key value) (AnchoredFilter.ofJson key other) ∧
      Outcome.Agree FilterError.SameKind Eq (AnchoredFilter.plainField key value) (AnchoredFilter.plainField key other)
  | .map, value, other =>
    (∀ entries others, value = .object entries → other = .object others → MapsAlike entries others) ∧
      ∀ items others, value = .array items → other = .array others →
        List.Forall₂ (fun item other =>
          Outcome.Agree FilterError.SameKind Eq (FilterState.ofJson item) (FilterState.ofJson other)) items others

end Role

theorem MapsAlike.refl (entries : List (String × Json)) : MapsAlike entries entries := by
  have same {ε α : Type} (first : Except ε α) : Outcome.Agree (fun _ _ => True) Eq first first :=
    .of_eq first (fun _ => True.intro) rfl
  exact ⟨Outcome.rel_refl .same _, same _, fun _ _ => same _, same _, same _, same _⟩

theorem MapsAlike.of_marker {old new : String} {front back : List (String × Json)} (value : Json)
    (named : old ∈ Marker.modeKeys) (named' : new ∈ Marker.modeKeys)
    (once : ∀ name ∈ Marker.modeKeys, name ∉ Entries.keys (front ++ back)) :
    MapsAlike (front ++ (old, value) :: back) (front ++ (new, value) :: back) where
  id := by
    rw [Entries.lookup_eq_of_not_mem front back value named named' (by decide)]
    exact Outcome.rel_refl .same _
  reference := by
    have skipped : ∀ name ∈ Marker.modeKeys, FilterRef.Skipped name := by
      intro name member
      simp only [Marker.modeKeys, List.mem_cons, List.not_mem_nil, or_false] at member
      rcases member with rfl | rfl <;> rfl
    exact FilterRef.agree_read_object front back ⟨.same value, .inr ⟨skipped old named, skipped new named'⟩⟩
  mode owner known := Marker.agree_foundMode owner known value named named' once
  fields := .of_eq _ (fun _ => True.intro) (Marker.readFields_marker value named named')
  anchored := .of_eq _ (fun _ => True.intro) (Marker.readFields_marker value named named')
  plain := .of_eq _ (fun _ => True.intro) (Marker.readFields_marker value named named')

theorem MapsAlike.of_member {key : String} {value other : Json} (front back : List (String × Json))
    (unmarked : Marker.isModeKey key = false) (like : value.Like other) (alike : Role.field.Alike value other) :
    MapsAlike (front ++ (key, value) :: back) (front ++ (key, other) :: back) where
  id := Entries.lookup_append_cons_rel .same front back key like "id"
  reference := FilterRef.agree_read_object front back ⟨like, .inl rfl⟩
  mode owner known := by
    rw [Marker.foundMode_append_cons owner known unmarked, Marker.foundMode_append_cons owner known unmarked]
    exact .of_eq _ (fun _ => True.intro) rfl
  fields := Marker.agree_readFields unmarked (alike key).1
  anchored := Marker.agree_readFields unmarked (alike key).2.1
  plain := Marker.agree_readFields unmarked (alike key).2.2

namespace Role

theorem alike_map_refl (value : Json) : Role.map.Alike value value := by
  constructor
  · rintro entries _ rfl ⟨⟩
    exact .refl entries
  · rintro items _ rfl ⟨⟩
    exact List.forall₂_same.mpr fun item _ => .of_eq _ (fun _ => rfl) rfl

variable {members others : List (String × Json)}

theorem underValue_of_rel (inner : Option.Rel Role.map.Alike (members.lookup "value") (others.lookup "value")) :
    UnderValue MapsAlike members others := by
  intro entries entries' here there
  rw [here, there] at inner
  cases inner with
  | some alike => exact alike.1 entries entries' rfl rfl

theorem alike_field (alike : Marker.LooksAlike members others)
    (inner : Option.Rel Role.map.Alike (members.lookup "value") (others.lookup "value")) :
    Role.field.Alike (.object members) (.object others) := by
  have maps := underValue_of_rel inner
  intro key
  have assembled : Outcome.Agree FilterError.SameKind Eq
      (AnchoredFilter.assemble key members (FieldFilter.valueFields? members))
      (AnchoredFilter.assemble key others (FieldFilter.valueFields? others)) := by
    have made (field value : String) (mode : Option CombineMode) (fields fields' : List (String × FieldFilter))
        (same : fields = fields') :
        (⟨field, value, mode, fields⟩ : AnchoredFilter) = ⟨field, value, mode, fields'⟩ := by
      rw [same]
    apply AnchoredFilter.agree_assemble alike made
    intro entries entries' here there known _
    have map := maps entries entries' here there
    exact ⟨map.mode (some key) known, map.plain⟩
  refine ⟨?_, assembled, AnchoredFilter.agree_plainField alike key⟩
  apply FieldFilter.agree_ofJson alike
  · exact fun _ _ => rfl
  · exact fun _ => assembled.imp (fun _ _ same => same) fun _ _ same => congrArg _ same

theorem alike_state (alike : Marker.LooksAlike members others)
    (inner : Option.Rel Role.map.Alike (members.lookup "value") (others.lookup "value")) :
    Role.state.Alike (.object members) (.object others) := by
  have maps := underValue_of_rel inner
  apply FilterState.agree_ofJson alike fun entries entries' here there => (maps entries entries' here there).id
  intro mode kind _ _
  cases kind with
  | standard =>
    apply FilterState.agree_standardOf alike rfl
    · rintro mode fields _ rfl
      rfl
    · intro entries entries' here there
      have map := maps entries entries' here there
      exact ⟨map.mode none mode, map.fields⟩
  | anchored =>
    apply FilterState.agree_anchoredOf alike rfl
    · rintro mode fields _ rfl
      rfl
    · intro entries entries' here there
      have map := maps entries entries' here there
      exact ⟨map.mode none mode, map.anchored⟩
  | composed =>
    apply FilterState.agree_composedOf alike mode
    · intro refIds items items' each
      rw [List.forall₂_eq_eq_eq] at each
      rw [each]
    · intro items items' here there
      rw [here, there] at inner
      cases inner with
      | some alike => exact alike.2 items items' rfl rfl
  | reference =>
    exact FilterState.agree_referenceOf alike fun entries entries' here there =>
      (maps entries entries' here there).reference
  | empty => exact .made rfl

theorem alike_marker {role : Role} {names : List String} {old new : String} {front back : List (String × Json)}
    (value : Json) (marker : names ∈ role.markers) (named : old ∈ names) (named' : new ∈ names)
    (once : ∀ name ∈ names, name ∉ Entries.keys (front ++ back)) :
    role.Alike (.object (front ++ (old, value) :: back)) (.object (front ++ (new, value) :: back)) := by
  have inner (marker : names ∈ Role.state.markers) :
      Option.Rel Role.map.Alike ((front ++ (old, value) :: back).lookup "value")
        ((front ++ (new, value) :: back).lookup "value") := by
    have other : "value" ∉ names := by
      intro member
      simp only [markers, List.mem_cons, List.not_mem_nil, or_false] at marker
      rcases marker with rfl | rfl <;> exact absurd member (by decide)
    rw [Entries.lookup_eq_of_not_mem front back value named named' other]
    exact Outcome.rel_refl alike_map_refl _
  cases role with
  | state => exact alike_state (.of_marker value marker named named' once) (inner marker)
  | field => exact alike_field (.of_marker value marker named named' once) (inner marker)
  | map =>
    obtain rfl : names = Marker.modeKeys := List.mem_singleton.mp marker
    constructor
    · rintro _ _ ⟨⟩ ⟨⟩
      exact .of_marker value named named' once
    · rintro _ _ ⟨⟩

theorem alike_member {role inner : Role} {key : String} {value other : Json} (front back : List (String × Json))
    (under : role.under? key = some inner) (like : value.Like other) (alike : inner.Alike value other) :
    role.Alike (.object (front ++ (key, value) :: back)) (.object (front ++ (key, other) :: back)) := by
  have members := Marker.LooksAlike.of_lookup (Entries.lookup_append_cons_rel .same front back key like)
  have held (same : inner = .map) : Option.Rel Role.map.Alike ((front ++ (key, value) :: back).lookup "value")
      ((front ++ (key, other) :: back).lookup "value") := by
    subst same
    exact Entries.lookup_append_cons_rel alike_map_refl front back key alike "value"
  cases role with
  | state | field =>
    rw [under?] at under
    split at under
    · cases under
      first
        | exact alike_state members (held rfl)
        | exact alike_field members (held rfl)
    · cases under
  | map =>
    rw [under?] at under
    split at under
    · cases under
    · next unmarked =>
      cases under
      constructor
      · rintro _ _ ⟨⟩ ⟨⟩
        exact .of_member front back (Bool.eq_false_iff.mpr unmarked) like alike
      · rintro _ _ ⟨⟩

theorem alike_item {item other : Json} (front back : List Json) (alike : Role.state.Alike item other) :
    Role.map.Alike (.array (front ++ item :: back)) (.array (front ++ other :: back)) := by
  constructor
  · rintro _ _ ⟨⟩
  · rintro _ _ ⟨⟩ ⟨⟩
    have same (items : List Json) := (alike_map_refl (.array items)).2 items items rfl rfl
    exact List.rel_append (same front) (.cons alike (same back))

end Role

theorem Respelled.alike {role : Role} {value other : Json} (respelled : Respelled role value other) :
    role.Alike value other := by
  induction respelled with
  | marker front back value marker named named' once => exact Role.alike_marker value marker named named' once
  | member front back under respelled ih => exact Role.alike_member front back under respelled.like ih
  | item front back _ ih => exact Role.alike_item front back ih

namespace FilterState

/-- However many markers of a document have their other names, it is read as the same filter or refused for the same
    kind of fault. -/
theorem ofJson_respelled {value other : Json} (respelled : Relation.ReflTransGen (Respelled .state) value other) :
    Outcome.Agree FilterError.SameKind Eq (ofJson value) (ofJson other) := by
  induction respelled with
  | refl => exact .of_eq _ (fun _ => rfl) rfl
  | tail _ last ih => exact ih.trans (fun _ _ _ => Eq.trans) (fun _ _ _ => Eq.trans) last.alike

theorem ofJson_respelled_member :
    let field (tag : String) : Json := .object [(tag, .text "OPTION"), ("selectedValues", .texts ["40"])]
    let map (mode tag : String) : Json := .object [(mode, .text "OR"), ("age", field tag)]
    let document (top mode tag : String) : Json :=
      .object [(top, .text "COMPOSED"), ("value", .array [.object [("value", map mode tag)]])]
    let first := document "type" "combineMode" "__type"
    let last := document "__type" "__combineMode" "type"
    Relation.ReflTransGen (Respelled .state) first last ∧
      Outcome.Agree FilterError.SameKind Eq (ofJson first) (ofJson last) ∧
      ofJson first =
        .ok (.composed none [] [.standard (some .or) [("age", .option ⟨some ["40"], .containsAny, none⟩)]]) := by
  intro field map document first last
  -- From the outside to the inside: the tag of the filter, the mode in the map of its member, the tag of the field.
  have outer : Respelled .state first (document "__type" "combineMode" "__type") :=
    .marker [] _ _ List.mem_cons_self (by decide) (by decide) (by decide)
  have within {here there : Json} (respelled : Respelled .map here there) :
      Respelled .state (.object [("__type", .text "COMPOSED"), ("value", .array [.object [("value", here)]])])
        (.object [("__type", .text "COMPOSED"), ("value", .array [.object [("value", there)]])]) :=
    .member [("__type", .text "COMPOSED")] [] rfl (.item [] [] (.member [] [] rfl respelled))
  have middle : Respelled .map (map "combineMode" "__type") (map "__combineMode" "__type") :=
    .marker [] _ _ List.mem_cons_self (by decide) (by decide) (by decide)
  have inner : Respelled .map (map "__combineMode" "__type") (map "__combineMode" "type") :=
    .member [("__combineMode", .text "OR")] [] rfl
      (.marker [] _ _ List.mem_cons_self (by decide) (by decide) (by decide))
  have respelled : Relation.ReflTransGen (Respelled .state) first last :=
    ((Relation.ReflTransGen.single outer).tail (within middle)).tail (within inner)
  exact ⟨respelled, ofJson_respelled respelled, rfl⟩

end FilterState

end CohortFilter
