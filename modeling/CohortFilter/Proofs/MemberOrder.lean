import CohortFilter.Proofs.Counterparts
import CohortFilter.Proofs.Reordering

namespace CohortFilter

/-- The values are equal but for the order of the members of objects, at every depth. -/
inductive Json.Reordered : Json → Json → Prop
  | same (value : Json) : Reordered value value
  | array {items others : List Json} : List.Forall₂ Reordered items others → Reordered (.array items) (.array others)
  | object {members middle others : List (String × Json)} :
    members.Perm middle → Entries.keys middle = Entries.keys others →
    List.Forall₂ (fun entry other => Reordered entry.2 other.2) middle others →
    Reordered (.object members) (.object others)

namespace Shuffled

variable {α β : Type} {related others : α → β → Prop} {left : List α} {right : List β}

theorem exists_left (shuffled : Shuffled related left right) {other : β} (member : other ∈ right) :
    ∃ item ∈ left, related item other := by
  rcases shuffled with ⟨middle, perm, each⟩
  obtain ⟨item, held, alike⟩ := Outcome.exists_of_forall₂ each member
  exact ⟨item, perm.mem_iff.mpr held, alike⟩

theorem exists_right (shuffled : Shuffled related left right) {item : α} (member : item ∈ left) :
    ∃ other ∈ right, related item other := by
  rcases shuffled with ⟨middle, perm, each⟩
  exact Outcome.exists_of_forall₂ each.flip (perm.mem_iff.mp member)

theorem imp_of_mem (shuffled : Shuffled related left right)
    (each : ∀ item ∈ left, ∀ other, related item other → others item other) : Shuffled others left right := by
  rcases shuffled with ⟨middle, perm, paired⟩
  refine ⟨middle, perm, Outcome.forall₂_imp_of_mem paired ?_⟩
  exact fun item member other _ => each item (perm.mem_iff.mpr member) other

end Shuffled

namespace Outcome

theorem agree_mapM_perm {ε α β : Type} (step : α → Except ε β) {items others : List α} (perm : items.Perm others) :
    Agree (fun _ _ => True) List.Perm (items.mapM step) (others.mapM step) := by
  induction perm with
  | nil => exact .made (.refl _)
  | cons item _ ih =>
    rw [List.mapM_cons, List.mapM_cons]
    apply (Agree.of_eq (step item) (fun _ => True.intro) rfl).bind_eq
    intro value _
    apply ih.bind
    intro values values' perm
    exact .made (perm.cons value)
  | swap first second rest =>
    simp only [List.mapM_cons]
    cases step first with
    | error =>
      cases step second with
      | error | ok => exact .failed True.intro
    | ok value =>
      cases step second with
      | error => exact .failed True.intro
      | ok value' =>
        cases rest.mapM step with
        | error => exact .failed True.intro
        | ok values => exact .made (.swap value value' values)
  | trans _ _ ih ih' => exact ih.trans (fun _ _ _ _ _ => True.intro) (fun _ _ _ => List.Perm.trans) ih'

theorem agree_mapM_shuffled {ε δ α β γ φ : Type} {results : β → φ → Prop} {step : α → Except ε β}
    {move : γ → Except δ φ} {items : List α} {others : List γ}
    (shuffled : Shuffled (fun item other => Agree (fun _ _ => True) results (step item) (move other)) items others) :
    Agree (fun _ _ => True) (Shuffled results) (items.mapM step) (others.mapM move) := by
  rcases shuffled with ⟨middle, perm, each⟩
  apply (agree_mapM_perm step perm).trans (fun _ _ _ _ _ => True.intro) _ (Agree.mapM each)
  intro values between values' reordered paired
  exact ⟨between, reordered, paired⟩

end Outcome

theorem Json.exists_shuffled_of_reordered {members : List (String × Json)} {other : Json}
    (reordered : (Json.object members).Reordered other) :
    ∃ others, other = .object others ∧ Shuffled (Entries.Matching Json.Reordered) members others := by
  cases reordered with
  | same =>
    refine ⟨members, rfl, members, .refl _, List.forall₂_same.mpr fun entry _ => ⟨rfl, .same entry.2⟩⟩
  | @object _ middle others perm keys each =>
    refine ⟨others, rfl, middle, perm, ?_⟩
    clear perm
    induction each with
    | nil => exact .nil
    | cons head _ ih =>
      obtain ⟨same, keys⟩ := List.cons.inj keys
      exact .cons ⟨same, head⟩ (ih keys)

theorem Json.reordered_append_cons (front back : List (String × Json)) (key : String) {value other : Json}
    (reordered : value.Reordered other) :
    (Json.object (front ++ (key, value) :: back)).Reordered (.object (front ++ (key, other) :: back)) := by
  have same (entries : List (String × Json)) :
      List.Forall₂ (fun entry other => entry.2.Reordered other.2) entries entries :=
    List.forall₂_same.mpr fun entry _ => .same entry.2
  apply Json.Reordered.object (.refl _)
  · simp [Entries.keys]
  · exact List.rel_append (same front) (.cons reordered (same back))

theorem Json.exists_reordered_of_lookup {members : List (String × Json)} {name : String} {value other : Json}
    (held : members.lookup name = some value) (reordered : value.Reordered other) :
    ∃ others, (Json.object members).Reordered (.object others) ∧ others.lookup name = some other := by
  rcases List.lookup_eq_some_iff.mp held with ⟨front, back, rfl, apart⟩
  refine ⟨front ++ (name, other) :: back, reordered_append_cons front back name reordered, ?_⟩
  exact List.lookup_eq_some_iff.mpr ⟨front, back, rfl, apart⟩

theorem Json.reordered_of_perm {members others : List (String × Json)} (perm : members.Perm others) :
    (Json.object members).Reordered (.object others) :=
  .object perm rfl (List.forall₂_same.mpr fun entry _ => .same entry.2)

theorem Json.exists_items_of_reordered {items : List Json} {other : Json}
    (reordered : (Json.array items).Reordered other) :
    ∃ others, other = .array others ∧ List.Forall₂ Json.Reordered items others := by
  cases reordered with
  | same => exact ⟨items, rfl, List.forall₂_same.mpr fun item _ => .same item⟩
  | array each => exact ⟨_, rfl, each⟩

theorem Json.Reordered.like {value other : Json} (reordered : value.Reordered other) : value.Like other := by
  induction value using Json.induction generalizing other with
  | array items ih =>
    obtain ⟨others, rfl, each⟩ := Json.exists_items_of_reordered reordered
    apply Json.Like.array
    apply Outcome.forall₂_imp_of_mem each
    intro item member other _ reordered
    exact ih item member reordered
  | object members ih =>
    obtain ⟨others, rfl, -⟩ := Json.exists_shuffled_of_reordered reordered
    exact .object members others
  | null | bool | number | text =>
    cases reordered
    exact .same _

namespace Entries

variable {α β : Type} {related : α → β → Prop} {left : List (String × α)} {right : List (String × β)}

theorem lookup_perm {entries others : List (String × α)} (distinct : (keys entries).Nodup) (perm : entries.Perm others)
    (name : String) : entries.lookup name = others.lookup name := by
  have distinct' : (keys others).Nodup := (perm.map Prod.fst).nodup_iff.mp distinct
  apply Option.ext
  intro value
  constructor
  · intro found
    exact lookup_of_mem distinct' (perm.mem_iff.mp (mem_of_lookup found))
  · intro found
    exact lookup_of_mem distinct (perm.mem_iff.mpr (mem_of_lookup found))

theorem keys_perm_of_shuffled (shuffled : Shuffled (Matching related) left right) : (keys left).Perm (keys right) := by
  rcases shuffled with ⟨middle, perm, each⟩
  have names : keys middle = keys right := by
    rw [← List.forall₂_eq_eq_eq, keys, keys, List.forall₂_map_left_iff, List.forall₂_map_right_iff]
    exact each.imp fun _ _ matching => matching.1
  exact names ▸ perm.map Prod.fst

theorem lookup_rel_of_shuffled (distinct : (keys left).Nodup) (shuffled : Shuffled (Matching related) left right)
    (name : String) : Option.Rel related (left.lookup name) (right.lookup name) := by
  rcases shuffled with ⟨middle, perm, each⟩
  rw [lookup_perm distinct perm name]
  clear perm distinct
  induction each with
  | nil => exact .none
  | @cons entry other middle right head rest ih =>
    obtain ⟨key, value⟩ := entry
    obtain ⟨key', value'⟩ := other
    obtain ⟨same, alike⟩ := head
    dsimp only at same alike
    subst same
    rw [List.lookup_cons, List.lookup_cons]
    cases name == key with
    | true => exact .some alike
    | false => exact ih

theorem like_of_shuffled {left right : List (String × Json)} (distinct : (keys left).Nodup)
    (shuffled : Shuffled (Matching Json.Reordered) left right) (name : String) :
    Option.Rel Json.Like (left.lookup name) (right.lookup name) :=
  lookup_rel_of_shuffled distinct (shuffled.imp fun _ _ matching => ⟨matching.1, matching.2.like⟩) name

theorem agree_of_shuffled {related : α → β → Bool} (distinct : (keys left).Nodup)
    (shuffled : Shuffled (Matching fun value value' => related value value' = true) left right) :
    agree related left right = true := by
  have names := keys_perm_of_shuffled shuffled
  have size : left.length = right.length := by
    have lengths := names.length_eq
    rwa [keys, keys, List.length_map, List.length_map] at lengths
  rw [agree, Bool.and_eq_true, beq_iff_eq, List.all_eq_true]
  refine ⟨size, ?_⟩
  rintro ⟨key, value⟩ member
  have rel := lookup_rel_of_shuffled distinct shuffled key
  rw [lookup_of_mem distinct member] at rel
  show (right.lookup key).any (related value) = true
  revert rel
  generalize right.lookup key = found
  rintro ⟨⟩
  next alike => exact alike

end Entries

namespace Marker

open Entries (Matching)

/-- All mode keys of a value map name one mode, or all of them none. -/
def OneMode (entries : List (String × Json)) : Prop :=
  ∀ entry ∈ entries, ∀ other ∈ entries, isModeKey entry.1 = true → isModeKey other.1 = true →
    entry.2.text?.bind CombineMode.ofName? = other.2.text?.bind CombineMode.ofName?

variable {members others entries entries' : List (String × Json)}

theorem agree_modeOf {value other : Json} (owner owner' : String)
    (same : value.text?.bind CombineMode.ofName? = other.text?.bind CombineMode.ofName?) :
    Outcome.Agree (fun _ _ => True) Eq (modeOf owner value) (modeOf owner' other) := by
  unfold modeOf
  rw [same]
  cases other.text?.bind CombineMode.ofName? with
  | some mode => exact .made rfl
  | none => exact .failed True.intro

theorem foundMode_none_cases (owner : Option String) (entries : List (String × Json)) :
    ((∀ entry ∈ entries, isModeKey entry.1 = false) ∧ foundMode owner none entries = .ok none) ∨
      ∃ entry ∈ entries, isModeKey entry.1 = true ∧
        foundMode owner none entries = (modeOf (owner.getD entry.1) entry.2).map some := by
  cases found : entries.find? fun entry => isModeKey entry.1 with
  | none =>
    left
    constructor
    · simpa using List.find?_eq_none.mp found
    · unfold foundMode
      rw [found]
  | some entry =>
    right
    have marked := @List.find?_some _ _ _ _ found
    refine ⟨entry, List.mem_of_find?_eq_some found, marked, ?_⟩
    unfold foundMode
    rw [found]

theorem agree_foundMode_of_shuffled {known : Option CombineMode} (owner : Option String)
    (shuffled : Shuffled (Matching Json.Reordered) entries entries') (one : known = none → OneMode entries) :
    Outcome.Agree (fun _ _ => True) Eq (foundMode owner known entries) (foundMode owner known entries') := by
  cases known with
  | some mode => exact .made rfl
  | none =>
    rcases foundMode_none_cases owner entries with ⟨clear, here⟩ | ⟨entry, member, marked, here⟩ <;>
      rcases foundMode_none_cases owner entries' with ⟨clear', there⟩ | ⟨other, member', marked', there⟩
    · rw [here, there]
      exact .made rfl
    · obtain ⟨entry, member, same, -⟩ := shuffled.exists_left member'
      cases (clear entry member).symm.trans (same ▸ marked')
    · obtain ⟨other, member', same, -⟩ := shuffled.exists_right member
      cases (clear' other member').symm.trans (same ▸ marked)
    · obtain ⟨source, held, same, reordered⟩ := shuffled.exists_left member'
      have named : entry.2.text?.bind CombineMode.ofName? = other.2.text?.bind CombineMode.ofName? := by
        rw [← reordered.like.text?_eq]
        exact one rfl entry member source held marked (same ▸ marked')
      rw [here, there]
      exact (agree_modeOf _ _ named).map fun _ _ same => congrArg some same

theorem named_eq_of_agree {owner : String} {value : Json} {found : Except FilterError (Option CombineMode)}
    (agreed : Outcome.Agree (fun _ _ => True) Eq found ((modeOf owner value).map some)) :
    value.text?.bind CombineMode.ofName? = found.toOption.join := by
  unfold modeOf at agreed
  cases named : value.text?.bind CombineMode.ofName? with
  | none =>
    rw [named] at agreed
    cases agreed with
    | failed => rfl
  | some mode =>
    rw [named] at agreed
    cases agreed with
    | made same => rw [same]; rfl

theorem oneMode_iff (owner : Option String) : OneMode entries ↔ ∀ entries', entries.Perm entries' →
    Outcome.Agree (fun _ _ => True) Eq (foundMode owner none entries) (foundMode owner none entries') := by
  constructor
  · intro one entries' perm
    have matching : List.Forall₂ (Matching Json.Reordered) entries' entries' :=
      List.forall₂_same.mpr fun entry _ => ⟨rfl, .same entry.2⟩
    exact agree_foundMode_of_shuffled owner ⟨entries', perm, matching⟩ fun _ => one
  · intro agreed
    have named (entry : String × Json) (member : entry ∈ entries) (marked : isModeKey entry.1 = true) :
        entry.2.text?.bind CombineMode.ofName? = (foundMode owner none entries).toOption.join := by
      obtain ⟨front, back, split⟩ := List.append_of_mem member
      have first := agreed (entry :: (front ++ back)) (split ▸ List.perm_middle)
      have found : foundMode owner none (entry :: (front ++ back)) = (modeOf (owner.getD entry.1) entry.2).map some := by
        unfold foundMode
        rw [List.find?_cons_of_pos]
        exact marked
      exact named_eq_of_agree (found ▸ first)
    intro entry member other member' marked marked'
    rw [named entry member marked, named other member' marked']

theorem keys_eq_of_readFields {α : Type} {read : String → Json → Except FilterError α} {fields : List (String × α)}
    (made : readFields read entries = .ok fields) : Entries.keys fields = Entries.keys (unmarked entries) := by
  have each := Outcome.mapM_eq_ok_iff.mp made
  rw [← List.forall₂_eq_eq_eq, Entries.keys, Entries.keys, List.forall₂_map_left_iff, List.forall₂_map_right_iff]
  apply each.flip.imp
  intro field entry held
  rcases Outcome.map_eq_ok_iff.mp held with ⟨_, -, rfl⟩
  rfl

theorem agree_readFields_of_shuffled {α : Type} {related : α → α → Bool}
    {read : String → Json → Except FilterError α} (distinct : (Entries.keys entries).Nodup)
    (shuffled : Shuffled (Matching Json.Reordered) entries entries')
    (each : ∀ key value other, (key, value) ∈ unmarked entries → value.Reordered other →
      Outcome.Agree FilterError.SameKind (fun field field' => related field field' = true) (read key value)
        (read key other)) :
    Outcome.Agree (fun _ _ => True) (fun fields fields' => Entries.agree related fields fields' = true)
      (readFields read entries) (readFields read entries') := by
  have fields : Shuffled (Matching Json.Reordered) (unmarked entries) (unmarked entries') := by
    apply shuffled.filter
    intro entry other matching
    rw [matching.1]
  have steps : Shuffled (fun entry other => Outcome.Agree (fun _ _ => True)
      (Matching fun field field' => related field field' = true)
      ((read entry.1 entry.2).map fun field => (entry.1, field))
      ((read other.1 other.2).map fun field => (other.1, field))) (unmarked entries) (unmarked entries') := by
    apply fields.imp_of_mem
    rintro ⟨key, value⟩ member ⟨_, other⟩ ⟨rfl, reordered⟩
    have agreed := each key value other member reordered
    have unnamed : Outcome.Agree (fun _ _ => True) (fun field field' => related field field' = true) (read key value)
        (read key other) := agreed.imp (fun _ _ _ => True.intro) fun _ _ alike => alike
    exact unnamed.map fun _ _ alike => ⟨rfl, alike⟩
  apply (Outcome.agree_mapM_shuffled steps).imp_of_ok
  intro made made' read shuffled
  apply Entries.agree_of_shuffled _ shuffled
  rw [keys_eq_of_readFields read]
  exact distinct.sublist (List.filter_sublist.map _)

theorem LooksAlike.of_shuffled (distinct : (Entries.keys members).Nodup)
    (shuffled : Shuffled (Matching Json.Reordered) members others) : LooksAlike members others :=
  .of_lookup (Entries.like_of_shuffled distinct shuffled)

end Marker

namespace FilterRef

def Puts (found : Option Json) (before after : Option String) : Prop :=
  match found with
  | none => before = after
  | some value => ∃ text, value = .text text ∧ some text = after

theorem puts_iff_of_rel {found other : Option Json} {before after : Option String}
    (rel : Option.Rel Json.Like found other) : Puts found before after ↔ Puts other before after := by
  rcases Json.cases_of_rel rel with ⟨rfl, rfl⟩ | ⟨value, value', rfl, rfl, like⟩
  · rfl
  · cases like with
    | same => rfl
    | array | object => simp [Puts]

variable {entries others rest : List (String × Json)} {value : Json} {seen : List String} {draft final : Draft}

theorem putMembers_cons_id_eq_ok_iff (unseen : "id" ∉ seen) :
    record.putMembers seen draft (Document.ofMembers (("id", value) :: rest)) = .ok final ↔ ∃ id, value = .text id ∧
      record.putMembers ("id" :: seen) ⟨some id, draft.label⟩ (Document.ofMembers rest) = .ok final := by
  cases value <;> simp [Document.ofMembers, Shape.Record.putMembers, record, unseen, Document.ofJson, Shape.text]

theorem putMembers_cons_label_eq_ok_iff (unseen : "label" ∉ seen) :
    record.putMembers seen draft (Document.ofMembers (("label", value) :: rest)) = .ok final ↔
      ∃ label, value = .text label ∧
        record.putMembers ("label" :: seen) ⟨draft.id, some label⟩ (Document.ofMembers rest) = .ok final := by
  cases value <;> simp [Document.ofMembers, Shape.Record.putMembers, record, unseen, Document.ofJson, Shape.text]

theorem putMembers_eq_ok_iff {seen : List String} {draft final : Draft} (distinct : (Entries.keys entries).Nodup)
    (fresh : ∀ key ∈ Entries.keys entries, key ∉ seen) :
    record.putMembers seen draft (Document.ofMembers entries) = .ok final ↔
      Puts (entries.lookup "id") draft.id final.id ∧ Puts (entries.lookup "label") draft.label final.label := by
  induction entries generalizing seen draft with
  | nil =>
    obtain ⟨id, label⟩ := draft
    obtain ⟨id', label'⟩ := final
    simp [Document.ofMembers, Shape.Record.putMembers, Puts]
  | cons entry rest ih =>
    obtain ⟨key, value⟩ := entry
    obtain ⟨once, distinctRest⟩ := List.nodup_cons.mp distinct
    obtain ⟨unseen, freshRest⟩ := List.forall_mem_cons.mp fresh
    have later : ∀ name ∈ Entries.keys rest, name ∉ key :: seen := by
      intro name member held
      rcases List.mem_cons.mp held with rfl | held
      · exact once member
      · exact freshRest name member held
    have gone : rest.lookup key = none := Entries.lookup_eq_none_iff.mpr once
    by_cases id : key = "id"
    · subst id
      rw [putMembers_cons_id_eq_ok_iff unseen, List.lookup_cons_self, Entries.lookup_cons_of_ne (by decide)]
      simp only [ih distinctRest later, gone, Puts]
      constructor
      · rintro ⟨id, rfl, same, label⟩
        exact ⟨⟨id, rfl, same⟩, label⟩
      · rintro ⟨⟨id, rfl, same⟩, label⟩
        exact ⟨id, rfl, same, label⟩
    · by_cases label : key = "label"
      · subst label
        rw [putMembers_cons_label_eq_ok_iff unseen, List.lookup_cons_self, Entries.lookup_cons_of_ne (by decide)]
        simp only [ih distinctRest later, gone, Puts]
        constructor
        · rintro ⟨label, rfl, id, same⟩
          exact ⟨id, label, rfl, same⟩
        · rintro ⟨id, label, rfl, same⟩
          exact ⟨label, rfl, id, same⟩
      · have skipped : Skipped key := skipped_iff.mpr ⟨id, label⟩
        rw [putMembers_cons_of_skipped skipped, Entries.lookup_cons_of_ne (Ne.symm id),
          Entries.lookup_cons_of_ne (Ne.symm label)]
        exact ih distinctRest freshRest

theorem agree_read_of_lookup (distinct : (Entries.keys entries).Nodup) (distinct' : (Entries.keys others).Nodup)
    (each : ∀ name, Option.Rel Json.Like (entries.lookup name) (others.lookup name)) :
    Outcome.Agree (fun _ _ => True) Eq (Shape.ofJson record.read (.object entries))
      (Shape.ofJson record.read (.object others)) := by
  have put : Outcome.Agree (fun _ _ => True) Eq (record.putMembers [] record.blank (Document.ofMembers entries))
      (record.putMembers [] record.blank (Document.ofMembers others)) := by
    apply Outcome.Agree.of_ok_iff
    · intro final
      rw [putMembers_eq_ok_iff distinct fun _ _ => List.not_mem_nil,
        putMembers_eq_ok_iff distinct' fun _ _ => List.not_mem_nil, puts_iff_of_rel (each "id"),
        puts_iff_of_rel (each "label")]
    · exact fun _ _ _ _ => True.intro
  exact put.bind_eq fun draft _ => .of_eq _ (fun _ => True.intro) rfl

end FilterRef

theorem UnderValue.of_shuffled {members others : List (String × Json)} (distinct : (Json.object members).Distinct)
    (shuffled : Shuffled (Entries.Matching Json.Reordered) members others) :
    UnderValue (fun entries entries' => (Json.object entries).Distinct ∧
      Shuffled (Entries.Matching Json.Reordered) entries entries') members others := by
  intro entries entries' here there
  have rel := Entries.lookup_rel_of_shuffled (Json.distinct_object_iff.mp distinct).1 shuffled "value"
  rw [here, there] at rel
  cases rel with
  | some reordered =>
    obtain ⟨_, same, inner⟩ := Json.exists_shuffled_of_reordered reordered
    cases same
    exact ⟨Json.distinct_of_lookup distinct here, inner⟩

theorem UnderValue.like_of_shuffled {members others : List (String × Json)} (distinct : (Json.object members).Distinct)
    (shuffled : Shuffled (Entries.Matching Json.Reordered) members others) (name : String) :
    UnderValue (fun entries entries' => Option.Rel Json.Like (entries.lookup name) (entries'.lookup name)) members
      others := by
  intro entries entries' here there
  obtain ⟨map, reordered⟩ := UnderValue.of_shuffled distinct shuffled entries entries' here there
  exact Entries.like_of_shuffled (Json.distinct_object_iff.mp map).1 reordered name

end CohortFilter
