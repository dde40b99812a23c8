import Mathlib.Data.List.Forall2
import CohortFilter.Warning

namespace CohortFilter

namespace Outcome

variable {ε α β : Type}

theorem bind_eq_ok_iff {first : Except ε α} {next : α → Except ε β} {result : β} :
    first >>= next = .ok result ↔ ∃ value, first = .ok value ∧ next value = .ok result := by
  cases first <;> simp [Bind.bind, Except.bind]

theorem bind_eq_error_iff {first : Except ε α} {next : α → Except ε β} {error : ε} :
    first >>= next = .error error ↔ first = .error error ∨ ∃ value, first = .ok value ∧ next value = .error error := by
  cases first <;> simp [Bind.bind, Except.bind]

theorem map_eq_ok_iff {first : Except ε α} {f : α → β} {result : β} :
    first.map f = .ok result ↔ ∃ value, first = .ok value ∧ f value = result := by
  cases first <;> simp [Except.map]

theorem mapError_eq_ok_iff {ε' : Type} {first : Except ε α} {f : ε → ε'} {result : α} :
    first.mapError f = .ok result ↔ first = .ok result := by
  cases first <;> simp [Except.mapError]

theorem pure_eq_ok_iff {value result : α} : (pure value : Except ε α) = .ok result ↔ value = result := by
  simp [pure, Except.pure]

theorem throw_eq_ok_iff {e : ε} {result : α} : (throw e : Except ε α) = .ok result ↔ False := by
  simp [throw, throwThe, MonadExceptOf.throw]

theorem map_eq_error_iff {first : Except ε α} {f : α → β} {error : ε} :
    first.map f = .error error ↔ first = .error error := by
  cases first <;> simp [Except.map]

theorem mapM_eq_ok_iff {step : α → Except ε β} {items : List α} {results : List β} :
    items.mapM step = .ok results ↔ List.Forall₂ (fun item result => step item = .ok result) items results := by
  induction items generalizing results with
  | nil => rw [List.mapM_nil, pure_eq_ok_iff, List.forall₂_nil_left_iff, eq_comm]
  | cons item rest ih =>
    rw [List.mapM_cons, List.forall₂_cons_left_iff]
    simp only [bind_eq_ok_iff, pure_eq_ok_iff, ih]
    constructor
    · intro made
      rcases made with ⟨value, first, values, later, rfl⟩
      exact ⟨value, values, first, later, rfl⟩
    · intro each
      rcases each with ⟨value, values, first, later, rfl⟩
      exact ⟨value, first, values, later, rfl⟩

theorem mapM_cons_of_error {step : α → Except ε β} {first : α} {error : ε} (rest : List α)
    (failed : step first = .error error) : (first :: rest).mapM step = .error error := by
  rw [List.mapM_cons, failed]
  rfl

theorem mapM_cons_of_ok {step : α → Except ε β} {first : α} {value : β} (rest : List α)
    (made : step first = .ok value) : (first :: rest).mapM step = (rest.mapM step).map (value :: ·) := by
  rw [List.mapM_cons, made]
  cases rest.mapM step <;> rfl

theorem mapM_eq_of_forall₂ {γ : Type} {step : α → Except ε β} {other : γ → Except ε β} {items : List α}
    {others : List γ} (each : List.Forall₂ (fun item value => step item = other value) items others) :
    items.mapM step = others.mapM other := by
  induction each with
  | nil => rfl
  | cons same later ih => rw [List.mapM_cons, List.mapM_cons, same, ih]

theorem mapM_eq_error_or_eq {step other : α → Except ε β} {error : ε} {items : List α}
    (each : ∀ item ∈ items, step item = .error error ∨ step item = other item) :
    items.mapM step = .error error ∨ items.mapM step = items.mapM other := by
  induction items with
  | nil => exact .inr rfl
  | cons first rest ih =>
    rcases List.forall_mem_cons.mp each with ⟨failed | same, later⟩
    · exact .inl (mapM_cons_of_error rest failed)
    · cases made : step first with
      | error fault =>
        right
        rw [mapM_cons_of_error rest made, mapM_cons_of_error rest (same ▸ made)]
      | ok value =>
        rw [mapM_cons_of_ok rest made, mapM_cons_of_ok rest (same ▸ made)]
        rcases ih later with failed | equal
        · exact .inl (map_eq_error_iff.mpr failed)
        · exact .inr (congrArg (Except.map (value :: ·)) equal)

theorem mapM_eq_error_iff {step : α → Except ε β} {items : List α} {error : ε} :
    items.mapM step = .error error ↔ ∃ front item back, items = front ++ item :: back ∧
      (∀ earlier ∈ front, ∃ result, step earlier = .ok result) ∧ step item = .error error := by
  induction items with
  | nil => simp [pure, Except.pure]
  | cons first rest ih =>
    rw [List.mapM_cons, bind_eq_error_iff]
    constructor
    · intro stopped
      rcases stopped with failed | ⟨value, made, stopped⟩
      · exact ⟨[], first, rest, rfl, fun _ member => absurd member List.not_mem_nil, failed⟩
      · rcases bind_eq_error_iff.mp stopped with failed | ⟨_, _, finished⟩
        · rcases ih.mp failed with ⟨front, item, back, rfl, through, failed⟩
          exact ⟨first :: front, item, back, rfl, List.forall_mem_cons.mpr ⟨⟨value, made⟩, through⟩, failed⟩
        · cases finished
    · intro parts
      rcases parts with ⟨front, item, back, same, through, failed⟩
      cases front with
      | nil =>
        cases same
        exact .inl failed
      | cons head front =>
        cases same
        rcases List.forall_mem_cons.mp through with ⟨⟨value, made⟩, through⟩
        refine .inr ⟨value, made, bind_eq_error_iff.mpr (.inl ?_)⟩
        exact ih.mpr ⟨front, item, back, rfl, through, failed⟩

theorem exists_forall₂_iff {related : α → β → Prop} {items : List α} :
    (∃ results, List.Forall₂ related items results) ↔ ∀ item ∈ items, ∃ result, related item result := by
  induction items with
  | nil => simp
  | cons item rest ih =>
    rw [List.forall_mem_cons, ← ih]
    constructor
    · intro answers
      rcases answers with ⟨_, answered⟩
      rcases List.forall₂_cons_left_iff.mp answered with ⟨result, results, first, later, rfl⟩
      exact ⟨⟨result, first⟩, results, later⟩
    · intro answers
      rcases answers with ⟨⟨result, first⟩, results, later⟩
      exact ⟨result :: results, .cons first later⟩

theorem forall₂_iff_eq {related : α → β → Prop} {items : List α} {results : List β}
    (each : List.Forall₂ (fun item result => ∀ other, related item other ↔ other = result) items results)
    (others : List β) : List.Forall₂ related items others ↔ others = results := by
  induction each generalizing others with
  | nil => exact List.forall₂_nil_left_iff
  | cons only later ih =>
    simp only [List.forall₂_cons_left_iff, only, ih, exists_eq_left, exists_and_left]

theorem exists_of_forall₂ {answers : α → β → Prop} {items : List α} {results : List β} {result : β}
    (answered : List.Forall₂ answers items results) (member : result ∈ results) :
    ∃ item ∈ items, answers item result := by
  induction answered with
  | nil => nomatch member
  | @cons item first rest results answer later ih =>
    rcases List.mem_cons.mp member with rfl | member
    · exact ⟨item, List.mem_cons_self, answer⟩
    · rcases ih member with ⟨item, held, answer⟩
      exact ⟨item, List.mem_cons_of_mem _ held, answer⟩

theorem exists_getElem?_of_forall₂ {answers : α → β → Prop} {items : List α} {results : List β}
    (answered : List.Forall₂ answers items results) {index : Nat} {result : β}
    (found : results[index]? = some result) : ∃ item, items[index]? = some item ∧ answers item result := by
  induction answered generalizing index with
  | nil => cases found
  | @cons item first rest results answer later ih =>
    cases index with
    | zero =>
      cases found
      exact ⟨item, rfl, answer⟩
    | succ index => exact ih found

theorem forall₂_of_forall₂ {γ : Type} {made : α → β → Prop} {other : α → γ → Prop} {joined : γ → β → Prop}
    {items : List α} {results : List β} {others : List γ} (first : List.Forall₂ made items results)
    (second : List.Forall₂ other items others)
    (each : ∀ item result value, made item result → other item value → joined value result) :
    List.Forall₂ joined others results := by
  induction first generalizing others with
  | nil =>
    rw [List.forall₂_nil_left_iff.mp second]
    exact .nil
  | @cons item result items results head tail ih =>
    rcases List.forall₂_cons_left_iff.mp second with ⟨value, values, here, later, rfl⟩
    exact .cons (each item result value head here) (ih later)

theorem forall₂_imp_of_mem {related joined : α → β → Prop} {items : List α} {results : List β}
    (each : List.Forall₂ related items results)
    (implied : ∀ item ∈ items, ∀ result ∈ results, related item result → joined item result) :
    List.Forall₂ joined items results := by
  induction each with
  | nil => exact .nil
  | cons first later ih =>
    refine .cons (implied _ List.mem_cons_self _ List.mem_cons_self first) (ih ?_)
    exact fun item held result held' => implied item (List.mem_cons_of_mem _ held) result (List.mem_cons_of_mem _ held')

theorem forall_iff_of_forall₂ {related : α → β → Prop} {P : α → Prop} {Q : β → Prop} {items : List α}
    {results : List β} (each : List.Forall₂ related items results)
    (alike : ∀ item ∈ items, ∀ result ∈ results, related item result → (P item ↔ Q result)) :
    (∀ item ∈ items, P item) ↔ ∀ result ∈ results, Q result := by
  induction each with
  | nil => simp
  | @cons item result rest results first later ih =>
    rw [List.forall_mem_cons, List.forall_mem_cons]
    refine and_congr (alike _ List.mem_cons_self _ List.mem_cons_self first) (ih ?_)
    exact fun item held result held' => alike item (List.mem_cons_of_mem _ held) result (List.mem_cons_of_mem _ held')

theorem rel_refl {related : α → α → Prop} (same : ∀ value, related value value) (found : Option α) :
    Option.Rel related found found := by
  cases found with
  | none => exact .none
  | some value => exact .some (same value)

/-- Both steps fail, with related errors, or both give related results. -/
inductive Agree {δ γ : Type} (faults : ε → δ → Prop) (results : α → γ → Prop) : Except ε α → Except δ γ → Prop
  | failed {error : ε} {fault : δ} : faults error fault → Agree faults results (.error error) (.error fault)
  | made {value : α} {result : γ} : results value result → Agree faults results (.ok value) (.ok result)

namespace Agree

variable {δ γ φ : Type} {faults : ε → δ → Prop} {results : α → γ → Prop} {first : Except ε α} {second : Except δ γ}

theorem imp {others : ε → δ → Prop} {made : α → γ → Prop} (agreed : Agree faults results first second)
    (wider : ∀ error fault, faults error fault → others error fault)
    (each : ∀ value result, results value result → made value result) : Agree others made first second := by
  cases agreed with
  | failed alike => exact .failed (wider _ _ alike)
  | made alike => exact .made (each _ _ alike)

theorem imp_of_ok {made : α → γ → Prop} (agreed : Agree faults results first second)
    (each : ∀ value result, first = .ok value → results value result → made value result) :
    Agree faults made first second := by
  cases agreed with
  | failed alike => exact .failed alike
  | made alike => exact .made (each _ _ rfl alike)

theorem bind_of_ok {made : β → φ → Prop} {next : α → Except ε β} {other : γ → Except δ φ}
    (agreed : Agree faults results first second)
    (later : ∀ value result, first = .ok value → results value result → Agree faults made (next value) (other result)) :
    Agree faults made (first >>= next) (second >>= other) := by
  cases agreed with
  | failed alike => exact .failed alike
  | made alike => exact later _ _ rfl alike

theorem bind {made : β → φ → Prop} {next : α → Except ε β} {other : γ → Except δ φ}
    (agreed : Agree faults results first second)
    (later : ∀ value result, results value result → Agree faults made (next value) (other result)) :
    Agree faults made (first >>= next) (second >>= other) :=
  agreed.bind_of_ok fun value result _ => later value result

theorem bind_eq {made : β → φ → Prop} {first : Except ε α} {given : Except δ α} {next : α → Except ε β}
    {other : α → Except δ φ} (agreed : Agree faults Eq first given)
    (later : ∀ value, first = .ok value → Agree faults made (next value) (other value)) :
    Agree faults made (first >>= next) (given >>= other) := by
  cases agreed with
  | failed alike => exact .failed alike
  | made same =>
    subst same
    exact later _ rfl

theorem map {made : β → φ → Prop} {f : α → β} {g : γ → φ} (agreed : Agree faults results first second)
    (each : ∀ value result, results value result → made (f value) (g result)) :
    Agree faults made (first.map f) (second.map g) := by
  cases agreed with
  | failed alike => exact .failed alike
  | made alike => exact .made (each _ _ alike)

theorem map_eq {given : Except δ α} {first : Except ε α} (agreed : Agree faults Eq first given) (f : α → β) :
    Agree faults Eq (first.map f) (given.map f) :=
  agreed.map fun _ _ same => congrArg f same

theorem mapError {ε' δ' : Type} {others : ε' → δ' → Prop} {f : ε → ε'} {g : δ → δ'}
    (agreed : Agree faults results first second)
    (each : ∀ error fault, faults error fault → others (f error) (g fault)) :
    Agree others results (first.mapError f) (second.mapError g) := by
  cases agreed with
  | failed alike => exact .failed (each _ _ alike)
  | made alike => exact .made alike

theorem trans {δ' γ' : Type} {faults' : δ → δ' → Prop} {results' : γ → γ' → Prop} {allFaults : ε → δ' → Prop}
    {allResults : α → γ' → Prop} {third : Except δ' γ'} (agreed : Agree faults results first second)
    (joinFaults : ∀ error fault last, faults error fault → faults' fault last → allFaults error last)
    (joinResults : ∀ value result last, results value result → results' result last → allResults value last)
    (later : Agree faults' results' second third) : Agree allFaults allResults first third := by
  cases agreed with
  | failed alike =>
    cases later with
    | failed next => exact .failed (joinFaults _ _ _ alike next)
  | made alike =>
    cases later with
    | made next => exact .made (joinResults _ _ _ alike next)

theorem of_eq {same : ε → ε → Prop} {given : Except ε α} (first : Except ε α) (each : ∀ error, same error error)
    (equal : first = given) : Agree same Eq first given := by
  subst equal
  cases first with
  | error error => exact .failed (each error)
  | ok value => exact .made rfl

theorem mapM {item : Type} {other : Type} {step : item → Except ε α} {move : other → Except δ γ} {items : List item}
    {others : List other}
    (each : List.Forall₂ (fun here there => Agree faults results (step here) (move there)) items others) :
    Agree faults (List.Forall₂ results) (items.mapM step) (others.mapM move) := by
  induction each with
  | nil => exact .made .nil
  | cons head _ ih =>
    rw [List.mapM_cons, List.mapM_cons]
    apply head.bind
    intro value result alike
    apply ih.bind
    intro values results later
    exact .made (.cons alike later)

theorem of_ok_iff {same : ε → ε → Prop} {given : Except ε α} {first : Except ε α}
    (each : ∀ value, first = .ok value ↔ given = .ok value)
    (failures : ∀ error fault, first = .error error → given = .error fault → same error fault) :
    Agree same Eq first given := by
  cases here : first with
  | error error =>
    cases there : given with
    | error fault => exact .failed (failures error fault here there)
    | ok value => cases here.symm.trans ((each value).mpr there)
  | ok value =>
    rw [(each value).mp here]
    exact .made rfl

theorem ok_iff {given : Except δ α} {first : Except ε α} (agreed : Agree faults Eq first given) {value : α} :
    first = .ok value ↔ given = .ok value := by
  cases agreed with
  | failed => simp
  | made same => rw [same]; simp

theorem of_results {here : Except ε α} {there : Except δ γ} (agreed : Agree faults results first second)
    (same : ∀ value, here = .ok value ↔ first = .ok value) (same' : ∀ value, there = .ok value ↔ second = .ok value) :
    Agree (fun _ _ => True) results here there := by
  cases agreed with
  | failed =>
    cases here with
    | ok value => cases (same value).mp rfl
    | error =>
      cases there with
      | ok value => cases (same' value).mp rfl
      | error => exact .failed True.intro
  | made alike =>
    rw [(same _).mpr rfl, (same' _).mpr rfl]
    exact .made alike

end Agree

end Outcome

namespace Warned

variable {ε α β : Type}

theorem outcome_pure (value : α) : (pure value : Warned ε α).outcome = .ok value := rfl

theorem outcome_bind_eq (first : Warned ε α) (next : α → Warned ε β) :
    (first >>= next).outcome = first.outcome >>= fun value => (next value).outcome := by
  rcases first with ⟨outcome, warnings⟩
  cases outcome <;> rfl

theorem outcome_bind {first : Warned ε α} {next : α → Warned ε β} {value : α}
    (found : first.outcome = .ok value) : (first >>= next).outcome = (next value).outcome := by
  change (bind first next).outcome = _
  simp [bind, found]

theorem eq_of_outcome {first : Warned ε α} {value : α} (found : first.outcome = .ok value) :
    first = ⟨.ok value, first.warnings⟩ := by
  rw [← found]

theorem ok_bind (value : α) (before : List Warning) (next : α → Warned ε β) :
    (⟨.ok value, before⟩ : Warned ε α) >>= next = ⟨(next value).outcome, before ++ (next value).warnings⟩ := rfl

theorem bind_pure_eq {first : Warned ε α} {value : α} (found : first.outcome = .ok value) (f : α → β) :
    (first >>= fun value => pure (f value)) = ⟨.ok (f value), first.warnings⟩ := by
  rw [eq_of_outcome found, ok_bind]
  exact congrArg _ (List.append_nil _)

/-- Steps that succeed warn one after the other. -/
theorem mapM_eq {step : α → Warned ε β} (result : α → β) (told : α → List Warning) {items : List α}
    (each : ∀ item ∈ items, step item = ⟨.ok (result item), told item⟩) :
    items.mapM step = ⟨.ok (items.map result), items.flatMap told⟩ := by
  induction items with
  | nil => rfl
  | cons item rest ih =>
    have later := ih fun item member => each item (List.mem_cons_of_mem _ member)
    rw [List.mapM_cons, each item List.mem_cons_self, ok_bind, later, bind_pure_eq rfl]
    rfl

theorem foldlM_eq {γ : Type} {step : γ → α → Warned ε γ} (result : γ → α → γ) (told : α → List Warning)
    {items : List α} (each : ∀ held, ∀ item ∈ items, step held item = ⟨.ok (result held item), told item⟩) (held : γ) :
    items.foldlM step held = ⟨.ok (items.foldl result held), items.flatMap told⟩ := by
  induction items generalizing held with
  | nil => rfl
  | cons item rest ih =>
    have later := ih (fun held item member => each held item (List.mem_cons_of_mem _ member)) (result held item)
    rw [List.foldlM_cons, each held item List.mem_cons_self, ok_bind, later]
    rfl

theorem flatMap_attach (items : List α) (told : α → List Warning) :
    items.attach.flatMap (fun item => told item.1) = items.flatMap told := by
  rw [← List.flatMap_map, List.attach_map_subtype_val]

theorem mapM_attach_eq {items : List α} {step : { item // item ∈ items } → Warned ε β} (result : α → β)
    (told : α → List Warning) (each : ∀ item member, step ⟨item, member⟩ = ⟨.ok (result item), told item⟩) :
    items.attach.mapM step = ⟨.ok (items.map result), items.flatMap told⟩ := by
  rw [mapM_eq (fun item => result item.1) (fun item => told item.1) fun item _ => each item.1 item.2, flatMap_attach]
  exact congrArg (Warned.mk · _) (congrArg Except.ok List.attach_map_val)

theorem foldlM_attach_eq {γ : Type} {items : List α} {step : γ → { item // item ∈ items } → Warned ε γ}
    (result : γ → α → γ) (told : α → List Warning)
    (each : ∀ held item member, step held ⟨item, member⟩ = ⟨.ok (result held item), told item⟩) (held : γ) :
    items.attach.foldlM step held = ⟨.ok (items.foldl result held), items.flatMap told⟩ := by
  rw [foldlM_eq (fun held item => result held item.1) (fun item => told item.1)
    fun held item _ => each held item.1 item.2, flatMap_attach]
  exact congrArg (Warned.mk · _) (congrArg Except.ok List.foldl_attach)

theorem unless_bind_eq (bare : Prop) [Decidable bare] (warning : Warning) (next : PUnit → Warned ε α) :
    (if bare then next () else warn warning >>= next) =
      ⟨(next ()).outcome, (if bare then [] else [warning]) ++ (next ()).warnings⟩ := by
  split <;> rfl

end Warned

end CohortFilter
