import Mathlib.Data.List.Basic
import CohortFilter.Proofs.Tokens

namespace CohortFilter

namespace Json

mutual

def depth : Json → Nat
  | .array items => itemsDepth items + 1
  | .object members => membersDepth members + 1
  | .null | .bool _ | .number _ | .text _ => 0

def itemsDepth : List Json → Nat
  | [] => 0
  | item :: rest => max item.depth (itemsDepth rest)

def membersDepth : List (String × Json) → Nat
  | [] => 0
  | (_, value) :: rest => max value.depth (membersDepth rest)

end

mutual

/-- How a value is read with so many arrays and objects open around it. -/
def readWithin (around : Nat) : Json → Document
  | .null => .null
  | .bool value => .bool value
  | .number value => .number value
  | .text value => .text value
  | .array items => if around < nestingLimit then .array (itemsWithin (around + 1) items) true else .refused
  | .object members => if around < nestingLimit then .object (membersWithin (around + 1) members) true else .refused

def itemsWithin (around : Nat) : List Json → List Document
  | [] => []
  | item :: rest => item.readWithin around :: itemsWithin around rest

def membersWithin (around : Nat) : List (String × Json) → List (Option String × Document)
  | [] => []
  | (key, value) :: rest => (some key, value.readWithin around) :: membersWithin around rest

end

end Json

namespace Progress

theorem close_eq (value : Document) (outer : List Frame) :
    close value outer = complete (if outer.length < nestingLimit then value else .refused) outer := by
  rw [close]
  congr 1
  simp only [List.isEmpty_iff, List.drop_eq_nil_iff, nestingLimit]
  exact if_congr (by omega) rfl rfl

def Awaits (stack : List Frame) (place : Place) : Prop :=
  place = .value ∨ place = .first ∧ ∃ items outer, stack = .array items :: outer

theorem awaits_value (stack : List Frame) : Awaits stack .value := .inl rfl

theorem awaits_first (items : List Document) (outer : List Frame) : Awaits (.array items :: outer) .first :=
  .inr ⟨rfl, items, outer, rfl⟩

theorem step_openArray {stack : List Frame} {place : Place} (awaits : Awaits stack place) :
    step (.within stack place) .openArray = .within (.array [] :: stack) .first := by
  rcases awaits with rfl | ⟨rfl, items, outer, rfl⟩
  · cases stack <;> rfl
  · rfl

theorem step_openObject {stack : List Frame} {place : Place} (awaits : Awaits stack place) :
    step (.within stack place) .openObject = .within (.object [] :: stack) .first := by
  rcases awaits with rfl | ⟨rfl, items, outer, rfl⟩
  · cases stack <;> rfl
  · rfl

/-- The tokens of the value put it into what holds it. -/
def Takes (value : Json) : Prop :=
  ∀ stack place, Awaits stack place →
    value.tokens.foldl step (.within stack place) = complete (value.readWithin stack.length) stack

theorem foldl_itemsTokens {items : List Json} (each : ∀ item ∈ items, Takes item) (held : List Document)
    (outer : List Frame) :
    (Json.itemsTokens items).foldl step (.within (.array held :: outer) .after) =
      close (.array (held.reverse ++ Json.itemsWithin (outer.length + 1) items) true) outer := by
  induction items generalizing held with
  | nil =>
    rw [Json.itemsWithin, List.append_nil]
    rfl
  | cons item rest ih =>
    rcases List.forall_mem_cons.mp each with ⟨first, later⟩
    have taken := first (.array held :: outer) .value (awaits_value _)
    calc (Json.itemsTokens (item :: rest)).foldl step (.within (.array held :: outer) .after)
      _ = (Json.itemsTokens rest).foldl step
          (item.tokens.foldl step (.within (.array held :: outer) .value)) := List.foldl_append
      _ = (Json.itemsTokens rest).foldl step
          (.within (.array (item.readWithin (outer.length + 1) :: held) :: outer) .after) := by rw [taken]; rfl
      _ = _ := by rw [ih later, List.reverse_cons, List.append_assoc, Json.itemsWithin, List.singleton_append]

theorem foldl_membersTokens {members : List (String × Json)} (each : ∀ member ∈ members, Takes member.2)
    (held : List (Option String × Document)) (outer : List Frame) :
    (Json.membersTokens members).foldl step (.within (.object held :: outer) .after) =
      close (.object (held.reverse ++ Json.membersWithin (outer.length + 1) members) true) outer := by
  induction members generalizing held with
  | nil =>
    rw [Json.membersWithin, List.append_nil]
    rfl
  | cons member rest ih =>
    rcases member with ⟨key, value⟩
    rcases List.forall_mem_cons.mp each with ⟨first, later⟩
    have taken := first (.member held (some key) :: outer) .value (awaits_value _)
    calc (Json.membersTokens ((key, value) :: rest)).foldl step (.within (.object held :: outer) .after)
      _ = (Json.membersTokens rest).foldl step
          (value.tokens.foldl step (.within (.member held (some key) :: outer) .value)) := List.foldl_append
      _ = (Json.membersTokens rest).foldl step
          (.within (.object ((some key, value.readWithin (outer.length + 1)) :: held) :: outer) .after) := by
        rw [taken]
        rfl
      _ = _ := by rw [ih later, List.reverse_cons, List.append_assoc, Json.membersWithin, List.singleton_append]

theorem takes (value : Json) : Takes value := by
  induction value using Json.induction with
  | null | bool | number | text =>
    intro stack place awaits
    rcases awaits with rfl | ⟨rfl, items, outer, rfl⟩
    · cases stack <;> rfl
    · rfl
  | array items ih =>
    intro stack place awaits
    cases items with
    | nil =>
      rw [Json.tokens, List.foldl_cons, step_openArray awaits, Json.readWithin, ← close_eq]
      rfl
    | cons item rest =>
      rcases List.forall_mem_cons.mp ih with ⟨first, later⟩
      -- The first item stands right behind the bracket, and the others each behind a comma.
      have taken := first _ _ (awaits_first [] stack)
      rw [Json.tokens, List.foldl_cons, step_openArray awaits, List.foldl_append, taken, Json.readWithin, ← close_eq]
      exact foldl_itemsTokens later [item.readWithin (stack.length + 1)] stack
  | object members ih =>
    intro stack place awaits
    cases members with
    | nil =>
      rw [Json.tokens, List.foldl_cons, step_openObject awaits, Json.readWithin, ← close_eq]
      rfl
    | cons member rest =>
      rcases member with ⟨key, value⟩
      rcases List.forall_mem_cons.mp ih with ⟨first, later⟩
      have taken := first (.member [] (some key) :: stack) .value (awaits_value _)
      rw [Json.tokens, List.foldl_cons, step_openObject awaits, Json.readWithin, ← close_eq]
      calc _
        _ = (Json.membersTokens rest).foldl step
            (value.tokens.foldl step (.within (.member [] (some key) :: stack) .value)) := List.foldl_append
        _ = (Json.membersTokens rest).foldl step
            (.within (.object [(some key, value.readWithin (stack.length + 1))] :: stack) .after) := by
          rw [taken]
          rfl
        _ = _ := foldl_membersTokens later [(some key, value.readWithin (stack.length + 1))] stack

end Progress

def Json.printed (pretty : Bool) (value : Json) : String := if pretty then value.pretty else value.compact

namespace Reading

open Token.Lexeme

theorem ofText_of_shows {value : Json} {chars : List Char} (shown : Shows chars value.tokens) {ending : List Char}
    (bounded : Bounded ending) (blank : scan .blank ending = []) :
    ofText (String.ofList (chars ++ ending)) = ⟨value.readWithin 0, false⟩ := by
  have taken := Progress.takes value [] .value (Progress.awaits_value [])
  rw [ofText_eq, String.toList_ofList, shown ending bounded, blank, List.append_nil, Progress.start, taken]
  rfl

theorem ofText_printed (pretty : Bool) {value : Json} (lexed : ∀ number ∈ value.numbers, number.Lexed)
    {ending : String} (line : ending ∈ ["", "\n"]) :
    ofText (value.printed pretty ++ ending) = ⟨value.readWithin 0, false⟩ := by
  have blank : Bounded ending.toList ∧ scan .blank ending.toList = [] := by
    rcases List.mem_pair.mp line with rfl | rfl
    · exact ⟨bounded_nil, rfl⟩
    · exact ⟨bounded_cons (by decide) [], rfl⟩
  cases pretty with
  | false =>
    have read := ofText_of_shows (Json.shows_chars lexed) blank.1 blank.2
    rwa [String.ofList_append, String.ofList_toList] at read
  | true =>
    have read := ofText_of_shows (Json.shows_prettyChars 0 lexed) blank.1 blank.2
    rwa [String.ofList_append, String.ofList_toList] at read

end Reading

namespace Json

theorem itemsWithin_eq_ofItems {around : Nat} {items : List Json}
    (each : ∀ item ∈ items, around + item.depth ≤ nestingLimit → item.readWithin around = Document.ofJson item)
    (shallow : around + itemsDepth items ≤ nestingLimit) : itemsWithin around items = Document.ofItems items := by
  induction items with
  | nil => rfl
  | cons item rest ih =>
    rcases List.forall_mem_cons.mp each with ⟨first, later⟩
    rw [itemsDepth] at shallow
    rw [itemsWithin, Document.ofItems, first (by omega), ih later (by omega)]

theorem membersWithin_eq_ofMembers {around : Nat} {members : List (String × Json)}
    (each : ∀ member ∈ members, around + member.2.depth ≤ nestingLimit →
      member.2.readWithin around = Document.ofJson member.2)
    (shallow : around + membersDepth members ≤ nestingLimit) :
    membersWithin around members = Document.ofMembers members := by
  induction members with
  | nil => rfl
  | cons member rest ih =>
    rcases List.forall_mem_cons.mp each with ⟨first, later⟩
    rw [membersDepth] at shallow
    rw [membersWithin, Document.ofMembers, first (by omega), ih later (by omega)]

theorem readWithin_eq_ofJson {around : Nat} {value : Json} (shallow : around + value.depth ≤ nestingLimit) :
    value.readWithin around = Document.ofJson value := by
  induction value using induction generalizing around with
  | null | bool | number | text => rfl
  | array items ih =>
    rw [depth] at shallow
    rw [readWithin, if_pos (by omega), Document.ofJson,
      itemsWithin_eq_ofItems (fun item member => ih item member) (by omega)]
  | object members ih =>
    rw [depth] at shallow
    rw [readWithin, if_pos (by omega), Document.ofJson,
      membersWithin_eq_ofMembers (fun member held => ih member held) (by omega)]

theorem values?_itemsWithin_eq_none {around : Nat} {items : List Json} (possible : around ≤ nestingLimit)
    (each : ∀ item ∈ items, nestingLimit < around + item.depth → (item.readWithin around).value? = none)
    (deep : nestingLimit < around + itemsDepth items) : Document.values? (itemsWithin around items) = none := by
  induction items with
  | nil =>
    rw [itemsDepth] at deep
    omega
  | cons item rest ih =>
    rcases List.forall_mem_cons.mp each with ⟨first, later⟩
    rw [itemsWithin, Document.values?]
    by_cases here : nestingLimit < around + item.depth
    · rw [first here]
      rfl
    · rw [itemsDepth] at deep
      rw [ih later (by omega)]
      cases (item.readWithin around).value? <;> rfl

theorem membersValue?_membersWithin_eq_none {around : Nat} {members : List (String × Json)}
    (possible : around ≤ nestingLimit)
    (each : ∀ member ∈ members, nestingLimit < around + member.2.depth →
      (member.2.readWithin around).value? = none)
    (deep : nestingLimit < around + membersDepth members) :
    Document.membersValue? (membersWithin around members) = none := by
  induction members with
  | nil =>
    rw [membersDepth] at deep
    omega
  | cons member rest ih =>
    rcases List.forall_mem_cons.mp each with ⟨first, later⟩
    rw [membersWithin, Document.membersValue?]
    by_cases here : nestingLimit < around + member.2.depth
    · rw [first here]
      rfl
    · rw [membersDepth] at deep
      rw [ih later (by omega)]
      cases (member.2.readWithin around).value? <;> rfl

theorem value?_readWithin_eq_none {around : Nat} {value : Json} (deep : nestingLimit < around + value.depth)
    (possible : around ≤ nestingLimit) : (value.readWithin around).value? = none := by
  induction value using induction generalizing around with
  | null | bool | number | text =>
    rw [depth] at deep
    omega
  | array items ih =>
    rw [readWithin]
    split
    · rw [depth] at deep
      rw [Document.value?, values?_itemsWithin_eq_none (by omega)
        (fun item member more => ih item member more (by omega)) (by omega), Option.map_none]
    · rfl
  | object members ih =>
    rw [readWithin]
    split
    · rw [depth] at deep
      rw [Document.value?, membersValue?_membersWithin_eq_none (by omega)
        (fun member held more => ih member held more (by omega)) (by omega), Option.map_none]
    · rfl

end Json

end CohortFilter
