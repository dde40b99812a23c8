import CohortFilter.Json.Printer
import CohortFilter.Proofs.Scanning

namespace CohortFilter

namespace Token.Lexeme

theorem scan_escape (c : Char) (read rest : List Char) :
    scan (.text ⟨read, none, true⟩) (Json.escape c ++ rest) = scan (.text ⟨c :: read, none, true⟩) rest := by
  unfold Json.escape
  split
  · rfl
  · rfl
  · rfl
  · rfl
  · rfl
  · rfl
  · rfl
  · next quote backslash _ _ _ _ _ =>
    split
    · next low =>
      have back : c = Char.ofNat c.toNat := (Char.ofNat_toNat c).symm
      rw [back]
      generalize c.toNat = n at low
      interval_cases n <;> rfl
    · next high =>
      simp only [List.singleton_append, scan, step, if_neg quote, if_neg backslash, if_neg high, List.nil_append]
      rfl

theorem scan_escapes (chars read rest : List Char) :
    scan (.text ⟨read, none, true⟩) (chars.flatMap Json.escape ++ '"' :: rest) =
      .text (some (String.ofList (read.reverse ++ chars))) :: scan .blank rest := by
  induction chars generalizing read with
  | nil => simp [scan, step, TextPart.finish]
  | cons c more ih =>
    rw [List.flatMap_cons, List.append_assoc, scan_escape, ih]
    simp

theorem scan_quoted (s : String) (rest : List Char) :
    scan .blank (Json.quoted s ++ rest) = .text (some s) :: scan .blank rest := by
  have inner := scan_escapes s.toList [] rest
  rw [List.reverse_nil, List.nil_append, String.ofList_toList] at inner
  rw [← inner]
  simp [Json.quoted, scan_blank_cons, begin, TextPart.start]

theorem scan_blanks (count : Nat) (rest : List Char) :
    scan .blank (List.replicate count ' ' ++ rest) = scan .blank rest := by
  induction count with
  | zero => rfl
  | succ count ih =>
    rw [List.replicate_succ, List.cons_append, scan_blank_cons, ← ih]
    rfl

theorem scan_newLine (indent : Nat) (rest : List Char) :
    scan .blank (Json.newLine indent ++ rest) = scan .blank rest := by
  rw [← scan_blanks (2 * indent) rest]
  rfl

end Token.Lexeme

namespace Json

mutual

def tokens : Json → List Token
  | .null => [.scalar .null]
  | .bool value => [.scalar (.bool value)]
  | .number value => [.scalar (.number value)]
  | .text value => [.text (some value)]
  | .array [] => [.openArray, .closeArray]
  | .array (item :: rest) => .openArray :: (item.tokens ++ itemsTokens rest)
  | .object [] => [.openObject, .closeObject]
  | .object ((key, value) :: rest) =>
    .openObject :: .text (some key) :: .colon :: (value.tokens ++ membersTokens rest)

def itemsTokens : List Json → List Token
  | [] => [.closeArray]
  | item :: rest => .comma :: (item.tokens ++ itemsTokens rest)

def membersTokens : List (String × Json) → List Token
  | [] => [.closeObject]
  | (key, value) :: rest => .comma :: .text (some key) :: .colon :: (value.tokens ++ membersTokens rest)

end

mutual

def numbers : Json → List Number
  | .number value => [value]
  | .array items => itemsNumbers items
  | .object members => membersNumbers members
  | .null | .bool _ | .text _ => []

def itemsNumbers : List Json → List Number
  | [] => []
  | item :: rest => item.numbers ++ itemsNumbers rest

def membersNumbers : List (String × Json) → List Number
  | [] => []
  | (_, value) :: rest => value.numbers ++ membersNumbers rest

end

theorem forall_mem_itemsNumbers {P : Number → Prop} {items : List Json} :
    (∀ number ∈ itemsNumbers items, P number) ↔ ∀ item ∈ items, ∀ number ∈ item.numbers, P number := by
  induction items with
  | nil => simp [itemsNumbers]
  | cons item rest ih => rw [itemsNumbers, List.forall_mem_append, List.forall_mem_cons, ih]

theorem forall_mem_membersNumbers {P : Number → Prop} {members : List (String × Json)} :
    (∀ number ∈ membersNumbers members, P number) ↔ ∀ member ∈ members, ∀ number ∈ member.2.numbers, P number := by
  induction members with
  | nil => simp [membersNumbers]
  | cons member rest ih => rw [membersNumbers, List.forall_mem_append, List.forall_mem_cons, ih]

end Json

/-- The characters are these tokens, with whatever may follow a value behind them. -/
def Token.Lexeme.Shows (chars : List Char) (tokens : List Token) : Prop :=
  ∀ rest, Bounded rest → scan .blank (chars ++ rest) = tokens ++ scan .blank rest

namespace Token.Lexeme.Shows

variable {chars more : List Char} {tokens others : List Token}

theorem mark {c : Char} {token : Token} (alone : begin c = ([token], .blank)) (shown : Shows chars tokens) :
    Shows (c :: chars) (token :: tokens) := by
  intro rest bounded
  rw [List.cons_append, scan_blank_cons, alone, shown rest bounded]
  rfl

theorem blank (shown : Shows chars tokens) : Shows (' ' :: chars) tokens :=
  fun rest bounded => shown rest bounded

theorem newLine (indent : Nat) (shown : Shows chars tokens) : Shows (Json.newLine indent ++ chars) tokens := by
  intro rest bounded
  rw [List.append_assoc, scan_newLine, shown rest bounded]

theorem quoted (s : String) (shown : Shows chars tokens) :
    Shows (Json.quoted s ++ chars) (.text (some s) :: tokens) := by
  intro rest bounded
  rw [List.append_assoc, scan_quoted, shown rest bounded, List.cons_append]

theorem append (shown : Shows chars tokens) (later : Shows more others) (apart : ∀ rest, Bounded (more ++ rest)) :
    Shows (chars ++ more) (tokens ++ others) := by
  intro rest bounded
  rw [List.append_assoc, shown _ (apart rest), later rest bounded, List.append_assoc]

theorem closed {c : Char} {token : Token} (alone : begin c = ([token], .blank)) : Shows [c] [token] :=
  mark alone fun _ _ => rfl

end Token.Lexeme.Shows

namespace Json

open Token.Lexeme

section Compact

theorem bounded_itemsChars (items : List Json) (rest : List Char) : Bounded (itemsChars items ++ rest) := by
  cases items <;> exact bounded_cons (by decide) _

theorem bounded_membersChars (members : List (String × Json)) (rest : List Char) :
    Bounded (membersChars members ++ rest) := by
  cases members <;> exact bounded_cons (by decide) _

theorem shows_itemsChars {items : List Json} (each : ∀ item ∈ items, Shows item.chars item.tokens) :
    Shows (itemsChars items) (itemsTokens items) := by
  induction items with
  | nil => exact .closed rfl
  | cons item rest ih =>
    rcases List.forall_mem_cons.mp each with ⟨first, later⟩
    exact .mark rfl (.append first (ih later) (bounded_itemsChars rest))

theorem shows_membersChars {members : List (String × Json)}
    (each : ∀ member ∈ members, Shows member.2.chars member.2.tokens) :
    Shows (membersChars members) (membersTokens members) := by
  induction members with
  | nil => exact .closed rfl
  | cons member rest ih =>
    rcases List.forall_mem_cons.mp each with ⟨first, later⟩
    exact .mark rfl (.quoted member.1 (.mark rfl (.append first (ih later) (bounded_membersChars rest))))

theorem shows_chars {value : Json} (lexed : ∀ number ∈ value.numbers, number.Lexed) :
    Shows value.chars value.tokens := by
  induction value using induction with
  | null => exact fun _ _ => rfl
  | bool value => cases value <;> exact fun _ _ => rfl
  | number value => exact lexed value List.mem_cons_self
  | text value => exact fun rest _ => scan_quoted value rest
  | array items ih =>
    have each := fun item held => ih item held (forall_mem_itemsNumbers.mp lexed item held)
    cases items with
    | nil => exact .mark rfl (.closed rfl)
    | cons item rest =>
      rcases List.forall_mem_cons.mp each with ⟨first, later⟩
      exact .mark rfl (.append first (shows_itemsChars later) (bounded_itemsChars rest))
  | object members ih =>
    have each := fun member held => ih member held (forall_mem_membersNumbers.mp lexed member held)
    cases members with
    | nil => exact .mark rfl (.closed rfl)
    | cons member rest =>
      rcases List.forall_mem_cons.mp each with ⟨first, later⟩
      exact .mark rfl (.quoted member.1 (.mark rfl (.append first (shows_membersChars later)
        (bounded_membersChars rest))))

end Compact

section Pretty

variable (indent : Nat)

theorem bounded_prettyItems (items : List Json) (rest : List Char) : Bounded (prettyItems indent items ++ rest) := by
  cases items <;> exact bounded_cons (by decide) _

theorem bounded_prettyMembers (members : List (String × Json)) (rest : List Char) :
    Bounded (prettyMembers indent members ++ rest) := by
  cases members <;> exact bounded_cons (by decide) _

theorem shows_prettyItems {items : List Json}
    (each : ∀ item ∈ items, Shows (item.prettyChars (indent + 1)) item.tokens) :
    Shows (prettyItems indent items) (itemsTokens items) := by
  induction items with
  | nil => exact .newLine indent (.closed rfl)
  | cons item rest ih =>
    rcases List.forall_mem_cons.mp each with ⟨first, later⟩
    rw [prettyItems, List.append_assoc]
    exact .mark rfl (.newLine _ (.append first (ih later) (bounded_prettyItems indent rest)))

theorem shows_prettyMembers {members : List (String × Json)}
    (each : ∀ member ∈ members, Shows (member.2.prettyChars (indent + 1)) member.2.tokens) :
    Shows (prettyMembers indent members) (membersTokens members) := by
  induction members with
  | nil => exact .newLine indent (.closed rfl)
  | cons member rest ih =>
    rcases List.forall_mem_cons.mp each with ⟨first, later⟩
    rw [prettyMembers, List.append_assoc]
    exact .mark rfl (.newLine _ (.quoted member.1 (.mark rfl (.blank
      (.append first (ih later) (bounded_prettyMembers indent rest))))))

theorem shows_prettyChars {value : Json} (lexed : ∀ number ∈ value.numbers, number.Lexed) :
    Shows (value.prettyChars indent) value.tokens := by
  induction value using induction generalizing indent with
  | null => exact fun _ _ => rfl
  | bool value => cases value <;> exact fun _ _ => rfl
  | number value => exact lexed value List.mem_cons_self
  | text value => exact fun rest _ => scan_quoted value rest
  | array items ih =>
    have each := fun item held => ih item held (indent + 1) (forall_mem_itemsNumbers.mp lexed item held)
    cases items with
    | nil => exact .mark rfl (.closed rfl)
    | cons item rest =>
      rcases List.forall_mem_cons.mp each with ⟨first, later⟩
      rw [prettyChars, List.append_assoc]
      exact .mark rfl (.newLine _ (.append first (shows_prettyItems indent later) (bounded_prettyItems indent rest)))
  | object members ih =>
    have each := fun member held => ih member held (indent + 1) (forall_mem_membersNumbers.mp lexed member held)
    cases members with
    | nil => exact .mark rfl (.closed rfl)
    | cons member rest =>
      rcases List.forall_mem_cons.mp each with ⟨first, later⟩
      rw [prettyChars, List.append_assoc]
      exact .mark rfl (.newLine _ (.quoted member.1 (.mark rfl (.blank
        (.append first (shows_prettyMembers indent later) (bounded_prettyMembers indent rest))))))

end Pretty

end Json

end CohortFilter
