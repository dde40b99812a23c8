import Mathlib.Tactic.IntervalCases
import CohortFilter.Json.Reader

namespace CohortFilter

namespace Token.Lexeme

def scan : Lexeme → List Char → List Token
  | lexeme, [] => lexeme.finish
  | lexeme, c :: rest => (lexeme.step c).1 ++ (lexeme.step c).2.scan rest

theorem scan_blank_cons (c : Char) (rest : List Char) :
    scan .blank (c :: rest) = (begin c).1 ++ (begin c).2.scan rest := rfl

end Token.Lexeme

theorem Reader.finish_foldl (reader : Reader) (chars : List Char) :
    (chars.foldl step reader).finish = ((reader.lexeme.scan chars).foldl Progress.step reader.progress).finish := by
  induction chars generalizing reader with
  | nil => rfl
  | cons c rest ih =>
    rw [List.foldl_cons, ih, Token.Lexeme.scan, List.foldl_append]
    rfl

/-- Finding tokens and putting them together are two passes. -/
theorem Reading.ofText_eq (text : String) :
    ofText text = ((Token.Lexeme.scan .blank text.toList).foldl Progress.step .start).finish :=
  Reader.finish_foldl Reader.start text.toList

namespace Token.Lexeme

def Bounded (rest : List Char) : Prop := ∀ c ∈ rest.head?, c ∈ [',', ']', '}', '\n']

theorem bounded_nil : Bounded [] := nofun

theorem bounded_cons {c : Char} (mark : c ∈ [',', ']', '}', '\n']) (rest : List Char) : Bounded (c :: rest) := by
  intro first same
  cases same
  exact mark

theorem step_numeral_of_mark {c : Char} (mark : c ∈ [',', ']', '}', '\n']) {part : NumeralPart}
    (complete : part.complete = true) (n : Numeral) :
    step (.numeral part n) c = (ofNumeral n :: (begin c).1, (begin c).2) := by
  simp only [List.mem_cons, List.not_mem_nil, or_false] at mark
  rcases mark with rfl | rfl | rfl | rfl <;> cases part <;> first | rfl | cases complete

theorem scan_numeral_of_bounded {part : NumeralPart} (complete : part.complete = true) (n : Numeral)
    {rest : List Char} (bounded : Bounded rest) :
    scan (.numeral part n) rest = ofNumeral n :: scan .blank rest := by
  cases rest with
  | nil => simp only [scan, finish, complete, if_true]
  | cons c rest =>
    rw [scan, step_numeral_of_mark (bounded c rfl) complete, scan_blank_cons, List.cons_append]

theorem digit?_digitChar {d : Nat} (small : d < 10) : digit? (Nat.digitChar d) = some d := by
  revert d
  decide

theorem take?_of_lt {n : Numeral} {digit : Nat} (counted : n.full = false)
    (bound : 10 * n.significand + digit < 0x10000000000000000) :
    n.take? digit = some { n with significand := 10 * n.significand + digit } := by
  rw [Numeral.take?, if_neg]
  simpa [counted] using bound

theorem wholeDigit_of_lt {n : Numeral} {digit : Nat} (counted : n.full = false)
    (bound : 10 * n.significand + digit < 0x10000000000000000) :
    n.wholeDigit digit = { n with significand := 10 * n.significand + digit } := by
  rw [Numeral.wholeDigit, take?_of_lt counted bound, Option.getD_some]

theorem scan_numeral_of_extend {part next : NumeralPart} {n n' : Numeral} {c : Char}
    (extended : extend? part n c = some (next, n')) (rest : List Char) :
    scan (.numeral part n) (c :: rest) = scan (.numeral next n') rest := by
  simp only [scan, step, extended, List.nil_append]

theorem scan_digitChars (negative : Bool) {n : Nat} (bound : n < 0x10000000000000000) (rest : List Char) :
    scan (.numeral .sign (.start negative)) (Decimal.digitChars n ++ rest) =
      scan (.numeral (if n = 0 then .zero else .whole) { Numeral.start negative with significand := n }) rest := by
  induction n using Nat.strong_induction_on generalizing rest with
  | _ n ih =>
    by_cases small : n < 10
    · have first : extend? .sign (.start negative) (Nat.digitChar n) =
          some (if n = 0 then .zero else .whole, { Numeral.start negative with significand := n }) := by
        simp only [extend?, digit?_digitChar small]
        rw [wholeDigit_of_lt rfl (by simpa [Numeral.start] using bound)]
        simp [Numeral.start]
      rw [Decimal.digitChars, Nat.toDigits_of_lt_base small]
      exact scan_numeral_of_extend first rest
    · -- The digits of `n` are those of `n / 10` and one more, which goes on with the number read so far.
      have front : n / 10 ≠ 0 := by omega
      have whole : n ≠ 0 := by omega
      have last : n % 10 < 10 := Nat.mod_lt n (by decide)
      have digits : 10 * (n / 10) + n % 10 = n := Nat.div_add_mod n 10
      have next : extend? .whole { Numeral.start negative with significand := n / 10 } (Nat.digitChar (n % 10)) =
          some (.whole, { Numeral.start negative with significand := n }) := by
        simp only [extend?, digit?_digitChar last]
        rw [wholeDigit_of_lt rfl (by simpa [digits] using bound)]
        simp [Numeral.start, digits]
      rw [Decimal.digitChars, Nat.toDigits_of_base_le (by decide) (Nat.not_lt.mp small), List.append_assoc,
        ← Decimal.digitChars, ih (n / 10) (by omega) (by omega), if_neg front, if_neg whole]
      exact scan_numeral_of_extend next rest

theorem exists_digitChar_of_isDigit {c : Char} (digit : c.isDigit = true) : ∃ d, d < 10 ∧ c = Nat.digitChar d := by
  simp only [Char.isDigit, Bool.and_eq_true, decide_eq_true_eq] at digit
  have low : 48 ≤ c.toNat := digit.1
  have high : c.toNat ≤ 57 := digit.2
  have back : c = Char.ofNat c.toNat := (Char.ofNat_toNat c).symm
  rcases Nat.exists_eq_add_of_le low with ⟨d, same⟩
  have small : d < 10 := by omega
  refine ⟨d, small, ?_⟩
  rw [back, same]
  interval_cases d <;> rfl

theorem begin_of_isDigit {c : Char} (digit : c.isDigit = true) :
    begin c = step (.numeral .sign (.start false)) c := by
  rcases exists_digitChar_of_isDigit digit with ⟨d, small, rfl⟩
  interval_cases d <;> rfl

theorem scan_digitChars_of_blank (n : Nat) (rest : List Char) :
    scan .blank (Decimal.digitChars n ++ rest) =
      scan (.numeral .sign (.start false)) (Decimal.digitChars n ++ rest) := by
  rcases List.exists_cons_of_ne_nil (Nat.toDigits_ne_nil : Nat.toDigits 10 n ≠ []) with ⟨first, more, digits⟩
  have digit : first.isDigit = true := by
    refine Nat.isDigit_of_mem_toDigits (b := 10) (n := n) (by decide) (by decide) ?_
    rw [digits]
    exact List.mem_cons_self
  rw [← Decimal.digitChars] at digits
  rw [digits, List.cons_append, scan_blank_cons, begin_of_isDigit digit, scan]

end Token.Lexeme

theorem Numeral.number?_of_integral {n : Numeral} {value : Int} (integral : n.integral = true)
    (counted : n.full = false) (proper : ¬ (n.negative = true ∧ n.significand = 0)) (fits : Fits64 value)
    (same : (if n.negative then -(n.significand : Int) else n.significand) = value) :
    n.number? = some (.integer value fits) := by
  subst same
  exact dif_pos ⟨⟨integral, by simp [counted]⟩, proper, fits⟩

def Number.Lexed (number : Number) : Prop :=
  ∀ rest, Token.Lexeme.Bounded rest → Token.Lexeme.scan .blank (number.chars ++ rest) =
    .scalar (.number number) :: Token.Lexeme.scan .blank rest

namespace Number

open Token.Lexeme

theorem scan_digitChars_integer {value : Int} (fits : Fits64 value) (negative : Bool)
    (signed : value = if negative then -(value.natAbs : Int) else value.natAbs)
    (proper : ¬ (negative = true ∧ value.natAbs = 0)) {rest : List Char} (bounded : Bounded rest) :
    scan (.numeral .sign (.start negative)) (Decimal.digitChars value.natAbs ++ rest) =
      .scalar (.number (.integer value fits)) :: scan .blank rest := by
  have bound : value.natAbs < 0x10000000000000000 := by
    rcases fits with ⟨low, high⟩
    omega
  have number : Numeral.number? { Numeral.start negative with significand := value.natAbs } =
      some (.integer value fits) := Numeral.number?_of_integral rfl rfl proper fits signed.symm
  have complete : (if value.natAbs = 0 then Token.NumeralPart.zero else .whole).complete = true := by
    split <;> rfl
  rw [scan_digitChars negative bound, scan_numeral_of_bounded complete _ bounded, Token.ofNumeral, number]
  rfl

theorem lexed_integer (value : Int) (fits : Fits64 value) : (integer value fits).Lexed := by
  intro rest bounded
  by_cases negative : value < 0
  · rw [chars, integerChars, if_pos negative]
    exact scan_digitChars_integer fits true (by rw [if_pos rfl]; omega) (by omega) bounded
  · rw [chars, integerChars, if_neg negative, List.nil_append, scan_digitChars_of_blank]
    exact scan_digitChars_integer fits false (by rw [if_neg Bool.false_ne_true]; omega) (by simp) bounded

end Number

namespace Progress

theorem foldl_done (tokens : List Token) (reading : Reading) :
    tokens.foldl step (.done reading) = .done ⟨reading.root, reading.trailing || !tokens.isEmpty⟩ := by
  induction tokens generalizing reading with
  | nil => simp
  | cons token rest ih => simp [step, ih]

theorem finish_scalar (document : Document) (tokens : List Token) :
    ((.scalar document :: tokens).foldl step .start).finish = ⟨document, !tokens.isEmpty⟩ := by
  change (tokens.foldl step (.done ⟨document, false⟩)).finish = _
  rw [foldl_done]
  rfl

theorem finish_unreadable (tokens : List Token) :
    ((.unreadable :: tokens).foldl step .start).finish = ⟨.broken, true⟩ := by
  change (tokens.foldl step (.done ⟨.broken, true⟩)).finish = _
  rw [foldl_done]
  rfl

end Progress

theorem Json.parse?_eq_some_iff {text : String} {value : Json} :
    parse? text = some value ↔ ∃ document, Reading.ofText text = ⟨document, false⟩ ∧ document.value? = some value := by
  rw [parse?]
  rcases Reading.ofText text with ⟨document, trailing⟩
  cases trailing <;> simp

theorem Document.eq_number_of_value? {document : Document} {number : Number}
    (found : document.value? = some (.number number)) : document = .number number := by
  cases document with
  | number held =>
    cases found
    rfl
  | array items closed | object members closed => cases closed <;> simp [value?] at found
  | _ => cases found

namespace Token.Lexeme

def Numeric (c : Char) : Prop := c.isDigit = true ∨ c ∈ ['.', 'e', '+', '-']

theorem begin_of_numeric {c : Char} (numeric : Numeric c) :
    (∃ part n, begin c = ([], .numeral part n)) ∨ begin c = fail := by
  rcases numeric with digit | mark
  · left
    rw [begin_of_isDigit digit]
    rcases exists_digitChar_of_isDigit digit with ⟨d, small, rfl⟩
    refine ⟨if d = 0 then .zero else .whole, (Numeral.start false).wholeDigit d, ?_⟩
    simp only [step, extend?, digit?_digitChar small]
  · simp only [List.mem_cons, List.not_mem_nil, or_false] at mark
    rcases mark with rfl | rfl | rfl | rfl
    · exact .inr rfl
    · exact .inr rfl
    · exact .inr rfl
    · exact .inl ⟨_, _, rfl⟩

theorem scan_numeral_ne_nil (part : NumeralPart) (n : Numeral) (chars : List Char) :
    scan (.numeral part n) chars ≠ [] := by
  induction chars generalizing part n with
  | nil => cases part <;> exact List.cons_ne_nil _ _
  | cons c rest ih =>
    rw [scan, step]
    split
    · exact ih _ _
    · split <;> exact List.cons_ne_nil _ _

theorem scan_blank_ne_nil {c : Char} (numeric : Numeric c) (rest : List Char) : scan .blank (c :: rest) ≠ [] := by
  rw [scan_blank_cons]
  rcases begin_of_numeric numeric with ⟨part, n, begun⟩ | failed
  · rw [begun]
    exact scan_numeral_ne_nil part n rest
  · rw [failed]
    exact List.cons_ne_nil _ _

theorem scan_numeral_of_read {part : NumeralPart} {n : Numeral} {chars : List Char} {document : Document}
    (numeric : ∀ c ∈ chars, Numeric c)
    (read : ((scan (.numeral part n) chars).foldl Progress.step .start).finish = ⟨document, false⟩)
    {rest : List Char} (bounded : Bounded rest) :
    scan (.numeral part n) (chars ++ rest) = .scalar document :: scan .blank rest := by
  induction chars generalizing part n with
  | nil =>
    by_cases complete : part.complete = true
    · rw [List.nil_append, scan_numeral_of_bounded complete n bounded]
      simp only [scan, finish, if_pos complete] at read
      cases read
      rfl
    · simp only [scan, finish, if_neg complete] at read
      cases read
  | cons c chars ih =>
    cases extended : extend? part n c with
    | some next =>
      rcases next with ⟨next, n'⟩
      rw [scan_numeral_of_extend extended] at read
      rw [List.cons_append, scan_numeral_of_extend extended]
      exact ih (fun c member => numeric c (List.mem_cons_of_mem _ member)) read
    | none =>
      simp only [scan, step, extended] at read
      split at read
      · -- The character begins a second token, and a reading of one number has none.
        have more := scan_blank_ne_nil (numeric c List.mem_cons_self) chars
        rw [List.cons_append, ← scan_blank_cons, ofNumeral, Progress.finish_scalar] at read
        simp [more] at read
      · rw [fail, List.singleton_append, Progress.finish_unreadable] at read
        cases read

theorem scan_blank_of_read {c : Char} {chars : List Char} {document : Document}
    (numeric : ∀ d ∈ c :: chars, Numeric d)
    (read : ((scan .blank (c :: chars)).foldl Progress.step .start).finish = ⟨document, false⟩)
    {rest : List Char} (bounded : Bounded rest) :
    scan .blank (c :: chars ++ rest) = .scalar document :: scan .blank rest := by
  rcases List.forall_mem_cons.mp numeric with ⟨first, later⟩
  rw [scan_blank_cons] at read
  rw [List.cons_append, scan_blank_cons]
  rcases begin_of_numeric first with ⟨part, n, begun⟩ | failed
  · rw [begun] at read ⊢
    exact scan_numeral_of_read later read bounded
  · rw [failed, fail, List.singleton_append, Progress.finish_unreadable] at read
    cases read

end Token.Lexeme

namespace Number

open Token.Lexeme

theorem numeric_of_mem_digitChars {n : Nat} {c : Char} (member : c ∈ Decimal.digitChars n) : Numeric c :=
  .inl (Nat.isDigit_of_mem_toDigits (by decide) (by decide) member)

theorem numeric_zeros (count : Nat) : ∀ c ∈ List.replicate count '0', Numeric c := by
  intro c member
  rw [List.eq_of_mem_replicate member]
  exact .inl rfl

theorem numeric_pointed {digits : List Char} (numeric : ∀ c ∈ digits, Numeric c) (count : Nat) :
    ∀ c ∈ pointed digits count, Numeric c := by
  have front : ∀ c ∈ digits.take count ++ List.replicate (count - digits.length) '0', Numeric c :=
    List.forall_mem_append.mpr ⟨fun c member => numeric c (List.mem_of_mem_take member), numeric_zeros _⟩
  refine List.forall_mem_append.mpr ⟨front, List.forall_mem_cons.mpr ⟨.inr (by decide), ?_⟩⟩
  split
  · exact numeric_zeros 1
  · exact fun c member => numeric c (List.mem_of_mem_drop member)

theorem numeric_layout {digits : List Char} (numeric : ∀ c ∈ digits, Numeric c) (leading : Int) :
    ∀ c ∈ layout digits leading, Numeric c := by
  unfold layout
  split
  · cases leading with
    | ofNat n => exact numeric_pointed numeric (n + 1)
    | negSucc n =>
      refine List.forall_mem_cons.mpr ⟨.inl rfl, List.forall_mem_cons.mpr ⟨.inr (by decide), ?_⟩⟩
      exact List.forall_mem_append.mpr ⟨numeric_zeros n, numeric⟩
  · refine List.forall_mem_append.mpr ⟨?front, List.forall_mem_cons.mpr ⟨.inr (by decide), ?back⟩⟩
    case front =>
      split
      · rcases List.forall_mem_cons.mp numeric with ⟨first, later⟩
        exact List.forall_mem_cons.mpr ⟨first, List.forall_mem_cons.mpr ⟨.inr (by decide), later⟩⟩
      · exact numeric
    case back =>
      refine List.forall_mem_cons.mpr ⟨?_, fun c member => numeric_of_mem_digitChars member⟩
      split <;> exact .inr (by decide)

theorem numeric_floatChars (x : Binary64) : ∀ c ∈ floatChars x, Numeric c := by
  have sign : ∀ c ∈ (if x.negative then ['-'] else []), Numeric c := by
    split
    · exact List.forall_mem_singleton.mpr (.inr (by decide))
    · exact List.forall_mem_nil _
  rw [floatChars]
  split
  · refine List.forall_mem_append.mpr ⟨sign, ?_⟩
    exact numeric_pointed (numeric_zeros 1) 1
  · refine List.forall_mem_append.mpr ⟨sign, numeric_layout (fun c member => ?_) _⟩
    refine numeric_of_mem_digitChars (n := (Decimal.shortest x).digits) ?_
    exact List.mem_reverse.mp ((List.dropWhile_suffix _).subset (List.mem_reverse.mp member))

theorem lexed_float {x : Binary64} (read : Json.parse? (float x).text = some (.number (.float x))) :
    (float x).Lexed := by
  rcases Json.parse?_eq_some_iff.mp read with ⟨document, made, found⟩
  rw [Reading.ofText_eq, text, String.toList_ofList, chars] at made
  cases Document.eq_number_of_value? found
  intro rest bounded
  rw [chars]
  cases digits : floatChars x with
  | nil =>
    rw [digits] at made
    cases made
  | cons c more =>
    rw [digits] at made
    exact scan_blank_of_read (digits ▸ numeric_floatChars x) made bounded

end Number

end CohortFilter
