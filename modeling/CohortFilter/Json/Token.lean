import CohortFilter.Json.Document
import CohortFilter.Json.Numeral

namespace CohortFilter

/-- Texts are apart from the other scalars since they also name members. A text with half of a
    surrogate pair is none. -/
inductive Token
  | openArray
  | closeArray
  | openObject
  | closeObject
  | comma
  | colon
  | scalar (value : Document)
  | text (value : Option String)
  | unreadable

namespace Token

structure TextPart where
  chars : List Char
  high : Option Nat
  whole : Bool

namespace TextPart

def start : TextPart := ⟨[], none, true⟩

/-- A high surrogate stands alone unless its low one follows at once. -/
def add (part : TextPart) (c : Char) : TextPart :=
  ⟨c :: part.chars, none, part.whole && part.high.isNone⟩

def joined (high low : Nat) : Char :=
  Char.ofNat (0x10000 + (high - 0xD800) * 0x400 + (low - 0xDC00))

def addUnit (part : TextPart) (unit : Nat) : TextPart :=
  if 0xD800 ≤ unit ∧ unit < 0xDC00 then
    { part with high := some unit, whole := part.whole && part.high.isNone }
  else if 0xDC00 ≤ unit ∧ unit < 0xE000 then
    match part.high with
    | some high => ⟨joined high unit :: part.chars, none, part.whole⟩
    | none => { part with whole := false }
  else part.add (Char.ofNat unit)

def finish (part : TextPart) : Option String :=
  if part.whole && part.high.isNone then some (String.ofList part.chars.reverse) else none

end TextPart

inductive NumeralPart
  | sign
  | zero
  | whole
  | point
  | fraction
  | mark
  | markSign
  | exponent
deriving DecidableEq

namespace NumeralPart

def complete : NumeralPart → Bool
  | .zero | .whole | .fraction | .exponent => true
  | .sign | .point | .mark | .markSign => false

end NumeralPart

def digit? (c : Char) : Option Nat := if c.isDigit then some (c.toNat - '0'.toNat) else none

def hex? (c : Char) : Option Nat :=
  if c.isDigit then some (c.toNat - '0'.toNat)
  else if 'a' ≤ c ∧ c ≤ 'f' then some (c.toNat - 'a'.toNat + 10)
  else if 'A' ≤ c ∧ c ≤ 'F' then some (c.toNat - 'A'.toNat + 10)
  else none

def extend? (part : NumeralPart) (n : Numeral) (c : Char) : Option (NumeralPart × Numeral) :=
  match digit? c with
  | some d =>
    match part with
    | .sign => some (if d = 0 then .zero else .whole, n.wholeDigit d)
    | .whole => some (.whole, n.wholeDigit d)
    | .point | .fraction => some (.fraction, n.fractionDigit d)
    | .mark | .markSign | .exponent => some (.exponent, n.exponentDigit d)
    | .zero => none
  | none =>
    match c, part with
    | '.', .zero | '.', .whole => some (.point, n.point)
    | 'e', .zero | 'e', .whole | 'e', .fraction => some (.mark, { n with integral := false })
    | 'E', .zero | 'E', .whole | 'E', .fraction => some (.mark, { n with integral := false })
    | '+', .mark => some (.markSign, n)
    | '-', .mark => some (.markSign, { n with exponentNegative := true })
    | _, _ => none

/-- No character may follow a complete numeral where it would read as a part of it: a digit after a
    leading zero. -/
def endsBefore (part : NumeralPart) (c : Char) : Bool :=
  part.complete && !(part == .zero && c.isDigit)

def ofNumeral (n : Numeral) : Token := .scalar ((n.number?.map Document.number).getD .refused)

/-- A token of which some characters are read. After a character that belongs to no token nothing more
    is read. -/
inductive Lexeme
  | blank
  | word (rest : List Char) (value : Document)
  | numeral (part : NumeralPart) (read : Numeral)
  | text (read : TextPart)
  | escape (read : TextPart)
  | unit (read : TextPart) (left value : Nat)
  | stuck

namespace Lexeme

def fail : List Token × Lexeme := ([.unreadable], .stuck)

def begin (c : Char) : List Token × Lexeme :=
  match c with
  | ' ' | '\t' | '\n' | '\r' => ([], .blank)
  | '[' => ([.openArray], .blank)
  | ']' => ([.closeArray], .blank)
  | '{' => ([.openObject], .blank)
  | '}' => ([.closeObject], .blank)
  | ',' => ([.comma], .blank)
  | ':' => ([.colon], .blank)
  | '"' => ([], .text .start)
  | 'n' => ([], .word ['u', 'l', 'l'] .null)
  | 't' => ([], .word ['r', 'u', 'e'] (.bool true))
  | 'f' => ([], .word ['a', 'l', 's', 'e'] (.bool false))
  | '-' => ([], .numeral .sign (.start true))
  | c =>
    match extend? .sign (.start false) c with
    | some (part, n) => ([], .numeral part n)
    | none => fail

def escaped? (c : Char) : Option Char :=
  match c with
  | '"' | '\\' | '/' => some c
  | 'b' => some '\x08'
  | 'f' => some '\x0c'
  | 'n' => some '\n'
  | 'r' => some '\r'
  | 't' => some '\t'
  | _ => none

def step (lexeme : Lexeme) (c : Char) : List Token × Lexeme :=
  match lexeme with
  | .blank => begin c
  | .word [last] value => if c = last then ([.scalar value], .blank) else fail
  | .word (next :: rest) value => if c = next then ([], .word rest value) else fail
  | .word [] _ => fail
  | .numeral part n =>
    match extend? part n c with
    | some (part, n) => ([], .numeral part n)
    | none =>
      if endsBefore part c then
        let (tokens, next) := begin c
        (ofNumeral n :: tokens, next)
      else fail
  | .text part =>
    if c = '"' then ([.text part.finish], .blank)
    else if c = '\\' then ([], .escape part)
    else if c.toNat < 32 then fail
    else ([], .text (part.add c))
  | .escape part =>
    if c = 'u' then ([], .unit part 4 0)
    else match escaped? c with
      | some meant => ([], .text (part.add meant))
      | none => fail
  | .unit part left value =>
    match hex? c with
    | some d =>
      if left ≤ 1 then ([], .text (part.addUnit (16 * value + d)))
      else ([], .unit part (left - 1) (16 * value + d))
    | none => fail
  | .stuck => ([], .stuck)

def finish : Lexeme → List Token
  | .blank | .stuck => []
  | .numeral part n => if part.complete then [ofNumeral n] else [.unreadable]
  | .word .. | .text _ | .escape _ | .unit .. => [.unreadable]

end Lexeme

end Token

end CohortFilter
