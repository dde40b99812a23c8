import CohortFilter.Json.Number

namespace CohortFilter

/-- The number `significand * 10 ^ scale` with an exponent of its own. An integral numeral has neither
    point nor exponent; a full one has a digit that was left out. -/
structure Numeral where
  negative : Bool
  significand : Nat
  scale : Int
  full : Bool
  exponentNegative : Bool
  exponent : Nat
  integral : Bool
deriving DecidableEq

namespace Numeral

def start (negative : Bool) : Numeral := ⟨negative, 0, 0, false, false, 0, true⟩

def ofNat (n : Nat) : Numeral := ⟨false, n, 0, false, false, 0, true⟩

def take? (n : Numeral) (digit : Nat) : Option Numeral :=
  if n.full ∨ 0x10000000000000000 ≤ 10 * n.significand + digit then none
  else some { n with significand := 10 * n.significand + digit }

def wholeDigit (n : Numeral) (digit : Nat) : Numeral :=
  (n.take? digit).getD { n with full := true, scale := n.scale + 1 }

def point (n : Numeral) : Numeral := { n with full := false, integral := false }

def fractionDigit (n : Numeral) (digit : Nat) : Numeral :=
  match n.take? digit with
  | some n => { n with scale := n.scale - 1 }
  | none => { n with full := true }

def exponentDigit (n : Numeral) (digit : Nat) : Numeral := { n with exponent := 10 * n.exponent + digit }

def greatestPower : Nat := 308

def power? (n : Nat) : Option Binary64 := Decimal.toBinary64? false ⟨1, n⟩

def lowered? (x : Binary64) : Nat → Option Binary64
  | 0 => some x
  | times + 1 =>
    if x.significand = 0 then some x
    else do lowered? (← x.div? (← power? greatestPower)) times

/-- Divides by a power of ten, and by the greatest one first as long as the rest is greater still. -/
def divided? (x : Binary64) (n : Nat) : Option Binary64 := do
  let times := (n - 1) / greatestPower
  (← lowered? x times).div? (← power? (n - greatestPower * times))

def scaled? (x : Binary64) : Int → Option Binary64
  | .ofNat n =>
    if n ≤ greatestPower then (power? n).bind x.mul?
    else if x.significand = 0 then some x
    else none
  | .negSucc n => divided? x (n + 1)

def power (n : Numeral) : Int :=
  n.scale + if n.exponentNegative then -(n.exponent : Int) else n.exponent

/-- Minus zero is a double, and so is an integer that no 64-bit type holds. A numeral past the largest
    double denotes nothing. -/
def number? (n : Numeral) : Option Number :=
  let value : Int := if n.negative then -(n.significand : Int) else n.significand
  if integer : (n.integral ∧ ¬ n.full) ∧ ¬ (n.negative ∧ n.significand = 0) ∧ Fits64 value then
    some (.integer value integer.2.2)
  else do
    let x ← Binary64.ofNat? n.negative n.significand
    return .float (← scaled? x n.power)

end Numeral

end CohortFilter
