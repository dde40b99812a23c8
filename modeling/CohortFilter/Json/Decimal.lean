import CohortFilter.Json.Binary64

namespace CohortFilter

structure Decimal where
  digits : Nat
  exponent : Int
deriving DecidableEq

namespace Decimal

def digitChars (n : Nat) : List Char := Nat.toDigits 10 n

def leading (d : Decimal) : Int := d.exponent + (digitChars d.digits).length - 1

def scaled (num den : Nat) : Int → Nat × Nat
  | .ofNat n => (num * Nat.pow 10 n, den)
  | .negSucc n => (num, den * Nat.pow 10 (n + 1))

/-- The nearest double; none past the largest one. The first digit alone decides far from the range
    of doubles, where the powers of ten would be large. -/
def toBinary64? (negative : Bool) (d : Decimal) : Option Binary64 :=
  if d.digits = 0 ∨ d.leading < -330 then some (Binary64.zero negative)
  else if 310 < d.leading then none
  else
    let (num, den) := scaled (d.digits * Binary64.one) 1 d.exponent
    Binary64.ofRatio? negative num den

def readsAs (x : Binary64) (d : Decimal) : Bool := d.toBinary64? x.negative == some x

def leadingOf (x : Binary64) : Int :=
  (digitChars (x.magnitude * Nat.pow 10 330 / Binary64.one)).length - 331

/-- The two decimals around `x` in steps of `10 ^ exponent`, the nearer first; of two equally near
    the even one is first. -/
def neighbours (x : Binary64) (exponent : Int) : List Decimal :=
  let (num, den) := scaled x.magnitude Binary64.one (-exponent)
  let below : Decimal := ⟨num / den, exponent⟩
  let above : Decimal := ⟨num / den + 1, exponent⟩
  let twice := 2 * (num % den)
  if twice < den ∨ (twice = den ∧ num / den % 2 = 0) then [below, above] else [above, below]

/-- Every digit of `x`, since a unit of `2 ^ -1074` is `5 ^ 1074 * 10 ^ -1074`. -/
def exact (x : Binary64) : Decimal := ⟨x.magnitude * Nat.pow 5 1074, -1074⟩

/-- Seventeen digits always suffice. -/
def shortest (x : Binary64) : Decimal :=
  ((List.range 17).findSome? fun (n : Nat) => (neighbours x (leadingOf x - n)).find? (readsAs x)).getD (exact x)

end Decimal

end CohortFilter
