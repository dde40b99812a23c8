namespace CohortFilter

/-- The significand has 53 bits, fewer only where the unit is the smallest one. -/
def Canonical (significand exponent : Nat) : Prop :=
  significand < Nat.pow 2 53 ∧ (Nat.pow 2 52 ≤ significand ∨ exponent = 0) ∧ exponent ≤ 2045

instance (significand exponent : Nat) : Decidable (Canonical significand exponent) :=
  inferInstanceAs (Decidable (_ ∧ _ ∧ _))

structure Binary64 where
  negative : Bool
  significand : Nat
  exponent : Nat
  canonical : Canonical significand exponent
deriving DecidableEq

namespace Binary64

def one : Nat := Nat.pow 2 1074

/-- The magnitude in units of `2 ^ -1074`. -/
def magnitude (x : Binary64) : Nat := x.significand * Nat.pow 2 x.exponent

def zero (negative : Bool) : Binary64 := ⟨negative, 0, 0, by decide⟩

def numericEq (x y : Binary64) : Bool :=
  x.significand == y.significand && x.exponent == y.exponent &&
    (x.negative == y.negative || x.significand == 0)

def ofParts? (negative : Bool) (significand exponent : Nat) : Option Binary64 :=
  if canonical : Canonical significand exponent then
    some ⟨negative, significand, exponent, canonical⟩
  else none

def roundHalfEven (num den : Nat) : Nat :=
  let quotient := num / den
  let twice := 2 * (num % den)
  if twice < den ∨ (twice = den ∧ quotient % 2 = 0) then quotient else quotient + 1

/-- The number nearest to `num / den` units; none where that lies past the largest finite number.
    The unit leaves 53 bits before the point, and a carry into the 54th moves to the next unit. -/
def ofRatio? (negative : Bool) (num den : Nat) : Option Binary64 :=
  let unit := (num / den).log2 - 52
  let significand := roundHalfEven num (den * Nat.pow 2 unit)
  if significand = Nat.pow 2 53 then ofParts? negative (Nat.pow 2 52) (unit + 1)
  else ofParts? negative significand unit

def mul? (x y : Binary64) : Option Binary64 :=
  ofRatio? (x.negative != y.negative) (x.magnitude * y.magnitude) one

def div? (x y : Binary64) : Option Binary64 :=
  ofRatio? (x.negative != y.negative) (x.magnitude * one) y.magnitude

def ofNat? (negative : Bool) (n : Nat) : Option Binary64 := ofRatio? negative (n * one) 1

end Binary64

end CohortFilter
