import CohortFilter.Json.Decimal

namespace CohortFilter

def Fits64 (value : Int) : Prop := -0x8000000000000000 ≤ value ∧ value < 0x10000000000000000

instance (value : Int) : Decidable (Fits64 value) := inferInstanceAs (Decidable (_ ∧ _))

inductive Number
  | integer (value : Int) (fits : Fits64 value)
  | float (value : Binary64)
deriving DecidableEq

namespace Number

def numericEq : Number → Number → Bool
  | .integer x _, .integer y _ => x == y
  | .float x, .float y => x.numericEq y
  | _, _ => false

def integerChars (value : Int) : List Char :=
  (if value < 0 then ['-'] else []) ++ Decimal.digitChars value.natAbs

/-- Exponents from the least to the greatest of these are written without an exponent mark. -/
def plainExponents : Int × Int := (-5, 15)

def pointed (digits : List Char) (count : Nat) : List Char :=
  let whole := digits.take count ++ List.replicate (count - digits.length) '0'
  let part := digits.drop count
  whole ++ '.' :: (if part.isEmpty then ['0'] else part)

/-- Digits without trailing zeros, the first of which has the given exponent. -/
def layout (digits : List Char) (leading : Int) : List Char :=
  if plainExponents.1 ≤ leading ∧ leading ≤ plainExponents.2 then
    match leading with
    | .ofNat n => pointed digits (n + 1)
    | .negSucc n => '0' :: '.' :: (List.replicate n '0' ++ digits)
  else
    let significand := match digits with
      | first :: second :: rest => first :: '.' :: second :: rest
      | few => few
    significand ++ 'e' :: (if leading < 0 then '-' else '+') :: Decimal.digitChars leading.natAbs

def floatChars (x : Binary64) : List Char :=
  let sign := if x.negative then ['-'] else []
  if x.significand = 0 then sign ++ ['0', '.', '0']
  else
    let d := Decimal.shortest x
    let digits := ((Decimal.digitChars d.digits).reverse.dropWhile (· == '0')).reverse
    sign ++ layout digits d.leading

def chars : Number → List Char
  | .integer value _ => integerChars value
  | .float x => floatChars x

def text (n : Number) : String := String.ofList n.chars

end Number

end CohortFilter
