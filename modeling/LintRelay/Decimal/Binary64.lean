/-!
# Binary floating point of double width

A finite number of the format is `± mantissa * 2 ^ exponent` with a mantissa below `2 ^ 53` and an
exponent between −1074 and 971. Arithmetic is exact on natural numbers and rounds once, to the
nearest number of the format, a tie going to the even mantissa. Whatever rounds beyond the largest
number has no value here.
-/

namespace LintRelay.Decimal

/-- A finite number of the format. -/
structure Binary64 where
  /-- Whether the sign is minus; zero has both signs. -/
  negative : Bool
  mantissa : Nat
  exponent : Int
  deriving Repr, DecidableEq, Inhabited

def leastExponent : Int := -1074

def greatestExponent : Int := 971

/-- The two sides of `num / den / 2 ^ e` as a fraction of natural numbers. -/
def scaled (num den : Nat) (e : Int) : Nat × Nat :=
  if 0 ≤ e then (num, den * Nat.pow 2 e.toNat) else (num * Nat.pow 2 (-e).toNat, den)

/-- The quotient rounded to the nearest integer, a tie going to the even one. -/
def roundHalfEven (num den : Nat) : Nat :=
  let q := num / den
  let r := num % den
  if 2 * r > den || (2 * r == den && q % 2 == 1) then q + 1 else q

/-- The exponent at which the nonzero quotient `num / den` has a mantissa of 53 bits, or the least
exponent where there is none so small. -/
def fittingExponent (num den : Nat) : Int :=
  let e : Int := (Nat.log2 num : Int) - Nat.log2 den - 52
  let (n, d) := scaled num den e
  max leastExponent (if n / d < Nat.pow 2 52 then e - 1 else e)

namespace Binary64

/-- Zero with the given sign. -/
def zero (negative : Bool) : Binary64 := ⟨negative, 0, leastExponent⟩

/-- The number of the format nearest to `± num / den`, if it is finite. -/
def ofRatio? (negative : Bool) (num den : Nat) : Option Binary64 :=
  if num == 0 then some (zero negative)
  else
    let e := fittingExponent num den
    let (n, d) := scaled num den e
    let m := roundHalfEven n d
    let (m, e) := if m == Nat.pow 2 53 then (Nat.pow 2 52, e + 1) else (m, e)
    if e > greatestExponent then none else some ⟨negative, m, e⟩

/-- The magnitude as a fraction of natural numbers. -/
def magnitude (x : Binary64) : Nat × Nat :=
  if 0 ≤ x.exponent then (x.mantissa * Nat.pow 2 x.exponent.toNat, 1)
  else (x.mantissa, Nat.pow 2 (-x.exponent).toNat)

/-- Whether the number is a zero. -/
def isZero (x : Binary64) : Bool := x.mantissa == 0

/-- The rounded product, if it is finite. -/
def mul? (x y : Binary64) : Option Binary64 :=
  let (a, b) := x.magnitude
  let (c, d) := y.magnitude
  ofRatio? (x.negative != y.negative) (a * c) (b * d)

/-- The rounded quotient by a nonzero number, if it is finite. -/
def div? (x y : Binary64) : Option Binary64 :=
  let (a, b) := x.magnitude
  let (c, d) := y.magnitude
  ofRatio? (x.negative != y.negative) (a * d) (b * c)

/-- The nearest number to a natural number, if it is finite. -/
def ofNat? (n : Nat) : Option Binary64 := ofRatio? false n 1

def isIntegral (x : Binary64) : Bool :=
  let (n, d) := x.magnitude
  n % d == 0

/-- The same magnitude with the given sign. -/
def withSign (x : Binary64) (negative : Bool) : Binary64 := { x with negative }

end Binary64
end LintRelay.Decimal
