import LintRelay.Decimal.Binary64

/-!
# Shortest decimal text

The decimal that stands for a floating point number has the fewest digits among those that round to
it, and among those it is the nearest. All comparisons are exact: the reals that round to
`m * 2 ^ e` form an interval whose ends are fractions of natural numbers, and a decimal grid
`10 ^ k` is tried from the coarse to the fine until one of the two grid points around the number
lies in that interval.
-/

namespace LintRelay.Decimal

/-- The reals that round to a positive number, all over one denominator. -/
structure Rounding where
  /-- The least real, or the bound below all of them. -/
  low : Nat
  value : Nat
  /-- The greatest real, or the bound above all of them. -/
  high : Nat
  denominator : Nat
  /-- Whether the ends belong to the interval. -/
  closed : Bool

/-- The reals that round to the magnitude of `x`. Below a power of two the neighbour is half as far
away as above it. -/
def Binary64.rounding (x : Binary64) : Rounding :=
  let e := x.exponent - 2
  let narrow := x.mantissa == Nat.pow 2 52 && x.exponent > leastExponent
  let scale (n : Nat) : Nat := if 0 ≤ e then n * Nat.pow 2 e.toNat else n
  { low := scale (4 * x.mantissa - (if narrow then 1 else 2))
    value := scale (4 * x.mantissa)
    high := scale (4 * x.mantissa + 2)
    denominator := if 0 ≤ e then 1 else Nat.pow 2 (-e).toNat
    closed := x.mantissa % 2 == 0 }

/-- Whether the fraction `n / d` lies in the interval. -/
def Rounding.holds (r : Rounding) (n d : Nat) : Bool :=
  let v := n * r.denominator
  if r.closed then r.low * d ≤ v && v ≤ r.high * d else r.low * d < v && v < r.high * d

/-- The nearest point of the grid `10 ^ k` in the interval, as a multiple of `10 ^ k`. -/
def Rounding.onGrid? (r : Rounding) (k : Int) : Option Nat :=
  let up := if 0 ≤ k then Nat.pow 10 k.toNat else 1
  let down := if 0 ≤ k then 1 else Nat.pow 10 (-k).toNat
  let below := r.value * down / (r.denominator * up)
  let above := below + 1
  let fits (c : Nat) : Bool := r.holds (c * up) down
  let gapBelow := r.value * down - below * up * r.denominator
  let gapAbove := above * up * r.denominator - r.value * down
  if fits below && fits above then
    if gapBelow < gapAbove || (gapBelow == gapAbove && below % 2 == 0) then some below
    else some above
  else if fits below then some below
  else if fits above then some above
  else none

/-- The first of `n` grids, from `10 ^ k` downwards, with a point in the interval. -/
def Rounding.firstGrid? (r : Rounding) : Nat → Int → Option (Nat × Int)
  | 0, _ => none
  | n + 1, k =>
    match r.onGrid? k with
    | some c => some (c, k)
    | none => r.firstGrid? n (k - 1)

/-- A power of ten that no magnitude of these binary digits reaches. -/
def coarsestGrid (x : Binary64) : Int :=
  (x.exponent + Nat.log2 x.mantissa + 1) * 30103 / 100000 + 2

/-- The number of grids that are tried. The seventeenth significant digit always suffices. -/
def gridCount : Nat := 24

/-- The shortest decimal `c * 10 ^ k` that rounds to the magnitude of a nonzero number. -/
def Binary64.shortest (x : Binary64) : Nat × Int :=
  (x.rounding.firstGrid? gridCount (coarsestGrid x)).getD (0, 0)

/-- How a floating point number is written. -/
structure FloatFormat where
  /-- The least decimal exponent of the first digit that is written positionally. -/
  leastPositional : Int
  greatestPositional : Int
  integralTail : List Char
  exponentPlus : List Char

/-- Numbers from `1e-5` up to below `1e16` are written positionally, with a fraction of at least one
digit; others have one digit before the point and a signed exponent. -/
def floatFormat : FloatFormat := ⟨-5, 15, ['.', '0'], ['+']⟩

/-- The decimal `c * 10 ^ k`, written in the given format. -/
def FloatFormat.write (f : FloatFormat) (c : Nat) (k : Int) : List Char :=
  let ds := Nat.toDigits 10 c
  let lead : Int := ds.length - 1 + k
  if f.leastPositional ≤ lead && lead ≤ f.greatestPositional then
    if 0 ≤ k then ds ++ List.replicate k.toNat '0' ++ f.integralTail
    else if 0 ≤ lead then
      ds.take (lead.toNat + 1) ++ '.' :: ds.drop (lead.toNat + 1)
    else '0' :: '.' :: List.replicate (-lead - 1).toNat '0' ++ ds
  else
    let fraction := if ds.length ≤ 1 then [] else '.' :: ds.drop 1
    let sign := if lead < 0 then ['-'] else f.exponentPlus
    ds.take 1 ++ fraction ++ 'e' :: sign ++ Nat.toDigits 10 lead.natAbs

/-- The text of a floating point number. -/
def Binary64.text (x : Binary64) : List Char :=
  let sign := if x.negative then ['-'] else []
  let (c, k) := if x.isZero then (0, 0) else x.shortest
  sign ++ floatFormat.write c k

end LintRelay.Decimal
