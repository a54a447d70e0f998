import LintRelay.Decimal.Binary64
import LintRelay.Shell.Octets

/-!
# Numbers with fractions

The numbers that formatted output puts into fixed, scientific or the shorter notation. A number is
read as an exact fraction, rounded once to the nearest number of the floating format, and printed
with correct rounding.
-/

namespace LintRelay.Shell

open Decimal (Binary64 roundHalfEven)

/-- A number, or infinity, or no number. -/
inductive Real where
  | finite (negative : Bool) (num den : Nat)
  | infinite (negative : Bool)
  | undefined
  deriving Repr, DecidableEq

namespace Real

/-- The greatest exponent that is worked out; a number beyond it is infinite or zero. -/
def exponentBound : Nat := 5000

/-- The number `± digits * base ^ exponent`. -/
def scaled (negative : Bool) (digits base : Nat) (exponent : Int) : Real :=
  if digits == 0 then .finite negative 0 1
  else if exponent > exponentBound then .infinite negative
  else if exponent < -exponentBound then .finite negative 0 1
  else if exponent ≥ 0 then .finite negative (digits * Nat.pow base exponent.toNat) 1
  else .finite negative digits (Nat.pow base (-exponent).toNat)

/-- The exponent at the front of a text, behind one of the letters `marks`, with its length. -/
def exponentAt (marks : Octets) (cs : Octets) : Int × Nat :=
  match cs with
  | mark :: more =>
    let sign := more.head?.filter fun c => c == '-' || c == '+'
    let digits := (more.drop sign.toList.length).takeWhile Char.isDigit
    if !marks.contains mark || digits.isEmpty then (0, 0)
    else
      let n := (decimal? digits).getD 0
      (if sign == some '-' then -n else n, 1 + sign.toList.length + digits.length)
  | [] => (0, 0)

/-- The number without a sign at the front of a text, in the given base, with its length. `marks`
begin an exponent of the base `step`, and a digit of the fraction divides by `step` to `width`. -/
def unsigned? (negative : Bool) (base : Nat) (marks : Octets) (step width : Nat) (cs : Octets) :
    Option (Real × Nat) :=
  let isDigit (c : Char) : Bool := digitValue c < base
  let whole := cs.takeWhile isDigit
  let behind := cs.drop whole.length
  let fraction := if behind.head? == some '.' then (behind.drop 1).takeWhile isDigit else []
  let point := if behind.head? == some '.' && !(whole ++ fraction).isEmpty then 1 else 0
  match numberIn? base (whole ++ fraction) with
  | none => none
  | some n =>
    let size := whole.length + point + fraction.length
    let (exponent, taken) := exponentAt marks (cs.drop size)
    some (scaled negative n.toNat step (exponent - width * fraction.length), size + taken)

/-- The number at the front of a text, with its length. -/
def atFront? (cs : Octets) : Option (Real × Nat) :=
  let blanks := cs.takeWhile isSpace
  let rest := cs.drop blanks.length
  let sign := rest.head?.filter fun c => c == '-' || c == '+'
  let negative := sign == some '-'
  let lead := blanks.length + sign.toList.length
  let body := cs.drop lead
  let begins (word : String) : Bool := word.toList.isPrefixOf (body.map Char.toLower)
  let found : Option (Real × Nat) :=
    if begins "infinity" then some (.infinite negative, 8)
    else if begins "inf" then some (.infinite negative, 3)
    else if begins "nan" then some (.undefined, 3)
    else
      let hexadecimal :=
        if begins "0x" then unsigned? negative 16 ['p', 'P'] 2 4 (body.drop 2) else none
      match hexadecimal with
      | some (x, n) => some (x, n + 2)
      | none => unsigned? negative 10 ['e', 'E'] 10 1 body
  found.map fun (x, n) => (x, n + lead)

/-- The nearest number of the floating format. -/
def rounded : Real → Real
  | .finite negative num den =>
    match Binary64.ofRatio? negative num den with
    | some x => .finite negative x.magnitude.1 x.magnitude.2
    | none => .infinite negative
  | x => x

/-- Whether the number has a minus sign. -/
def isNegative : Real → Bool
  | .finite negative .. | .infinite negative => negative
  | .undefined => false

/-- The digits of `num / den` with `places` digits behind the point. -/
def fixedDigits (places num den : Nat) : Octets × Octets :=
  let n := roundHalfEven (num * Nat.pow 10 places) den
  let digits := padLeft (places + 1) '0' (digitsOf n)
  (digits.take (digits.length - places), digits.drop (digits.length - places))

/-- The exponent of the leading decimal digit of a nonzero `num / den`. -/
def leadingExponent (num den : Nat) : Int :=
  if num ≥ den then (digitsOf (num / den)).length - 1
  else
    let e : Int := (digitsOf (den / num)).length
    if num * Nat.pow 10 (e - 1).toNat ≥ den then 1 - e else -e

/-- The digits of `num / den` in scientific notation: the leading digit, `places` more, and the
exponent. -/
def scientificDigits (places num den : Nat) : Octets × Octets × Int :=
  if num == 0 then (['0'], List.replicate places '0', 0)
  else
    let e := leadingExponent num den
    let shift : Int := places - e
    let n :=
      if shift ≥ 0 then roundHalfEven (num * Nat.pow 10 shift.toNat) den
      else roundHalfEven num (den * Nat.pow 10 (-shift).toNat)
    let digits := digitsOf n
    let (digits, e) := if digits.length > places + 1 then (digits.dropLast, e + 1) else (digits, e)
    (digits.take 1, digits.drop 1, e)

def exponentText (e : Int) : Octets :=
  'e' :: (if e < 0 then '-' else '+') :: padLeft 2 '0' (digitsOf e.natAbs)

/-- How a number is put into text. -/
inductive Notation where
  | fixed
  | scientific
  /-- The shorter of the two, without zeros at the end. -/
  | general
  deriving Repr, DecidableEq

/-- A whole part with a fraction. The point is left out where no digit follows, unless `always`. -/
def pointed (always : Bool) (whole fraction : Octets) : Octets :=
  if fraction.isEmpty && !always then whole else whole ++ '.' :: fraction

/-- The text of a magnitude. With `alternate` the point is always there and zeros at the end are
kept. -/
def magnitudeText (n : Notation) (precision : Nat) (alternate : Bool) (num den : Nat) : Octets :=
  match n with
  | .fixed =>
    let (whole, fraction) := fixedDigits precision num den
    pointed alternate whole fraction
  | .scientific =>
    let (whole, fraction, e) := scientificDigits precision num den
    pointed alternate whole fraction ++ exponentText e
  | .general =>
    let precision := max precision 1
    let (whole, fraction, e) := scientificDigits (precision - 1) num den
    let kept (fraction : Octets) : Octets :=
      if alternate then fraction else dropEndWhile (· == '0') fraction
    if e < -4 || e ≥ precision then pointed alternate whole (kept fraction) ++ exponentText e
    else
      let (whole, fraction) := fixedDigits (precision - 1 - e).toNat num den
      pointed alternate whole (kept fraction)

/-- The text of a number without its sign. -/
def text (x : Real) (n : Notation) (precision : Nat) (alternate : Bool) : Octets :=
  match x with
  | .finite _ num den => magnitudeText n precision alternate num den
  | .infinite _ => "inf".toList
  | .undefined => "nan".toList

/-- Whether the number has digits. -/
def isFinite : Real → Bool
  | .finite .. => true
  | _ => false

end Real
end LintRelay.Shell
