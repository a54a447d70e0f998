import LintRelay.Shell.Format
import LintRelay.Shell.Tool.Basic

/-!
# Numbers

The tools that count from one number to another and that take numbers apart.
-/

namespace LintRelay.Shell
namespace Task

/-- A decimal number: an integer that is divided by a power of ten. -/
structure Decimal where
  digits : Int
  places : Nat

/-- The decimal number that an argument spells. -/
def decimalNumber? (cs : Octets) : Option Decimal :=
  let negative := cs.head? == some '-'
  let body := if negative || cs.head? == some '+' then cs.drop 1 else cs
  let whole := body.takeWhile Char.isDigit
  let behind := body.drop whole.length
  let fraction := if behind.head? == some '.' then behind.drop 1 else []
  let isPlain := behind.isEmpty || behind.head? == some '.'
  if !isPlain || !fraction.all Char.isDigit then none
  else
    (numberIn? 10 (whole ++ fraction)).map fun n => ⟨if negative then -n else n, fraction.length⟩

/-- The digits of a decimal number in units of the given places. -/
def Decimal.scaled (d : Decimal) (places : Nat) : Int := d.digits * (Nat.pow 10 (places - d.places) : Nat)

/-- The text of a number in units of the given places. -/
def decimalText (places : Nat) (n : Int) : Octets :=
  let digits := padLeft (places + 1) '0' (digitsOf n.natAbs)
  let whole := digits.take (digits.length - places)
  let sign := if n < 0 then ['-'] else []
  sign ++ whole ++ if places == 0 then [] else '.' :: digits.drop (digits.length - places)

def numbersBetween (first step last : Int) : List Int :=
  if step == 0 || (step > 0 && last < first) || (step < 0 && last > first) then []
  else (List.range ((last - first).tdiv step + 1).toNat).map fun (n : Nat) => first + step * n

/-- Counts from one number up to another. -/
def sequence (t : Task) : Work :=
  let known : List Switch :=
    [⟨'w', "equal-width", false⟩, ⟨'s', "separator", true⟩, ⟨'f', "format", true⟩]
  -- A number with a sign is no option.
  let isNumber (a : Octets) : Bool := a.head? == some '-' && (decimalNumber? a).isSome
  let plain := t.arguments.takeWhile fun a => !isNumber a
  let numbers := t.arguments.drop plain.length
  match readCall known false none plain with
  | .error e => t.misused e 1
  | .ok call =>
    let operands := call.operands ++ numbers
    match operands.find? fun a => (decimalNumber? a).isNone with
    | some bad => t.misused ("invalid floating point argument: ".toList ++ quoted bad) 1
    | none =>
      let one : Decimal := ⟨1, 0⟩
      let given := operands.filterMap decimalNumber?
      match (match given with
        | [last] => some (one, one, last)
        | [first, last] => some (first, one, last)
        | [first, step, last] => some (first, step, last)
        | _ => none) with
      | none =>
        if given.isEmpty then t.misused "missing operand".toList 1
        else t.misused ("extra operand ".toList ++ quoted (operands.getD 3 [])) 1
      | some (first, step, last) =>
        if step.digits == 0 then
          t.misused ("invalid Zero increment value: ".toList ++ quoted (operands.getD 1 [])) 1
        else
          let places := max first.places step.places
          let fine := max places last.places
          let ns := numbersBetween (first.scaled fine) (step.scaled fine) (last.scaled fine)
          let unit : Int := (Nat.pow 10 (fine - places) : Nat)
          let texts := ns.map fun n =>
            match call.value? 'f' with
            | some format => (printf .program format [decimalText fine n]).printed
            | none => decimalText places (n / unit)
          let width := texts.foldl (fun w cs => max w cs.length) 0
          let wide (cs : Octets) : Octets :=
            if cs.head? == some '-' then '-' :: padLeft (width - 1) '0' (cs.drop 1)
            else padLeft width '0' cs
          let texts := if call.has 'w' then texts.map wide else texts
          let separator := (call.value? 's').getD ['\n']
          if texts.isEmpty then t.begun
          else t.done (separator.intercalate texts ++ ['\n'])

/-- The prime factors of a number from `d` on. -/
def factorsFrom : Nat → Nat → Nat → List Nat
  | 0, _, n => if n > 1 then [n] else []
  | fuel + 1, d, n =>
    if n < 2 then []
    else if d * d > n then [n]
    else if n % d == 0 then d :: factorsFrom fuel d (n / d)
    else factorsFrom fuel (d + 1) n

/-- Shows the prime factors of numbers. -/
def factor (t : Task) : Work :=
  let given := if t.arguments.isEmpty then wordsOf isGap t.input else t.arguments
  given.foldl (fun w a =>
    match decimal? a with
    | some n =>
      let fs := factorsFrom 1000000 2 n
      w.say 1 (a ++ ':' :: fs.flatMap (fun f => ' ' :: digitsOf f) ++ ['\n'])
    | none => t.complain w (quoted a ++ " is not a valid positive integer".toList) 1) t.begun

end Task
end LintRelay.Shell
