import LintRelay.Shell.Octets

/-!
# Arithmetic in scripts

Expressions over signed 64-bit integers, with the variables of a script. An expression is evaluated
while it is read; a variable that is unset or empty counts as zero.
-/

namespace LintRelay.Shell

/-- Why an expression has no value. -/
inductive ArithmeticError where
  | primaryExpected
  | endExpected
  | closeExpected
  | divisionByZero
  | illegalNumber (text : Octets)
  deriving Repr, DecidableEq

/-- The wording of an error in the expression `source`. -/
def ArithmeticError.message (source : Octets) : ArithmeticError → Octets
  | .primaryExpected => inSource "expecting primary"
  | .endExpected => inSource "expecting EOF"
  | .closeExpected => inSource "expecting ')'"
  | .divisionByZero => inSource "division by zero"
  | .illegalNumber text => "Illegal number: ".toList ++ text
where
  /-- A fault with the expression behind it. -/
  inSource (fault : String) : Octets :=
    ("arithmetic expression: " ++ fault ++ ": \"").toList ++ source ++ ['"']

/-- An expression that is being evaluated. -/
structure Reckoning where
  rest : Octets
  look : String → Octets
  /-- The variables that were set, the last one first. -/
  written : List (String × Octets)

/-- Evaluates something at the front of an expression. -/
abbrev Evaluation (α : Type) := StateT Reckoning (Except ArithmeticError) α

/-- The integer of 64 bits that is equal modulo 2^64. -/
def wrap (n : Int) : Int := n.bmod 0x10000000000000000

/-- The number at the front of a text, in decimal, octal or hexadecimal, with its length. The greatest
number stands for all that are greater. -/
def numeral? (cs : Octets) : Option (Int × Nat) :=
  let (base, lead) : Nat × Nat :=
    match cs with
    | '0' :: x :: d :: _ => if (x == 'x' || x == 'X') && digitValue d < 16 then (16, 2) else (8, 0)
    | '0' :: _ => (8, 0)
    | _ => (10, 0)
  let digits := (cs.drop lead).takeWhile fun c => digitValue c < base
  (numberIn? base digits).map fun n => (min n 0x7FFFFFFFFFFFFFFF, lead + digits.length)

/-- The number that is spelled in decimal, octal or hexadecimal, if it is one. -/
def natural? (cs : Octets) : Option Int :=
  match numeral? cs with
  | some (n, size) => if size == cs.length then some n else none
  | none => none

/-- The number that is spelled with or without a sign, if it is one. -/
def integer? : Octets → Option Int
  | '-' :: cs => (natural? cs).map (- ·)
  | '+' :: cs => natural? cs
  | cs => natural? cs

/-- The binary operators that are not assignments, with how tightly they bind. Longer ones come
first. -/
def binaryOperators : List (String × Nat) :=
  [("||", 1), ("&&", 2), ("==", 6), ("!=", 6), ("<=", 7), (">=", 7), ("<<", 8), (">>", 8), ("|", 3),
    ("^", 4), ("&", 5), ("<", 7), (">", 7), ("+", 9), ("-", 9), ("*", 10), ("/", 10), ("%", 10)]

/-- One for what holds, zero for what does not. -/
def truth (b : Bool) : Int := if b then 1 else 0

def binaryValue (op : String) (a b : Int) : Except ArithmeticError Int :=
  match op with
  | "||" => .ok (truth (a != 0 || b != 0))
  | "&&" => .ok (truth (a != 0 && b != 0))
  | "==" => .ok (truth (a == b))
  | "!=" => .ok (truth (a != b))
  | "<=" => .ok (truth (a ≤ b))
  | ">=" => .ok (truth (a ≥ b))
  | "<" => .ok (truth (a < b))
  | ">" => .ok (truth (a > b))
  | "<<" => .ok (Int64.ofInt a <<< Int64.ofInt b).toInt
  | ">>" => .ok (Int64.ofInt a >>> Int64.ofInt b).toInt
  | "|" => .ok (Int64.ofInt a ||| Int64.ofInt b).toInt
  | "^" => .ok (Int64.ofInt a ^^^ Int64.ofInt b).toInt
  | "&" => .ok (Int64.ofInt a &&& Int64.ofInt b).toInt
  | "+" => .ok (wrap (a + b))
  | "-" => .ok (wrap (a - b))
  | "*" => .ok (wrap (a * b))
  | "/" => if b == 0 then .error .divisionByZero else .ok (wrap (a.tdiv b))
  | _ => if b == 0 then .error .divisionByZero else .ok (wrap (a.tmod b))

namespace Evaluation

/-- Skips blanks and shows what follows. -/
def peek : Evaluation Octets := do
  modify fun r => { r with rest := r.rest.dropWhile isGap }
  return (← get).rest

/-- Takes `n` characters. -/
def drop (n : Nat) : Evaluation Unit := modify fun r => { r with rest := r.rest.drop n }

/-- The binary operator at the front, unless it begins an assignment. -/
def operator? : Evaluation (Option (String × Nat)) := do
  let cs ← peek
  return binaryOperators.find? fun (op, level) =>
    op.toList.isPrefixOf cs && !((level > 2 && op.length == 1) && cs[1]? == some '=' &&
      op != "<" && op != ">")

/-- The value of a variable. -/
def valueOf (name : String) : Evaluation Int := do
  let r ← get
  let text := ((r.written.find? fun w => w.1 == name).map (·.2)).getD (r.look name)
  if text.all isGap then return 0
  match integer? (text.filter fun c => !isGap c) with
  | some n => return wrap n
  | none => throw (.illegalNumber text)

/-- Sets a variable. -/
def store (name : String) (n : Int) : Evaluation Int := do
  modify fun r => { r with written := (name, integerText n) :: r.written }
  return n

mutual

/-- An expression with all operators. -/
def full : Nat → Evaluation Int
  | 0 => throw .primaryExpected
  | fuel + 1 => do
    let cs ← peek
    let name := cs.takeWhile isNameChar
    let behind := (cs.drop name.length).dropWhile isGap
    let start (op : Octets) : Evaluation Unit :=
      modify fun r => { r with rest := behind.drop op.length }
    let assigning :=
      if !isName name then none
      else
        match behind with
        | '=' :: '=' :: _ => none
        | '=' :: _ => some ""
        | '<' :: '<' :: '=' :: _ => some "<<"
        | '>' :: '>' :: '=' :: _ => some ">>"
        | c :: '=' :: _ =>
          if "+-*/%&|^".toList.contains c then some (String.ofList [c]) else none
        | _ => none
    match assigning with
    | some op => do
      let name := String.ofList name
      start (op.toList ++ ['='])
      let b ← full fuel
      if op.isEmpty then store name b
      else store name (← binaryValue op (← valueOf name) b)
    | none => do
      let test ← climb fuel 1
      match ← peek with
      | '?' :: _ => do
        drop 1
        let yes ← full fuel
        match ← peek with
        | ':' :: _ => do
          drop 1
          let no ← full fuel
          return if test != 0 then yes else no
        | _ => throw .primaryExpected
      | _ => return test

/-- An expression whose operators bind at least as tightly as `level`. -/
def climb : Nat → Nat → Evaluation Int
  | 0, _ => throw .primaryExpected
  | fuel + 1, level => do climbRest fuel level (← primary fuel)

/-- What follows the first operand of such an expression. -/
def climbRest : Nat → Nat → Int → Evaluation Int
  | 0, _, _ => throw .primaryExpected
  | fuel + 1, level, a => do
    match ← operator? with
    | some (op, own) =>
      if own < level then return a
      drop op.length
      let b ← climb fuel (own + 1)
      climbRest fuel level (← binaryValue op a b)
    | none => return a

/-- A number, a variable, a parenthesis or a sign with its operand. -/
def primary : Nat → Evaluation Int
  | 0 => throw .primaryExpected
  | fuel + 1 => do
    match ← peek with
    | '(' :: _ => do
      drop 1
      let n ← full fuel
      match ← peek with
      | ')' :: _ => do
        drop 1
        return n
      | _ => throw .closeExpected
    | '-' :: _ => do
      drop 1
      return wrap (- (← primary fuel))
    | '+' :: _ => do
      drop 1
      primary fuel
    | '!' :: _ => do
      drop 1
      return truth ((← primary fuel) == 0)
    | '~' :: _ => do
      drop 1
      return wrap (-1 - (← primary fuel))
    | cs => do
      let name := cs.takeWhile isNameChar
      if isName name then
        drop name.length
        valueOf (String.ofList name)
      else
        match numeral? cs with
        | some (n, size) =>
          drop size
          return wrap n
        | none => throw .primaryExpected

end

end Evaluation

/-- The value of an expression, with the variables that it sets. -/
def evaluate (look : String → Octets) (source : Octets) :
    Except ArithmeticError (Int × List (String × Octets)) :=
  match (Evaluation.full (4 * source.length + 16)).run ⟨source, look, []⟩ with
  | .error e => .error e
  | .ok (n, r) => if r.rest.all isGap then .ok (n, r.written) else .error .endExpected

end LintRelay.Shell
