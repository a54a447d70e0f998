import LintRelay.Shell.Tool.Basic
import LintRelay.Shell.Tool.Regex

/-!
# Expressions as arguments

The tool that works out an expression whose tokens are its arguments: integers, comparisons, matches
and parts of texts. It ends with zero unless the value is empty or zero.
-/

namespace LintRelay.Shell
namespace Expression

/-- Why an expression has no value. -/
inductive Fault where
  | malformed (what : Octets)
  | notInteger
  | divisionByZero
  | badRegex (e : Regex.Fault)

def Fault.message : Fault → Octets
  | .malformed what => "syntax error: ".toList ++ what
  | .notInteger => "non-integer argument".toList
  | .divisionByZero => "division by zero".toList
  | .badRegex e => e.message.toList

/-- Evaluates something at the front of the arguments. Beside them is the one before. -/
abbrev Evaluation (α : Type) := StateT (List Octets × Octets) (Except Fault) α

/-- The integer that a value spells. -/
def integerOf? : Octets → Option Int
  | '-' :: cs => (numberIn? 10 cs).map (- ·)
  | cs => numberIn? 10 cs

/-- Whether a value counts as false. -/
def isNull (cs : Octets) : Bool :=
  cs.isEmpty || (integerOf? cs == some 0)

/-- The integer that a value spells, or a fault. -/
def number (cs : Octets) : Evaluation Int :=
  match integerOf? cs with
  | some n => return n
  | none => throw .notInteger

/-- Takes the next argument, which has to be there. -/
def take : Evaluation Octets := do
  match ← get with
  | (a :: as, _) =>
    set (as, a)
    return a
  | ([], last) =>
    throw (.malformed ("missing argument after '".toList ++ last ++ ['\'']))

/-- Takes the next argument if it is one of some. -/
def takeAny? (choice : List String) : Evaluation (Option String) := do
  match ← get with
  | (a :: as, _) =>
    if choice.contains (String.ofList a) then
      set (as, a)
      return some (String.ofList a)
    else return none
  | _ => return none

/-- The value of a match that begins at the front of a text: the first group if there is one, or
else the length of the match. -/
def matching (text pattern : Octets) : Evaluation Octets := do
  match Regex.read false pattern with
  | .error e => throw (.badRegex e)
  | .ok r =>
    let grouped := hasInside "\\(".toList pattern
    match Regex.matchAt? r false text ⟨0, none, text, []⟩ with
    | some m => return if grouped then m.group text 1 else digitsOf m.stop
    | none => return if grouped then [] else ['0']

/-- The value of a comparison. Integers are compared as such. -/
def comparison (op : String) (a b : Octets) : Octets :=
  let r : Ordering :=
    match integerOf? a, integerOf? b with
    | some m, some n => compare m n
    | _, _ => if a < b then .lt else if b < a then .gt else .eq
  let holds : Bool := match op with
    | "<" => r == .lt
    | "<=" => r != .gt
    | "=" | "==" => r == .eq
    | "!=" => r != .eq
    | ">=" => r != .lt
    | _ => r == .gt
  if holds then ['1'] else ['0']

/-- The levels of the binary operators, the loosest first. -/
def levels : List (List String) :=
  [["|"], ["&"], ["<", "<=", "=", "==", "!=", ">=", ">"], ["+", "-"], ["*", "/", "%"], [":"]]

/-- The value of a binary operator. -/
def binary (op : String) (a b : Octets) : Evaluation Octets := do
  match op with
  | "|" => return if !isNull a then a else if !isNull b then b else ['0']
  | "&" => return if isNull a || isNull b then ['0'] else a
  | ":" => matching a b
  | "+" => return integerText ((← number a) + (← number b))
  | "-" => return integerText ((← number a) - (← number b))
  | "*" => return integerText ((← number a) * (← number b))
  | "/" =>
    let m ← number a
    let n ← number b
    if n == 0 then throw .divisionByZero
    return integerText (m.tdiv n)
  | "%" =>
    let m ← number a
    let n ← number b
    if n == 0 then throw .divisionByZero
    return integerText (m.tmod n)
  | op => return comparison op a b

mutual

/-- An expression whose operators are of the given levels. -/
def climb : Nat → List (List String) → Evaluation Octets
  | 0, _ => throw .notInteger
  | fuel + 1, [] => primary fuel
  | fuel + 1, ops :: tighter => do
    let a ← climb fuel tighter
    climbRest fuel ops tighter a

/-- What follows the first operand of such an expression. -/
def climbRest : Nat → List String → List (List String) → Octets → Evaluation Octets
  | 0, _, _, _ => throw .notInteger
  | fuel + 1, ops, tighter, a => do
    match ← takeAny? ops with
    | none => return a
    | some op =>
      let b ← climb fuel tighter
      climbRest fuel ops tighter (← binary op a b)

/-- A parenthesis, a function or an argument. -/
def primary : Nat → Evaluation Octets
  | 0 => throw .notInteger
  | fuel + 1 => do
    let operand : Evaluation Octets := climb fuel []
    let a ← take
    match String.ofList a with
    | "(" =>
      let v ← climb fuel levels
      match ← get with
      | ([')'] :: as, _) =>
        set (as, [')'])
        return v
      | ([], last) => throw (.malformed ("expecting ')' after '".toList ++ last ++ ['\'']))
      | (b :: _, _) => throw (.malformed ("expecting ')' instead of '".toList ++ b ++ ['\'']))
    | ")" => throw (.malformed "unexpected ')'".toList)
    | "+" => take
    | "length" => return digitsOf (← operand).length
    | "match" =>
      let text ← operand
      matching text (← operand)
    | "index" =>
      let text ← operand
      let chars ← operand
      let n := (text.takeWhile fun c => !chars.contains c).length
      return digitsOf (if n < text.length then n + 1 else 0)
    | "substr" =>
      let text ← operand
      let start := integerOf? (← operand)
      let size := integerOf? (← operand)
      match start, size with
      | some m, some n =>
        return if m ≤ 0 || n ≤ 0 then [] else (text.drop (m.toNat - 1)).take n.toNat
      | _, _ => return []
    | _ => return a

end

def value (arguments : List Octets) : Except Fault Octets := do
  let fuel := 16 * (arguments.length + 2)
  match ← (climb fuel levels).run (arguments, []) with
  | (v, [], _) => return v
  | (_, a :: _, _) => throw (.malformed ("unexpected argument '".toList ++ a ++ ['\'']))

end Expression

/-- Works out an expression. -/
def Task.express (t : Task) : Work :=
  let arguments := if t.arguments.head? == some ['-', '-'] then t.arguments.drop 1 else t.arguments
  if arguments.isEmpty then t.misused "missing operand".toList 2
  else
    match Expression.value arguments with
    | .error e => t.failed e.message 2
    | .ok v => (t.done (v ++ ['\n'])).withStatus (if Expression.isNull v then 1 else 0)

end LintRelay.Shell
