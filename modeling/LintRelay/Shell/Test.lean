import LintRelay.FileTree.Basic
import LintRelay.Shell.Octets

/-!
# Conditions in scripts

What `test` decides: comparisons of texts and numbers, properties of files, and their combinations.
An argument is an operator only where one may stand, so the arguments behind it are looked at too.
-/

namespace LintRelay.Shell

/-- Why a condition cannot be decided. -/
inductive ConditionError where
  | illegalNumber (text : Octets)
  | unexpectedOperator (text : Octets)
  | argumentExpected (operator : Octets)
  | closeExpected
  deriving Repr, DecidableEq

def ConditionError.message : ConditionError → Octets
  | .illegalNumber text => "Illegal number: ".toList ++ text
  | .unexpectedOperator text => text ++ ": unexpected operator".toList
  | .argumentExpected operator => operator ++ ": argument expected".toList
  | .closeExpected => "closing paren expected".toList

/-- The condition that a unary operator stands for. -/
def unaryCondition? (t : FileTree) (op : Octets) : Option (Octets → Bool) :=
  let node (a : Octets) : Option FileNode := ((t.reach ⟨bytesOfOctets a⟩).toOption).map (·.node)
  match op with
  | ['-', 'n'] => some fun a => !a.isEmpty
  | ['-', 'z'] => some fun a => a.isEmpty
  | ['-', 'f'] => some fun a => match node a with
    | some (.file ..) => true
    | _ => false
  | ['-', 'd'] => some fun a => node a == some .directory
  | ['-', 's'] => some fun a => match node a with
    | some (.file c _) => !c.isEmpty
    | some .directory => true
    | _ => false
  | ['-', 'x'] => some fun a => match node a with
    | some (.file _ x) => x
    | some .directory => true
    | _ => false
  | ['-', 'c'] => some fun a => node a == some .device
  | ['-', c] =>
    if c == 'h' || c == 'L' then
      some fun a => match t.find? ⟨bytesOfOctets a⟩ with
        | some ⟨_, .link _⟩ => true
        | _ => false
    else if "erwOG".toList.contains c then some fun a => (node a).isSome
    else if "bpgkuSt".toList.contains c then some fun _ => false
    else none
  | _ => none

/-- The number that an argument of a comparison spells. -/
def comparedNumber (cs : Octets) : Except ConditionError Int :=
  let digits := dropEndWhile isSpace (cs.dropWhile isSpace)
  match digits with
  | '-' :: ds => (numberIn? 10 ds).elim (.error (.illegalNumber cs)) (.ok <| -·)
  | '+' :: ds => (numberIn? 10 ds).elim (.error (.illegalNumber cs)) .ok
  | ds => (numberIn? 10 ds).elim (.error (.illegalNumber cs)) .ok

/-- The comparison of numbers that an operator stands for. -/
def numberComparison? (op : Octets) : Option (Int → Int → Bool) :=
  match String.ofList op with
  | "-eq" => some (· == ·)
  | "-ne" => some (· != ·)
  | "-lt" => some fun a b => a < b
  | "-le" => some fun a b => a ≤ b
  | "-gt" => some fun a b => a > b
  | "-ge" => some fun a b => a ≥ b
  | _ => none

/-- The condition that a binary operator stands for. Files have no ages here. -/
def binaryCondition? (t : FileTree) (op : Octets) :
    Option (Octets → Octets → Except ConditionError Bool) :=
  match String.ofList op with
  | "=" => some fun a b => .ok (a == b)
  | "!=" => some fun a b => .ok (a != b)
  | "<" => some fun a b => .ok (a < b)
  | ">" => some fun a b => .ok (b < a)
  | "-nt" | "-ot" => some fun _ _ => .ok false
  | "-ef" => some fun a b =>
    let place (cs : Octets) : Option Location :=
      ((t.reach ⟨bytesOfOctets cs⟩).toOption).map (·.location)
    .ok ((place a).isSome && place a == place b)
  | _ => (numberComparison? op).map fun f a b => do return f (← comparedNumber a) (← comparedNumber b)

/-- What an argument is where it stands. -/
inductive ConditionToken where
  | none
  | operand
  | not
  | both
  | either
  | openGroup
  | closeGroup
  | unary (f : Octets → Bool)
  | binary (f : Octets → Octets → Except ConditionError Bool)

/-- What the argument at the front is. A unary operator without an operand, or in front of a binary
one, is an operand itself. -/
def conditionToken (t : FileTree) : List Octets → ConditionToken
  | [] => .none
  | a :: rest =>
    match a with
    | ['!'] => .not
    | ['-', 'a'] => .both
    | ['-', 'o'] => .either
    | ['('] => if rest.isEmpty then .operand else .openGroup
    | [')'] => .closeGroup
    | _ =>
      match unaryCondition? t a, binaryCondition? t a with
      | some f, _ =>
        let isOperand : Bool := match rest with
          | [] => true
          | [_] => false
          | b :: _ => (binaryCondition? t b).isSome
        if isOperand then .operand else .unary f
      | .none, some f => .binary f
      | .none, .none => .operand

/-- Evaluates a condition. The state is the arguments from the last one that was looked at. -/
abbrev Condition (α : Type) := StateT (List Octets) (Except ConditionError) α

namespace Condition

/-- Goes on to the next argument. -/
def advance (n : Nat) : Condition Unit := modify (List.drop n)

/-- The argument that is looked at. -/
def current : Condition Octets := do
  return (← get).headD []

def next (t : FileTree) : Condition ConditionToken := do
  return conditionToken t ((← get).drop 1)

mutual

/-- Conditions of which one has to hold. -/
def either (t : FileTree) : Nat → ConditionToken → Condition Bool
  | 0, _ => return false
  | fuel + 1, token => do
    let a ← both t fuel token
    match ← next t with
    | .either =>
      advance 2
      let b ← either t fuel (conditionToken t (← get))
      return a || b
    | _ => return a

/-- Conditions that all have to hold. -/
def both (t : FileTree) : Nat → ConditionToken → Condition Bool
  | 0, _ => return false
  | fuel + 1, token => do
    let a ← negated t fuel token
    match ← next t with
    | .both =>
      advance 2
      let b ← both t fuel (conditionToken t (← get))
      return a && b
    | _ => return a

/-- A condition that may be negated. -/
def negated (t : FileTree) : Nat → ConditionToken → Condition Bool
  | 0, _ => return false
  | fuel + 1, token => do
    match token with
    | .not =>
      let token ← next t
      match token with
      | .none => pure ()
      | _ => advance 1
      return !(← negated t fuel token)
    | _ => one t fuel token

/-- A group, an operator with its operands, or a text. -/
def one (t : FileTree) : Nat → ConditionToken → Condition Bool
  | 0, _ => return false
  | fuel + 1, token => do
    match token with
    | .none => return false
    | .openGroup =>
      advance 1
      match conditionToken t (← get) with
      | .closeGroup => return false
      | token =>
        let b ← either t fuel token
        advance 1
        match conditionToken t (← get) with
        | .closeGroup => return b
        | _ => throw .closeExpected
    | .unary f =>
      let op ← current
      advance 1
      if (← get).isEmpty then throw (.argumentExpected op)
      return f (← current)
    | _ =>
      match ← next t with
      | .binary f =>
        let a ← current
        advance 1
        let op ← current
        advance 1
        if (← get).isEmpty then throw (.argumentExpected op)
        f a (← current)
      | _ => return !(← current).isEmpty

end
end Condition

/-- Evaluates a condition whose first token is known. -/
def conditionFrom (t : FileTree) (token : ConditionToken) (as : List Octets) :
    Except ConditionError Bool :=
  match (Condition.either t (8 * as.length + 8) token).run as with
  | .error e => .error e
  | .ok (_, a :: _ :: _) => .error (.unexpectedOperator a)
  | .ok (b, _) => .ok b

def condition (t : FileTree) (as : List Octets) : Except ConditionError Bool :=
  let plain (as : List Octets) : Except ConditionError Bool :=
    conditionFrom t (conditionToken t as) as
  let grouped (as : List Octets) : Except ConditionError Bool :=
    if as.head? == some ['('] && as.getLast? == some [')'] then plain (as.drop 1).dropLast
    else if as.head? == some ['!'] then (plain (as.drop 1)).map (!·)
    else plain as
  match as with
  | [] => .ok false
  | [_, op, _] => if (binaryCondition? t op).isSome then conditionFrom t .operand as else grouped as
  | [_, _, _, _] => grouped as
  | _ => plain as

/-- What the program of that name says of arguments that are no condition. -/
def conditionComplaint (as : List Octets) (e : ConditionError) : Octets :=
  let quoted (cs : Octets) : Octets := '\'' :: cs ++ ['\'']
  match e with
  | .illegalNumber text => "invalid integer ".toList ++ quoted text
  | _ =>
    match as with
    | [a, b] =>
      match a with
      | ['-', _] => quoted a ++ ": unary operator expected".toList
      | _ => "missing argument after ".toList ++ quoted b
    | [_, b, _] => quoted b ++ ": binary operator expected".toList
    | as => "extra argument ".toList ++ quoted (as.getLastD [])

end LintRelay.Shell
