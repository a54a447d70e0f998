import LintRelay.Json.Basic

/-!
# Writing JSON

A value is written compactly, or on several lines with two spaces a level. Strings are written as
they are but for the quote, the backslash and the controls below the space.
-/

namespace LintRelay.Json

/-- The hexadecimal digit of `n % 16`, in lower case. -/
def hexDigit (n : Nat) : Char := Nat.digitChar (n % 16)

/-- How a string shows one character. -/
def escapeChar (c : Char) : List Char :=
  if c == '"' then ['\\', '"']
  else if c == '\\' then ['\\', '\\']
  else if c == '\x08' then ['\\', 'b']
  else if c == '\x0c' then ['\\', 'f']
  else if c == '\n' then ['\\', 'n']
  else if c == '\r' then ['\\', 'r']
  else if c == '\t' then ['\\', 't']
  else if c.toNat < 0x20 then ['\\', 'u', '0', '0', hexDigit (c.toNat / 16), hexDigit c.toNat]
  else [c]

/-- A string between its quotes. -/
def stringText (s : String) : List Char := '"' :: s.toList.flatMap escapeChar ++ ['"']

def intText : Int → List Char
  | .ofNat n => Nat.toDigits 10 n
  | .negSucc n => '-' :: Nat.toDigits 10 (n + 1)

def Number.text : Number → List Char
  | .integer n => intText n
  | .float x => x.text

/-- Joins texts with a separator. -/
def joinWith (sep : List Char) : List (List Char) → List Char
  | [] => []
  | [t] => t
  | t :: ts => t ++ sep ++ joinWith sep ts

mutual

/-- The compact text of a value. -/
def compact : Json → List Char
  | .null => ['n', 'u', 'l', 'l']
  | .bool true => ['t', 'r', 'u', 'e']
  | .bool false => ['f', 'a', 'l', 's', 'e']
  | .number n => n.text
  | .string s => stringText s
  | .array items => '[' :: joinWith [','] (compactItems items) ++ [']']
  | .object members => '\x7b' :: joinWith [','] (compactMembers members) ++ ['\x7d']

/-- The compact texts of the items of an array. -/
def compactItems : List Json → List (List Char)
  | [] => []
  | v :: vs => compact v :: compactItems vs

/-- The compact texts of the members of an object. -/
def compactMembers : List (String × Json) → List (List Char)
  | [] => []
  | (n, v) :: ms => (stringText n ++ ':' :: compact v) :: compactMembers ms

end

/-- A line break and the indentation of `level` levels. -/
def newLine (level : Nat) : List Char := '\n' :: List.replicate (2 * level) ' '

mutual

/-- The text of a value on several lines, itself standing at `level`. -/
def indented (level : Nat) : Json → List Char
  | .array [] => ['[', ']']
  | .array (v :: vs) =>
    '[' :: newLine (level + 1) ++
      joinWith (',' :: newLine (level + 1)) (indentedItems (level + 1) (v :: vs)) ++
      newLine level ++ [']']
  | .object [] => ['\x7b', '\x7d']
  | .object (m :: ms) =>
    '\x7b' :: newLine (level + 1) ++
      joinWith (',' :: newLine (level + 1)) (indentedMembers (level + 1) (m :: ms)) ++
      newLine level ++ ['\x7d']
  | .null => compact .null
  | .bool b => compact (.bool b)
  | .number n => compact (.number n)
  | .string s => compact (.string s)

/-- The texts of the items of an array at `level`. -/
def indentedItems (level : Nat) : List Json → List (List Char)
  | [] => []
  | v :: vs => indented level v :: indentedItems level vs

/-- The texts of the members of an object at `level`. -/
def indentedMembers (level : Nat) : List (String × Json) → List (List Char)
  | [] => []
  | (n, v) :: ms => (stringText n ++ ':' :: ' ' :: indented level v) :: indentedMembers level ms

end

/-- The compact text of a value as a string. -/
def render (v : Json) : String := String.ofList (compact v)

/-- The text of a value on several lines as a string. -/
def renderIndented (v : Json) : String := String.ofList (indented 0 v)

end LintRelay.Json
