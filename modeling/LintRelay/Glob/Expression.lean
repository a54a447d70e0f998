import LintRelay.Glob.Match

/-!
# Patterns as expressions

A pattern that is not a plain name, front or end is matched by a regular expression. An expression
may nest only so deep, so a list of patterns is refused when one of its expressions is deeper. The
refusal shows the expression of a pattern that ends in an extension, and counts the others.
-/

namespace LintRelay

namespace Glob

/-! ## How deep an expression nests -/

/-- The depth of items in a row: a row of several is one level itself. -/
def depthOfRow (depths : List Nat) : Nat :=
  match depths with
  | [] => 0
  | [d] => d
  | ds => 1 + ds.foldr max 0

mutual

/-- The depths of the items that a token puts into a row. -/
def Token.depths : Token → List Nat
  | .char c => (String.utf8EncodeChar c).map fun _ => 0
  | .any => [0]
  | .run => [1]
  | .leadingDirs => [4]
  | .contents => [0, 1]
  | .betweenDirs => [4]
  | .byteClass _ ranges => [if (ranges.flatMap byteRanges).length ≤ 1 then 1 else 2]
  | .oneOf alternatives =>
    if allVoid alternatives then [] else [1 + depthOfRow (depthsOfAny alternatives)]

/-- The depths of tokens in a row. -/
def depthsOfAll : List Token → List Nat
  | [] => []
  | t :: ts => t.depths ++ depthsOfAll ts

/-- The depths of the alternatives that say something. -/
def depthsOfAny : List (List Token) → List Nat
  | [] => []
  | ts :: tss =>
    if areVoid ts then depthsOfAny tss else depthOfRow (depthsOfAll ts) :: depthsOfAny tss

end

/-- The levels that an expression may have. -/
def greatestDepth : Nat := 250

/-- Whether the expression of a pattern is too deep. Its two ends are items of the outermost row. -/
def isTooDeep (ts : List Token) : Bool := greatestDepth < 1 + (depthsOfAll ts).foldr max 0

/-! ## The text of an expression -/

/-- Whether a character has a meaning of its own in expressions. -/
def hasMeaning (c : Char) : Bool :=
  ['\\', '.', '+', '*', '?', '(', ')', '|', '[', ']', '\x7b', '\x7d', '^', '$', '#', '&', '-',
    '~'].contains c

/-- A character as an expression. A byte outside ASCII is shown by its number. -/
def spellChar (c : Char) : String :=
  if c.toNat < 0x80 then (if hasMeaning c then "\\" else "") ++ String.singleton c
  else
    String.join ((String.utf8EncodeChar c).map fun b =>
      "\\x" ++ String.ofList (Nat.toDigits 16 b.toNat))

/-- A range of characters in a class. -/
def spellRange (r : Char × Char) : String :=
  if r.1 == r.2 then spellChar r.1 else spellChar r.1 ++ "-" ++ spellChar r.2

mutual

def Token.spell : Token → String
  | .char c => spellChar c
  | .any => "."
  | .run => ".*"
  | .leadingDirs => "(?:/?|.*/)"
  | .contents => "/.*"
  | .betweenDirs => "(?:/|/.*/)"
  | .byteClass negated ranges =>
    (if negated then "[^" else "[") ++ String.join (ranges.map spellRange) ++ "]"
  | .oneOf alternatives =>
    let parts := spellAny alternatives
    if parts.isEmpty then "" else "(?:" ++ String.intercalate "|" parts ++ ")"

/-- Tokens in a row as an expression. -/
def spellAll : List Token → String
  | [] => ""
  | t :: ts => t.spell ++ spellAll ts

/-- The alternatives that say something, as expressions. -/
def spellAny : List (List Token) → List String
  | [] => []
  | ts :: tss => if areVoid ts then spellAny tss else spellAll ts :: spellAny tss

end

/-- The expression of a whole pattern. -/
def expression (ts : List Token) : String := "(?-u)^" ++ spellAll ts ++ "$"

/-! ## Which patterns have one -/

/-- How a pattern is matched. -/
inductive Means where
  | comparison
  /-- By an expression, for the paths that end in an extension. -/
  | extension
  | expression
  deriving Repr, DecidableEq

def Token.isChar : Token → Bool
  | .char _ => true
  | _ => false

def Token.is (t : Token) (c : Char) : Bool :=
  match t with
  | .char d => d == c
  | _ => false

/-- Whether tokens are characters behind directories or a wildcard, and so name the end of a path. A
slash behind a wildcard names nothing. -/
def namesEnd (ts : List Token) : Bool :=
  let rest := match ts with
    | .leadingDirs :: rest => rest
    | rest => rest
  match rest with
  | .run :: name =>
    name.all Token.isChar && !name.isEmpty && !(name.length == 1 && name.all (·.is '/'))
  | name => name.all Token.isChar && !name.isEmpty

/-- Whether tokens are characters in front of a wildcard, and so name the front of a path. -/
def namesFront (ts : List Token) : Bool :=
  match ts.getLast? with
  | some .run => ts.dropLast.all Token.isChar && ts.length > 1
  | some .contents => ts.dropLast.all Token.isChar
  | _ => false

def endsInExtension (ts : List Token) : Bool :=
  let (behind, rest) := ts.reverse.span fun t => t.isChar && !t.is '.' && !t.is '/'
  behind.all Token.isChar && rest.head?.any (·.is '.')

/-- How a pattern is matched. -/
def means (ts : List Token) : Means :=
  if namesEnd ts || namesFront ts then .comparison
  else if endsInExtension ts then .extension
  else .expression

/-! ## Lists of patterns -/

/-- Why a list of patterns is refused. -/
inductive Refusal where
  | malformed (pattern : String) (fault : Fault)
  | deepExtension (expression : String)
  /-- An expression is too deep. `index` counts those before it. -/
  | deepExpression (index : Nat)
  deriving Repr, DecidableEq

def Refusal.message : Refusal → String
  | .malformed pattern fault =>
    "Invalid glob pattern: error parsing glob '" ++ pattern ++ "': " ++ fault.message
  | .deepExtension expression =>
    "Failed to build globset: error parsing glob '" ++ expression ++ "': error parsing pattern 0"
  | .deepExpression index =>
    "Failed to build globset: error parsing pattern " ++ toString index

/-- What is too deep in a list of patterns. -/
def tooDeep? (globs : List Glob) : Option Refusal :=
  let ofMeans (m : Means) : List (List Token) := (globs.map (·.tokens)).filter (means · == m)
  match (ofMeans .extension).find? isTooDeep with
  | some ts => some (.deepExtension (expression ts))
  | none => ((ofMeans .expression).findIdx? isTooDeep).map .deepExpression

/-- Reads a list of patterns. The first one that cannot be read is refused. -/
def parseAll (patterns : List String) : Except Refusal (List Glob) := do
  let globs ← patterns.mapM fun p => (parse p).mapError (Refusal.malformed p)
  match tooDeep? globs with
  | some refusal => .error refusal
  | none => return globs

end Glob
end LintRelay
