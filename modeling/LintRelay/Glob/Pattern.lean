import LintRelay.Text.Utf8

/-!
# Glob patterns

A pattern is read into a list of tokens. `?` and `*` are wildcards, `[…]` is a class of bytes, `{…}`
lists alternatives, `\` makes the next character literal, and `**` is a wildcard for directories
where it fills a whole segment: at the start of the pattern or an alternative, at its end, or
between two slashes. Anywhere else `**` is two `*`.

The reader walks the pattern one character at a time. `Parse` is what it has read, with the groups
that are still open; `Mode` says whether it stands behind a backslash or stars, or inside a class.
-/

namespace LintRelay.Glob

/-- A part of a pattern. -/
inductive Token where
  | char (c : Char)
  /-- Any one byte. -/
  | any
  /-- Any bytes. -/
  | run
  /-- Nothing, a slash, or any bytes that end in a slash. -/
  | leadingDirs
  /-- A slash and any bytes. -/
  | contents
  /-- A slash, or a slash, any bytes and another slash. -/
  | betweenDirs
  /-- One byte in, or not in, the ranges of characters. -/
  | byteClass (negated : Bool) (ranges : List (Char × Char))
  | oneOf (alternatives : List (List Token))
  deriving Repr, Inhabited

/-- Why a pattern is refused. -/
inductive Fault where
  | unclosedClass
  | invalidRange (low high : Char)
  | unopenedGroup
  | unclosedGroup
  | danglingEscape
  deriving Repr, DecidableEq

/-- The wording of a refusal. -/
def Fault.message : Fault → String
  | .unclosedClass => "unclosed character class; missing ']'"
  | .invalidRange low high =>
    "invalid range; '" ++ String.singleton low ++ "' > '" ++ String.singleton high ++ "'"
  | .unopenedGroup =>
    "unopened alternate group; missing '\x7b' (maybe escape '\x7d' with '[\x7d]'?)"
  | .unclosedGroup =>
    "unclosed alternate group; missing '\x7d' (maybe escape '\x7b' with '[\x7b]'?)"
  | .danglingEscape => "dangling '\\'"

structure OpenGroup where
  /-- The tokens in front of the group, last one first. -/
  before : List Token
  /-- The alternatives that are complete, last one first. -/
  alternatives : List (List Token)

/-- What is read so far. -/
structure Parse where
  /-- The tokens of the pattern or of the alternative at hand, last one first. -/
  current : List Token
  /-- The open groups, innermost first. -/
  groups : List OpenGroup
  previous : Option Char

structure OpenClass where
  negated : Bool
  first : Bool
  /-- Whether a dash was read that may make a range. -/
  inRange : Bool
  /-- The ranges, last one first. -/
  ranges : List (Char × Char)

/-- Where in a pattern the next character stands. -/
inductive Mode where
  | plain
  | escape
  | star
  | stars
  | classStart
  | inClass (c : OpenClass)

/-- Adds a token. -/
def Parse.push (p : Parse) (t : Token) : Parse := { p with current := t :: p.current }

/-- Extends the last range of a class up to `c`. -/
def extendRange (c : Char) : List (Char × Char) → Except Fault (List (Char × Char))
  | [] => .ok [(c, c)]
  | (low, _) :: rs => if c < low then .error (.invalidRange low c) else .ok ((low, c) :: rs)

/-- Reads a character of a class that does not close it. -/
def OpenClass.read (k : OpenClass) (c : Char) : Except Fault OpenClass :=
  if k.inRange then
    (extendRange c k.ranges).map fun rs => { k with ranges := rs, inRange := false, first := false }
  else if c == '-' && !k.first then .ok { k with inRange := true, first := false }
  else .ok { k with ranges := (c, c) :: k.ranges, first := false }

/-- The token of a class that is closed. A dash at its end stands for itself. -/
def OpenClass.token (k : OpenClass) : Token :=
  .byteClass k.negated (if k.inRange then ('-', '-') :: k.ranges else k.ranges).reverse

/-- Whether a wildcard for directories may stand after the character `previous`. -/
def mayFollow (p : Parse) (previous : Option Char) : Bool :=
  previous == some '/' ||
    (!p.groups.isEmpty && (previous == some ',' || previous == some '\x7b'))

/-- Reads two stars, with the character after them, and says whether that character is used up. -/
def Parse.stars (p : Parse) (next : Option Char) : Parse × Bool :=
  let plain := (p.push .run).push .run
  if p.current.isEmpty then
    match next with
    | none => (p.push .leadingDirs, false)
    | some c => if c == '/' then (p.push .leadingDirs, true) else (plain, false)
  else if !mayFollow p p.previous then (plain, false)
  else
    let atEnd := next.isNone ||
      (!p.groups.isEmpty && (next == some ',' || next == some '\x7d'))
    if !atEnd && next != some '/' then (plain, false)
    else
      let token : Token :=
        match p.current with
        | .leadingDirs :: _ => .leadingDirs
        | .contents :: _ => .contents
        | _ => if atEnd then .contents else .betweenDirs
      ({ p with current := token :: p.current.drop 1 }, !atEnd)

def Parse.openGroup (p : Parse) : Parse :=
  { p with current := [], groups := ⟨p.current, []⟩ :: p.groups }

/-- Ends an alternative and begins the next. Outside a group a comma stands for itself. -/
def Parse.comma (p : Parse) : Parse :=
  match p.groups with
  | [] => p.push (.char ',')
  | g :: gs =>
    { p with
      current := []
      groups := ⟨g.before, p.current.reverse :: g.alternatives⟩ :: gs }

def Parse.closeGroup (p : Parse) : Except Fault Parse :=
  match p.groups with
  | [] => .error .unopenedGroup
  | g :: gs =>
    let token := Token.oneOf (p.current.reverse :: g.alternatives).reverse
    .ok { p with current := token :: g.before, groups := gs }

/-- Where the reader stands. -/
abbrev Place := Parse × Mode

/-- Reads a character of a class. -/
def classStep (p : Parse) (k : OpenClass) (c : Char) : Except Fault Place :=
  if c == ']' && !k.first then .ok ({ p.push k.token with previous := some c }, .plain)
  else (k.read c).map fun k => (p, .inClass k)

/-- Reads a character outside classes and escapes. A star waits for what follows it; until then the
character in front of it is kept. -/
def plainStep (p : Parse) (c : Char) : Except Fault Place :=
  let q := { p with previous := some c }
  if c == '*' then .ok (p, .star)
  else if c == '?' then .ok (q.push .any, .plain)
  else if c == '[' then .ok (q, .classStart)
  else if c == '\x7b' then .ok (q.openGroup, .plain)
  else if c == ',' then .ok (q.comma, .plain)
  else if c == '\x7d' then q.closeGroup.map fun q => (q, .plain)
  else if c == '\\' then .ok (q, .escape)
  else .ok (q.push (.char c), .plain)

/-- Reads a character. -/
def step : Place → Char → Except Fault Place
  | (p, .plain), c => plainStep p c
  | (p, .escape), c => .ok ({ p.push (.char c) with previous := some c }, .plain)
  | (p, .star), c =>
    if c == '*' then .ok (p, .stars) else plainStep { p.push .run with previous := some '*' } c
  | (p, .stars), c =>
    let (p, used) := p.stars (some c)
    if used then .ok ({ p with previous := some c }, .plain)
    else plainStep { p with previous := some '*' } c
  | (p, .classStart), c =>
    if c == '!' || c == '^' then .ok (p, .inClass ⟨true, true, false, []⟩)
    else classStep p ⟨false, true, false, []⟩ c
  | (p, .inClass k), c => classStep p k c

/-- What the reader has read when the pattern ends. -/
def finish : Place → Except Fault Parse
  | (p, .plain) => .ok p
  | (p, .star) => .ok (p.push .run)
  | (p, .stars) => .ok (p.stars none).1
  | (_, .escape) => .error .danglingEscape
  | (_, .classStart) => .error .unclosedClass
  | (_, .inClass _) => .error .unclosedClass

def tokensOf (pattern : List Char) : Except Fault (List Token) := do
  let p ← finish (← pattern.foldlM step (⟨[], [], none⟩, .plain))
  if p.groups.isEmpty then return p.current.reverse else .error .unclosedGroup

end LintRelay.Glob
