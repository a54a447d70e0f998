import LintRelay.Json.Basic
import LintRelay.Json.Error

/-!
# The words of JSON

What a JSON text is made of below its arrays and objects: blanks, the three literal words, strings
and numbers. Every reader takes the characters that follow and gives what it read with what is left.
A string is walked one character at a time; `Spot` says where in an escape the walk stands.
-/

namespace LintRelay.Json

/-- A result or the reason why there is none. A reader gives its result with the characters left. -/
abbrev OrError (α : Type) := Except ReadError α

/-- Whether `c` may stand between the parts of a JSON text. -/
def isGap (c : Char) : Bool := c == ' ' || c == '\t' || c == '\n' || c == '\r'

/-- Drops the blanks at the front. -/
def skipGap (cs : List Char) : List Char := cs.dropWhile isGap

/-- Drops the characters of a literal word, which have to stand at the front. -/
def expectWord : List Char → List Char → OrError (List Char)
  | [], cs => .ok cs
  | _ :: _, [] => .error .eofValue
  | w :: ws, c :: cs => if c == w then expectWord ws cs else .error .expectedIdent

/-! ## Strings -/

def hexValue? (c : Char) : Option Nat :=
  if '0' ≤ c && c ≤ '9' then some (c.toNat - 48)
  else if 'a' ≤ c && c ≤ 'f' then some (c.toNat - 87)
  else if 'A' ≤ c && c ≤ 'F' then some (c.toNat - 55)
  else none

/-- The number of bytes that spell a text. -/
def byteSize (cs : List Char) : Nat := cs.foldr (fun c n => c.utf8Size + n) 0

/-- Whether the four bytes of a hexadecimal escape are there. -/
def hasHexRoom (cs : List Char) : Bool := 4 ≤ byteSize (cs.take 4)

/-- Whether a code unit is the first half of a pair. -/
def isHighHalf (n : Nat) : Bool := 0xD800 ≤ n && n ≤ 0xDBFF

/-- Whether a code unit is the second half of a pair. -/
def isLowHalf (n : Nat) : Bool := 0xDC00 ≤ n && n ≤ 0xDFFF

/-- The character that a pair of code units stands for. -/
def pairedChar (high low : Nat) : Char :=
  Char.ofNat ((high - 0xD800) * 0x400 + (low - 0xDC00) + 0x10000)

/-- The character that a letter after a backslash stands for. -/
def simpleEscape? (c : Char) : Option Char :=
  if c == '"' then some '"'
  else if c == '\\' then some '\\'
  else if c == '/' then some '/'
  else if c == 'b' then some '\x08'
  else if c == 'f' then some '\x0c'
  else if c == 'n' then some '\n'
  else if c == 'r' then some '\r'
  else if c == 't' then some '\t'
  else none

/-- Where in a string the next character stands. -/
inductive Spot where
  | text
  | escape
  /-- In a hexadecimal escape with `missing + 1` digits to come, after the first half `high` of a
  pair if there was one. -/
  | hex (missing value : Nat) (high : Option Nat)
  | afterHigh (high : Nat)
  | afterHighEscape (high : Nat)
  deriving Repr, DecidableEq

/-- Adds a character in front of what a step read. -/
def consRead (c : Char) (s : OrError (List Char × List Char)) :
    OrError (List Char × List Char) :=
  match s with
  | .ok (text, rest) => .ok (c :: text, rest)
  | .error e => .error e

/-- Reads the rest of a string up to its closing quote. -/
def readString : Spot → List Char → OrError (List Char × List Char)
  | _, [] => .error .eofString
  | .text, c :: cs =>
    if c == '"' then .ok ([], cs)
    else if c == '\\' then readString .escape cs
    else if c.toNat < 0x20 then .error .controlCharacter
    else consRead c (readString .text cs)
  | .escape, c :: cs =>
    if c == 'u' then
      if hasHexRoom cs then readString (.hex 3 0 none) cs else .error .eofString
    else
      match simpleEscape? c with
      | some e => consRead e (readString .text cs)
      | none => .error .invalidEscape
  | .hex missing value high, c :: cs =>
    match hexValue? c, missing with
    | none, _ => .error .invalidEscape
    | some d, k + 1 => readString (.hex k (value * 16 + d) high) cs
    | some d, 0 =>
      let n := value * 16 + d
      match high with
      | some h =>
        if isLowHalf n then consRead (pairedChar h n) (readString .text cs)
        else .error .loneSurrogate
      | none =>
        if isLowHalf n then .error .loneSurrogate
        else if isHighHalf n then readString (.afterHigh n) cs
        else consRead (Char.ofNat n) (readString .text cs)
  | .afterHigh high, c :: cs =>
    if c == '\\' then readString (.afterHighEscape high) cs else .error .unexpectedEndOfHexEscape
  | .afterHighEscape high, c :: cs =>
    if c == 'u' then
      if hasHexRoom cs then readString (.hex 3 0 (some high)) cs else .error .eofString
    else .error .unexpectedEndOfHexEscape

/-- Passes over the rest of a string up to its closing quote. Halves of pairs may stand alone. -/
def skipString : Spot → List Char → OrError (List Char)
  | _, [] => .error .eofString
  | .text, c :: cs =>
    if c == '"' then .ok cs
    else if c == '\\' then skipString .escape cs
    else if c.toNat < 0x20 then .error .controlCharacter
    else skipString .text cs
  | .escape, c :: cs =>
    if c == 'u' then if hasHexRoom cs then skipString (.hex 3 0 none) cs else .error .eofString
    else if (simpleEscape? c).isSome then skipString .text cs
    else .error .invalidEscape
  | .hex missing _ _, c :: cs =>
    match hexValue? c, missing with
    | none, _ => .error .invalidEscape
    | some _, k + 1 => skipString (.hex k 0 none) cs
    | some _, 0 => skipString .text cs
  | .afterHigh _, _ :: cs => skipString .text cs
  | .afterHighEscape _, _ :: cs => skipString .text cs

/-! ## Numbers -/

/-- The parts of a number as it is spelled. -/
structure NumberText where
  negative : Bool
  whole : List Nat
  fraction : List Nat
  exponent : Option Int
  hasPoint : Bool
  deriving Repr, DecidableEq

def digitValue? (c : Char) : Option Nat :=
  if '0' ≤ c && c ≤ '9' then some (c.toNat - 48) else none

/-- The digits at the front and what is left. -/
def spanDigits : List Char → List Nat × List Char
  | [] => ([], [])
  | c :: cs =>
    match digitValue? c with
    | some d => let (ds, rest) := spanDigits cs; (d :: ds, rest)
    | none => ([], c :: cs)

/-- The natural number with the given decimal digits. -/
def ofDigits (ds : List Nat) : Nat := ds.foldl (fun n d => n * 10 + d) 0

/-- At least one digit. `atEnd` is the error where the text ends instead. -/
def someDigits (atEnd : ReadError) (cs : List Char) : OrError (List Nat × List Char) :=
  match spanDigits cs with
  | ([], []) => .error atEnd
  | ([], _ :: _) => .error .invalidNumber
  | (ds, rest) => .ok (ds, rest)

/-- The digits before the point: a lone zero, or digits that do not start with a zero. -/
def wholeDigits (atEnd : ReadError) (cs : List Char) : OrError (List Nat × List Char) :=
  match someDigits atEnd cs with
  | .ok (0 :: _ :: _, _) => .error .invalidNumber
  | r => r

/-- The point and the digits after it, if they are there. -/
def fractionDigits (atEnd : ReadError) : List Char → OrError ((Bool × List Nat) × List Char)
  | '.' :: cs =>
    match someDigits atEnd cs with
    | .ok (ds, rest) => .ok ((true, ds), rest)
    | .error e => .error e
  | cs => .ok ((false, []), cs)

/-- The sign in front of an exponent: whether it is minus, and what is left. -/
def exponentSign : List Char → Bool × List Char
  | '+' :: cs => (false, cs)
  | '-' :: cs => (true, cs)
  | cs => (false, cs)

def exponentPart (atEnd : ReadError) : List Char → OrError (Option Int × List Char)
  | [] => .ok (none, [])
  | c :: cs =>
    if c == 'e' || c == 'E' then
      let (minus, cs) := exponentSign cs
      match someDigits atEnd cs with
      | .ok (ds, rest) =>
        let n : Int := ofDigits ds
        .ok (some (if minus then -n else n), rest)
      | .error e => .error e
    else .ok (none, c :: cs)

/-- Reads the spelling of a number after its sign. -/
def scanNumber (atEnd : ReadError) (negative : Bool) (cs : List Char) :
    OrError (NumberText × List Char) := do
  let (whole, cs) ← wholeDigits atEnd cs
  let ((hasPoint, fraction), cs) ← fractionDigits atEnd cs
  let (exponent, cs) ← exponentPart atEnd cs
  return ({ negative, whole, fraction, exponent, hasPoint }, cs)

/-- The greatest integer that has a place of its own. -/
def greatestNatural : Nat := 0xFFFFFFFFFFFFFFFF

/-- Continues the integer `n` with digits as long as it stays in range; gives it with the number of
digits taken. -/
def takeDigits (n : Nat) : List Nat → Nat × Nat
  | [] => (n, 0)
  | d :: ds =>
    if n * 10 + d ≤ greatestNatural then
      let (m, k) := takeDigits (n * 10 + d) ds
      (m, k + 1)
    else (n, 0)

/-- The floating point number nearest to `10 ^ k`, for `k` up to 308. -/
def powerOfTen (k : Nat) : Decimal.Binary64 :=
  (Decimal.Binary64.ofNat? (Nat.pow 10 k)).getD (.zero false)

/-- Multiplies by a power of ten. A power beyond the range of the format is split off in steps of
`10 ^ 308`, of which `fuel` are made at most. -/
def scaleByTen : Nat → Decimal.Binary64 → Int → Option Decimal.Binary64
  | fuel, x, k =>
    if k.natAbs ≤ 308 then
      if 0 ≤ k then x.mul? (powerOfTen k.toNat) else x.div? (powerOfTen k.natAbs)
    else if x.isZero then some x
    else if 0 ≤ k then none
    else
      match fuel, x.div? (powerOfTen 308) with
      | fuel + 1, some y => scaleByTen fuel y (k + 308)
      | _, _ => none

/-- The number of steps after which every number has become zero. -/
def scaleSteps : Nat := 3

/-- The floating point number `± n * 10 ^ k`, if it is finite: the integer and the power of ten are
each rounded before they are combined. -/
def floatOf? (negative : Bool) (n : Nat) (k : Int) : Option Decimal.Binary64 := do
  let x ← Decimal.Binary64.ofNat? n
  let y ← scaleByTen scaleSteps x k
  return y.withSign negative

/-- The value of a number as it is spelled, if it is in range. Digits that no longer fit in the
integer only count for the magnitude. -/
def NumberText.value? (t : NumberText) : Option Number :=
  let (n, taken) := takeDigits 0 t.whole
  let dropped := t.whole.length - taken
  if dropped == 0 && !t.hasPoint && t.exponent.isNone then
    if !t.negative then some (.integer n)
    else if 1 ≤ n && n ≤ 0x8000000000000000 then some (.integer (-n))
    else (floatOf? true n 0).map .float
  else
    let (m, places) := takeDigits n t.fraction
    (floatOf? t.negative m ((dropped : Int) - places + t.exponent.getD 0)).map .float

/-- Reads a number after its sign. -/
def readNumber (negative : Bool) (cs : List Char) : OrError (Number × List Char) := do
  let (t, rest) ← scanNumber .eofValue negative cs
  match t.value? with
  | some n => return (n, rest)
  | none => .error .numberOutOfRange

/-- Passes over a number after its sign. Its magnitude does not matter. -/
def skipNumber (cs : List Char) : OrError (List Char) :=
  match scanNumber .invalidNumber false cs with
  | .ok (_, rest) => .ok rest
  | .error e => .error e

end LintRelay.Json
