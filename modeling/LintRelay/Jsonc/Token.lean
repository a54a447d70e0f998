import LintRelay.Json.Lexer
import LintRelay.Text.Blank
import LintRelay.Text.CharClass

/-!
# Tokens of commented JSON

Commented JSON is JSON for people: comments, strings in single quotes, bare words as names,
hexadecimal numbers and a leading plus are allowed. `next` gives the next token of a text with what
follows it, passing over blanks and comments. Numbers are tokens in their spelling; what they are
worth is decided by `numberValue`.
-/

namespace LintRelay.Jsonc

/-- Why a text is refused. -/
inductive Fault where
  | unexpectedToken
  | unexpectedWord
  | unexpectedComma
  | unexpectedColon
  | unexpectedCloseBrace
  | unexpectedCloseBracket
  | unexpectedTokenInObject
  | unterminatedObject
  | unterminatedArray
  | unterminatedComment
  | unterminatedString
  | expectedColon
  | expectedObjectValue
  | expectedDigit
  | expectedDigitAfterSign
  | expectedExponent
  | expectedFourHexDigits
  | invalidEscape
  | quoteEscapeInSingleQuotes
  | quoteEscapeInDoubleQuotes
  /-- Half of a surrogate pair, as it is spelled, with what is wrong about it. -/
  | surrogate (spelling : String) (wrong : String)
  | multipleRoots
  deriving Repr, DecidableEq

/-- The wording of a refusal. -/
def Fault.message : Fault → String
  | .unexpectedToken => "Unexpected token"
  | .unexpectedWord => "Unexpected word"
  | .unexpectedComma => "Unexpected comma"
  | .unexpectedColon => "Unexpected colon"
  | .unexpectedCloseBrace => "Unexpected close brace"
  | .unexpectedCloseBracket => "Unexpected close bracket"
  | .unexpectedTokenInObject => "Unexpected token in object"
  | .unterminatedObject => "Unterminated object"
  | .unterminatedArray => "Unterminated array"
  | .unterminatedComment => "Unterminated comment block"
  | .unterminatedString => "Unterminated string literal"
  | .expectedColon => "Expected colon after the string or word in object property"
  | .expectedObjectValue => "Expected value after colon in object property"
  | .expectedDigit => "Expected digit"
  | .expectedDigitAfterSign => "Expected digit following negative sign"
  | .expectedExponent => "Expected plus, minus, or digit in number literal"
  | .expectedFourHexDigits => "Expected four hex digits"
  | .invalidEscape => "Invalid escape"
  | .quoteEscapeInSingleQuotes => "Invalid escape in single quote string"
  | .quoteEscapeInDoubleQuotes => "Invalid escape in double quote string"
  | .surrogate spelling wrong =>
    "Invalid unicode escape sequence. '" ++ spelling ++ " (" ++ wrong ++
      ")' is not a valid UTF8 character"
  | .multipleRoots => "Text cannot contain more than one JSON value"

/-- A result or the reason why there is none. -/
abbrev OrFault (α : Type) := Except Fault α

inductive Token where
  | openBrace
  | closeBrace
  | openBracket
  | closeBracket
  | comma
  | colon
  | null
  | bool (value : Bool)
  | string (value : String)
  | number (spelling : List Char)
  | word (spelling : List Char)
  deriving Repr, DecidableEq

/-! ## Blanks and comments -/

/-- Where among blanks and comments the next character stands. -/
inductive GapSpot where
  | blank
  | lineComment
  /-- In a block comment, and whether a star stands in front. -/
  | blockComment (star : Bool)
  deriving Repr, DecidableEq

/-- Drops blanks and comments. A slash that begins no comment is kept. -/
def skipGap : GapSpot → List Char → OrFault (List Char)
  | .blank, [] => .ok []
  | .lineComment, [] => .ok []
  | .blockComment _, [] => .error .unterminatedComment
  | .blank, '/' :: '/' :: cs => skipGap .lineComment cs
  | .blank, '/' :: '*' :: cs => skipGap (.blockComment false) cs
  | .blank, c :: cs => if Text.isBlank c then skipGap .blank cs else .ok (c :: cs)
  | .lineComment, c :: cs => if c == '\n' then skipGap .blank cs else skipGap .lineComment cs
  | .blockComment star, c :: cs =>
    if star && c == '/' then skipGap .blank cs else skipGap (.blockComment (c == '*')) cs

/-! ## Strings -/

/-- Where in a string the next character stands. -/
inductive StringSpot where
  | text
  | escape
  /-- In a hexadecimal escape with `missing + 1` digits to come. `spelling` holds the digits so far,
  last one first, and `high` the spelling of the first half of a pair. -/
  | hex (missing : Nat) (spelling : List Char) (high : Option (List Char))
  | afterHigh (high : List Char)
  | afterHighEscape (high : List Char)
  deriving Repr, DecidableEq

/-- The value of hexadecimal digits. -/
def hexNumber (digits : List Char) : Nat :=
  digits.foldl (fun n c => n * 16 + (Json.hexValue? c).getD 0) 0

/-- The fault of half of a pair. -/
def loneHalf (spelling : List Char) (wrong : String) : Fault :=
  .surrogate (String.ofList spelling) wrong

/-- The character that four hexadecimal digits stand for, if they do not stand for half of a
pair. -/
inductive Unit16 where
  | char (c : Char)
  | high
  | low
  deriving Repr, DecidableEq

/-- What four hexadecimal digits stand for. -/
def Unit16.ofDigits (digits : List Char) : Unit16 :=
  let n := hexNumber digits
  if Json.isHighHalf n then .high else if Json.isLowHalf n then .low else .char (Char.ofNat n)

/-- The character that a letter behind a backslash stands for, in a string between `quote`s. -/
def escaped (quote c : Char) : OrFault Char :=
  if c == '"' && quote != '"' then .error .quoteEscapeInSingleQuotes
  else if c == '\'' then if quote == '"' then .error .quoteEscapeInDoubleQuotes else .ok '\''
  else
    match Json.simpleEscape? c with
    | some e => .ok e
    | none => .error .invalidEscape

/-- Adds a character in front of what was read. -/
def consRead (c : Char) (s : OrFault (List Char × List Char)) : OrFault (List Char × List Char) :=
  match s with
  | .ok (text, rest) => .ok (c :: text, rest)
  | .error e => .error e

/-- Reads the rest of a string up to its closing quote. -/
def readString (quote : Char) : StringSpot → List Char → OrFault (List Char × List Char)
  | .text, [] => .error .unterminatedString
  | .escape, [] => .error .unterminatedString
  | .hex .., [] => .error .expectedFourHexDigits
  | .afterHigh high, [] => .error (loneHalf high "unpaired high surrogate")
  | .afterHighEscape high, [] => .error (loneHalf high "unpaired high surrogate")
  | .text, c :: cs =>
    if c == quote then .ok ([], cs)
    else if c == '\\' then readString quote .escape cs
    else consRead c (readString quote .text cs)
  | .escape, c :: cs =>
    if c == 'u' then readString quote (.hex 3 [] none) cs
    else
      match escaped quote c with
      | .ok e => consRead e (readString quote .text cs)
      | .error e => .error e
  | .hex missing spelling high, c :: cs =>
    if (Json.hexValue? c).isNone then .error .expectedFourHexDigits
    else
      let digits := c :: spelling
      match missing, high with
      | k + 1, _ => readString quote (.hex k digits high) cs
      | 0, none =>
        match Unit16.ofDigits digits.reverse with
        | .char e => consRead e (readString quote .text cs)
        | .high => readString quote (.afterHigh digits.reverse) cs
        | .low => .error (loneHalf digits.reverse "unpaired low surrogate")
      | 0, some h =>
        match Unit16.ofDigits digits.reverse with
        | .low =>
          consRead (Json.pairedChar (hexNumber h) (hexNumber digits.reverse))
            (readString quote .text cs)
        | _ => .error (loneHalf h "high surrogate not followed by low surrogate")
  | .afterHigh high, c :: cs =>
    if c == '\\' then readString quote (.afterHighEscape high) cs
    else .error (loneHalf high "unpaired high surrogate")
  | .afterHighEscape high, c :: cs =>
    if c == 'u' then readString quote (.hex 3 [] (some high)) cs
    else .error (loneHalf high "unpaired high surrogate")

/-! ## Numbers -/

/-- Whether `c` is a decimal digit. -/
def isDigit (c : Char) : Bool := (Json.digitValue? c).isSome

def isHexDigit (c : Char) : Bool := (Json.hexValue? c).isSome

/-- At least one digit of the kind, and what follows. -/
def someOf (digit : Char → Bool) (none : Fault) (cs : List Char) :
    OrFault (List Char × List Char) :=
  let (ds, rest) := cs.span digit
  if ds.isEmpty then .error none else .ok (ds, rest)

/-- The point and the digits after it, if they are there. -/
def fractionText : List Char → OrFault (List Char × List Char)
  | '.' :: cs => (someOf isDigit .expectedDigit cs).map fun (ds, rest) => ('.' :: ds, rest)
  | cs => .ok ([], cs)

def exponentText : List Char → OrFault (List Char × List Char)
  | [] => .ok ([], [])
  | c :: cs =>
    if c == 'e' || c == 'E' then
      match cs with
      | s :: ds =>
        if s == '+' || s == '-' then
          (someOf isDigit .expectedDigit ds).map fun (ds, rest) => (c :: s :: ds, rest)
        else (someOf isDigit .expectedExponent cs).map fun (ds, rest) => (c :: ds, rest)
      | [] => .error .expectedExponent
    else .ok ([], c :: cs)

/-- The digits in front of the point: a lone zero, or digits that do not start with a zero. -/
def wholeText : List Char → OrFault (List Char × List Char)
  | '0' :: cs => .ok (['0'], cs)
  | cs => someOf isDigit .expectedDigitAfterSign cs

/-- Reads a number behind its sign. -/
def unsignedText (cs : List Char) : OrFault (List Char × List Char) :=
  match cs with
  | '0' :: x :: rest =>
    if x == 'x' || x == 'X' then
      (someOf isHexDigit .expectedDigit rest).map fun (ds, rest) => ('0' :: x :: ds, rest)
    else decimal cs
  | cs => decimal cs
where
  decimal (cs : List Char) : OrFault (List Char × List Char) := do
    let (whole, cs) ← wholeText cs
    let (fraction, cs) ← fractionText cs
    let (exponent, cs) ← exponentText cs
    return (whole ++ fraction ++ exponent, cs)

def numberText : List Char → OrFault (List Char × List Char)
  | '+' :: cs => (unsignedText cs).map fun (ds, rest) => ('+' :: ds, rest)
  | '-' :: cs => (unsignedText cs).map fun (ds, rest) => ('-' :: ds, rest)
  | cs => unsignedText cs

/-- Whether a number is spelled in hexadecimal digits, and these digits. -/
def hexDigits? : List Char → Option (List Char)
  | '0' :: 'x' :: ds => some ds
  | '0' :: 'X' :: ds => some ds
  | _ => none

/-- The value of a number. One that is out of range is the string of its spelling. -/
def numberValue (spelling : List Char) : Json :=
  let (negative, unsigned) :=
    match spelling with
    | '-' :: ds => (true, ds)
    | '+' :: ds => (false, ds)
    | ds => (false, ds)
  let outOfRange := Json.string (String.ofList spelling)
  match hexDigits? unsigned with
  | some ds =>
    let n := hexNumber ds
    if n < 0x8000000000000000 then .ofInt (if negative then -(n : Int) else n) else outOfRange
  | none =>
    match Json.readNumber negative unsigned with
    | .ok (n, _) => .number n
    | .error _ => outOfRange

/-! ## Words -/

def endsWord (c : Char) : Bool := Text.isBlank c || c == ':'

/-- Whether `c` may stand in a word. -/
def isWordChar (c : Char) : Bool := Text.isAlphanumeric c || c == '-' || c == '_'

def readWord (cs : List Char) : OrFault (List Char × List Char) :=
  let (w, rest) := cs.span (fun c => !endsWord c)
  if w.isEmpty || !w.all isWordChar then .error .unexpectedToken else .ok (w, rest)

/-- What follows the literal `word`, if it stands in front and no alphanumeric character follows. -/
def afterLiteral? (word cs : List Char) : Option (List Char) :=
  if word.isPrefixOf cs then
    let rest := cs.drop word.length
    if rest.head?.any Text.isAlphanumeric then none else some rest
  else none

def readWordToken (cs : List Char) : OrFault (Token × List Char) :=
  if let some rest := afterLiteral? ['t', 'r', 'u', 'e'] cs then .ok (.bool true, rest)
  else if let some rest := afterLiteral? ['f', 'a', 'l', 's', 'e'] cs then .ok (.bool false, rest)
  else if let some rest := afterLiteral? ['n', 'u', 'l', 'l'] cs then .ok (.null, rest)
  else (readWord cs).map fun (w, rest) => (.word w, rest)

/-! ## Any token -/

/-- The token of a punctuation character. -/
def punctuation? (c : Char) : Option Token :=
  if c == '\x7b' then some .openBrace
  else if c == '\x7d' then some .closeBrace
  else if c == '[' then some .openBracket
  else if c == ']' then some .closeBracket
  else if c == ',' then some .comma
  else if c == ':' then some .colon
  else none

/-- Reads the token that begins with the first character, which is neither blank nor begins a
comment. -/
def readToken (c : Char) (cs : List Char) : OrFault (Token × List Char) :=
  match punctuation? c with
  | some t => .ok (t, cs)
  | none =>
    if c == '"' || c == '\'' then
      (readString c .text cs).map fun (s, rest) => (.string (String.ofList s), rest)
    else if c == '/' then .error .unexpectedToken
    else if c == '-' || c == '+' || isDigit c then
      (numberText (c :: cs)).map fun (n, rest) => (.number n, rest)
    else readWordToken (c :: cs)

/-- The next token and what follows it; at the end there is none. -/
def next (cs : List Char) : OrFault (Option Token × List Char) := do
  match ← skipGap .blank cs with
  | [] => return (none, [])
  | c :: cs =>
    let (t, rest) ← readToken c cs
    return (some t, rest)

end LintRelay.Jsonc
