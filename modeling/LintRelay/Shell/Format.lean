import LintRelay.Shell.Arithmetic
import LintRelay.Shell.Real

/-!
# Formatted output of scripts

What `echo` and `printf` print: escapes that begin with a backslash, and directives that put
arguments into a format. Both exist as a part of the shell and as a program, and differ in what
escapes they know and how they complain.
-/

namespace LintRelay.Shell

/-- Whether a character is an octal digit. -/
def isOctal (c : Char) : Bool := '0' ≤ c && c ≤ '7'

/-- The octet that digits spell in octal. -/
def octalOctet (cs : Octets) : Char :=
  Char.ofNat (cs.foldl (fun n c => n * 8 + digitValue c) 0 % 256)

/-- The character that an escape letter stands for. -/
def escapeLetter? : Char → Option Char
  | '\\' => some '\\'
  | 'a' => some '\x07'
  | 'b' => some '\x08'
  | 'f' => some '\x0c'
  | 'n' => some '\n'
  | 'r' => some '\r'
  | 't' => some '\t'
  | 'v' => some '\x0b'
  | _ => none

/-- The octet that an escape stands for, given what follows its backslash, and how many characters
that took. -/
def escape (cs : Octets) : Char × Nat :=
  match cs with
  | [] => ('\\', 0)
  | c :: _ =>
    if isOctal c then
      let digits := (cs.take 3).takeWhile isOctal
      (octalOctet digits, digits.length)
    else
      match escapeLetter? c with
      | some r => (r, 1)
      | none => ('\\', 0)

/-- A text with its escapes resolved, behind `skip` characters that were already resolved. The
escape for the end of all output cuts it off; then the second component is true. -/
def expandEscapes : Nat → Octets → Octets × Bool
  | _, [] => ([], false)
  | skip + 1, _ :: cs => expandEscapes skip cs
  | 0, '\\' :: 'c' :: _ => ([], true)
  | 0, '\\' :: cs =>
    let (c, taken) :=
      match cs with
      | '0' :: more =>
        let digits := (more.take 3).takeWhile isOctal
        (octalOctet digits, digits.length + 1)
      | _ => escape cs
    let (rest, cut) := expandEscapes taken cs
    (c :: rest, cut)
  | 0, c :: cs =>
    let (rest, cut) := expandEscapes 0 cs
    (c :: rest, cut)

/-- What the shell's own `echo` prints. -/
def echo (arguments : List Octets) : Octets :=
  match arguments with
  | ['-', 'n'] :: ts => (expandEscapes 0 (spaced ts)).1
  | ts =>
    match expandEscapes 0 (spaced ts) with
    | (text, true) => text
    | (text, false) => text ++ ['\n']

/-- The octet that an escape with hexadecimal digits stands for, given what follows its backslash,
and how many characters that took. -/
def hexEscape? (cs : Octets) : Option (Char × Nat) :=
  match cs with
  | 'x' :: more =>
    let digits := (more.take 2).takeWhile fun c => digitValue c < 16
    (numberIn? 16 digits).map fun n => (Char.ofNat n.toNat, digits.length + 1)
  | 'e' :: _ => some ('\x1b', 1)
  | _ => none

/-- A text with its escapes resolved as the program `echo` does, behind `skip` characters that were
already resolved. -/
def expandAllEscapes : Nat → Octets → Octets × Bool
  | _, [] => ([], false)
  | skip + 1, _ :: cs => expandAllEscapes skip cs
  | 0, '\\' :: 'c' :: _ => ([], true)
  | 0, '\\' :: cs =>
    let (c, taken) :=
      match hexEscape? cs with
      | some r => r
      | none =>
        match cs with
        | '0' :: more =>
          let digits := (more.take 3).takeWhile isOctal
          (octalOctet digits, digits.length + 1)
        | _ => escape cs
    let (rest, cut) := expandAllEscapes taken cs
    (c :: rest, cut)
  | 0, c :: cs =>
    let (rest, cut) := expandAllEscapes 0 cs
    (c :: rest, cut)

/-- What the program `echo` prints. Options say whether a line end is left out and whether escapes
are resolved. -/
def echoProgram (quiet escapes : Bool) : List Octets → Octets
  | [] => if quiet then [] else ['\n']
  | a :: as =>
    match a with
    | '-' :: letter :: letters =>
      let all := letter :: letters
      if all.all "neE".toList.contains then
        let last := all.reverse.find? fun c => c != 'n'
        echoProgram (quiet || all.contains 'n') ((last.map (· == 'e')).getD escapes) as
      else plain (a :: as)
    | _ => plain (a :: as)
where
  /-- The texts that are no options. -/
  plain (ts : List Octets) : Octets :=
    let (text, cut) := if escapes then expandAllEscapes 0 (spaced ts) else (spaced ts, false)
    if quiet || cut then text else text ++ ['\n']

/-- Whether a format is used by the shell itself or by the program of that name. -/
inductive FormatUser where
  | shell
  | program
  deriving Repr, DecidableEq

structure Directive where
  flags : Octets
  width : Nat
  precision : Option Nat
  conversion : Char

/-- What a format has printed so far, with the arguments that are left. -/
structure Printing where
  user : FormatUser
  printed : Octets
  arguments : List Octets
  errors : List Octets
  status : Nat
  /-- Whether the output was cut off. -/
  cut : Bool

namespace Directive

/-- Whether the directive has a flag. -/
def has (d : Directive) (flag : Char) : Bool := d.flags.contains flag

/-- A text put into the width of the directive. -/
def pad (d : Directive) (cs : Octets) : Octets :=
  if d.has '-' then padRight d.width ' ' cs else padLeft d.width ' ' cs

/-- A sign with digits put into the width of the directive, zeros between them where it wants so. -/
def padZeros (d : Directive) (sign digits : Octets) : Octets :=
  let fill := d.has '0' && !d.has '-'
  d.pad (sign ++ if fill then padLeft (d.width - sign.length) '0' digits else digits)

/-- A number put into the width of the directive, given its sign and its digits. -/
def padNumber (d : Directive) (sign digits : Octets) : Octets :=
  match d.precision with
  | some n => d.pad (sign ++ padLeft n '0' digits)
  | none => d.padZeros sign digits

def sign (d : Directive) (negative : Bool) : Octets :=
  if negative then ['-'] else if d.has '+' then ['+'] else if d.has ' ' then [' '] else []

/-- A number as the directive prints it. -/
def number (d : Directive) (n : Int) : Octets :=
  let digitsIn (base : Nat) : Octets := Nat.toDigits base (n % 0x10000000000000000).toNat
  let lead (mark : String) : Octets := if d.has '#' && n != 0 then mark.toList else []
  match d.conversion with
  | 'o' => d.padNumber (lead "0") (digitsIn 8)
  | 'x' => d.padNumber (lead "0x") (digitsIn 16)
  | 'X' => d.padNumber (lead "0X") ((digitsIn 16).map Char.toUpper)
  | 'u' => d.padNumber [] (digitsIn 10)
  | _ => d.padNumber (d.sign (n < 0)) (digitsOf n.natAbs)

/-- A number with a fraction as the directive prints it. -/
def real (d : Directive) (x : Real) : Octets :=
  let style : Real.Notation :=
    match d.conversion.toLower with
    | 'f' => .fixed
    | 'e' => .scientific
    | _ => .general
  let text := x.text style (d.precision.getD 6) (d.has '#')
  let text := if d.conversion.isUpper then text.map Char.toUpper else text
  if x.isFinite then d.padZeros (d.sign x.isNegative) text
  else d.pad (d.sign x.isNegative ++ text)

end Directive

/-- What is said of an argument that is no number, or is a number only at its front. -/
def numberComplaint (user : FormatUser) (argument : Octets) (partly : Bool) : Octets :=
  match user with
  | .shell =>
    argument ++
      (if partly then ": not completely converted" else ": expected numeric value").toList
  | .program =>
    '\'' :: argument ++
      (if partly then "': value not completely converted"
      else "': expected a numeric value").toList

/-- The number that an argument spells, or the longest number at its front with a complaint. -/
def argumentNumber (user : FormatUser) (cs : Octets) : Int × List Octets :=
  let bounded (n : Int) : Int × List Octets :=
    if n > 0xFFFFFFFFFFFFFFFF || n < -0x8000000000000000 then
      (if n > 0 then 0x7FFFFFFFFFFFFFFF else -0x8000000000000000,
        [cs ++ ": Numerical result out of range".toList])
    else (n, [])
  match cs with
  | [] => (0, [])
  | '\'' :: c :: _ => (c.toNat, [])
  | '"' :: c :: _ => (c.toNat, [])
  | _ =>
    let body := cs.dropWhile isSpace
    match integer? body with
    | some n => bounded n
    | none =>
      let fronts := (List.range body.length).reverse.map fun n => body.take n
      match fronts.findSome? integer? with
      | some n => (n, [numberComplaint user cs true])
      | none => (0, [numberComplaint user cs false])

/-- The number with a fraction that an argument spells, with complaints. -/
def argumentReal (user : FormatUser) (cs : Octets) : Real × List Octets :=
  match cs with
  | [] => (.finite false 0 1, [])
  | '\'' :: c :: _ => (.finite false c.toNat 1, [])
  | '"' :: c :: _ => (.finite false c.toNat 1, [])
  | _ =>
    match Real.atFront? cs with
    | none => (.finite false 0 1, [numberComplaint user cs false])
    | some (x, size) =>
      let x := if user == .shell then x.rounded else x
      (x, if size == cs.length then [] else [numberComplaint user cs true])

namespace Printing

/-- Prints a text. -/
def emit (p : Printing) (cs : Octets) : Printing := { p with printed := p.printed ++ cs }

/-- Takes the next argument; where there is none it is empty. -/
def next (p : Printing) : Octets × Printing :=
  (p.arguments.headD [], { p with arguments := p.arguments.drop 1 })

def complain (p : Printing) (errors : List Octets) : Printing :=
  { p with errors := p.errors ++ errors, status := if errors.isEmpty then p.status else 1 }

/-- A text in quotes, if it has a character that the shell would not take for itself. -/
def shellQuoted (cs : Octets) : Octets :=
  let isPlain (c : Char) : Bool := c.isAlphanum || "_./+-:,@%^=".toList.contains c
  if cs.isEmpty then "''".toList
  else if cs.all isPlain then cs
  else if !cs.contains '\'' then '\'' :: cs ++ ['\'']
  else '\'' :: cs.flatMap (fun c => if c == '\'' then "'\\''".toList else [c]) ++ ['\'']

/-- Prints what a directive asks for. -/
def direct (p : Printing) (d : Directive) : Printing :=
  let (argument, p) := p.next
  let cutTo (cs : Octets) : Octets :=
    match d.precision with
    | some n => cs.take n
    | none => cs
  match d.conversion with
  | 's' => p.emit (d.pad (cutTo argument))
  | 'c' => p.emit (d.pad (argument.take 1))
  | 'q' => p.emit (d.pad (shellQuoted argument))
  | 'b' =>
    let (text, cut) :=
      if p.user == .shell then expandEscapes 0 argument else expandAllEscapes 0 argument
    { p.emit (d.pad (cutTo text)) with cut }
  | c =>
    if "diouxX".toList.contains c then
      let (n, errors) := argumentNumber p.user argument
      (p.complain errors).emit (d.number n)
    else
      let (x, errors) := argumentReal p.user argument
      (p.complain errors).emit (d.real x)

/-- Ends the output with a complaint. -/
def refuse (p : Printing) (why : Octets) : Printing :=
  { p with
    errors := p.errors ++ [why]
    status := if p.user == .shell then 2 else 1
    cut := true }

def conversions (user : FormatUser) : Octets :=
  "sbcdiouxXeEfFgG".toList ++ if user == .shell then [] else ['q']

/-- A width or precision at the front of a directive: digits, or `*` for the next argument. Gives
the number, the length that it takes and the arguments that are left. -/
def measure (p : Printing) (cs : Octets) : Option Int × Nat × Printing :=
  match cs with
  | '*' :: _ =>
    let (argument, p) := p.next
    let (n, errors) := argumentNumber p.user argument
    (some n, 1, p.complain errors)
  | _ =>
    let digits := cs.takeWhile Char.isDigit
    (numberIn? 10 digits, digits.length, p)

/-- Carries out the directive at the front of a format, behind its percent sign, and gives its
length. -/
def directed (p : Printing) (cs : Octets) : Printing × Nat :=
  let flags := cs.takeWhile fun c => "#-+ 0".toList.contains c
  let behindFlags := cs.drop flags.length
  let (width, widthSize, p) := p.measure behindFlags
  let behindWidth := behindFlags.drop widthSize
  let (precision, precisionSize, p) :=
    match behindWidth with
    | '.' :: more =>
      let (n, size, p) := p.measure more
      (some (n.getD 0), size + 1, p)
    | _ => (none, 0, p)
  let behind := behindWidth.drop precisionSize
  let marks := if p.user == .shell then [] else behind.takeWhile fun c => "hlLqjzt".toList.contains c
  let marks := if (behind.drop marks.length).isEmpty then [] else marks
  let size := flags.length + widthSize + precisionSize + marks.length
  let width := width.getD 0
  let flags := if width < 0 then '-' :: flags else flags
  let precision := precision.bind fun n => if n < 0 then none else some n.toNat
  match behind.drop marks.length with
  | [] =>
    (p.refuse (match p.user with
      | .shell => "missing format character".toList
      | .program => '%' :: cs ++ ": invalid conversion specification".toList), size)
  | c :: _ =>
    if (conversions p.user).contains c then
      (p.direct ⟨flags, width.natAbs, precision, c⟩, size + 1)
    else
      (p.refuse ('%' :: cs.take (size + 1) ++ (match p.user with
        | .shell => ": invalid directive"
        | .program => ": invalid conversion specification").toList), size + 1)

/-- Goes once through a format, behind `skip` characters that were already used. -/
def once : Nat → Octets → Printing → Printing
  | _, [], p => p
  | skip + 1, _ :: cs, p => once skip cs p
  | 0, c :: cs, p =>
    if p.cut then p
    else if c == '\\' then
      let known := if p.user == .shell then none else hexEscape? cs
      if p.user == .program && cs.head? == some 'c' then { p with cut := true }
      else
        let (r, taken) := known.getD (escape cs)
        once taken cs (p.emit [r])
    else if c == '%' then
      if cs.head? == some '%' then once 1 cs (p.emit ['%'])
      else
        let (p, taken) := p.directed cs
        once taken cs p
    else once 0 cs (p.emit [c])

/-- Goes through a format again as long as it uses up arguments, at most `n` times. -/
def repeated (format : Octets) : Nat → Printing → Printing
  | 0, p => p
  | n + 1, p =>
    let q := once 0 format p
    if q.cut || q.arguments.isEmpty || q.arguments.length == p.arguments.length then q
    else repeated format n q

end Printing

/-- What `printf` prints for a format and arguments, with its complaints. -/
def printf (user : FormatUser) (format : Octets) (arguments : List Octets) : Printing :=
  Printing.repeated format (arguments.length + 1) ⟨user, [], arguments, [], 0, false⟩

end LintRelay.Shell
