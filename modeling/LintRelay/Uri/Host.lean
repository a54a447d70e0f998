import LintRelay.Uri.Percent
import LintRelay.Json.Lexer
import LintRelay.Domain.Name

/-!
# Hosts

The host of a URI is a domain, an IPv4 address or an IPv6 address. Addresses are read to tell
whether they are right; their normal form is the list of their parts in hexadecimal.
-/

namespace LintRelay

/-- Why a URI is refused. -/
inductive UriFault where
  | relative
  | emptyHost
  | invalidDomain
  | invalidDomainCharacter
  | invalidIpv4
  | invalidIpv6
  | invalidPort
  deriving Repr, DecidableEq

/-- The wording of a refusal. -/
def UriFault.message : UriFault → String
  | .relative => "relative URL without a base"
  | .emptyHost => "empty host"
  | .invalidDomain => "invalid international domain name"
  | .invalidDomainCharacter => "invalid domain character"
  | .invalidIpv4 => "invalid IPv4 address"
  | .invalidIpv6 => "invalid IPv6 address"
  | .invalidPort => "invalid port number"

namespace Host

/-- Whether every character is a decimal digit, and there is one. -/
def isDecimal (cs : List Char) : Bool :=
  !cs.isEmpty && cs.all fun c => (Json.digitValue? c).isSome

/-- The number with these digits in a base up to sixteen. -/
def number? (base : Nat) (cs : List Char) : Option Nat :=
  cs.foldlM (fun n c => do
    let d ← Json.hexValue? c
    if d < base then return n * base + d else none) 0

/-! ## IPv4 -/

/-- The number that a part of an IPv4 address stands for: decimal, octal behind a zero, or
hexadecimal behind `0x`. -/
def ipv4Part? : List Char → Option Nat
  | [] => none
  | '0' :: 'x' :: cs => number? 16 cs
  | '0' :: 'X' :: cs => number? 16 cs
  | '0' :: c :: cs => number? 8 (c :: cs)
  | cs => number? 10 cs

def withoutEmptyEnd (parts : List (List Char)) : List (List Char) :=
  if parts.length > 1 && parts.getLast? == some [] then parts.dropLast else parts

/-- Whether a domain ends in a number, and so has to be an IPv4 address. -/
def endsInNumber (domain : List Char) : Bool :=
  match (withoutEmptyEnd (Domain.splitAt '.' domain)).getLast? with
  | some last => isDecimal last || (ipv4Part? last).isSome
  | none => false

/-- The parts of an IPv4 address. The last part fills what the others leave. -/
def ipv4? (domain : List Char) : Option (List Nat) := do
  let parts ← (withoutEmptyEnd (Domain.splitAt '.' domain)).mapM ipv4Part?
  let last ← parts.getLast?
  let before := parts.dropLast
  if parts.length > 4 then none
  else if before.any (· > 255) then none
  else if last ≥ Nat.pow 256 (4 - before.length) then none
  else return before ++ (List.range (4 - before.length)).reverse.map fun i => last / Nat.pow 256 i % 256

/-! ## IPv6 -/

/-- A group of an IPv6 address: one to four hexadecimal digits. -/
def ipv6Group? (cs : List Char) : Option Nat :=
  if cs.isEmpty || cs.length > 4 then none else number? 16 cs

/-- Whether a part of the IPv4 address at the end of an IPv6 address has no needless zero. -/
def isPlainByte (cs : List Char) : Bool :=
  isDecimal cs && (cs.length == 1 || cs.head? != some '0') && (number? 10 cs).any (· ≤ 255)

/-- The two groups of the IPv4 address at the end of an IPv6 address. -/
def ipv6Tail? (cs : List Char) : Option (List Nat) :=
  let parts := Domain.splitAt '.' cs
  if parts.length == 4 && parts.all isPlainByte then
    match parts.map fun p => (number? 10 p).getD 0 with
    | [a, b, c, d] => some [a * 256 + b, c * 256 + d]
    | _ => none
  else none

/-- Groups with colons between them; the last one may be an IPv4 address. -/
def ipv6Groups? : List (List Char) → Option (List Nat)
  | [] => some []
  | [cs] => if cs.contains '.' then ipv6Tail? cs else (ipv6Group? cs).map ([·])
  | cs :: rest => do
    let g ← ipv6Group? cs
    let gs ← ipv6Groups? rest
    return g :: gs

/-- The text before and behind the first two colons in a row. -/
def splitGap : List Char → Option (List Char × List Char)
  | [] => none
  | ':' :: ':' :: cs => some ([], cs)
  | c :: cs => (splitGap cs).map fun (a, b) => (c :: a, b)

/-- The groups of a text that may be empty. -/
def ipv6Side? (cs : List Char) : Option (List Nat) :=
  if cs.isEmpty then some [] else ipv6Groups? (Domain.splitAt ':' cs)

/-- The eight groups of an IPv6 address. -/
def ipv6? (cs : List Char) : Option (List Nat) :=
  match splitGap cs with
  | none => (ipv6Side? cs).bind fun gs => if gs.length == 8 then some gs else none
  | some (front, back) => do
    let a ← if front.contains '.' then none else ipv6Side? front
    let b ← ipv6Side? back
    if a.length + b.length ≤ 7 then
      return a ++ List.replicate (8 - a.length - b.length) 0 ++ b
    else none

/-! ## Any host -/

def numbersText (sep : Char) (ns : List Nat) : List Char :=
  (ns.map (Nat.toDigits 16)).intersperse [sep] |>.flatten

/-- Characters that no host may have. -/
def isForbidden (c : Char) : Bool :=
  ['\x00', '\t', '\n', '\r', ' ', '#', '/', ':', '<', '>', '?', '@', '[', '\\', ']', '^', '|'].contains c

/-- The address between brackets. -/
def bracketed (cs : List Char) : Except UriFault (List Char) :=
  if cs.getLast? == some ']' then
    match ipv6? (cs.drop 1).dropLast with
    | some gs => .ok ('[' :: numbersText ':' gs ++ [']'])
    | none => .error .invalidIpv6
  else .error .invalidIpv6

/-- The host of a special scheme: a domain in its spelling in ASCII, or an address. -/
def parse (cs : List Char) : Except UriFault (List Char) :=
  if cs.head? == some '[' then bracketed cs
  else
    match Domain.toAscii? (Text.decodeLossy (Percent.decode (Text.encode cs))) with
    | none => .error .invalidDomain
    | some [] => .error .emptyHost
    | some domain =>
      if endsInNumber domain then
        match ipv4? domain with
        | some ns => .ok (numbersText '.' ns)
        | none => .error .invalidIpv4
      else .ok domain

/-- The host of any other scheme. -/
def parseOpaque (cs : List Char) : Except UriFault (List Char) :=
  if cs.head? == some '[' then bracketed cs
  else if cs.any isForbidden then .error .invalidDomainCharacter
  else .ok (Percent.encodeText Percent.isControl cs)

end Host
end LintRelay
