import LintRelay.Text.Utf8

/-!
# Percent encoding

A byte that may not stand for itself is written as a percent sign with two hexadecimal digits in
upper case. Decoding replaces every such triple by its byte and leaves other percent signs alone.
-/

namespace LintRelay.Percent

/-- The upper-case hexadecimal digit of `n`. -/
def digit (n : Nat) : Char := (Nat.digitChar n).toUpper

/-- A byte as a percent triple. -/
def triple (b : UInt8) : List Char := ['%', digit (b.toNat / 16), digit (b.toNat % 16)]

/-- Bytes below the space and above the tilde. -/
def isControl (b : UInt8) : Bool := b < 0x20 || 0x7F ≤ b

/-- Whether a byte is one of these ASCII characters. -/
def isOneOf (cs : List Char) (b : UInt8) : Bool := cs.any fun c => c.toNat == b.toNat

def inFragment (b : UInt8) : Bool := isControl b || isOneOf [' ', '"', '<', '>', '\x60'] b

def inQuery (b : UInt8) : Bool := isControl b || isOneOf [' ', '"', '#', '<', '>'] b

/-- What is encoded in a query of a special scheme. -/
def inSpecialQuery (b : UInt8) : Bool := inQuery b || isOneOf ['\''] b

def inPath (b : UInt8) : Bool := inFragment b || isOneOf ['#', '?', '\x7b', '\x7d'] b

/-- What is encoded in a user name and a password. -/
def inUserInfo (b : UInt8) : Bool :=
  inPath b || isOneOf ['/', ':', ';', '=', '@', '[', '\\', ']', '^', '|'] b

/-- What is encoded in a segment that comes from a file's path. -/
def inFileSegment (b : UInt8) : Bool := inPath b || isOneOf ['/', '%', '\\'] b

/-- Bytes as text, those that `set` holds encoded. -/
def encode (set : UInt8 → Bool) (bs : Bytes) : List Char :=
  bs.flatMap fun b => if set b then triple b else [Char.ofNat b.toNat]

/-- Text with the bytes that `set` holds encoded. -/
def encodeText (set : UInt8 → Bool) (cs : List Char) : List Char := encode set (Text.encode cs)

def hexValue? (b : UInt8) : Option UInt8 :=
  if 0x30 ≤ b && b ≤ 0x39 then some (b - 0x30)
  else if 0x41 ≤ b && b ≤ 0x46 then some (b - 0x37)
  else if 0x61 ≤ b && b ≤ 0x66 then some (b - 0x57)
  else none

/-- The byte of two hexadecimal digits. -/
def pair? (a b : UInt8) : Option UInt8 := do
  let h ← hexValue? a
  let l ← hexValue? b
  return h * 16 + l

/-- Decodes the bytes behind `skip` bytes that are already decoded. -/
def decodeFrom : Nat → Bytes → Bytes
  | _, [] => []
  | skip + 1, _ :: bs => decodeFrom skip bs
  | 0, b :: bs =>
    match b == 0x25, bs with
    | true, x :: y :: _ =>
      match pair? x y with
      | some d => d :: decodeFrom 2 bs
      | none => b :: decodeFrom 0 bs
    | _, _ => b :: decodeFrom 0 bs

/-- Replaces percent triples by their bytes. -/
def decode (bs : Bytes) : Bytes := decodeFrom 0 bs

end LintRelay.Percent
