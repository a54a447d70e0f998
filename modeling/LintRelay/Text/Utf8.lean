/-!
# Text as bytes

Paths, files and the output of processes are byte sequences; text is spelled in them in UTF-8.
Reading is either strict (`decode?`, which refuses malformed input) or lossy (`decodeLossy`, which
shows each maximal malformed sequence as U+FFFD). Both walk the bytes with `lead`, which says what
stands at the front: a character with the number of bytes that spell it, or a malformed prefix.
-/

namespace LintRelay

/-- A byte sequence. -/
abbrev Bytes := List UInt8

namespace Text

/-- The UTF-8 spelling of a text. -/
def encode (cs : List Char) : Bytes := cs.flatMap String.utf8EncodeChar

/-- What stands at the front of a byte sequence. -/
inductive Lead where
  /-- A character spelled by `size` bytes. -/
  | scalar (c : Char) (size : Nat)
  | malformed (size : Nat)
  deriving Repr, DecidableEq

/-- Reads `n` further tail bytes of a character whose value so far is `value` and that took `size`
bytes so far. -/
def tails : Nat → Nat → Nat → Bytes → Lead
  | 0, value, size, _ => .scalar (Char.ofNat value) size
  | _ + 1, _, size, [] => .malformed size
  | n + 1, value, size, b :: bs =>
    if 0x80 ≤ b && b ≤ 0xBF then tails n (value * 64 + (b.toNat - 0x80)) (size + 1) bs
    else .malformed size

/-- The number of tail bytes that a first byte asks for, the bits it contributes, and the range in
which the first tail byte has to lie. -/
def leadShape (b : UInt8) : Option (Nat × Nat × UInt8 × UInt8) :=
  if 0xC2 ≤ b && b ≤ 0xDF then some (1, b.toNat - 0xC0, 0x80, 0xBF)
  else if b == 0xE0 then some (2, 0, 0xA0, 0xBF)
  else if b == 0xED then some (2, 13, 0x80, 0x9F)
  else if 0xE1 ≤ b && b ≤ 0xEF then some (2, b.toNat - 0xE0, 0x80, 0xBF)
  else if b == 0xF0 then some (3, 0, 0x90, 0xBF)
  else if 0xF1 ≤ b && b ≤ 0xF3 then some (3, b.toNat - 0xF0, 0x80, 0xBF)
  else if b == 0xF4 then some (3, 4, 0x80, 0x8F)
  else none

/-- What stands at the front of `b :: bs`. -/
def lead (b : UInt8) (bs : Bytes) : Lead :=
  if b < 0x80 then .scalar (Char.ofNat b.toNat) 1
  else
    match leadShape b, bs with
    | none, _ => .malformed 1
    | some _, [] => .malformed 1
    | some (n, value, low, high), t :: ts =>
      if low ≤ t && t ≤ high then tails (n - 1) (value * 64 + (t.toNat - 0x80)) 2 ts
      else .malformed 1

/-- Lossy reading of the bytes that follow `skip` bytes which were already accounted for. -/
def decodeLossyFrom : Nat → Bytes → List Char
  | _, [] => []
  | skip + 1, _ :: bs => decodeLossyFrom skip bs
  | 0, b :: bs =>
    match lead b bs with
    | .scalar c size => c :: decodeLossyFrom (size - 1) bs
    | .malformed size => '\uFFFD' :: decodeLossyFrom (size - 1) bs

/-- Reads bytes as text, with U+FFFD for each maximal malformed sequence. -/
def decodeLossy (bs : Bytes) : List Char := decodeLossyFrom 0 bs

/-- Strict reading of the bytes that follow `skip` bytes which were already accounted for. -/
def decodeFrom? : Nat → Bytes → Option (List Char)
  | _, [] => some []
  | skip + 1, _ :: bs => decodeFrom? skip bs
  | 0, b :: bs =>
    match lead b bs with
    | .scalar c size => (decodeFrom? (size - 1) bs).map (c :: ·)
    | .malformed _ => none

/-- Reads bytes as text, refusing malformed sequences. -/
def decode? (bs : Bytes) : Option (List Char) := decodeFrom? 0 bs

def bytesOf (s : String) : Bytes := encode s.toList

/-- Lossy reading into a string. -/
def lossy (bs : Bytes) : String := String.ofList (decodeLossy bs)

end Text
end LintRelay
