/-!
# Punycode

A label of any characters is spelled in ASCII by its ASCII characters, a hyphen, and the others as
numbers: each tells how far to step on through pairs of a code point and a place in the label. The
numbers have digits to the base 36 and end at a digit below a threshold, which follows the numbers
before it so that they stay short.
-/

namespace LintRelay.Domain.Punycode

/-- The digit of a value below 36. -/
def digit (d : Nat) : Char := Char.ofNat (if d < 26 then 0x61 + d else 0x30 + (d - 26))

def value? (c : Char) : Option Nat :=
  if 'a' ≤ c && c ≤ 'z' then some (c.toNat - 0x61)
  else if '0' ≤ c && c ≤ '9' then some (c.toNat - 0x30 + 26)
  else none

/-- The threshold of the digit at `place`, which counts in steps of 36. -/
def threshold (place bias : Nat) : Nat :=
  if place ≤ bias then 1 else if bias + 26 ≤ place then 26 else place - bias

/-- Divides by 35 until the value is at most 455, and counts the places. -/
def shrink (delta place : Nat) : Nat × Nat :=
  if 455 < delta then shrink (delta / 35) (place + 36) else (delta, place)
termination_by delta
decreasing_by exact Nat.div_lt_self (by omega) (by omega)

/-- The bias behind a number `delta`, when the label has `size` characters so far. -/
def adapt (delta size : Nat) (isFirst : Bool) : Nat :=
  let d := if isFirst then delta / 700 else delta / 2
  let (d, place) := shrink (d + d / size) 0
  place + 36 * d / (d + 38)

/-! ## Reading -/

/-- Reads a number: what it adds to `sum`, and what follows it. A number is longer than any label
needs when the weight of a digit leaves 32 bits. -/
def number? (bias : Nat) : List Char → Nat → Nat → Nat → Option (Nat × List Char)
  | [], _, _, _ => none
  | c :: rest, place, weight, sum => do
    let d ← value? c
    let t := threshold place bias
    if d < t then return (sum + d * weight, rest)
    if weight * (36 - t) < 0x100000000 then
      number? bias rest (place + 36) (weight * (36 - t)) (sum + d * weight)
    else none

/-- A number takes at least one digit. -/
theorem number?_length (bias : Nat) (cs : List Char) (place weight sum : Nat)
    (r : Nat × List Char) (h : number? bias cs place weight sum = some r) :
    r.2.length < cs.length := by
  induction cs generalizing place weight sum with
  | nil => simp [number?] at h
  | cons c rest ih =>
    simp only [number?, Option.bind_eq_bind, Option.bind_eq_some_iff] at h
    obtain ⟨d, _, h⟩ := h
    split at h
    · cases h
      exact Nat.lt_succ_self _
    · split at h
      · exact Nat.lt_succ_of_lt (ih _ _ _ h)
      · simp at h

/-- Whether a number is the code point of a character. -/
def isScalar (n : Nat) : Bool := n < 0xD800 || (0xDFFF < n && n < 0x110000)

/-- Puts the characters that the numbers stand for into `label`. The last one was `point`, and the
next place to look at is `start`. -/
def insertAll? (bias point start : Nat) (label : List Char) : List Char → Option (List Char)
  | [] => some label
  | c :: rest =>
    match _h : number? bias (c :: rest) 36 1 start with
    | none => none
    | some (sum, behind) =>
      let size := label.length + 1
      let next := point + sum / size
      if isScalar next then
        insertAll? (adapt (sum - start) size (start == 0)) next (sum % size + 1)
          (label.insertIdx (sum % size) (Char.ofNat next)) behind
      else none
termination_by cs => cs.length
decreasing_by exact number?_length _ _ _ _ _ (sum, behind) (by assumption)

/-- The ASCII characters in front of the last hyphen and the digits behind it. A hyphen in front of
everything counts as a digit, and is none. -/
def splitLabel (cs : List Char) : List Char × List Char :=
  match cs.reverse.span (· != '-') with
  | (digits, _ :: (c :: before)) => ((c :: before).reverse, digits.reverse)
  | _ => ([], cs)

/-- The label that a text spells. -/
def decode? (cs : List Char) : Option (List Char) :=
  let (plain, digits) := splitLabel cs
  insertAll? 72 0x80 0 plain digits

/-! ## Writing -/

def digits (bias place n : Nat) : List Char :=
  let t := threshold place bias
  if n < t then [digit n]
  else digit (t + (n - t) % (36 - t)) :: digits bias (place + 36) ((n - t) / (36 - t))
termination_by n
decreasing_by
  have ht : 1 ≤ threshold place bias := by unfold threshold; split <;> (try split) <;> omega
  exact Nat.lt_of_le_of_lt (Nat.div_le_self _ _) (by omega)

/-- What is known while the numbers are written. -/
structure Writer where
  written : List Char
  delta : Nat
  bias : Nat
  size : Nat

/-- Passes a character of the label while the places of `point` are written. -/
def Writer.pass (plainSize point : Nat) (w : Writer) (c : Char) : Writer :=
  if c.toNat < point then { w with delta := w.delta + 1 }
  else if c.toNat == point then
    { written := w.written ++ digits w.bias 36 w.delta
      delta := 0
      bias := adapt w.delta (w.size + 1) (w.size == plainSize)
      size := w.size + 1 }
  else w

/-- Writes the places of the code points, which increase; those below `next` are done. -/
def Writer.writeAll (cs : List Char) (plainSize next : Nat) (w : Writer) : List Nat → Writer
  | [] => w
  | point :: points =>
    let start := { w with delta := w.delta + (point - next) * (w.size + 1) }
    let behind := cs.foldl (Writer.pass plainSize point) start
    Writer.writeAll cs plainSize (point + 1) { behind with delta := behind.delta + 1 } points

/-- The text that spells a label. -/
def encode (cs : List Char) : List Char :=
  let plain := cs.filter (·.toNat < 0x80)
  let points := ((cs.map Char.toNat).filter (0x80 ≤ ·)).mergeSort.eraseDups
  let w := Writer.writeAll cs plain.length 0x80 ⟨[], 0, 72, plain.length⟩ points
  plain ++ (if plain.isEmpty then [] else ['-']) ++ w.written

end LintRelay.Domain.Punycode
