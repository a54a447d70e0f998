import LintRelay.Shell.Tool.Basic

/-!
# Digests

The tools that condense a text to a number: the sums MD5, SHA-1 and SHA-256, and the cyclic
redundancy check of POSIX.

The three sums work alike. The text is filled up to blocks of 64 octets, of which the last ends with
the length of the text in bits, and a block changes a state of words of 32 bits step by step.
-/

namespace LintRelay.Shell
namespace Digest

/-- A text filled up to blocks of 64 octets. -/
def filled (littleEndian : Bool) (bs : Bytes) : Bytes :=
  let zeros := (119 - bs.length % 64) % 64
  let bits := 8 * bs.length
  let size := (List.range 8).map fun i => UInt8.ofNat (bits / Nat.pow 256 i)
  bs ++ 0x80 :: List.replicate zeros 0 ++ if littleEndian then size else size.reverse

/-- The parts of `n` members each. -/
def parts (n : Nat) : Nat → List α → List (List α)
  | 0, _ => []
  | _, [] => []
  | fuel + 1, xs => xs.take n :: parts n fuel (xs.drop n)

/-- The word that four octets make. -/
def word (littleEndian : Bool) (bs : Bytes) : UInt32 :=
  (if littleEndian then bs.reverse else bs).foldl (fun w b => w * 256 + b.toUInt32) 0

/-- The words of a text, block by block. -/
def blocks (littleEndian : Bool) (bs : Bytes) : List (Array UInt32) :=
  let all := filled littleEndian bs
  (parts 64 (all.length + 1) all).map fun block =>
    ((parts 4 65 block).map (word littleEndian)).toArray

/-- A word turned to the left. -/
def turned (w : UInt32) (n : UInt32) : UInt32 := (w <<< n) ||| (w >>> (32 - n))

def hexWord (littleEndian : Bool) (w : UInt32) : Octets :=
  let octets := (List.range 4).map fun i => w.toNat / Nat.pow 256 i % 256
  (if littleEndian then octets else octets.reverse).flatMap fun n =>
    padLeft 2 '0' (Nat.toDigits 16 n)

/-- The whole part of `2^32` times the fraction of the `k`-th root of a number, by Newton's method on
whole numbers. -/
def rootFraction (k n : Nat) : UInt32 :=
  let target := n * Nat.pow 2 (32 * k)
  let step (x : Nat) : Nat := ((k - 1) * x + target / Nat.pow x (k - 1)) / k
  let start := Nat.pow 2 40
  let root := (List.range 80).foldl (fun x _ => let y := step x; if y < x then y else x) start
  UInt32.ofNat root

def primes (n : Nat) : List Nat :=
  ((List.range 320).filter fun p => p ≥ 2 && (List.range p).all fun d => d < 2 || p % d != 0).take n

/-! ## MD5 -/

/-- The constants of the steps. -/
def md5Table : Array UInt32 := #[
  0xd76aa478, 0xe8c7b756, 0x242070db, 0xc1bdceee, 0xf57c0faf, 0x4787c62a, 0xa8304613, 0xfd469501,
  0x698098d8, 0x8b44f7af, 0xffff5bb1, 0x895cd7be, 0x6b901122, 0xfd987193, 0xa679438e, 0x49b40821,
  0xf61e2562, 0xc040b340, 0x265e5a51, 0xe9b6c7aa, 0xd62f105d, 0x02441453, 0xd8a1e681, 0xe7d3fbc8,
  0x21e1cde6, 0xc33707d6, 0xf4d50d87, 0x455a14ed, 0xa9e3e905, 0xfcefa3f8, 0x676f02d9, 0x8d2a4c8a,
  0xfffa3942, 0x8771f681, 0x6d9d6122, 0xfde5380c, 0xa4beea44, 0x4bdecfa9, 0xf6bb4b60, 0xbebfbc70,
  0x289b7ec6, 0xeaa127fa, 0xd4ef3085, 0x04881d05, 0xd9d4d039, 0xe6db99e5, 0x1fa27cf8, 0xc4ac5665,
  0xf4292244, 0x432aff97, 0xab9423a7, 0xfc93a039, 0x655b59c3, 0x8f0ccc92, 0xffeff47d, 0x85845dd1,
  0x6fa87e4f, 0xfe2ce6e0, 0xa3014314, 0x4e0811a1, 0xf7537e82, 0xbd3af235, 0x2ad7d2bb, 0xeb86d391]

/-- How far the steps turn. -/
def md5Turns : Array UInt32 := #[7, 12, 17, 22, 5, 9, 14, 20, 4, 11, 16, 23, 6, 10, 15, 21]

/-- What a block makes of the state. -/
def md5Block (state : UInt32 × UInt32 × UInt32 × UInt32) (block : Array UInt32) :
    UInt32 × UInt32 × UInt32 × UInt32 :=
  let (a0, b0, c0, d0) := state
  let step (s : UInt32 × UInt32 × UInt32 × UInt32) (i : Nat) :
      UInt32 × UInt32 × UInt32 × UInt32 :=
    let (a, b, c, d) := s
    let (f, g) : UInt32 × Nat :=
      if i < 16 then ((b &&& c) ||| (~~~b &&& d), i)
      else if i < 32 then ((d &&& b) ||| (~~~d &&& c), (5 * i + 1) % 16)
      else if i < 48 then (b ^^^ c ^^^ d, (3 * i + 5) % 16)
      else (c ^^^ (b ||| ~~~d), (7 * i) % 16)
    let sum := a + f + md5Table.getD i 0 + block.getD g 0
    (d, b + turned sum (md5Turns.getD (i / 16 * 4 + i % 4) 0), b, c)
  let (a, b, c, d) := (List.range 64).foldl step state
  (a0 + a, b0 + b, c0 + c, d0 + d)

/-- The sum MD5 of a text. -/
def md5 (bs : Bytes) : Octets :=
  let (a, b, c, d) := (blocks true bs).foldl md5Block (0x67452301, 0xefcdab89, 0x98badcfe, 0x10325476)
  [a, b, c, d].flatMap (hexWord true)

/-! ## SHA-1 -/

/-- Words with further ones behind them, each made from those before. -/
def extended (next : Array UInt32 → Nat → UInt32) (n : Nat) (block : Array UInt32) : Array UInt32 :=
  (List.range n).foldl (fun ws i => if i < 16 then ws else ws.push (next ws i)) block

/-- What a block makes of the state. -/
def sha1Block (state : List UInt32) (block : Array UInt32) : List UInt32 :=
  let at' (ws : Array UInt32) (i : Nat) : UInt32 := ws.getD i 0
  let ws := extended (fun ws i =>
    turned (at' ws (i - 3) ^^^ at' ws (i - 8) ^^^ at' ws (i - 14) ^^^ at' ws (i - 16)) 1) 80 block
  let step (s : List UInt32) (i : Nat) : List UInt32 :=
    match s with
    | [a, b, c, d, e] =>
      let (f, k) : UInt32 × UInt32 :=
        if i < 20 then ((b &&& c) ||| (~~~b &&& d), 0x5a827999)
        else if i < 40 then (b ^^^ c ^^^ d, 0x6ed9eba1)
        else if i < 60 then ((b &&& c) ||| (b &&& d) ||| (c &&& d), 0x8f1bbcdc)
        else (b ^^^ c ^^^ d, 0xca62c1d6)
      [turned a 5 + f + e + k + at' ws i, a, turned b 30, c, d]
    | s => s
  List.zipWith (· + ·) state ((List.range 80).foldl step state)

/-- The sum SHA-1 of a text. -/
def sha1 (bs : Bytes) : Octets :=
  ((blocks false bs).foldl sha1Block
    [0x67452301, 0xefcdab89, 0x98badcfe, 0x10325476, 0xc3d2e1f0]).flatMap (hexWord false)

/-! ## SHA-256 -/

def turnedRight (w : UInt32) (n : UInt32) : UInt32 := turned w (32 - n)

/-- What a block makes of the state, given the constants of the steps. -/
def sha256Block (table : Array UInt32) (state : List UInt32) (block : Array UInt32) : List UInt32 :=
  let at' (ws : Array UInt32) (i : Nat) : UInt32 := ws.getD i 0
  let ws := extended (fun ws i =>
    let a := at' ws (i - 15)
    let b := at' ws (i - 2)
    at' ws (i - 16) + (turnedRight a 7 ^^^ turnedRight a 18 ^^^ (a >>> 3)) + at' ws (i - 7) +
      (turnedRight b 17 ^^^ turnedRight b 19 ^^^ (b >>> 10))) 64 block
  let step (s : List UInt32) (i : Nat) : List UInt32 :=
    match s with
    | [a, b, c, d, e, f, g, h] =>
      let t := h + (turnedRight e 6 ^^^ turnedRight e 11 ^^^ turnedRight e 25) +
        ((e &&& f) ^^^ (~~~e &&& g)) + at' table i + at' ws i
      let u := (turnedRight a 2 ^^^ turnedRight a 13 ^^^ turnedRight a 22) +
        ((a &&& b) ^^^ (a &&& c) ^^^ (b &&& c))
      [t + u, a, b, c, d + t, e, f, g]
    | s => s
  List.zipWith (· + ·) state ((List.range 64).foldl step state)

/-- The sum SHA-256 of a text. -/
def sha256 (bs : Bytes) : Octets :=
  let table := ((primes 64).map (rootFraction 3)).toArray
  let start := (primes 8).map (rootFraction 2)
  ((blocks false bs).foldl (sha256Block table) start).flatMap (hexWord false)

/-! ## The redundancy check -/

/-- What an octet makes of the check. -/
def checkStep (crc : UInt32) (b : UInt8) : UInt32 :=
  (List.range 8).foldl (fun (crc : UInt32) _ =>
    if crc >>> 31 == 1 then (crc <<< 1) ^^^ 0x04c11db7 else crc <<< 1)
    (crc ^^^ (b.toUInt32 <<< 24))

/-- The octets of a length, the lowest first. -/
def lengthOctets : Nat → Nat → Bytes
  | 0, _ => []
  | fuel + 1, n => if n == 0 then [] else UInt8.ofNat (n % 256) :: lengthOctets fuel (n / 256)

def check (bs : Bytes) : Nat :=
  (~~~((bs ++ lengthOctets 16 bs.length).foldl checkStep 0)).toNat

end Digest

namespace Task

/-- Shows a sum for each text. -/
def digest (sum : Bytes → Octets) (t : Task) : Work :=
  t.called (letters "bt" ++ [⟨'c', "check", false⟩, ⟨'z', "zero", false⟩]) 1 fun call =>
    let names := namesOf call.operands
    if call.has 'c' then
      let text := names.flatMap fun name => ((t.content name).toOption).getD []
      let results := (bareLinesOf text).map fun l =>
        let given := l.takeWhile (· != ' ')
        let name := l.drop (given.length + 2)
        (name, ((t.content name).toOption.map fun cs => sum (bytesOfOctets cs)) == some given)
      let w := t.doneLines (results.map fun (name, ok) =>
        name ++ (if ok then ": OK" else ": FAILED").toList)
      w.withStatus (if results.all (·.2) then 0 else 1)
    else
      t.through names unreadable 1 fun w _ name cs =>
        w.say 1 (sum (bytesOfOctets cs) ++ "  ".toList ++ name ++ ['\n'])

/-- Shows the redundancy check and the size of each text. -/
def redundancyCheck (t : Task) : Work :=
  t.called [] 1 fun call =>
    t.through (namesOf call.operands) unreadable 1 fun w _ name cs =>
      let label := if call.operands.isEmpty then [] else ' ' :: name
      w.say 1 (digitsOf (Digest.check (bytesOfOctets cs)) ++ ' ' :: digitsOf cs.length ++ label ++
        ['\n'])

end Task
end LintRelay.Shell
