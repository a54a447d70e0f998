import LintRelay.Shell.Format
import LintRelay.Shell.Tool.Basic

/-!
# Translating octets

The tools that treat a text octet by octet: replacing and removing characters, showing octets as
numbers, and putting them into letters and back.
-/

namespace LintRelay.Shell
namespace Task

/-! ## Replacing characters -/

/-- What a set of characters is spelled with. -/
inductive SetPart where
  | one (c : Char)
  | range (first last : Char)
  | class (name : String)
  /-- A character again and again; with zero as often as it fits. -/
  | repeated (c : Char) (times : Nat)

/-- The parts of a set, behind `skip` characters that were already read. -/
def setParts : Nat → Octets → Except Octets (List SetPart)
  | _, [] => .ok []
  | skip + 1, _ :: cs => setParts skip cs
  | 0, c :: cs =>
    let (a, taken) := if c == '\\' && !cs.isEmpty then escaped cs else (c, 0)
    match c, cs, cs.drop taken with
    | '[', ':' :: rest, _ => do
      let name := rest.takeWhile (· != ':')
      if (rest.drop name.length).take 2 == [':', ']'] then
        if (characterClass? (String.ofList name)).isNone then
          throw ("invalid character class ".toList ++ quoted name)
        return .class (String.ofList name) :: (← setParts (name.length + 3) cs)
      else return .one a :: (← setParts 0 cs)
    | '[', d :: '*' :: rest, _ => do
      let digits := rest.takeWhile Char.isDigit
      if (rest.drop digits.length).head? == some ']' then
        return .repeated d ((numberIn? 10 digits).getD 0).toNat ::
          (← setParts (digits.length + 3) cs)
      else return .one a :: (← setParts 0 cs)
    | _, _, '-' :: b :: more => do
      let (b, size) := if b == '\\' && !more.isEmpty then escaped more else (b, 0)
      if b < a then
        throw ("range-endpoints of ".toList ++ quoted [a, '-', b] ++
          " are in reverse collating sequence order".toList)
      return .range a b :: (← setParts (taken + 2 + size) cs)
    | _, _, _ => return .one a :: (← setParts taken cs)
where
  /-- The character that follows a backslash, and how many characters that takes. -/
  escaped (cs : Octets) : Char × Nat :=
    match escape cs with
    | ('\\', 0) => (cs.headD '\\', 1)
    | r => r

/-- The characters of a part. Those that are repeated fill a set up to `size`. -/
def SetPart.octets (size : Nat) : SetPart → Octets
  | .one c => [c]
  | .range a b => octetsBetween a b
  | .class name => (octetsBetween '\x00' '\x7f').filter ((characterClass? name).getD fun _ => false)
  | .repeated c times => List.replicate (if times == 0 then size else times) c

def setOctets (size : Nat) (ps : List SetPart) : Octets := ps.flatMap (·.octets size)

/-- Drops each character of a set that follows itself. -/
def squeeze (set : Octets) : Octets → Octets
  | [] => []
  | c :: cs =>
    match squeeze set cs with
    | d :: rest => if c == d && set.contains c then d :: rest else c :: d :: rest
    | [] => [c]

/-- Replaces characters or takes them out. -/
def translate (t : Task) : Work :=
  let known : List Switch := [⟨'c', "complement", false⟩, ⟨'C', "", false⟩, ⟨'d', "delete", false⟩,
    ⟨'s', "squeeze-repeats", false⟩, ⟨'t', "truncate-set1", false⟩]
  match readCall known false none t.arguments with
  | .error e => t.misused e 1
  | .ok call =>
    let deletes := call.has 'd'
    let squeezes := call.has 's'
    let wanted := if deletes == squeezes then 2 else 1
    match call.operands with
    | [] => t.misused "missing operand".toList 1
    | [a] =>
      if wanted == 2 && deletes then
        misusedFor t a "Two strings must be given when both deleting and squeezing repeats."
      else if wanted == 2 && !squeezes then
        misusedFor t a "Two strings must be given when translating."
      else translated t call deletes squeezes a none
    | [a, b] =>
      if deletes && !squeezes then
        (t.failed ("extra operand ".toList ++ quoted b) 1).say 2
          ("Only one string may be given when deleting without squeezing repeats.\nTry '".toList ++
            t.program ++ " --help' for more information.\n".toList)
      else translated t call deletes squeezes a (some b)
    | _ :: _ :: c :: _ => t.misused ("extra operand ".toList ++ quoted c) 1
where
  /-- Refuses a call with too few sets. -/
  misusedFor (t : Task) (a : Octets) (why : String) : Work :=
    (t.failed ("missing operand after ".toList ++ quoted a) 1).say 2
      ((why ++ "\nTry '").toList ++ t.program ++ " --help' for more information.\n".toList)
  /-- Works on the input with the given sets. -/
  translated (t : Task) (call : Call) (deletes squeezes : Bool) (a : Octets) (b : Option Octets) :
      Work :=
    match setParts 0 a, b.mapM (setParts 0) with
    | .error e, _ | _, .error e => t.failed e 1
    | .ok first, .ok second =>
      let first := setOctets 0 first
      let complement := call.has 'c' || call.has 'C'
      let first :=
        if complement then (octetsBetween '\x00' '\xff').filter fun c => !first.contains c
        else first
      let second := second.map (setOctets first.length)
      let first :=
        if call.has 't' && !deletes then first.take ((second.getD []).length) else first
      let isFirst := (octetsBetween '\x00' '\xff').map fun c => (first.reverse.idxOf? c).map fun n =>
        first.length - 1 - n
      let replaced (set : Octets) (c : Char) : Char :=
        match isFirst.getD c.toNat none with
        | some n => set.getD n (set.getLastD c)
        | none => c
      let drop (cs : Octets) : Octets := cs.filter fun c => (isFirst.getD c.toNat none).isNone
      let run (cs : Octets) : Octets :=
        match deletes, squeezes, second with
        | true, true, some set => squeeze set (drop cs)
        | true, _, _ => drop cs
        | false, true, none => squeeze first cs
        | false, true, some set => squeeze set (cs.map (replaced set))
        | false, false, set => cs.map (replaced (set.getD []))
      t.filtered [] run

/-! ## Octets as numbers -/

/-- A format in which octets are shown: how many make a number, and how one is put. -/
structure DumpFormat where
  size : Nat
  put : Nat → Octets

def dumpedCharacter (n : Nat) : Octets :=
  match n with
  | 0 => "\\0".toList
  | 7 => "\\a".toList
  | 8 => "\\b".toList
  | 9 => "\\t".toList
  | 10 => "\\n".toList
  | 11 => "\\v".toList
  | 12 => "\\f".toList
  | 13 => "\\r".toList
  | _ => if 32 ≤ n && n < 127 then [Char.ofNat n] else padLeft 3 '0' (Nat.toDigits 8 n)

/-- How a control character is named in a dump. -/
def dumpedName (n : Nat) : Octets :=
  let names := ["nul", "soh", "stx", "etx", "eot", "enq", "ack", "bel", "bs", "ht", "nl", "vt", "ff",
    "cr", "so", "si", "dle", "dc1", "dc2", "dc3", "dc4", "nak", "syn", "etb", "can", "em", "sub",
    "esc", "fs", "gs", "rs", "us", "sp"]
  let n := n % 128
  match names[n]? with
  | some name => name.toList
  | none => if n == 127 then "del".toList else [Char.ofNat n]

/-- The format that a type such as `x1` names. -/
def dumpFormat? (name : Octets) : Option DumpFormat :=
  match name with
  | ['c'] => some ⟨1, fun n => padLeft 4 ' ' (dumpedCharacter n)⟩
  | ['a'] => some ⟨1, fun n => padLeft 4 ' ' (dumpedName n)⟩
  | kind :: size =>
    let size := match size with
      | ['C'] => some 1
      | ['S'] => some 2
      | [] | ['I'] => some 4
      | ['L'] => some 8
      | ds => decimal? ds
    size.bind fun size =>
      let greatest := Nat.pow 2 (8 * size)
      let width (base : Nat) : Nat := (Nat.toDigits base (greatest - 1)).length
      let plain (base : Nat) (n : Nat) : Octets :=
        ' ' :: padLeft (width base) '0' (Nat.toDigits base n)
      let signed (n : Nat) : Int := if 2 * n ≥ greatest then n - greatest else n
      match kind with
      | 'x' => some ⟨size, plain 16⟩
      | 'o' => some ⟨size, plain 8⟩
      | 'u' => some ⟨size, fun n => padLeft (width 10 + 1) ' ' (digitsOf n)⟩
      | 'd' => some ⟨size, fun n =>
        padLeft ((digitsOf (greatest / 2)).length + 2) ' ' (integerText (signed n))⟩
      | _ => none
  | [] => none

/-- The number that octets make, the lowest first. -/
def littleEndian (cs : Octets) : Nat := cs.foldr (fun c n => c.toNat + 256 * n) 0

/-- The parts of `n` members each. -/
def rows (n : Nat) : Nat → List α → List (List α)
  | 0, _ => []
  | _, [] => []
  | fuel + 1, xs => xs.take n :: rows n fuel (xs.drop n)

/-- Shows octets as numbers, a row on a line. Of rows that are equal only the first is shown. -/
def dump (t : Task) : Work :=
  let known := letters "vbcdox" ++ [⟨'A', "address-radix", true⟩, ⟨'t', "format", true⟩,
    ⟨'N', "read-bytes", true⟩, ⟨'j', "skip-bytes", true⟩, ⟨'w', "width", true⟩]
  t.called known 1 fun call =>
    let named := call.options.filterMap fun (letter, value) =>
      match letter with
      | 't' => some value
      | 'b' => some "o1".toList
      | 'c' => some ['c']
      | 'd' => some "u2".toList
      | 'o' => some "o2".toList
      | 'x' => some "x2".toList
      | _ => none
    let formats := (if named.isEmpty then ["o2".toList] else named).filterMap dumpFormat?
    let width := ((call.value? 'w').bind decimal?).getD 16
    let base := match (call.value? 'A').bind List.head? with
      | some 'd' => 10
      | some 'x' => 16
      | some 'n' => 0
      | _ => 8
    let skipped := ((call.value? 'j').bind decimal?).getD 0
    let offset (n : Nat) : Octets :=
      if base == 0 then []
      else padLeft (if base == 16 then 6 else 7) '0' (Nat.toDigits base n)
    t.filtered call.operands fun cs =>
      let cs := cs.drop skipped
      let cs := ((call.value? 'N').bind decimal?).elim cs cs.take
      let line (row : Octets) (n : Nat) : Octets :=
        (formats.zipIdx.flatMap fun (f, i) =>
          let lead := if i == 0 then offset n else List.replicate (offset n).length ' '
          lead ++ (rows f.size row.length row).flatMap (fun part => f.put (littleEndian part)) ++
            ['\n'])
      let all := (rows width cs.length cs).zipIdx
      let shown := all.foldl (fun (out, last, starred) (row, i) =>
        if some row == last && row.length == width && !call.has 'v' then
          (if starred then out else out ++ "*\n".toList, last, true)
        else (out ++ line row (skipped + width * i), some row, false))
        (([] : Octets), (none : Option Octets), false)
      shown.1 ++ if base == 0 then [] else offset (skipped + cs.length) ++ ['\n']

/-! ## Octets as letters -/

/-- The letters that stand for the numbers below 64. -/
def baseLetters : Octets :=
  octetsBetween 'A' 'Z' ++ octetsBetween 'a' 'z' ++ octetsBetween '0' '9' ++ ['+', '/']

/-- The letters of up to three octets. -/
def baseGroup (cs : Octets) : Octets :=
  let n := (padRight 3 '\x00' cs).foldl (fun n c => 256 * n + c.toNat) 0
  let letter (i : Nat) : Char := baseLetters.getD (n / Nat.pow 64 (3 - i) % 64) '='
  padRight 4 '=' ((List.range (cs.length + 1)).map letter)

/-- The octets of up to four letters. -/
def baseOctets (cs : Octets) : Octets :=
  let values := (cs.filter (· != '=')).map baseLetters.idxOf
  let n := (padRight 4 0 values).foldl (fun n v => 64 * n + v) 0
  (List.range (values.length - 1)).map fun i => Char.ofNat (n / Nat.pow 256 (2 - i) % 256)
where
  /-- Values filled up to a length. -/
  padRight (n : Nat) (v : Nat) (vs : List Nat) : List Nat := vs ++ List.replicate (n - vs.length) v

/-- Puts octets into letters, or back. -/
def baseSixtyFour (t : Task) : Work :=
  t.called (letters "i" ++ [⟨'d', "decode", false⟩, ⟨'w', "wrap", true⟩]) 1 fun call =>
    let width := ((call.value? 'w').bind decimal?).getD 76
    if call.has 'd' then
      let (bad, good) := match t.content ((namesOf call.operands).headD []) with
        | .ok cs =>
          let cs := cs.filter (· != '\n')
          (cs.any fun c => !(baseLetters.contains c || c == '='), cs)
        | .error _ => (false, [])
      let good := good.takeWhile fun c => baseLetters.contains c || c == '='
      let w := t.filtered call.operands fun _ => (rows 4 good.length good).flatMap baseOctets
      if bad || good.length % 4 != 0 then t.complain w "invalid input".toList 1 else w
    else
      t.filtered call.operands fun cs =>
        let all := (rows 3 cs.length cs).flatMap baseGroup
        if width == 0 then all else textOfLines (rows width all.length all)

end Task
end LintRelay.Shell
