import LintRelay.Shell.Real
import LintRelay.Shell.Tool.Basic

/-!
# Ordering and comparing lines

The tools that sort lines, leave out repeated ones and compare texts line by line.
-/

namespace LintRelay.Shell
namespace Task

/-! ## Sorting -/

/-- A place in a line: a field and a character in it, both counted from one. Character zero is the
end of the field. -/
structure KeyPlace where
  field : Nat
  character : Nat

structure SortKey where
  first : KeyPlace
  last : Option KeyPlace
  options : Octets

/-- A place of a key at the front of a text, with the letters and the rest behind it. -/
def keyPlace? (character : Nat) (cs : Octets) : Option (KeyPlace × Octets × Octets) :=
  let field := cs.takeWhile Char.isDigit
  let behind := cs.drop field.length
  let inside := if behind.head? == some '.' then (behind.drop 1).takeWhile Char.isDigit else []
  let behind := if behind.head? == some '.' then behind.drop (inside.length + 1) else behind
  let letters := behind.takeWhile Char.isAlpha
  (decimal? field).map fun n =>
    (⟨n, (decimal? inside).getD character⟩, letters, behind.drop letters.length)

/-- The key that an option spells. -/
def sortKey? (cs : Octets) : Option SortKey :=
  match keyPlace? 1 cs with
  | some (first, letters, []) => some ⟨first, none, letters⟩
  | some (first, letters, ',' :: rest) =>
    match keyPlace? 0 rest with
    | some (last, more, []) => some ⟨first, some last, letters ++ more⟩
    | _ => none
  | _ => none

/-- Where the field of a number begins in a line, and where it ends. Without a divider a field
begins with the blanks in front of it. -/
def fieldBounds (divider : Option Char) (l : Octets) : Nat → Nat × Nat
  | 0 => (0, 0)
  | n + 1 =>
    match divider with
    | some c =>
      let before := (splitAtChar c l).take n
      let start := before.foldl (fun k part => k + part.length + 1) 0
      (min start l.length,
        min l.length (start + ((splitAtChar c l).getD n []).length))
    | none => go l 0 n
where
  /-- Passes `n` fields, from the place `k`. -/
  go (l : Octets) (k : Nat) : Nat → Nat × Nat
    | 0 => (k, k + fieldSize (l.drop k))
    | n + 1 => go l (k + fieldSize (l.drop k)) n
  /-- The length of the field at the front, with its blanks. -/
  fieldSize (cs : Octets) : Nat :=
    let blanks := cs.takeWhile fun c => c == ' ' || c == '\t'
    blanks.length + ((cs.drop blanks.length).takeWhile fun c => c != ' ' && c != '\t').length

def keyText (divider : Option Char) (k : SortKey) (l : Octets) : Octets :=
  let blanks (from' : Nat) : Nat :=
    if k.options.contains 'b' then
      ((l.drop from').takeWhile fun c => c == ' ' || c == '\t').length
    else 0
  let start := (fieldBounds divider l k.first.field).1
  let start := start + blanks start + (k.first.character - 1)
  match k.last with
  | none => l.drop start
  | some last =>
    let (a, b) := fieldBounds divider l last.field
    let stop := if last.character == 0 then b else min l.length (a + blanks a + last.character)
    (l.take stop).drop start

/-- The value of the number at the front of a text, as a fraction. -/
def leadingNumber (cs : Octets) : Int × Nat :=
  match Real.atFront? ((cs.dropWhile isGap).takeWhile fun c => c.isDigit || c == '-' || c == '.') with
  | some (.finite negative num den, _) => (if negative then -num else num, den)
  | _ => (0, 1)

/-- The value of a number with a suffix for its size. -/
def humanNumber (cs : Octets) : Int × Int × Nat :=
  let cs := cs.dropWhile isGap
  let n := leadingNumber cs
  let behind := cs.dropWhile fun c => c.isDigit || c == '-' || c == '.'
  let rank : Nat := match behind.head? with
    | some 'K' | some 'k' => 1
    | some 'M' => 2
    | some 'G' => 3
    | some 'T' => 4
    | _ => 0
  (if n.1 < 0 then -(rank : Int) else if n.1 == 0 then 0 else rank, n.1, n.2)

def compareFractions (a b : Int × Nat) : Ordering := compare (a.1 * b.2) (b.1 * a.2)

def compareTexts (a b : Octets) : Ordering := if a < b then .lt else if b < a then .gt else .eq

/-- A text as the parts of digits and of other characters in it. -/
def versionParts (cs : Octets) : List (Octets × Nat) :=
  go (cs.length + 1) cs
where
  /-- Takes up to `fuel` parts. -/
  go : Nat → Octets → List (Octets × Nat)
    | 0, _ => []
    | fuel + 1, cs =>
      if cs.isEmpty then []
      else
        let text := cs.takeWhile fun c => !c.isDigit
        let digits := (cs.drop text.length).takeWhile Char.isDigit
        (text, (decimal? digits).getD 0) :: go fuel (cs.drop (text.length + digits.length))

/-- How the parts of two texts compare. -/
def compareParts : List (Octets × Nat) → List (Octets × Nat) → Ordering
  | [], [] => .eq
  | [], _ => .lt
  | _, [] => .gt
  | a :: as, b :: bs =>
    ((compareTexts a.1 b.1).then (compare a.2 b.2)).then (compareParts as bs)

/-- The place of a month in the year, from the letters at the front of a text. -/
def monthOf (cs : Octets) : Nat :=
  let name := ((cs.dropWhile isGap).take 3).map Char.toUpper
  ["JAN", "FEB", "MAR", "APR", "MAY", "JUN", "JUL", "AUG", "SEP", "OCT", "NOV", "DEC"].idxOf
    (String.ofList name) + 1

/-- How two texts compare under the options of a key. -/
def compareKeys (options : Octets) (a b : Octets) : Ordering :=
  let has (c : Char) : Bool := options.contains c
  let kept (cs : Octets) : Octets :=
    let cs := if has 'd' then cs.filter fun c => c.isAlphanum || c == ' ' || c == '\t' else cs
    if has 'f' then cs.map Char.toUpper else cs
  let r :=
    if has 'n' || has 'g' then compareFractions (leadingNumber a) (leadingNumber b)
    else if has 'h' then
      let (r, n) := humanNumber a
      let (s, m) := humanNumber b
      (compare r s).then (compareFractions n m)
    else if has 'M' then compare (monthOf a % 13) (monthOf b % 13)
    else if has 'V' then compareParts (versionParts a) (versionParts b)
    else compareTexts (kept a) (kept b)
  if has 'r' then r.swap else r

/-- How two lines compare: by the keys one after the other. -/
def compareLines (divider : Option Char) (ks : List SortKey) (a b : Octets) : Ordering :=
  ks.foldl (fun r k => r.then (compareKeys k.options (keyText divider k a) (keyText divider k b))) .eq

/-- Lines without those that compare equal to the one before. -/
def withoutRepeats (same : Octets → Octets → Bool) : List Octets → List Octets
  | [] => []
  | l :: ls =>
    match withoutRepeats same ls with
    | m :: rest => if same l m then l :: rest else l :: m :: rest
    | [] => [l]

def sort (t : Task) : Work :=
  let known := letters "bdfghiMnRrVcCmsuz" ++ valued "S" ++ [⟨'k', "key", true⟩,
    ⟨'t', "field-separator", true⟩, ⟨'o', "output", true⟩, ⟨'r', "reverse", false⟩,
    ⟨'n', "numeric-sort", false⟩, ⟨'u', "unique", false⟩, ⟨'s', "stable", false⟩,
    ⟨'T', "temporary-directory", true⟩]
  t.called known 2 fun call =>
    let globals := (call.options.map (·.1)).filter "bdfghiMnrV".toList.contains
    let divider := (call.value? 't').bind List.head?
    match (call.values 'k').find? fun k => (sortKey? k).isNone with
    | some bad =>
      t.failed ("invalid field specification ".toList ++ quoted bad) 2
    | none =>
      let keys := (call.values 'k').filterMap sortKey?
      let keys := keys.map fun k => if k.options.isEmpty then { k with options := globals } else k
      let keys := if keys.isEmpty then [⟨⟨1, 1⟩, none, globals⟩] else keys
      let compared (a b : Octets) : Ordering := compareLines divider keys a b
      let whole (a b : Octets) : Ordering :=
        if globals.contains 'r' then compareTexts b a else compareTexts a b
      let before (a b : Octets) : Bool :=
        match compared a b with
        | .lt => true
        | .gt => false
        | .eq => call.has 's' || call.has 'u' || whole a b != .gt
      let end' := if call.has 'z' then '\x00' else '\n'
      let linesIn (cs : Octets) : List Octets :=
        let parts := splitAtChar end' cs
        if parts.getLast? == some [] then parts.dropLast else parts
      let names := namesOf call.operands
      match names.findSome? fun n => (match t.content n with | .error e => some (n, e) | _ => none) with
      | some (name, e) => t.failed (because ((if e == .isDirectory then "read failed: " else "cannot read: ").toList ++ name) e) 2
      | none =>
        let ls := linesIn (names.flatMap fun n =>
          let cs := ((t.content n).toOption).getD []
          if cs.isEmpty || cs.getLast? == some end' then cs else cs ++ [end'])
        if call.has 'c' || call.has 'C' then
          let wrong := (ls.zip (ls.drop 1)).zipIdx.find? fun ((a, b), _) =>
            compared a b == .gt || (call.has 'u' && compared a b == .eq) ||
              (compared a b == .eq && !call.has 's' && !call.has 'u' && whole a b == .gt)
          match wrong with
          | none => t.begun
          | some ((_, b), n) =>
            if call.has 'C' then t.begun.withStatus 1
            else t.failed (names.headD [] ++ ':' :: digitsOf (n + 2) ++ ": disorder: ".toList ++ b) 1
        else
          let sorted := ls.mergeSort before
          let kept :=
            if call.has 'u' then withoutRepeats (fun a b => compared a b == .eq) sorted else sorted
          let out := kept.flatMap (· ++ [end'])
          let w : Work := { t.begun with input := if readsInput names then [] else t.input }
          match call.value? 'o' with
          | some name => { w with files := w.files.change (.write (path name) (bytesOfOctets out) false) }
          | none => w.say 1 out

/-! ## Repeated lines -/

/-- Runs of lines that are the same, each with how many there are. -/
def runsOf (same : Octets → Octets → Bool) : List Octets → List (Octets × Nat)
  | [] => []
  | l :: ls =>
    match runsOf same ls with
    | (m, n) :: rest => if same l m then (l, n + 1) :: rest else (l, 1) :: (m, n) :: rest
    | [] => [(l, 1)]

/-- Leaves out lines that repeat the one before. -/
def unique (t : Task) : Work :=
  let known := letters "Dz" ++ [⟨'c', "count", false⟩, ⟨'d', "repeated", false⟩,
    ⟨'u', "unique", false⟩, ⟨'i', "ignore-case", false⟩, ⟨'f', "skip-fields", true⟩,
    ⟨'s', "skip-chars", true⟩, ⟨'w', "check-chars", true⟩]
  t.called known 1 fun call =>
    let amount (letter : Char) : Option Nat := (call.value? letter).bind decimal?
    let compared (l : Octets) : Octets :=
      let fieldEnd := match (amount 'f').getD 0 with
        | 0 => 0
        | n => (fieldBounds none l n).2
      let l := (l.drop fieldEnd).drop ((amount 's').getD 0)
      let l := (amount 'w').elim l l.take
      if call.has 'i' then l.map Char.toLower else l
    let end' := if call.has 'z' then '\x00' else '\n'
    let names := call.operands.take 1
    let work := t.filtered names fun cs =>
      let parts := splitAtChar end' cs
      let ls := if parts.getLast? == some [] then parts.dropLast else parts
      let runs := runsOf (fun a b => compared a == compared b) ls
      let chosen := runs.filter fun r =>
        (!call.has 'd' || r.2 > 1) && (!call.has 'u' || r.2 == 1)
      let shown (r : Octets × Nat) : List Octets :=
        let l := if call.has 'c' then padLeft 7 ' ' (digitsOf r.2) ++ ' ' :: r.1 else r.1
        [l ++ [end']]
      if call.has 'D' then
        (runs.filter (·.2 > 1)).flatMap fun r => (List.replicate r.2 (r.1 ++ [end'])).flatten
      else (chosen.flatMap shown).flatten
    match call.operands with
    | [_, output] =>
      let out := (work.said.filter (·.1 == 1)).flatMap (·.2)
      { work with
        said := work.said.filter (·.1 != 1)
        files := work.files.change (.write (path output) (bytesOfOctets out) false) }
    | _ => work

/-! ## Comparing texts -/

/-- Lines of two sorted texts, each with the column that it belongs to: only in the first, only in
the second, or in both. -/
def merged : Nat → List Octets → List Octets → List (Nat × Octets)
  | 0, _, _ => []
  | _, as, [] => as.map (1, ·)
  | _, [], bs => bs.map (2, ·)
  | fuel + 1, a :: as, b :: bs =>
    if a == b then (3, a) :: merged fuel as bs
    else if a < b then (1, a) :: merged fuel as (b :: bs)
    else (2, b) :: merged fuel (a :: as) bs

/-- Puts the lines of two sorted texts into columns. -/
def common (t : Task) : Work :=
  t.called (letters "123" ++ [⟨'o', "output-delimiter", true⟩, ⟨'n', "nocheck-order", false⟩]) 1
    fun call =>
    match call.operands with
    | [a, b] =>
      match t.content a, t.content b with
      | .error e, _ => t.failed (unreadable a e) 1
      | _, .error e => t.failed (unreadable b e) 1
      | .ok x, .ok y =>
        let ls := merged (x.length + y.length + 2) (bareLinesOf x) (bareLinesOf y)
        let divider := (call.value? 'o').getD ['\t']
        let hidden (n : Nat) : Bool := call.has (Nat.digitChar n)
        t.doneLines (ls.filterMap fun (n, l) =>
          if hidden n then none
          else
            let before := ((List.range n).drop 1).filter fun k => !hidden k
            some (before.flatMap (fun _ => divider) ++ l))
    | [] => t.misused "missing operand".toList 1
    | [a] => t.misused ("missing operand after ".toList ++ quoted a) 1
    | _ :: _ :: c :: _ => t.misused ("extra operand ".toList ++ quoted c) 1

/-- Says where two texts first differ. -/
def compareOctets (t : Task) : Work :=
  t.called (letters "lb" ++ [⟨'s', "silent", false⟩, ⟨'q', "quiet", false⟩]) 2 fun call =>
    let silent := call.has 's' || call.has 'q'
    let names := match call.operands with
      | [a] => [a, ['-']]
      | as => as
    match names with
    | a :: b :: _ =>
      match t.content a, t.content b with
      | .error e, _ => if silent then t.begun.withStatus 2 else t.failed (because a e) 2
      | _, .error e => if silent then t.begun.withStatus 2 else t.failed (because b e) 2
      | .ok x, .ok y =>
        let same := ((x.zip y).takeWhile fun p => p.1 == p.2).length
        let line := (x.take same).count '\n'
        if x == y then t.begun
        else if silent then t.begun.withStatus 1
        else if same == min x.length y.length then
          let short := if x.length < y.length then a else b
          let place :=
            if same == 0 then " which is empty".toList
            else if (x.take same).getLast? == some '\n' then
              " after byte ".toList ++ digitsOf same ++ ", line ".toList ++ digitsOf line
            else
              " after byte ".toList ++ digitsOf same ++ ", in line ".toList ++ digitsOf (line + 1)
          t.failed ("EOF on ".toList ++ short ++ place) 1
        else
          (t.done (a ++ ' ' :: b ++ " differ: char ".toList ++ digitsOf (same + 1) ++
            ", line ".toList ++ digitsOf (line + 1) ++ ['\n'])).withStatus 1
    | _ => t.misused "missing operand after 'cmp'".toList 2

/-- The lengths of the longest common subsequences of a list and the ends of another one: the row for
one more line in front. -/
def commonRow (a : Octets) (bs : List Octets) (below : List Nat) : List Nat :=
  match bs, below with
  | b :: bs, d :: below =>
    let rest := commonRow a bs below
    let right := rest.headD 0
    let diagonal := below.headD 0
    (if a == b then diagonal + 1 else max d right) :: rest
  | _, _ => [0]

/-- The table of the lengths of longest common subsequences, a row for each end of the first list. -/
def commonTable (bs : List Octets) : List Octets → List (List Nat)
  | [] => [List.replicate (bs.length + 1) 0]
  | a :: as =>
    let below := commonTable bs as
    commonRow a bs (below.headD []) :: below

/-- A change between two texts: at which lines it begins, and the lines that are replaced. -/
structure Hunk where
  start : Nat × Nat
  old : List Octets
  new : List Octets

/-- The changes that lead from one list of lines to another. `n` and `m` are the numbers of lines
before, and `open'` is the change that has begun, its lines reversed. -/
def hunks (table : List (List Nat)) : Nat → Nat → Nat → Option Hunk → List Octets → List Octets →
    List Hunk
  | 0, _, _, open', _, _ => open'.toList
  | fuel + 1, n, m, open', as, bs =>
    let begun : Hunk := open'.getD ⟨(n, m), [], []⟩
    let at' (table : List (List Nat)) (k : Nat) : Nat := (table.headD []).getD k 0
    match as, bs with
    | [], [] => open'.toList
    | a :: as, [] => hunks (table.drop 1) fuel (n + 1) m (some { begun with old := a :: begun.old }) as []
    | [], b :: bs => hunks table fuel n (m + 1) (some { begun with new := b :: begun.new }) [] bs
    | a :: as, b :: bs =>
      if a == b then open'.toList ++ hunks (table.drop 1) fuel (n + 1) (m + 1) none as bs
      else if at' (table.drop 1) m ≥ at' table (m + 1) then
        hunks (table.drop 1) fuel (n + 1) m (some { begun with old := a :: begun.old }) as (b :: bs)
      else hunks table fuel n (m + 1) (some { begun with new := b :: begun.new }) (a :: as) bs

/-- A change as it is shown. -/
def Hunk.text (h : Hunk) : Octets :=
  let span (start count : Nat) : Octets :=
    if count == 0 then digitsOf start
    else if count == 1 then digitsOf (start + 1)
    else digitsOf (start + 1) ++ ',' :: digitsOf (start + count)
  let letter := if h.old.isEmpty then 'a' else if h.new.isEmpty then 'd' else 'c'
  let line (mark : Char) (l : Octets) : Octets :=
    mark :: ' ' :: l ++
      if l.getLast? == some '\n' then [] else "\n\\ No newline at end of file\n".toList
  span h.start.1 h.old.length ++ letter :: span h.start.2 h.new.length ++ ['\n'] ++
    h.old.reverse.flatMap (line '<') ++
    (if letter == 'c' then "---\n".toList else []) ++ h.new.reverse.flatMap (line '>')

/-- Shows how two texts differ. -/
def difference (t : Task) : Work :=
  t.called (letters "abBitwr" ++ [⟨'q', "brief", false⟩, ⟨'s', "report-identical-files", false⟩]) 2
    fun call =>
    match call.operands with
    | [a, b] =>
      match t.content a, t.content b with
      | .error e, .ok _ => t.failed (because a e) 2
      | .ok _, .error e => t.failed (because b e) 2
      | .error e, .error f => t.complain (t.failed (because a e) 2) (because b f) 2
      | .ok x, .ok y =>
        if x == y then
          if call.has 's' then
            t.done ("Files ".toList ++ a ++ " and ".toList ++ b ++ " are identical\n".toList)
          else t.begun
        else if call.has 'q' then
          (t.done ("Files ".toList ++ a ++ " and ".toList ++ b ++ " differ\n".toList)).withStatus 1
        else
          let old := linesOf x
          let new := linesOf y
          let hs := hunks (commonTable new old) (old.length + new.length + 1) 0 0 none old new
          (t.done (hs.flatMap Hunk.text)).withStatus 1
    | [] => t.misused "missing operand after 'diff'".toList 2
    | [a] => t.misused ("missing operand after ".toList ++ quoted a) 2
    | _ :: _ :: c :: _ => t.misused ("extra operand ".toList ++ quoted c) 2

end Task
end LintRelay.Shell
