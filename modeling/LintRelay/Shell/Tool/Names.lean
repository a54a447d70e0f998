import LintRelay.FileTree.Change
import LintRelay.Shell.Tool.Basic

/-!
# Names of files

The tools that take paths apart, follow links and list directories.
-/

namespace LintRelay.Shell
namespace Task

/-! ## Parts of paths -/

/-- The name at the end of a path, slashes behind it left out. -/
def baseOf (cs : Octets) : Octets :=
  let trimmed := dropEndWhile (· == '/') cs
  if trimmed.isEmpty && !cs.isEmpty then ['/'] else lastName trimmed

/-- The path in front of the name at the end. -/
def directoryOf (cs : Octets) : Octets :=
  let above := dropEndWhile (· == '/') (dropEndWhile (· != '/') (dropEndWhile (· == '/') cs))
  if !above.isEmpty then above else if cs.head? == some '/' then ['/'] else ['.']

/-- A name without a suffix, unless the suffix is all of it. -/
def withoutSuffix (suffix cs : Octets) : Octets :=
  if suffix.isSuffixOf cs && cs != suffix then cs.take (cs.length - suffix.length) else cs

/-- The name at the end of a path, without a suffix if one is given. -/
def baseName (t : Task) : Work :=
  let known : List Switch :=
    [⟨'a', "multiple", false⟩, ⟨'s', "suffix", true⟩, ⟨'z', "zero", false⟩]
  match readCall known false none t.arguments with
  | .error e => t.misused e 1
  | .ok call =>
    let end' := if call.has 'z' then '\x00' else '\n'
    let many := call.has 'a' || call.has 's'
    let suffix := (call.value? 's').getD (if many then [] else call.operands.getD 1 [])
    match call.operands with
    | [] => t.misused "missing operand".toList 1
    | name :: more =>
      match many, more with
      | false, _ :: extra :: _ => t.misused ("extra operand ".toList ++ quoted extra) 1
      | _, _ =>
        let names := if many then name :: more else [name]
        t.done (names.flatMap fun n => withoutSuffix suffix (baseOf n) ++ [end'])

/-- The directory in front of the name at the end of a path. -/
def dirName (t : Task) : Work :=
  match readCall [⟨'z', "zero", false⟩] false none t.arguments with
  | .error e => t.misused e 1
  | .ok call =>
    if call.operands.isEmpty then t.misused "missing operand".toList 1
    else
      t.done (call.operands.flatMap fun n =>
        directoryOf n ++ [if call.has 'z' then '\x00' else '\n'])

/-! ## Following links -/

/-- What a path has to lead to. -/
inductive Existence where
  /-- Everything in front of its last name. -/
  | almost
  | all
  | none
  deriving Repr, DecidableEq

/-- The path without links that a path stands for. -/
def resolved (files : FileTree) (existence : Existence) (name : Octets) :
    Except FileError Octets := do
  let spelled (l : Location) : Octets := octetsOf (FileTree.pathOf l).bytes
  match files.reach (path name) with
  | .ok r => return spelled r.location
  | .error e =>
    match existence with
    | .all => throw e
    | .almost =>
      let last := baseOf name
      if e != .notFound || last.isEmpty then throw e
      match files.find? (path (dropEndWhile (· == '/') name)) with
      | some ⟨l, .link target⟩ =>
        let above := spelled l.dropLast
        let next := octetsOf target
        let next := if next.head? == some '/' then next else above ++ '/' :: next
        let r ← files.reach (path (directoryOf next))
        return spelled (r.location ++ [bytesOfOctets (baseOf next)])
      | _ =>
        match files.reach (path (directoryOf name)) with
        | .ok ⟨l, .directory⟩ => return spelled (l ++ [bytesOfOctets last])
        | .ok _ => throw .notDirectory
        | .error e => throw e
    | .none =>
      let start := if name.head? == some '/' then [] else files.base
      let walked := (splitSlash (bytesOfOctets name)).foldl (fun (l : Location) s =>
        if isTrivial s then l else if s == [dot, dot] then l.dropLast else l ++ [s]) start
      return spelled walked

/-- Shows where links lead. -/
def readLink (t : Task) : Work :=
  let known := letters "qsvz" ++ [⟨'f', "canonicalize", false⟩, ⟨'e', "canonicalize-existing", false⟩,
    ⟨'m', "canonicalize-missing", false⟩, ⟨'n', "no-newline", false⟩]
  t.called known 1 fun call =>
    let end' : Octets := if call.has 'n' then [] else ['\n']
    if call.operands.isEmpty then t.misused "missing operand".toList 1
    else
      call.operands.foldl (fun w name =>
        let found : Option Octets :=
          match call.lastOf? "fem" with
          | some 'f' => (resolved t.files .almost name).toOption
          | some 'e' => (resolved t.files .all name).toOption
          | some _ => (resolved t.files .none name).toOption
          | none =>
            match t.files.find? (path name) with
            | some ⟨_, .link target⟩ => some (octetsOf target)
            | _ => none
        match found with
        | some cs => w.say 1 (cs ++ end')
        | none => w.withStatus 1) t.begun

/-- Shows paths without links. -/
def realPath (t : Task) : Work :=
  let known := letters "LPqsz" ++
    [⟨'e', "canonicalize-existing", false⟩, ⟨'m', "canonicalize-missing", false⟩]
  t.called known 1 fun call =>
    let existence : Existence :=
      match call.lastOf? "em" with
      | some 'e' => .all
      | some _ => .none
      | none => .almost
    if call.operands.isEmpty then t.misused "missing operand".toList 1
    else
      call.operands.foldl (fun w name =>
        match resolved t.files existence name with
        | .ok cs => w.say 1 (cs ++ ['\n'])
        | .error e =>
          if call.has 'q' then w.withStatus 1 else t.complain w (unreadable name e) 1) t.begun

def workingDirectory (t : Task) : Work :=
  t.done (octetsOf (FileTree.pathOf t.files.base).bytes ++ ['\n'])

/-! ## Listings -/

/-- What stands for a path in a listing: what it names, or what it leads to. -/
def listed? (t : Task) (follow : Bool) (name : Octets) : Option Reached :=
  if follow then
    match t.files.reach (path name) with
    | .ok r => some r
    | .error _ => t.files.find? (path name)
  else t.files.find? (path name)

/-- The mark that shows the kind of what is listed. -/
def kindMark (call : Call) (n : FileNode) : Octets :=
  let full := call.has 'F'
  match n with
  | .directory => if full || call.has 'p' then ['/'] else []
  | .link _ => if full then ['@'] else []
  | .file _ true => if full then ['*'] else []
  | _ => []

/-- The letters of the permissions of what is listed. -/
def modeText (n : FileNode) : Octets :=
  match n with
  | .directory => "drwxr-xr-x".toList
  | .link _ => "lrwxrwxrwx".toList
  | .file _ true => "-rwxr-xr-x".toList
  | .file _ false => "-rw-r--r--".toList
  | .device => "crw-rw-rw-".toList

def sizeOfNode (n : FileNode) : Nat :=
  match n with
  | .file content _ => content.length
  | .directory => 4096
  | .link target => target.length
  | .device => 0

/-- The lines of a listing of named nodes. -/
def listingLines (call : Call) (xs : List (Octets × FileNode)) : Octets :=
  let shown (x : Octets × FileNode) : Octets := x.1 ++ kindMark call x.2
  if call.has 'l' then
    let sizes := xs.map fun x => (digitsOf (sizeOfNode x.2)).length
    let width := sizes.foldl max 0
    textOfLines (xs.map fun x =>
      modeText x.2 ++ " 1 root root ".toList ++ padLeft width ' ' (digitsOf (sizeOfNode x.2)) ++
        " Jan  1 00:00 ".toList ++ match x.2 with
          | .link target => x.1 ++ " -> ".toList ++ octetsOf target
          | _ => shown x)
  else if call.has 'm' then
    if xs.isEmpty then [] else ", ".toList.intercalate (xs.map shown) ++ ['\n']
  else textOfLines (xs.map shown)

def listingOrder (call : Call) (xs : List (Octets × FileNode)) : List (Octets × FileNode) :=
  let bySize := call.has 'S'
  let before (a b : Octets × FileNode) : Bool :=
    let m := sizeOfNode a.2
    let n := sizeOfNode b.2
    if bySize && m != n then m > n else notAfter a.1 b.1
  let sorted := if call.has 'U' || call.has 'f' then xs else xs.mergeSort before
  if call.has 'r' then sorted.reverse else sorted

/-- What stands in a directory as far as a listing shows it. -/
def listingOf (t : Task) (call : Call) (l : Location) : List (Octets × FileNode) :=
  let names := (t.files.entries l).filterMap fun name =>
    (t.files.at? (l ++ [name])).map (octetsOf name, ·)
  let shown := names.filter fun x =>
    x.1.head? != some '.' || (call.lastOf? "aAf").isSome
  let self := (call.lastOf? "aAf").filter (· != 'A')
  listingOrder call ((if self.isSome then [(['.'], .directory), (['.', '.'], .directory)] else []) ++
    shown)

/-- The listings of a directory and, as far as the bound allows, of those below it, each with its
name. -/
def deepListings (t : Task) (call : Call) : Nat → Octets → Location →
    List (Octets × List (Octets × FileNode))
  | 0, _, _ => []
  | fuel + 1, name, l =>
    let own := t.listingOf call l
    let below := own.filter fun x =>
      x.2 == .directory && x.1 != ['.'] && x.1 != ['.', '.']
    (name, own) :: below.flatMap fun x =>
      deepListings t call fuel (name ++ '/' :: x.1) (l ++ [bytesOfOctets x.1])

/-- Lists files and what is in directories. -/
def list (t : Task) : Work :=
  let known := letters "1AadFfghiklmnopqrRsStuUcCxXLHQ" ++
    [⟨'a', "all", false⟩, ⟨'A', "almost-all", false⟩, ⟨'d', "directory", false⟩,
      ⟨'r', "reverse", false⟩, ⟨'R', "recursive", false⟩]
  t.called known 2 fun call =>
    let names := if call.operands.isEmpty then [['.']] else call.operands
    let follow := !(call.has 'l' || call.has 'd' || call.has 'F') || call.has 'L'
    let w := names.foldl (fun w name =>
      match t.listed? follow name with
      | some _ => w
      | none =>
        let e := match t.files.reach (path name) with
          | .error e => e
          | .ok _ => .notFound
        t.complain w (because ("cannot access ".toList ++ quoted name) e) 2) t.begun
    let there := names.filterMap fun name => (t.listed? follow name).map (name, ·)
    let isDirectory (x : Octets × Reached) : Bool := x.2.node == .directory && !call.has 'd'
    let files := listingOrder call
      ((there.filter fun x => !isDirectory x).map fun x => (x.1, x.2.node))
    let directories := listingOrder call
      ((there.filter isDirectory).map fun x => (x.1, x.2.node))
    let location (name : Octets) : Location :=
      ((t.listed? follow name).map (·.location)).getD []
    let listings := directories.flatMap fun x =>
      let l := location x.1
      if call.has 'R' then t.deepListings call (t.files.places.length + 2) x.1 l
      else [(x.1, t.listingOf call l)]
    let headed := names.length > 1 || call.has 'R'
    let total := if call.has 'l' then "total 0\n".toList else []
    let parts := listings.map fun x =>
      (if headed then x.1 ++ ":\n".toList else []) ++ total ++ listingLines call x.2
    let parts := if files.isEmpty then parts else listingLines call files :: parts
    w.say 1 (['\n'].intercalate parts)

/-! ## Properties -/

/-- The kind of what stands somewhere. -/
def kindText (n : FileNode) : String :=
  match n with
  | .directory => "directory"
  | .link _ => "symbolic link"
  | .file [] _ => "regular empty file"
  | .file .. => "regular file"
  | .device => "character special file"

/-- A property of a file as a format asks for it. -/
def property (name : Octets) (n : FileNode) (letter : Char) : Octets :=
  let executable := match n with
    | .file _ false => false
    | _ => true
  match letter with
  | 'n' => name
  | 's' => digitsOf (sizeOfNode n)
  | 'F' => (kindText n).toList
  | 'a' => (if n matches .link _ then "777" else if executable then "755" else "644").toList
  | 'A' => modeText n
  | 'U' | 'G' => "root".toList
  | 'u' | 'g' => ['0']
  | 'h' => ['1']
  | 'N' => quoted name
  | '%' => ['%']
  | _ => ['?']

/-- A format with the properties of a file in it. -/
def formatted (name : Octets) (n : FileNode) : Octets → Octets
  | '%' :: letter :: cs => property name n letter ++ formatted name n cs
  | c :: cs => c :: formatted name n cs
  | [] => []

/-- Shows properties of files. -/
def status (t : Task) : Work :=
  t.called [⟨'c', "format", true⟩, ⟨'L', "dereference", false⟩, ⟨'p', "printf", true⟩] 1 fun call =>
    let format := (call.value? 'c').getD "%n %s".toList
    if call.operands.isEmpty then t.misused "missing operand".toList 1
    else
      call.operands.foldl (fun w name =>
        match t.listed? (call.has 'L') name with
        | some r => w.say 1 (formatted name r.node format ++ ['\n'])
        | none =>
          let e := match t.files.reach (path name) with
            | .error e => e
            | .ok _ => .notFound
          t.complain w (because ("cannot statx ".toList ++ quoted name) e) 1) t.begun

/-- Shows where programs stand on the search path. -/
def which (directories : List Path) (t : Task) : Work :=
  t.called (letters "as") 2 fun call =>
    call.operands.foldl (fun w name =>
      let runs (p : Path) : Bool :=
        match t.files.reach p with
        | .ok ⟨_, .file _ true⟩ => true
        | _ => false
      let places :=
        if name.contains '/' then [path name]
        else directories.map fun d => d.join (path name)
      let found := places.filter runs
      let shown := if call.has 'a' then found else found.take 1
      if shown.isEmpty then w.withStatus 1
      else w.say 1 (textOfLines (shown.map fun p => octetsOf p.bytes))) t.begun

end Task
end LintRelay.Shell
