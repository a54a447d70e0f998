import LintRelay.Shell.Tool.Names

/-!
# Changing files

The tools that make, copy, move and take out files.
-/

namespace LintRelay.Shell
namespace Task

/-- What stands where a name leads. -/
def nodeAt? (files : FileTree) (name : Octets) : Option FileNode :=
  ((files.reach (path name)).toOption).map (·.node)

/-- The name inside a directory under which something with the given path is put. -/
def inside (directory name : Octets) : Octets :=
  dropEndWhile (· == '/') directory ++ '/' :: baseOf name

/-- A message about a name in quotes. -/
def about (what : String) (name : Octets) (why : String) : Octets :=
  what.toList ++ quoted name ++ why.toList

/-- The reason of an error behind a message. -/
def why (e : FileError) : String := ": " ++ e.cause

/-! ## Taking out -/

/-- Takes out files. -/
def remove (t : Task) : Work :=
  let known := letters "iIv" ++ [⟨'r', "recursive", false⟩, ⟨'R', "", false⟩, ⟨'f', "force", false⟩,
    ⟨'d', "dir", false⟩]
  t.called known 1 fun call =>
    let deep := call.has 'r' || call.has 'R'
    if call.operands.isEmpty && !call.has 'f' then t.misused "missing operand".toList 1
    else
      t.forNames call.operands fun files name =>
        match files.find? (path name) with
        | some ⟨l, .directory⟩ =>
          if !deep then
            if call.has 'd' && (files.entries l).isEmpty then .ok (files.prune l)
            else .error (about "cannot remove " name ": Is a directory")
          else if [['.'], ['.', '.']].contains (lastName (dropEndWhile (· == '/') name)) then
            .error ("refusing to remove '.' or '..' directory: skipping ".toList ++ quoted name)
          else .ok (files.prune l)
        | some ⟨l, _⟩ => .ok (files.prune l)
        | none =>
          match files.reach (path name) with
          | .error e =>
            if call.has 'f' && (e == .notFound || e == .notDirectory) then .ok files
            else .error (about "cannot remove " name (why e))
          | .ok _ => .ok files

/-- Takes out empty directories. -/
def removeDirectories (t : Task) : Work :=
  t.called [⟨'p', "parents", false⟩, ⟨'v', "verbose", false⟩] 1 fun call =>
    if call.operands.isEmpty then t.misused "missing operand".toList 1
    else
      t.forNames call.operands fun files name =>
        let refuse (reason : String) := Except.error (about "failed to remove " name reason)
        match files.find? (path name) with
        | some ⟨l, .directory⟩ =>
          if (files.entries l).isEmpty then .ok (files.prune l)
          else refuse ": Directory not empty"
        | some _ => refuse ": Not a directory"
        | none => refuse ": No such file or directory"

/-! ## Making -/

def makeDirectories (t : Task) : Work :=
  let known := [⟨'p', "parents", false⟩, ⟨'v', "verbose", false⟩, ⟨'m', "mode", true⟩]
  t.called known 1 fun call =>
    if call.operands.isEmpty then t.misused "missing operand".toList 1
    else
      -- The front of a path up to the first name that is no directory.
      let blocked (files : FileTree) (name : Octets) : Octets :=
        let parts := splitAtChar '/' name
        let fronts := (List.range parts.length).map fun n => ['/'].intercalate (parts.take (n + 1))
        (fronts.find? fun front =>
          match files.reach (path front) with
          | .ok ⟨_, .directory⟩ => false
          | .ok _ => true
          | .error _ => false).getD name
      let w := t.forNames call.operands fun files name =>
        match files.reach (path name) with
        | .ok ⟨_, .directory⟩ =>
          if call.has 'p' then .ok files
          else .error (about "cannot create directory " name ": File exists")
        | .ok _ => .error (about "cannot create directory " name ": File exists")
        | .error e =>
          if call.has 'p' then
            if e == .notFound then .ok (files.change (.makeDirectory (path name)))
            else .error (about "cannot create directory " (blocked files name) (why e))
          else
            match files.find? (path name), files.writable (path (dropEndWhile (· == '/') name)) with
            | some _, _ => .error (about "cannot create directory " name ": File exists")
            | none, .ok _ => .ok (files.change (.makeDirectory (path name)))
            | none, .error e => .error (about "cannot create directory " name (why e))
      if call.has 'v' then
        w.say 1 (textOfLines (call.operands.map fun n =>
          t.program ++ ": ".toList ++ about "created directory " n ""))
      else w

/-- Makes files that are not there. -/
def touch (t : Task) : Work :=
  t.called (letters "acmh" ++ valued "drt") 1 fun call =>
    if call.operands.isEmpty then t.misused "missing file operand".toList 1
    else
      t.forNames call.operands fun files name =>
        match files.reach (path name) with
        | .ok _ => .ok files
        | .error _ =>
          if call.has 'c' then .ok files
          else
            match files.writable (path name) with
            | .ok l => .ok (files.put l (.file [] false))
            | .error e => .error (about "cannot touch " name (why e))

/-- Writes the input to files too. -/
def tee (t : Task) : Work :=
  t.called [⟨'a', "append", false⟩, ⟨'i', "ignore-interrupts", false⟩, ⟨'p', "", false⟩] 1 fun call =>
    let w := call.operands.foldl (fun (w : Work) name =>
      match w.files.reach (path name), w.files.writable (path name) with
      | .ok ⟨_, .device⟩, _ => w
      | _, .ok l =>
        let old := match w.files.at? l with
          | some (.file content executable) => (content, executable)
          | _ => ([], false)
        let content := (if call.has 'a' then old.1 else []) ++ bytesOfOctets t.input
        { w with files := w.files.put l (.file content old.2) }
      | _, .error e => t.complain w (because (shown name) e) 1) { t.begun with input := [] }
    w.say 1 t.input

/-- Makes files as long as they are told to be. -/
def truncate (t : Task) : Work :=
  t.called [⟨'s', "size", true⟩, ⟨'c', "no-create", false⟩] 1 fun call =>
    match (call.value? 's').bind fun s => numberIn? 10 (s.dropWhile fun c => "+-<>".toList.contains c),
        call.operands with
    | none, _ => t.misused "you must specify either '--size' or '--reference'".toList 1
    | _, [] => t.misused "missing file operand".toList 1
    | some n, names =>
      let sign := ((call.value? 's').bind List.head?).getD '0'
      t.forNames names fun files name =>
        match files.writable (path name) with
        | .error e => .error (about "cannot open " name (" for writing" ++ why e))
        | .ok l =>
          let (content, executable) := match files.at? l with
            | some (.file content executable) => (content, executable)
            | _ => ([], false)
          let size := match sign with
            | '+' => content.length + n.toNat
            | '-' => content.length - n.toNat
            | _ => n.toNat
          .ok (files.put l (.file
            (content.take size ++ List.replicate (size - content.length) 0) executable))

/-- Copies a portion of a text in blocks. -/
def duplicate (t : Task) : Work :=
  let value (key : String) : Option Octets :=
    (t.arguments.find? fun a => (key ++ "=").toList.isPrefixOf a).map
      fun a => a.drop (key.length + 1)
  let number (key : String) : Option Nat :=
    (value key).bind fun cs => (decimal? (cs.takeWhile Char.isDigit)).bind fun n =>
      match cs.dropWhile Char.isDigit with
      | [] => some n
      | ['k'] | ['K'] => some (1024 * n)
      | ['M'] => some (1048576 * n)
      | _ => none
  let block := ((number "bs") <|> (number "ibs")).getD 512
  let source := (value "if").getD ['-']
  let text : Except FileError Octets :=
    if source == "/dev/zero".toList then
      .ok (List.replicate (block * ((number "count").getD 0)) '\x00')
    else t.content source
  match text with
  | .error e => t.failed (because ("failed to open ".toList ++ quoted source) e) 1
  | .ok cs =>
    let cs := if source == "/dev/zero".toList then cs else cs.drop (block * ((number "skip").getD 0))
    let out := (number "count").elim cs fun n => cs.take (block * n)
    let w := { t.begun with input := if source == ['-'] then cs.drop out.length else t.input }
    let quiet := value "status" == some "none".toList
    let records (n : Nat) : Octets :=
      digitsOf (n / block) ++ '+' :: (if n % block == 0 then ['0'] else ['1'])
    let summary := if quiet then [] else
      records out.length ++ " records in\n".toList ++ records out.length ++
        " records out\n".toList
    let w := match value "of" with
      | none => w.say 1 out
      | some name =>
        match w.files.writable (path name) with
        | .ok l => { w with files := w.files.put l (.file (bytesOfOctets out) false) }
        | .error e => t.complain w (because ("failed to open ".toList ++ quoted name) e) 1
    w.say 2 summary

/-! ## Copying and moving -/

/-- Puts a copy of a node and of all below it at another location. -/
def copyTree (files : FileTree) (source target : Location) : FileTree :=
  let below := files.places.filter fun l => source.isPrefixOf l && l != source
  let own := match files.at? source with
    | some n => files.put target n
    | none => files
  (below.mergeSort fun a b => a.length ≤ b.length).foldl (fun after l =>
    match files.at? l with
    | some n => after.put (target ++ l.drop source.length) n
    | none => after) own

/-- The operands of a tool that puts sources at a target, or why there are none. The target may be a
directory that is given as an option. -/
def sourcesAndTarget (call : Call) : Except Octets (List Octets × Octets) :=
  match call.value? 't', call.operands.reverse with
  | some target, sources => .ok (sources.reverse, target)
  | none, [] => .error "missing file operand".toList
  | none, [a] => .error ("missing destination file operand after ".toList ++ quoted a)
  | none, target :: sources => .ok (sources.reverse, target)

/-- Puts sources at a target, or into it if it is a directory. `one` says what is left when one source
is put at one path. -/
def placed (t : Task) (call : Call)
    (one : FileTree → Octets → Octets → Except Octets FileTree) : Work :=
  match sourcesAndTarget call with
  | .error e => t.misused e 1
  | .ok (sources, target) =>
    let into := nodeAt? t.files target == some .directory && !call.has 'T'
    if sources.length > 1 && !into then
      let reason := match t.files.reach (path target) with
        | .ok _ => ": Not a directory"
        | .error e => why e
      t.failed (about "target " target reason) 1
    else
      let place (name : Octets) : Octets := if into then inside target name else target
      let w := t.forNames sources fun files name => one files name (place name)
      if call.has 'v' && w.status == 0 then
        let verb := if call.has 'M' then "renamed ".toList else []
        w.say 1 (textOfLines (sources.map fun n =>
          verb ++ quoted n ++ " -> ".toList ++ quoted (place n)))
      else w

/-- Copies files, and directories with `-r`. -/
def copy (t : Task) : Work :=
  let known := letters "aAdfHiLlnPpRsTuvxZ" ++
    [⟨'r', "recursive", false⟩, ⟨'t', "target-directory", true⟩]
  t.called known 1 fun call =>
    let deep := call.has 'r' || call.has 'R' || call.has 'a'
    let keepsLinks := call.has 'a' || call.has 'd' || call.has 'P'
    t.placed call fun files source target =>
      let found : Option Reached :=
        if keepsLinks then files.find? (path source) else (files.reach (path source)).toOption
      match found with
      | none =>
        let e := match files.reach (path source) with
          | .error e => e
          | .ok _ => .notFound
        .error (about "cannot stat " source (why e))
      | some ⟨l, .directory⟩ =>
        if !deep then .error ("-r not specified; omitting directory ".toList ++ quoted source)
        else
          let (prepared, place) := files.placeFor (path target)
          match files.reach (path (directoryOf target)) with
          | .ok ⟨_, .directory⟩ => .ok (copyTree prepared l place)
          | .ok _ => .error (about "cannot create directory " target ": Not a directory")
          | .error e => .error (about "cannot create directory " target (why e))
      | some ⟨l, n⟩ =>
        match files.writable (path target) with
        | .error .isDirectory =>
          .error (about "cannot overwrite directory " target " with non-directory")
        | .error e => .error (about "cannot create regular file " target (why e))
        | .ok place =>
          if place == l then
            .error (quoted source ++ " and ".toList ++ quoted target ++ " are the same file".toList)
          else if call.has 'n' && (files.at? place).isSome then .ok files
          else
            match n, files.at? place with
            | .file content _, some (.file _ executable) =>
              .ok (files.put place (.file content executable))
            | .device, _ => .ok (files.put place (.file [] false))
            | n, _ => .ok (files.put place n)

/-- Moves files and directories. -/
def move (t : Task) : Work :=
  t.called (letters "fibnTuv" ++ [⟨'t', "target-directory", true⟩]) 1 fun call =>
    t.placed (call.withOption 'M' []) fun files source target =>
      match files.find? (path source) with
      | none =>
        let e := match files.reach (path source) with
          | .error e => e
          | .ok _ => .notFound
        .error (about "cannot stat " source (why e))
      | some ⟨l, n⟩ =>
        let trimmed := dropEndWhile (· == '/') target
        match files.reach (path (directoryOf trimmed)) with
        | .ok ⟨above, .directory⟩ =>
          let place := above ++ [bytesOfOctets (baseOf trimmed)]
          let old := files.at? place
          if place == l then
            .error (quoted source ++ " and ".toList ++ quoted target ++ " are the same file".toList)
          else if n == .directory && old.isSome && old != some .directory then
            .error (about "cannot overwrite non-directory " target
              (" with directory " ++ String.ofList (quoted source)))
          else if n == .directory && l.isPrefixOf place then
            .error (about "cannot move " source
              (" to a subdirectory of itself, " ++ String.ofList (quoted target)))
          else if call.has 'n' && old.isSome then .ok files
          else .ok ((copyTree (files.prune place) l place).prune l)
        | .ok _ => .error (about "cannot move " source
          (" to " ++ String.ofList (quoted target) ++ ": Not a directory"))
        | .error e => .error (about "cannot move " source
          (" to " ++ String.ofList (quoted target) ++ why e))

/-- Makes links. A link that is not symbolic is a copy. -/
def link (t : Task) : Work :=
  let known := [⟨'s', "symbolic", false⟩, ⟨'f', "force", false⟩, ⟨'n', "no-dereference", false⟩,
    ⟨'T', "no-target-directory", false⟩, ⟨'r', "relative", false⟩, ⟨'v', "verbose", false⟩]
  t.called known 1 fun call =>
    let operands := match call.operands with
      | [a] => [a, ['.']]
      | as => as
    if operands.isEmpty then t.misused "missing file operand".toList 1
    else
      { call with operands } |> (t.placed · fun files source target =>
        let kind := if call.has 's' then "symbolic" else "hard"
        match files.reach (path (directoryOf target)) with
        | .error e =>
          .error (about ("failed to create " ++ kind ++ " link ") target (why e))
        | .ok r =>
          let place := r.location ++ [bytesOfOctets (baseOf target)]
          let taken := (files.at? place).isSome && !call.has 'f'
          if call.has 's' then
            if taken then .error (about "failed to create symbolic link " target ": File exists")
            else .ok (files.put place (.link (bytesOfOctets source)))
          else
            match files.find? (path source) with
            | none => .error (about "failed to access " source ": No such file or directory")
            | some ⟨_, .directory⟩ => .error (quoted source ++
              ": hard link not allowed for directory".toList)
            | some ⟨_, n⟩ =>
              if taken then .error (about "failed to create hard link " target ": File exists")
              else .ok (files.put place n))

/-- Whether a mode lets a file be run, given whether it could be run before. -/
def runsUnder? (before : Bool) (mode : Octets) : Option Bool :=
  match numberIn? 8 mode with
  | some n => some (n.toNat % 128 / 64 == 1 || n.toNat % 2 == 1 || n.toNat / 8 % 2 == 1)
  | none =>
    (splitAtChar ',' mode).foldl (fun now clause =>
      let who := clause.takeWhile fun c => "ugoa".toList.contains c
      match clause.drop who.length with
      | op :: permissions =>
        if !"+-=".toList.contains op ||
            !(permissions.all fun c => "rwxXstugo".toList.contains c) then none
        else
          now.map fun x =>
            if permissions.contains 'x' then op != '-' else if op == '=' then false else x
      | [] => none) (some before)

/-- Changes who may run files. -/
def changeMode (t : Task) : Work :=
  let isMode (a : Octets) : Bool :=
    a.head? == some '-' && a.length > 1 && (a.drop 1).all fun c => "rwxXst".toList.contains c
  let marked := t.arguments.map fun a => if isMode a then 'a' :: a else a
  { t with arguments := marked }.called (letters "cfvR") 1 fun call =>
    match call.operands with
    | [] => t.misused "missing operand".toList 1
    | [mode] => t.misused ("missing operand after ".toList ++ quoted mode) 1
    | mode :: names =>
      if (runsUnder? false mode).isNone then
        t.misused ("invalid mode: ".toList ++ quoted mode) 1
      else
        t.forNames names fun files name =>
          match files.reach (path name) with
          | .error e => .error (about "cannot access " name (why e))
          | .ok ⟨l, .file content executable⟩ =>
            .ok (files.put l (.file content ((runsUnder? executable mode).getD executable)))
          | .ok ⟨l, .directory⟩ =>
            if !call.has 'R' then .ok files
            else
              let below := files.places.filter fun k => l.isPrefixOf k
              .ok (below.foldl (fun (files : FileTree) k =>
                match files.at? k with
                | some (.file content executable) =>
                  files.put k (.file content ((runsUnder? executable mode).getD executable))
                | _ => files) files)
          | .ok _ => .ok files

end Task
end LintRelay.Shell
