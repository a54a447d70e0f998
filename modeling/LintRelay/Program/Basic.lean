import LintRelay.FileTree.Basic

/-!
# Programs

A program is a native one, which a file stands for by a mark and a name, or a script, whose first
line names the interpreter that is given the script. `Program.load` follows the interpreters to the
native program that runs in the end. A program named without a slash is looked for along the search
path.
-/

namespace LintRelay.Program

/-- A native program with its arguments, of which the first is the name it was called by. -/
structure Image where
  name : Bytes
  arguments : List Bytes
  deriving Repr, DecidableEq

/-- The mark at the front of a native program's file. -/
def nativeMark : Bytes := [0x7F, 0x45, 0x4C, 0x46]

/-- The mark at the front of a script's first line. -/
def scriptMark : Bytes := [0x23, 0x21]

/-- The content of a native program's file. -/
def nativeContent (name : Bytes) : Bytes := nativeMark ++ name

/-- The native program that a file stands for, if it stands for one. -/
def native? (content : Bytes) : Option Bytes :=
  if nativeMark.isPrefixOf content then some (content.drop nativeMark.length) else none

/-- Whether a byte is blank on the first line of a script. -/
def isGapByte (b : UInt8) : Bool := b == 0x20 || b == 0x09

/-- The interpreter of a script, with the argument that its first line adds. -/
def interpreter? (content : Bytes) : Option (Bytes × Option Bytes) :=
  if scriptMark.isPrefixOf content then
    let line := (content.drop scriptMark.length).takeWhile (· != 0x0A)
    let line := ((line.dropWhile isGapByte).reverse.dropWhile isGapByte).reverse
    let name := line.takeWhile fun b => !isGapByte b && b != 0
    let argument := (line.drop name.length).dropWhile isGapByte
    if name.isEmpty then none
    else some (name, if argument.isEmpty then none else some argument)
  else none

/-- The greatest number of interpreters that are followed. -/
def interpreterBudget : Nat := 4

/-- The native program that runs for a path in the end. -/
def load (t : FileTree) : Nat → Path → List Bytes → Except FileError Image
  | budget, p, arguments =>
    match t.reach p with
    | .error e => .error e
    | .ok ⟨_, .file content true⟩ =>
      match native? content, interpreter? content, budget with
      | some name, _, _ => .ok ⟨name, arguments⟩
      | none, some _, 0 => .error .tooManyLinks
      | none, some (name, argument), budget + 1 =>
        load t budget ⟨name⟩ (name :: argument.toList ++ p.bytes :: arguments.drop 1)
      | none, none, _ => .error .execFormat
    | .ok _ => .error .permissionDenied

/-- The directories in which programs are looked for. -/
def searchPath : List Path :=
  ["/usr/local/sbin", "/usr/local/bin", "/usr/sbin", "/usr/bin", "/sbin", "/bin"].map .ofString

/-- Loads the first program of the name in the directories that can be run. A directory where it
stands but must not be run counts only if no other has it. -/
def search (t : FileTree) (name : Path) (arguments : List Bytes) (denied : Bool) :
    List Path → Except FileError Image
  | [] => .error (if denied then .permissionDenied else .notFound)
  | dir :: dirs =>
    match load t interpreterBudget (dir.join name) arguments with
    | .ok i => .ok i
    | .error .notFound | .error .notDirectory => search t name arguments denied dirs
    | .error .permissionDenied => search t name arguments true dirs
    | .error e => .error e

/-- Loads a program that is named by a path with a slash, or by a name that is looked for in the
directories. -/
def find (t : FileTree) (dirs : List Path) (name : Path) (arguments : List Bytes) :
    Except FileError Image :=
  if name.bytes.isEmpty then .error .notFound
  else if name.bytes.contains slash then load t interpreterBudget name arguments
  else search t name arguments false dirs

/-- A file tree that holds nothing but native programs, in the given directories. -/
def nativeTree (directories : List Location) (names : List String) : FileTree where
  node? l :=
    if directories.any fun d => l.isPrefixOf d then some .directory
    else if directories.contains l.dropLast then
      match l.getLast? with
      | some name =>
        if (names.map Text.bytesOf).contains name then some (.file (nativeContent name) true)
        else none
      | none => none
    else none
  places :=
    directories.flatMap fun d =>
      (List.range (d.length + 1)).tail.map d.take ++ names.map fun n => d ++ [Text.bytesOf n]
  base := []

end LintRelay.Program
