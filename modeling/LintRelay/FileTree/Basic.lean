import LintRelay.Path.Basic

/-!
# File trees

A file tree says what stands at each location, and from which directory relative paths start. A path
is looked up segment by segment: a symbolic link is replaced by its target, `..` leads to the
directory above, and whatever a further segment follows has to be a directory. At most
`linkBudget` links are followed for one path.
-/

namespace LintRelay

/-- Why a file is not reached or not read. -/
inductive FileError where
  | notFound
  | permissionDenied
  | execFormat
  | notDirectory
  | isDirectory
  | nameTooLong
  | tooManyLinks
  | nulInPath
  | nulInArgument
  | notText
  deriving Repr, DecidableEq

/-- The system's number of an error, for those that it has. -/
def FileError.number? : FileError → Option Nat
  | .notFound => some 2
  | .execFormat => some 8
  | .permissionDenied => some 13
  | .notDirectory => some 20
  | .isDirectory => some 21
  | .nameTooLong => some 36
  | .tooManyLinks => some 40
  | .nulInPath | .nulInArgument | .notText => none

/-- What an error says went wrong. -/
def FileError.cause : FileError → String
  | .notFound => "No such file or directory"
  | .permissionDenied => "Permission denied"
  | .execFormat => "Exec format error"
  | .notDirectory => "Not a directory"
  | .isDirectory => "Is a directory"
  | .nameTooLong => "File name too long"
  | .tooManyLinks => "Too many levels of symbolic links"
  | .nulInPath => "file name contained an unexpected NUL byte"
  | .nulInArgument => "nul byte found in provided data"
  | .notText => "stream did not contain valid UTF-8"

def FileError.message (e : FileError) : String :=
  match e.number? with
  | some n => e.cause ++ " (os error " ++ toString n ++ ")"
  | none => e.cause

/-- A location: the names that lead to it from the root. -/
abbrev Location := List Bytes

/-- What stands at a location. -/
inductive FileNode where
  | file (content : Bytes) (executable : Bool)
  | directory
  | link (target : Bytes)
  /-- A device that holds nothing and keeps nothing. -/
  | device
  deriving Repr, DecidableEq

/-- A tree of files. -/
structure FileTree where
  /-- What stands at a location other than the root. -/
  node? : Location → Option FileNode
  /-- The locations at which something may stand. -/
  places : List Location
  /-- The directory from which relative paths start. -/
  base : Location

/-- What a path leads to. -/
structure Reached where
  location : Location
  node : FileNode

namespace FileTree

/-- What stands at a location. The root is a directory. -/
def at? (t : FileTree) (l : Location) : Option FileNode :=
  if l = [] then some .directory else t.node? l

/-- The greatest number of links that are followed. -/
def linkBudget : Nat := 40

/-- The greatest length of a name in bytes. -/
def greatestName : Nat := 255

/-- The greatest length of a path in bytes. -/
def greatestPath : Nat := 4095

inductive Stop where
  | arrived (location : Location) (node : FileNode)
  /-- At a link in the directory `dir`, with the segments behind it. -/
  | link (dir : Location) (target : Bytes) (behind : List Bytes)

/-- Walks from the directory `dir` along segments up to the end or the first link. -/
def walk (t : FileTree) : Location → List Bytes → Except FileError Stop
  | dir, [] => .ok (.arrived dir .directory)
  | dir, s :: rest =>
    if isTrivial s then walk t dir rest
    else if s == [dot, dot] then walk t dir.dropLast rest
    else if s.length > greatestName then .error .nameTooLong
    else
      match t.at? (dir ++ [s]) with
      | none => .error .notFound
      | some .directory => walk t (dir ++ [s]) rest
      | some (.link target) => .ok (.link dir target rest)
      | some (.file content executable) =>
        if rest.isEmpty then .ok (.arrived (dir ++ [s]) (.file content executable))
        else .error .notDirectory
      | some .device =>
        if rest.isEmpty then .ok (.arrived (dir ++ [s]) .device) else .error .notDirectory

/-- Walks to the end, following up to `budget` links. -/
def follow (t : FileTree) : Nat → Location → List Bytes → Except FileError Reached
  | budget, dir, segments =>
    match t.walk dir segments with
    | .error e => .error e
    | .ok (.arrived l n) => .ok ⟨l, n⟩
    | .ok (.link dir target behind) =>
      match budget with
      | 0 => .error .tooManyLinks
      | budget + 1 =>
        follow t budget (if target.head? == some slash then [] else dir)
          (splitSlash target ++ behind)

/-- What a path leads to. -/
def reach (t : FileTree) (p : Path) : Except FileError Reached :=
  if p.bytes.contains 0 then .error .nulInPath
  else if p.bytes.isEmpty then .error .notFound
  else if p.bytes.length > greatestPath then .error .nameTooLong
  else t.follow linkBudget (if p.isAbsolute then [] else t.base) (splitSlash p.bytes)

/-- What stands where a path names something, a link not being followed. A path that ends in a slash
names what it leads to. -/
def find? (t : FileTree) (p : Path) : Option Reached :=
  match (splitSlash p.bytes).reverse with
  | name :: above =>
    if isTrivial name || name == [dot, dot] || p.bytes.contains 0 then (t.reach p).toOption
    else
      match t.follow linkBudget (if p.isAbsolute then [] else t.base) above.reverse with
      | .ok ⟨l, .directory⟩ => (t.at? (l ++ [name])).map (⟨l ++ [name], ·⟩)
      | _ => none
  | [] => none

/-- Whether a path leads anywhere. -/
def exists? (t : FileTree) (p : Path) : Except FileError Bool :=
  match t.reach p with
  | .ok _ => .ok true
  | .error .notFound => .ok false
  | .error e => .error e

/-- Whether a path leads to a file. -/
def isFile (t : FileTree) (p : Path) : Bool :=
  match t.reach p with
  | .ok ⟨_, .file ..⟩ => true
  | _ => false

/-- The bytes of a file. -/
def read (t : FileTree) (p : Path) : Except FileError Bytes :=
  match t.reach p with
  | .ok ⟨_, .file content _⟩ => .ok content
  | .ok ⟨_, .device⟩ => .ok []
  | .ok _ => .error .isDirectory
  | .error e => .error e

def readText (t : FileTree) (p : Path) : Except FileError String :=
  match t.read p with
  | .ok content =>
    match Text.decode? content with
    | some cs => .ok (String.ofList cs)
    | none => .error .notText
  | .error e => .error e

/-- The names of what stands in a directory, sorted by their bytes. -/
def entries (t : FileTree) (l : Location) : List Bytes :=
  let inside := t.places.filter fun k => k.dropLast == l && (t.node? k).isSome
  (inside.filterMap List.getLast?).mergeSort (fun a b => !(b < a))

/-- The tree with relative paths starting from the directory `l`. -/
def withBase (t : FileTree) (l : Location) : FileTree := { t with base := l }

def pathOf (l : Location) : Path := ⟨slash :: joinSlash l⟩

end FileTree
end LintRelay
