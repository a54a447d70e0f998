import LintRelay.FileTree.Basic

/-!
# Changing file trees

Files, directories and links are put into a tree, with the directories above them as far as they are
missing, and taken out with all that is below them.
-/

namespace LintRelay

inductive FileChange where
  | write (path : Path) (content : Bytes) (executable : Bool)
  | makeDirectory (path : Path)
  | makeLink (path : Path) (target : Bytes)
  | makeDevice (path : Path)
  | remove (path : Path)

namespace FileTree

/-- The tree without files, in which relative paths start from the root. -/
def bare : FileTree := ⟨fun _ => none, [], []⟩

/-- Puts a node at a location. -/
def put (t : FileTree) (l : Location) (n : FileNode) : FileTree :=
  { t with
    node? := fun k => if k = l then some n else t.node? k
    places := if t.places.contains l then t.places else l :: t.places }

/-- Takes out a location and all below it. -/
def prune (t : FileTree) (l : Location) : FileTree :=
  { t with
    node? := fun k => if l.isPrefixOf k then none else t.node? k
    places := t.places.filter fun k => !l.isPrefixOf k }

/-- Makes the directories along the names `names` below `dir`, as far as nothing stands there, and
gives the location of the last one. -/
def makeAlong (t : FileTree) : Location → List Bytes → FileTree × Location
  | dir, [] => (t, dir)
  | dir, s :: rest =>
    if isTrivial s then makeAlong t dir rest
    else if s == [dot, dot] then makeAlong t dir.dropLast rest
    else
      match t.follow linkBudget dir [s] with
      | .ok r => makeAlong t r.location rest
      | .error _ => makeAlong (t.put (dir ++ [s]) .directory) (dir ++ [s]) rest

/-- The location at which a path puts something, once the directories above it are made. -/
def placeFor (t : FileTree) (p : Path) : FileTree × Location :=
  let start := if p.isAbsolute then [] else t.base
  match (splitSlash p.bytes).reverse.dropWhile isTrivial with
  | [] => (t, start)
  | name :: above =>
    let (t, dir) := t.makeAlong start above.reverse
    (t, dir ++ [name])

/-- Writes a file; where a link stands, the file that it leads to. -/
def writeFile (t : FileTree) (p : Path) (content : Bytes) (executable : Bool) : FileTree :=
  match t.reach p with
  | .ok r => t.put r.location (.file content executable)
  | .error _ =>
    let (t, l) := t.placeFor p
    t.put l (.file content executable)

def change (t : FileTree) : FileChange → FileTree
  | .write p content executable => t.writeFile p content executable
  | .makeDirectory p =>
    let start := if p.isAbsolute then [] else t.base
    (t.makeAlong start (splitSlash p.bytes)).1
  | .makeLink p target =>
    let (t, l) := t.placeFor p
    t.put l (.link target)
  | .makeDevice p =>
    let (t, l) := t.placeFor p
    t.put l .device
  | .remove p =>
    let (t, l) := t.placeFor p
    t.prune l

/-- The location of the file that is written for a path: one that is there, or a new one in a
directory that is there. -/
def writable (t : FileTree) (p : Path) : Except FileError Location :=
  match t.reach p with
  | .ok ⟨l, .file ..⟩ => .ok l
  | .ok _ => .error .isDirectory
  | .error .notFound =>
    match (splitSlash p.bytes).reverse with
    | name :: above =>
      if isTrivial name then .error .notFound
      else
        match t.follow linkBudget (if p.isAbsolute then [] else t.base) above.reverse with
        | .ok ⟨l, .directory⟩ => .ok (l ++ [name])
        | .ok _ => .error .notDirectory
        | .error e => .error e
    | [] => .error .notFound
  | .error e => .error e

/-- Makes changes one after the other. -/
def changeAll (t : FileTree) (cs : List FileChange) : FileTree := cs.foldl change t

end FileTree
end LintRelay
