import LintRelay.Text.Utf8

/-!
# Paths

A path is a byte sequence that slashes divide into segments. Two spellings are the same path when
their components agree: repeated and trailing slashes vanish, and so does a segment `.` unless it is
the first of a relative path; `..` stays. Paths are ordered by their components, of which the root
comes first, then `.`, then `..`, then names by their bytes; `Path.key` spells this order out.

`join`, `parent?`, `fileName?` and `extension?` work on the spelling and keep what they do not
touch as it was spelled.
-/

namespace LintRelay

/-- A path as it is spelled. -/
structure Path where
  bytes : Bytes
  deriving Repr, DecidableEq, Inhabited, Hashable

def slash : UInt8 := 0x2F

def dot : UInt8 := 0x2E

inductive Component where
  | root
  | current
  | up
  | name (bytes : Bytes)
  deriving Repr, DecidableEq

/-- The segments of a byte sequence between its slashes. -/
def splitSlash : Bytes → List Bytes
  | [] => [[]]
  | b :: bs =>
    if b == slash then [] :: splitSlash bs
    else
      match splitSlash bs with
      | [] => [[b]]
      | s :: ss => (b :: s) :: ss

/-- Segments with a slash between each two. -/
def joinSlash : List Bytes → Bytes
  | [] => []
  | [s] => s
  | s :: ss => s ++ slash :: joinSlash ss

/-- Whether a segment stands for no component: it is empty or `.`. -/
def isTrivial (segment : Bytes) : Bool := segment == [] || segment == [dot]

/-- The component that a segment stands for, if it stands for one. -/
def Component.ofSegment? (segment : Bytes) : Option Component :=
  if isTrivial segment then none
  else if segment == [dot, dot] then some .up
  else some (.name segment)

def Component.bytes : Component → Bytes
  | .root => [slash]
  | .current => [dot]
  | .up => [dot, dot]
  | .name bs => bs

/-- A component as a byte sequence whose order is the order of components. -/
def Component.key : Component → Bytes
  | .root => [0]
  | .current => [1]
  | .up => [2]
  | .name bs => 3 :: bs

/-- How a path begins. -/
inductive Anchor where
  | root
  | current
  /-- With any other segment, or it is empty. -/
  | bare
  deriving Repr, DecidableEq

/-- The component that the beginning of a path stands for. -/
def Anchor.components : Anchor → List Component
  | .root => [.root]
  | .current => [.current]
  | .bare => []

namespace Path

/-- The path that a text spells. -/
def ofString (s : String) : Path := ⟨Text.bytesOf s⟩

/-- The text of a path, with U+FFFD for what is not UTF-8. -/
def display (p : Path) : String := Text.lossy p.bytes

def empty : Path := ⟨[]⟩

/-- Whether the path begins with a slash. -/
def isAbsolute (p : Path) : Bool := p.bytes.head? == some slash

/-- Whether the path does not begin with a slash. -/
def isRelative (p : Path) : Bool := !p.isAbsolute

/-- The beginning of a path and the segments after it. -/
def parts (p : Path) : Anchor × List Bytes :=
  match splitSlash p.bytes with
  | s :: ss =>
    if p.isAbsolute then (.root, ss)
    else if s == [dot] then (.current, ss)
    else (.bare, s :: ss)
  | [] => (.bare, [])

/-- The path with the given beginning and segments. -/
def ofParts : Anchor → List Bytes → Path
  | .root, ss => ⟨slash :: joinSlash ss⟩
  | .current, [] => ⟨[dot]⟩
  | .current, ss => ⟨dot :: slash :: joinSlash ss⟩
  | .bare, ss => ⟨joinSlash ss⟩

def components (p : Path) : List Component :=
  p.parts.1.components ++ p.parts.2.filterMap Component.ofSegment?

/-- The components in a form whose order is the order of paths. -/
def key (p : Path) : List Bytes := p.components.map Component.key

/-- Whether two spellings are the same path. -/
def same (p q : Path) : Bool := p.key == q.key

/-- The path `q`, taken from `p` where it is relative. A slash is added between the two unless `p`
is empty or ends in one. -/
def join (p q : Path) : Path :=
  if q.isAbsolute then q
  else if p.bytes.getLast?.all (· == slash) then ⟨p.bytes ++ q.bytes⟩
  else ⟨p.bytes ++ slash :: q.bytes⟩

def dropTrivialEnd (segments : List Bytes) : List Bytes :=
  (segments.reverse.dropWhile isTrivial).reverse

/-- The path without its last component. The root and the empty path have no parent. -/
def parent? (p : Path) : Option Path :=
  let (anchor, segments) := p.parts
  match segments.reverse.dropWhile isTrivial with
  | _ :: before => some (ofParts anchor (dropTrivialEnd before.reverse))
  | [] => if anchor == .current then some empty else none

/-- The first `n` of the paths `p`, its parent, the parent's parent, and so on. -/
def ancestorsUpTo : Nat → Path → List Path
  | 0, _ => []
  | n + 1, p =>
    match p.parent? with
    | some q => p :: ancestorsUpTo n q
    | none => [p]

/-- The path, its parent, the parent's parent, and so on. -/
def ancestors (p : Path) : List Path := ancestorsUpTo (p.components.length + 1) p

/-- The name at the end of the path. -/
def fileName? (p : Path) : Option Bytes :=
  match p.components.getLast? with
  | some (.name bs) => some bs
  | _ => none

/-- What follows the last dot of a name. A dot in front of the name divides nothing. -/
def extensionOf? (name : Bytes) : Option Bytes :=
  match name.reverse.span (· != dot) with
  | (_, []) => none
  | (_, [_]) => none
  | (after, _) => some after.reverse

/-- What follows the last dot of the name at the end of the path. -/
def extension? (p : Path) : Option Bytes := p.fileName?.bind extensionOf?

end Path
end LintRelay
