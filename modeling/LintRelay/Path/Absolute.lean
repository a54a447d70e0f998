import LintRelay.Path.Basic

/-!
# Absolute spellings

A path is made absolute without looking at any file. Its components are kept, `..` among them, and
written with one slash between each two. A slash at the end stays, since it says that a directory is
meant, and so do exactly two slashes at the front, which may have a meaning of their own.
-/

namespace LintRelay.Path

/-- Whether the path begins with two slashes and no third. -/
def hasDoubleRoot (p : Path) : Bool :=
  [slash, slash].isPrefixOf p.bytes && !([slash, slash, slash].isPrefixOf p.bytes)

/-- The components of a path as they go on after the directory it is taken from. -/
def steps (p : Path) : List Component := p.components.filter (· != .current)

/-- Goes on from a path by components. -/
def extend (p : Path) (cs : List Component) : Path := cs.foldl (fun q c => q.join ⟨c.bytes⟩) p

/-- The path, taken from the directory `dir` where it is relative. -/
def absoluteFrom (p dir : Path) : Path :=
  let q :=
    if p.hasDoubleRoot then (ofString "//").extend (p.steps.drop 1)
    else if p.isAbsolute then empty.extend p.steps
    else dir.extend p.steps
  if p.bytes.getLast? == some slash then q.join empty else q

end LintRelay.Path
