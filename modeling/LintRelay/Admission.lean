import LintRelay.Glob.Expression
import LintRelay.Path.Basic

/-!
# Which files are linted

A file is admitted when its extension is on a list and no exclude pattern matches its path, as the
path is spelled.
-/

namespace LintRelay

/-- What decides which files are linted. -/
structure Admission where
  /-- The extensions without their leading dots. -/
  extensions : List String
  excludes : List Glob

namespace Admission

/-- The extension without its leading dots. -/
def bareExtension (ext : String) : String := String.ofList (ext.toList.dropWhile (· == '.'))

/-- The admission with the given extensions and exclude patterns. Extensions of dots alone admit
nothing. -/
def ofLists (extensions exclude : List String) : Except Glob.Refusal Admission :=
  (Glob.parseAll exclude).map fun excludes =>
    ⟨(extensions.map bareExtension).filter (!·.isEmpty), excludes⟩

/-- JavaScript files, none excluded. -/
def standard : Admission := ⟨["js", "jsx"], []⟩

/-- Whether the extension of a path is on the list. -/
def hasExtension (a : Admission) (p : Path) : Bool :=
  match p.extension? with
  | some ext => a.extensions.any fun e => Text.bytesOf e == ext
  | none => false

/-- Whether a path is linted. -/
def admits (a : Admission) (p : Path) : Bool :=
  a.hasExtension p && !a.excludes.any fun g => g.accepts p.bytes

end Admission
end LintRelay
