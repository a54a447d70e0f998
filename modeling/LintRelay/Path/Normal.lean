import LintRelay.Path.Basic

/-!
# Lexical normal form

Normalizing folds `.` and `..` without looking at any file: `.` vanishes, `..` removes the component
before it. Where nothing but the root stands before it, or nothing at all, `..` stays; a `..` that
stayed is itself removed by the next one.
-/

namespace LintRelay

/-- Puts a component behind components that are already normal, last one first. -/
def Component.fold (before : List Component) : Component → List Component
  | .current => before
  | .up =>
    match before with
    | [] => [.up]
    | .root :: rest => .up :: .root :: rest
    | _ :: rest => rest
  | c => c :: before

/-- The spelling of components, with one slash between each two. -/
def Path.ofComponents : List Component → Path
  | .root :: cs => ⟨slash :: joinSlash (cs.map Component.bytes)⟩
  | cs => ⟨joinSlash (cs.map Component.bytes)⟩

def Path.normalComponents (p : Path) : List Component :=
  (p.components.foldl Component.fold []).reverse

/-- The lexical normal form. -/
def Path.normalize (p : Path) : Path := .ofComponents p.normalComponents

/-- The path `p` as seen from the directory `dir`, in normal form. -/
def Path.resolve (dir p : Path) : Path := (dir.join p).normalize

end LintRelay
