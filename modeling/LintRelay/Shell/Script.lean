import LintRelay.Shell.Octets

/-!
# Shell scripts

A linter may be a script in the shell command language. This module holds the commands that such a
script is made of: words, which are expanded before they are used, redirections, and the commands
built from them.
-/

namespace LintRelay.Shell

/-- What is taken for the value of a parameter. With `orEmpty` an empty parameter counts as unset. -/
inductive Adjustment where
  | value
  | length
  /-- The word, if the parameter is unset. -/
  | default (orEmpty : Bool)
  | assign (orEmpty : Bool)
  | demand (orEmpty : Bool)
  /-- The word, unless the parameter is unset. -/
  | alternative (orEmpty : Bool)
  | dropFront (longest : Bool)
  | dropEnd (longest : Bool)
  deriving Repr, DecidableEq

/-- A piece of a word. A quoted piece is neither split into fields nor read as a pattern. -/
inductive Piece where
  | text (octets : Octets) (quoted : Bool)
  | parameter (name : String) (adjustment : Adjustment) (word : List Piece) (quoted : Bool)
  | output (source : Octets) (quoted : Bool)
  | arithmetic (expression : List Piece) (quoted : Bool)
  | home
  /-- A parameter with an adjustment that does not exist. -/
  | malformed

/-- A word before its expansion. -/
abbrev Word := List Piece

/-- What a redirection does to a descriptor. -/
inductive RedirectKind where
  | read
  | write
  /-- Writes, even if a file that is there is to be kept. -/
  | overwrite
  | append
  /-- Makes it a copy of the descriptor that the word names, or closes it for `-`. -/
  | duplicate
  | inline
  deriving Repr, DecidableEq

structure Redirect where
  descriptor : Nat
  kind : RedirectKind
  target : Word

inductive Command where
  | nothing
  /-- A program with its arguments, on the given line of the script. -/
  | simple (line : Nat) (assignments : List (String × Word)) (words : List Word)
      (redirects : List Redirect)
  | pipeline (stages : List Command)
  | negation (body : Command)
  | both (first second : Command)
  | either (first second : Command)
  | sequence (first second : Command)
  | background (body : Command)
  | group (body : Command) (redirects : List Redirect)
  | subshell (body : Command) (redirects : List Redirect)
  | branch (test yes no : Command)
  | loop (goal : Bool) (test body : Command)
  | each (name : String) (words : Option (List Word)) (body : Command)
  | choice (subject : Word) (arms : List (List Word × Command))
  | function (name : String) (body : Command)

instance : Inhabited Command := ⟨.nothing⟩

end LintRelay.Shell
