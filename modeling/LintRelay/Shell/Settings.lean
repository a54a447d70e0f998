import LintRelay.Shell.State

/-!
# The options of a shell

A shell has options that change how it works. They are set by letters or by names, when the shell is
started or by a command of a script, and what follows them are its parameters.
-/

namespace LintRelay.Shell

/-- The options by their names. Those that no letter sets have a digit instead. -/
def optionNames : List (String × Char) :=
  [("errexit", 'e'), ("noglob", 'f'), ("ignoreeof", 'I'), ("interactive", 'i'), ("monitor", 'm'),
    ("noexec", 'n'), ("stdin", 's'), ("xtrace", 'x'), ("verbose", 'v'), ("vi", 'V'),
    ("emacs", 'E'), ("noclobber", 'C'), ("allexport", 'a'), ("notify", 'b'), ("nounset", 'u'),
    ("privileged", 'p'), ("nolog", '1'), ("debug", '2')]

/-- What arguments say of a shell's options. -/
structure Settings where
  options : List (Char × Bool)
  /-- Whether the first operand is a script. -/
  command : Bool
  /-- Whether the options are asked for, and as which kind of list. -/
  shown : Option Bool
  /-- Whether the operands are the parameters even if there are none. -/
  closed : Bool
  operands : List Octets

namespace Settings

def none : Settings := ⟨[], false, .none, false, []⟩

/-- The settings with one more option. -/
def withOption (s : Settings) (letter : Char) (on : Bool) : Settings :=
  { s with options := s.options ++ [(letter, on)] }

/-- Reads letters that set options, or take them back. Gives how many names are to follow. `starting`
says that the shell is being started. -/
def letters (starting on : Bool) : Octets → Settings → Except Octets (Settings × Nat)
  | [], s => .ok (s, 0)
  | c :: cs, s =>
    if c == 'o' then do
      let (s, n) ← letters starting on cs s
      return (s, n + 1)
    else if c == 'c' && starting then letters starting on cs { s with command := true }
    else if c == 'l' && starting then letters starting on cs s
    else if c.isAlpha && (optionNames.any (·.2 == c)) then
      letters starting on cs (s.withOption c on)
    else .error ("Illegal option -".toList ++ [c])

/-- Reads arguments. The names of `waiting` options come next, which are set if `on`. -/
def read (starting : Bool) : Nat → Bool → List Octets → Settings → Except Octets Settings
  | waiting, on, [], s => .ok (if waiting > 0 then { s with shown := some on } else s)
  | waiting + 1, on, a :: as, s =>
    match optionNames.find? (·.1 == String.ofList a) with
    | some (_, c) => read starting waiting on as (s.withOption c on)
    | Option.none => .error ("Illegal option -o ".toList ++ a)
  | 0, _, a :: as, s =>
    match a with
    | ['-'] =>
      .ok { if starting then s else (s.withOption 'x' false).withOption 'v' false with operands := as }
    | ['-', '-'] => .ok { s with closed := !starting, operands := as }
    | '-' :: cs => do
      let (s, waiting) ← letters starting true cs s
      read starting waiting true as s
    | '+' :: cs => do
      let (s, waiting) ← letters starting false cs s
      read starting waiting false as s
    | a => .ok { s with operands := a :: as }

end Settings

namespace State

/-- The state with the options that settings ask for. -/
def withSettings (s : State) (settings : Settings) : State :=
  settings.options.foldl (fun s (c, on) => s.withOption c on) s

/-- The options and whether they are set, as a table or as the commands that set them. -/
def optionList (s : State) (table : Bool) : Octets :=
  if table then
    "Current option settings\n".toList ++ textOfLines (optionNames.map fun (name, c) =>
      padRight 16 ' ' name.toList ++ (if s.has c then "on" else "off").toList)
  else
    textOfLines (optionNames.map fun (name, c) =>
      (if s.has c then "set -o " else "set +o ").toList ++ name.toList)

end State
end LintRelay.Shell
