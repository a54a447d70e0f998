import LintRelay.Command.Similar
import LintRelay.Product
import LintRelay.Text.Utf8

/-!
# The command line and its wording

The program has the commands `lint` and `lsp`, each with its switches, and `help`, which shows the
help of the others. Help is laid out in sections of two columns. A command line that cannot be read
is refused with its cause and the usage of the command at which reading stopped.
-/

namespace LintRelay.Command

/-- A part of the command line with switches of its own: the program before its command, or a
command. -/
inductive Scope where
  | program
  | lint
  | serve
  | help
  deriving Repr, DecidableEq

/-- A switch, given by its name after two dashes or its letter after one. -/
inductive Switch where
  | fix
  | single
  | config
  | format
  | verbose
  | help
  | version
  deriving Repr, DecidableEq

/-- Something that a command line gives. -/
inductive Operand where
  | switch (s : Switch)
  | file
  deriving Repr, DecidableEq

/-- What may have been meant by a word that is refused. -/
inductive Tip where
  | switch (s : Switch)
  /-- A switch of a command that is given later. -/
  | switchOf (c : Scope) (s : Switch)
  /-- A file that looks like a switch. -/
  | file
  | command
  deriving Repr, DecidableEq

/-- Why a command line is refused. -/
inductive Misuse where
  | nothingGiven
  | commandMissing
  | commandUnknown (word : String) (similar : List String)
  /-- There is no such switch, or nothing is left for the word to be. -/
  | unexpected (word : String) (tip : Option Tip)
  /-- A value is missing or empty. -/
  | valueMissing (operand : Operand)
  | valueInvalid (s : Switch) (value : String)
  | valueUnwanted (s : Switch) (value : String)
  | repeated (s : Switch)
  | conflict (first second : Switch)
  | fileMissing
  deriving Repr, DecidableEq

namespace Switch

def name : Switch → String
  | .fix => "fix"
  | .single => "single"
  | .config => "config"
  | .format => "format"
  | .verbose => "verbose"
  | .help => "help"
  | .version => "version"

def letter? : Switch → Option Char
  | .config => some 'c'
  | .format => some 'f'
  | .verbose => some 'v'
  | .help => some 'h'
  | .version => some 'V'
  | .fix | .single => none

/-- What the value of a switch is called, for those that have one. -/
def value? : Switch → Option String
  | .config => some "CONFIG"
  | .format => some "FORMAT"
  | _ => none

/-- The values that a switch may have, where not every value will do. -/
def values : Switch → List String
  | .format => ["text", "json"]
  | _ => []

def purpose : Switch → String
  | .fix => "Let tslint fix what it can"
  | .single => "Lint only this file instead of its whole project"
  | .config => "Bridge settings file path"
  | .format => "Output format [default: text] [possible values: text, json]"
  | .verbose => "Enable verbose output"
  | .help => "Print help"
  | .version => "Print version"

/-- A switch with its value, as messages show it. -/
def label (s : Switch) : String :=
  "--" ++ s.name ++ (s.value?.map fun v => " <" ++ v ++ ">").getD ""

/-- A switch in the help, with its letter or a gap in its place. -/
def column (s : Switch) : String :=
  ((s.letter?.map fun c => "-" ++ c.toString ++ ", ").getD "    ") ++ s.label

end Switch

/-- An operand as messages show it. -/
def Operand.label : Operand → String
  | .switch s => s.label
  | .file => "<FILE>"

/-- The values that an operand may have, where not every value will do. -/
def Operand.values : Operand → List String
  | .switch s => s.values
  | .file => []

namespace Scope

/-- The commands in the order of the help. -/
def commands : List Scope := [.lint, .serve, .help]

def word : Scope → String
  | .program => productName
  | .lint => "lint"
  | .serve => "lsp"
  | .help => "help"

/-- The command that a word calls. -/
def ofWord? (word : Bytes) : Option Scope :=
  commands.find? fun c => Text.bytesOf c.word == word

/-- The switches of a part, in the order of the help. -/
def switches : Scope → List Switch
  | .program => [.config, .verbose, .help, .version]
  | .lint => [.fix, .single, .config, .format, .verbose, .help]
  | .serve => [.config, .verbose, .help]
  | .help => []

def purpose : Scope → String
  | .program => "Bridges tslint diagnostics into editors over LSP"
  | .lint => "Lint the project containing a file, or just the file"
  | .serve => "Start the LSP server"
  | .help => "Print this message or the help of the given subcommand(s)"

/-- The words that call a part. -/
def call : Scope → String
  | .program => productName
  | c => productName ++ " " ++ c.word

/-- What a part has besides switches. -/
def operands : Scope → List String
  | .program => ["<COMMAND>"]
  | .lint => [Operand.file.label]
  | .serve => []
  | .help => ["[COMMAND]..."]

/-- How a part is used where the switches `given` are given. -/
def usage (c : Scope) (given : List Switch) : String :=
  let switches :=
    if given.isEmpty then if c.switches.isEmpty then [] else ["[OPTIONS]"]
    else given.map Switch.label
  "Usage: " ++ " ".intercalate (c.call :: switches ++ c.operands)

end Scope

/-- A text filled with blanks up to a width. -/
def fill (width : Nat) (s : String) : String :=
  s ++ String.ofList (List.replicate (width - s.length) ' ')

/-- A section of the help: rows of two columns under a title. -/
def helpSection (title : String) (rows : List (String × String)) : String :=
  let width := rows.foldl (fun n r => max n r.1.length) 0
  if rows.isEmpty then ""
  else
    "\n" ++ title ++ ":\n" ++
      String.join (rows.map fun r => "  " ++ fill width r.1 ++ "  " ++ r.2 ++ "\n")

def operandRows : Scope → List (String × String)
  | .lint => [(Operand.file.label, "File to lint")]
  | .help => [("[COMMAND]...", "Print help for the subcommand(s)")]
  | .program | .serve => []

def commandRows : Scope → List (String × String)
  | .program => Scope.commands.map fun c => (c.word, c.purpose)
  | _ => []

def helpText (c : Scope) : String :=
  c.purpose ++ "\n\n" ++ c.usage [] ++ "\n" ++
    helpSection "Commands" (commandRows c) ++
    helpSection "Arguments" (operandRows c) ++
    helpSection "Options" (c.switches.map fun s => (s.column, s.purpose))

/-- What the version switch prints. -/
def versionText : String := productName ++ " " ++ productVersion ++ "\n"

/-- A list of values below a message. -/
def valueList (title : String) (values : List String) : String :=
  if values.isEmpty then "" else "\n  [" ++ title ++ ": " ++ ", ".intercalate values ++ "]"

/-- A tip below a message. -/
def tipText (text : String) : String := "\n\n  tip: " ++ text

/-- A tip that shows similar words of a kind. -/
def similarText (kind : String) (words : List String) : String :=
  let shown := ", ".intercalate (words.map fun w => "'" ++ w ++ "'")
  match words with
  | [] => ""
  | [_] => tipText ("a similar " ++ kind ++ " exists: " ++ shown)
  | _ => tipText ("some similar " ++ kind ++ "s exist: " ++ shown)

/-- The wording of a tip for a word. -/
def Tip.message (word : String) : Tip → String
  | .switch s => similarText "argument" ["--" ++ s.name]
  | .switchOf c s => tipText ("'" ++ c.word ++ " --" ++ s.name ++ "' exists")
  | .file => tipText ("to pass '" ++ word ++ "' as a value, use '-- " ++ word ++ "'")
  | .command => tipText ("subcommand '" ++ word ++ "' exists; to use it, remove the '--' before it")

namespace Misuse

/-- The wording of a cause. -/
def message : Misuse → String
  | .nothingGiven => ""
  | .commandMissing =>
    "'" ++ productName ++ "' requires a subcommand but one was not provided" ++
      valueList "subcommands" (Scope.commands.map Scope.word)
  | .commandUnknown word similar =>
    "unrecognized subcommand '" ++ word ++ "'" ++ similarText "subcommand" similar
  | .unexpected word tip =>
    "unexpected argument '" ++ word ++ "' found" ++ (tip.map (Tip.message word)).getD ""
  | .valueMissing o =>
    "a value is required for '" ++ o.label ++ "' but none was supplied" ++
      valueList "possible values" o.values
  | .valueInvalid s value =>
    "invalid value '" ++ value ++ "' for '" ++ s.label ++ "'" ++
      valueList "possible values" s.values ++
      similarText "value" (mostSimilar? value s.values).toList
  | .valueUnwanted s value =>
    "unexpected value '" ++ value ++ "' for '" ++ s.label ++ "' found; no more were expected"
  | .repeated s => "the argument '" ++ s.label ++ "' cannot be used multiple times"
  | .conflict first second =>
    "the argument '" ++ first.label ++ "' cannot be used with '" ++ second.label ++ "'"
  | .fileMissing =>
    "the following required arguments were not provided:\n  " ++ Operand.file.label

/-- Whether the usage is shown with a cause. A wrong value says enough itself. -/
def showsUsage : Misuse → Bool
  | .valueMissing _ | .valueInvalid .. => false
  | _ => true

end Misuse

/-- A refused command line: the part at which reading stopped, the switches whose use it shows, and
the cause. -/
structure Refusal where
  scope : Scope
  given : List Switch
  cause : Misuse
  deriving Repr, DecidableEq

/-- What is printed for a refused command line. Where nothing is given, that is the help. -/
def Refusal.text (r : Refusal) : String :=
  match r.cause with
  | .nothingGiven => helpText r.scope
  | cause =>
    "error: " ++ cause.message ++
      (if cause.showsUsage then "\n\n" ++ r.scope.usage r.given else "") ++
      "\n\nFor more information, try '--help'.\n"

end LintRelay.Command
