import LintRelay.FileTree.Change
import LintRelay.Shell.Octets

/-!
# Tools

The small programs that scripts are glued together from. A tool reads its arguments, its input and
the files, and says what it prints, how it ends and which files it leaves behind.

A tool first sorts its arguments into options and operands; an option that it does not know ends
it. A file that it cannot read is complained about, and the tool goes on with the next one.
-/

namespace LintRelay.Shell

/-- What a tool works on. -/
structure Task where
  program : Octets
  arguments : List Octets
  input : Octets
  inputIsFile : Bool
  files : FileTree

/-- What a tool leaves behind. -/
structure Work where
  said : List (Nat × Octets)
  status : Nat
  input : Octets
  files : FileTree

abbrev Tool := Task → Work

namespace Work

/-- The work with something printed behind the rest. -/
def say (w : Work) (descriptor : Nat) (text : Octets) : Work :=
  if text.isEmpty then w else { w with said := w.said ++ [(descriptor, text)] }

/-- The work with a status that is at least the given one. -/
def withStatus (w : Work) (status : Nat) : Work := { w with status := max w.status status }

end Work

namespace Task

/-- The path that an argument spells. -/
def path (cs : Octets) : Path := ⟨bytesOfOctets cs⟩

/-- The task before anything is done. -/
def begun (t : Task) : Work := ⟨[], 0, t.input, t.files⟩

/-- The task finished with some output. -/
def done (t : Task) (output : Octets) : Work := t.begun.say 1 output

/-- The task finished with a text for each line of output. -/
def doneLines (t : Task) (ls : List Octets) : Work := t.done (textOfLines ls)

/-- A complaint of the tool, as a line. -/
def complaint (t : Task) (message : Octets) : Octets :=
  t.program ++ ": ".toList ++ message ++ ['\n']

def complain (t : Task) (w : Work) (message : Octets) (status : Nat) : Work :=
  (w.say 2 (t.complaint message)).withStatus status

/-- The task finished with a failure. -/
def failed (t : Task) (message : Octets) (status : Nat) : Work :=
  t.complain t.begun message status

/-- The task refused for the way in which it was called. -/
def misused (t : Task) (message : Octets) (status : Nat) : Work :=
  (t.failed message status).say 2
    ("Try '".toList ++ t.program ++ " --help' for more information.\n".toList)

/-- Whether a character of a name is shown in messages without quotes. -/
def isPlain (c : Char) : Bool := c.isAlphanum || "_./+-:,@%^".toList.contains c

def quoted (cs : Octets) : Octets := '\'' :: cs ++ ['\'']

/-- A name as messages show it: in quotes if it has a special character. -/
def shown (cs : Octets) : Octets := if cs.all isPlain && !cs.isEmpty then cs else quoted cs

/-- A message about a file that an error of the system is the reason for. -/
def because (subject : Octets) (e : FileError) : Octets := subject ++ (": " ++ e.cause).toList

/-! ## Options -/

/-- An option that a tool knows. -/
structure Switch where
  letter : Char
  long : String
  valued : Bool

/-- Options that are single letters without values. -/
def letters (ls : String) : List Switch := ls.toList.map fun c => ⟨c, "", false⟩

/-- Options that are single letters with values. -/
def valued (ls : String) : List Switch := ls.toList.map fun c => ⟨c, "", true⟩

/-- The options that were given, with their values, and the operands. -/
structure Call where
  options : List (Char × Octets)
  operands : List Octets

namespace Call

/-- Whether an option was given. -/
def has (c : Call) (letter : Char) : Bool := c.options.any (·.1 == letter)

/-- The value of an option. The last one counts. -/
def value? (c : Call) (letter : Char) : Option Octets :=
  (c.options.reverse.find? (·.1 == letter)).map (·.2)

def values (c : Call) (letter : Char) : List Octets :=
  (c.options.filter (·.1 == letter)).map (·.2)

/-- The last of some options that was given. -/
def lastOf? (c : Call) (choice : String) : Option Char :=
  (c.options.reverse.find? (choice.toList.contains ·.1)).map (·.1)

/-- The call with one more option in front. -/
def withOption (c : Call) (letter : Char) (value : Octets) : Call :=
  { c with options := (letter, value) :: c.options }

/-- The call with one more operand in front. -/
def withOperand (c : Call) (operand : Octets) : Call :=
  { c with operands := operand :: c.operands }

end Call

/-- Reads the letters of an argument. Gives the options, and the letter of the last one if its value
is the next argument. -/
def readLetters (known : List Switch) : Octets → Except Octets (List (Char × Octets) × Option Char)
  | [] => .ok ([], none)
  | c :: cs =>
    match known.find? (·.letter == c) with
    | none => .error ("invalid option -- ".toList ++ quoted [c])
    | some s =>
      if s.valued then
        if cs.isEmpty then .ok ([], some c) else .ok ([(c, cs)], none)
      else do
        let (os, last) ← readLetters known cs
        return ((c, []) :: os, last)

/-- The option that a long name stands for: the one of that name, or the only one that begins with
it. -/
def longOption? (known : List Switch) (name : Octets) : Option Switch :=
  let name := String.ofList name
  match known.find? fun s => !s.long.isEmpty && s.long == name with
  | some s => some s
  | none =>
    match known.filter fun s => name.toList.isPrefixOf s.long.toList with
    | [s] => some s
    | _ => none

/-- What an argument that begins with a dash says: options, and perhaps an option whose value is the
next argument, with the complaint if there is none. -/
def readOptions (known : List Switch) (a : Octets) :
    Except Octets (List (Char × Octets) × Option (Char × Octets)) :=
  match a with
  | '-' :: '-' :: name =>
    let (key, value) := name.span (· != '=')
    match longOption? known key, value with
    | none, _ => .error ("unrecognized option ".toList ++ quoted ('-' :: '-' :: key))
    | some s, _ :: value =>
      if s.valued then .ok ([(s.letter, value)], none)
      else .error ("option ".toList ++ quoted ('-' :: '-' :: s.long.toList) ++
        " doesn't allow an argument".toList)
    | some s, [] =>
      if s.valued then
        .ok ([], some (s.letter,
          "option ".toList ++ quoted ('-' :: '-' :: s.long.toList) ++
            " requires an argument".toList))
      else .ok ([(s.letter, [])], none)
  | _ => do
    let (os, last) ← readLetters known (a.drop 1)
    return (os, last.map fun c => (c, "option requires an argument -- ".toList ++ quoted [c]))

/-- Sorts arguments into options and operands. With `mixed` options may follow operands. `waiting` is
an option that waits for its value. -/
def readCall (known : List Switch) (mixed : Bool) :
    Option (Char × Octets) → List Octets → Except Octets Call
  | none, [] => .ok ⟨[], []⟩
  | some (_, complaint), [] => .error complaint
  | some (letter, _), a :: as => (readCall known mixed none as).map (·.withOption letter a)
  | none, a :: as =>
    if a == ['-', '-'] then .ok ⟨[], as⟩
    else if a.head? == some '-' && a.length > 1 then do
      let (os, waiting) ← readOptions known a
      let call ← readCall known mixed waiting as
      return { call with options := os ++ call.options }
    else if mixed then (readCall known mixed none as).map (·.withOperand a)
    else .ok ⟨[], a :: as⟩

/-- Runs a tool on its options and operands. Where they are wrong, it ends with `status`. -/
def called (t : Task) (known : List Switch) (status : Nat) (run : Call → Work) : Work :=
  match readCall known true none t.arguments with
  | .ok call => run call
  | .error e => t.misused e status

/-! ## Contents -/

/-- The content of a file, where `-` is the input. -/
def content (t : Task) (name : Octets) : Except FileError Octets :=
  if name == ['-'] || name == "/dev/stdin".toList then .ok t.input
  else (t.files.read (path name)).map octetsOf

/-- The names that a tool reads: the operands, or the input if there are none. -/
def namesOf (operands : List Octets) : List Octets :=
  if operands.isEmpty then [['-']] else operands

/-- Whether a tool that reads the given names reads the input. -/
def readsInput (names : List Octets) : Bool :=
  names.any fun n => n == ['-'] || n == "/dev/stdin".toList

/-- Goes through named contents. `f` takes the work so far, the place of the name among those that
could be read, the name and its content. `describe` puts what a file that cannot be read is
complained about with. -/
def through (t : Task) (names : List Octets) (describe : Octets → FileError → Octets) (status : Nat)
    (f : Work → Nat → Octets → Octets → Work) : Work :=
  let start := { t.begun with input := if readsInput names then [] else t.input }
  (names.foldl (fun (w, n) name =>
    match t.content name with
    | .ok cs => (f w n name cs, n + 1)
    | .error e => (t.complain w (describe name e) status, n)) (start, 0)).1

/-- What most tools say of a file that they cannot read. -/
def unreadable (name : Octets) (e : FileError) : Octets := because (shown name) e

/-- The task finished by a function of all named contents together. -/
def filtered (t : Task) (operands : List Octets) (f : Octets → Octets) : Work :=
  let names := namesOf operands
  let all := names.flatMap fun name => ((t.content name).toOption).getD []
  (t.through names unreadable 1 fun w _ _ _ => w).say 1 (f all)

/-- Changes the files for each name in turn. `f` says what is left, or why it fails. -/
def forNames (t : Task) (names : List Octets) (f : FileTree → Octets → Except Octets FileTree) :
    Work :=
  names.foldl (fun w name =>
    match f w.files name with
    | .ok files => { w with files }
    | .error e => t.complain w e 1) t.begun

end Task
end LintRelay.Shell
