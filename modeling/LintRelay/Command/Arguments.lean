import LintRelay.Command.Usage
import LintRelay.Path.Basic

/-!
# Reading the command line

The words are read from left to right. A switch that takes a value takes it after an equals sign, or
after its letter, or as the next word; in the last case it waits for it, and what it waits for is
settled when the next switch or file comes, or at the end. So an error in a later word may come
before that of a waiting value. After `--` every word is an operand.

The switches of the program may be given again after the command. A settings file that is given
there wins.
-/

namespace LintRelay.Command

/-- How results are printed. -/
inductive Format where
  | text
  | json
  deriving Repr, DecidableEq

structure LintOptions where
  file : Path
  fix : Bool
  single : Bool
  format : Format
  deriving Repr, DecidableEq

/-- What the program is asked to do. -/
inductive Action where
  | lint (options : LintOptions)
  | serve
  deriving Repr, DecidableEq

/-- A command line that was read. -/
structure Request where
  config : Option Path
  verbose : Bool
  action : Action
  deriving Repr, DecidableEq

/-- How reading ends where there is nothing to do. -/
inductive Stopped where
  | help (c : Scope)
  | version
  | refused (r : Refusal)
  deriving Repr, DecidableEq

def dash : UInt8 := 0x2D

def equalsSign : UInt8 := 0x3D

/-- What a word looks like. -/
inductive Word where
  /-- Two dashes. -/
  | escape
  | named (name : Bytes) (value : Option Bytes)
  /-- Letters after one dash. -/
  | letters (letters : Bytes)
  | plain
  deriving Repr, DecidableEq

/-- What a word looks like. -/
def Word.ofBytes : Bytes → Word
  | a :: b :: rest =>
    if a != dash then .plain
    else if b != dash then .letters (b :: rest)
    else if rest.isEmpty then .escape
    else
      match rest.span (· != equalsSign) with
      | (name, []) => .named name none
      | (name, _ :: value) => .named name (some value)
  | _ => .plain

/-- What was read of one part of the command line. -/
structure Reading where
  settled : List (Operand × Bytes)
  /-- The last operand that came without its value, with what came for it since. -/
  waiting : Option (Operand × Option Bytes)
  deriving Repr, DecidableEq

namespace Reading

/-- The reading before the first word. -/
def start : Reading := ⟨[], none⟩

/-- The switches that are settled. -/
def given (r : Reading) : List Switch :=
  r.settled.filterMap fun
    | (.switch s, _) => some s
    | _ => none

/-- The value of an operand that is settled. -/
def value? (r : Reading) (o : Operand) : Option Bytes :=
  (r.settled.find? fun e => e.1 == o).map (·.2)

/-- Whether a switch is given. -/
def has (r : Reading) (s : Switch) : Bool := r.given.contains s

/-- Whether a switch waits for its value. -/
def awaits (r : Reading) : Bool :=
  match r.waiting with
  | some (_, none) => true
  | _ => false

def hasFile (r : Reading) : Bool :=
  (r.value? .file).isSome || (r.waiting.any fun w => w.1 == .file)

end Reading

/-- Refuses a command line in a part, with its whole usage. -/
def refuse {α : Type} (c : Scope) (cause : Misuse) : Except Stopped α :=
  .error (.refused ⟨c, [], cause⟩)

/-- Settles an operand with its value. -/
def Reading.put (c : Scope) (r : Reading) (o : Operand) (value : Bytes) :
    Except Stopped Reading :=
  let known := { r with settled := r.settled ++ [(o, value)] }
  match o with
  | .file => if value.isEmpty then refuse c (.valueMissing o) else .ok known
  | .switch .help => .error (.help c)
  | .switch .version => .error .version
  | .switch s =>
    if r.has s then refuse c (.repeated s)
    else if s.value?.isNone then .ok known
    else if value.isEmpty then refuse c (.valueMissing o)
    else if s.values.isEmpty || (s.values.map Text.bytesOf).contains value then .ok known
    else refuse c (.valueInvalid s (Text.lossy value))

def Reading.settle (c : Scope) (r : Reading) : Except Stopped Reading :=
  match r.waiting with
  | none => .ok r
  | some (o, none) => refuse c (.valueMissing o)
  | some (o, some value) => ({ r with waiting := none } : Reading).put c o value

/-- The reading as far as what waits can be settled. -/
def Reading.settledSoFar (c : Scope) (r : Reading) : Reading :=
  match r.settle c with
  | .ok r => r
  | .error _ => r

/-- Takes a switch with the value that is attached to it. -/
def Reading.takeSwitch (c : Scope) (r : Reading) (s : Switch) (attached : Option Bytes) :
    Except Stopped Reading := do
  let r ← r.settle c
  if s.value?.isNone then r.put c (.switch s) []
  else
    match attached with
    | some value => r.put c (.switch s) value
    | none => return { r with waiting := some (.switch s, none) }

/-- The switch of a part that is meant by a name. -/
def meantSwitch? (c : Scope) (name : String) : Option Switch :=
  (mostSimilar? name (c.switches.map Switch.name)).bind fun n => c.switches.find? (·.name == n)

/-- The switch of a command among later words that is meant by a name. The first such command
counts. -/
def meantLater? (name : String) (later : List Bytes) : Option (Scope × Switch) :=
  later.findSome? fun w => (Scope.ofWord? w).bind fun c => (meantSwitch? c name).map (c, ·)

/-- What may be meant by a name that is no switch of a part, with the words behind it. -/
def tipFor (c : Scope) (name : String) (later : List Bytes) : Option Tip :=
  match meantSwitch? c name with
  | some s => some (.switch s)
  | none =>
    match if c = .program then meantLater? name later else none with
    | some (command, s) => some (.switchOf command s)
    | none => if c = .lint then some .file else none

/-- Refuses a name that is no switch of a part. The usage shows the switch that is meant. -/
def refuseName {α : Type} (c : Scope) (given : List Switch) (name : String) (later : List Bytes) :
    Except Stopped α :=
  let tip := tipFor c name later
  let shown :=
    match tip with
    | some (.switch s) => if given.contains s then given else given ++ [s]
    | _ => given
  .error (.refused ⟨c, shown, .unexpected ("--" ++ name) tip⟩)

/-- Reads a switch that is given by its name. -/
def Reading.named (c : Scope) (r : Reading) (name : Bytes) (value : Option Bytes)
    (later : List Bytes) : Except Stopped Reading :=
  match c.switches.find? fun s => Text.bytesOf s.name == name, value with
  | some s, some v =>
    if s.value?.isNone then
      .error (.refused ⟨c, (r.settledSoFar c).given ++ [s], .valueUnwanted s (Text.lossy v)⟩)
    else r.takeSwitch c s value
  | some s, none => r.takeSwitch c s none
  | none, _ => refuseName c (r.settledSoFar c).given (Text.lossy name) later

/-- How a byte sequence that is no switch is shown: by its first character, or in whole where that
is malformed. -/
def firstShown (b : UInt8) (bs : Bytes) : String :=
  match Text.lead b bs with
  | .scalar ch _ => ch.toString
  | .malformed _ => Text.lossy (b :: bs)

/-- Reads switches that are given by their letters. What follows the letter of a switch with a value
is the value. -/
def Reading.lettered (c : Scope) : Reading → Bytes → Except Stopped Reading
  | r, [] => .ok r
  | r, b :: bs =>
    match c.switches.find? fun s => s.letter?.any fun ch => ch.toNat == b.toNat with
    | some s =>
      if s.value?.isNone then
        match r.takeSwitch c s none with
        | .ok r => Reading.lettered c r bs
        | .error e => .error e
      else if bs.isEmpty then r.takeSwitch c s none
      else r.takeSwitch c s (some (if bs.head? == some equalsSign then bs.drop 1 else bs))
    | none =>
      refuse c (.unexpected ("-" ++ firstShown b bs) (if c = .lint then some .file else none))

/-- Reads a word that stands for itself. -/
def Reading.operand (c : Scope) (r : Reading) (escaped : Bool) (word : Bytes) :
    Except Stopped Reading :=
  let shown := Text.lossy word
  match c with
  | .lint =>
    if r.hasFile then refuse c (.unexpected shown none)
    else (r.settle c).map fun r => { r with waiting := some (.file, some word) }
  | .program =>
    if escaped && (Scope.ofWord? word).isSome then refuse c (.unexpected shown (some .command))
    else refuse c (.commandUnknown shown (similarWords shown (Scope.commands.map Scope.word)))
  | .serve | .help => refuse c (.unexpected shown none)

/-- Reads one word before `--`, with the words behind it. -/
def Reading.word (c : Scope) (r : Reading) (word : Bytes) (later : List Bytes) :
    Except Stopped Reading :=
  match Word.ofBytes word with
  | .named name value => r.named c name value later
  | .letters letters => r.lettered c letters
  | .escape | .plain =>
    match r.waiting with
    | some (o, none) => .ok { r with waiting := some (o, some word) }
    | _ => r.operand c false word

/-- Reads the words of a part, up to a command where the part is the program. -/
def readWords (c : Scope) : Bool → Reading → List Bytes →
    Except Stopped (Reading × Option (Scope × List Bytes))
  | _, r, [] => .ok (r, none)
  | true, r, w :: ws =>
    match r.operand c true w with
    | .ok r => readWords c true r ws
    | .error e => .error e
  | false, r, w :: ws =>
    match if c = .program && !r.awaits then Scope.ofWord? w else none with
    | some command => .ok (r, some (command, ws))
    | none =>
      if Word.ofBytes w = .escape then readWords c true r ws
      else
        match r.word c w ws with
        | .ok r => readWords c false r ws
        | .error e => .error e

/-- Refuses two switches that exclude each other, and a lint without a file. -/
def checkLint (r : Reading) : Except Stopped Unit :=
  match r.given.filter fun s => s == .fix || s == .single with
  | first :: second :: _ =>
    .error (.refused ⟨.lint, r.given.filter (· != second), .conflict first second⟩)
  | _ =>
    if (r.value? .file).isNone then .error (.refused ⟨.lint, r.given, .fileMissing⟩) else .ok ()

def formatOf (r : Reading) : Format :=
  if r.value? (.switch .format) == some (Text.bytesOf "json") then .json else .text

/-- Reads the words after a command. -/
def readCommand (c : Scope) (words : List Bytes) : Except Stopped (Reading × Action) := do
  let (r, _) ← readWords c false .start words
  let r ← r.settle c
  if c = .lint then
    checkLint r
    return (r, .lint {
      file := ⟨(r.value? .file).getD []⟩
      fix := r.has .fix
      single := r.has .single
      format := formatOf r })
  else return (r, .serve)

/-- What the help command shows for the words after it. -/
def readHelp : List Bytes → Stopped
  | [] => .help .program
  | [w] =>
    match Scope.ofWord? w with
    | some c => .help c
    | none => .refused ⟨.program, [], .commandUnknown (Text.lossy w) []⟩
  | w :: v :: _ =>
    match Scope.ofWord? w with
    | some c => .refused ⟨c, [], .commandUnknown (Text.lossy v) []⟩
    | none => .refused ⟨.program, [], .commandUnknown (Text.lossy w) []⟩

/-- Reads a command line. -/
def read (words : List Bytes) : Except Stopped Request := do
  match ← readWords .program false .start words with
  | (_, some (.help, rest)) => throw (readHelp rest)
  | (outer, some (command, rest)) =>
    let (inner, action) ← readCommand command rest
    let outer ← outer.settle .program
    let config := inner.value? (.switch .config) <|> outer.value? (.switch .config)
    return ⟨config.map Path.mk, inner.has .verbose || outer.has .verbose, action⟩
  | (outer, none) =>
    let outer ← outer.settle .program
    refuse .program (if outer.settled.isEmpty then .nothingGiven else .commandMissing)

end LintRelay.Command
