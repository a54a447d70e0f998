import LintRelay.Shell.Arithmetic
import LintRelay.Shell.Fields
import LintRelay.Shell.Parser
import LintRelay.Shell.State

/-!
# Expansion

Before a command is run its words are expanded: parameters, the output of scripts and the values of
arithmetic expressions take the place of what names them. What comes out is divided into fields, and
a field that is a pattern stands for the files that it matches.

How a script is run for its output is left to the shell.
-/

namespace LintRelay.Shell
namespace Running

/-- The text of an expanded word that is not divided into fields. -/
def joined (items : List Item) : Running Octets := do
  return (markedWith (← get).joint items).map (·.1)

/-- Evaluates an arithmetic expression and sets the variables that it sets. -/
def arithmetic (source : Octets) : Running Octets := do
  let s ← get
  match evaluate (fun name => (s.parameter? name).getD []) source with
  | .ok (n, written) =>
    written.reverse.forM fun (name, value) => setVariable name value
    return integerText n
  | .error e => fail (e.message source)

/-- Items that divide fields where they are not quoted. -/
def dividing (items : List Item) : List Item :=
  items.map fun
    | .char c false _ => .char c false true
    | i => i

/-- The values of all parameters. Quoted, each is a field, or with `together` all are one. -/
def allParameters (together quoted : Bool) : Running (List Item) := do
  let s ← get
  if together && quoted then return itemsOf true (s.joint.intercalate s.parameters)
  return [.boundary].intercalate (s.parameters.map (itemsOf quoted))

/-- A parameter without a value where one is demanded. -/
def demanded (name : String) (orEmpty : Bool) (message : Octets) : Running α :=
  fail (name.toList ++ ": ".toList ++
    if !message.isEmpty then message
    else if orEmpty then "parameter not set or null".toList
    else "parameter not set".toList)

/-- Whether a parameter names all parameters. -/
def namesAll (name : String) : Bool := name == "@" || name == "*"

mutual

/-- Expands the pieces of a word. -/
def expand (output : Octets → Running Octets) : List Piece → Running (List Item)
  | [] => return []
  | p :: ps => do
    let items ← expandPiece output p
    return items ++ (← expand output ps)

def expandPiece (output : Octets → Running Octets) : Piece → Running (List Item)
  | .text cs quoted => return if quoted then itemsOf true cs else cs.map (.char · false false)
  | .home => return itemsOf true (((← get).binding? "HOME").getD ['~'])
  | .malformed => fail "Bad substitution".toList
  | .output source quoted => do
    return itemsOf quoted (dropEndWhile (· == '\n') (← output source))
  | .arithmetic expression quoted => do
    let source ← joined (← expand output expression)
    return itemsOf quoted (← arithmetic source)
  | .parameter name adjustment word quoted => do
    let s ← get
    let value? := s.parameter? name
    let unset (orEmpty : Bool) : Bool := value?.all fun v => orEmpty && v.isEmpty
    let strictly : Running Unit :=
      if s.has 'u' && !namesAll name && value?.isNone then demanded name false [] else return
    let own : Running (List Item) :=
      if namesAll name then allParameters (name == "*") quoted
      else return itemsOf quoted (value?.getD [])
    let chosen (items : List Item) : List Item :=
      if quoted then .present :: items else dividing items
    match adjustment with
    | .value => do
      strictly
      own
    | .length => do
      strictly
      return itemsOf quoted (digitsOf (value?.getD []).length)
    | .default orEmpty => if unset orEmpty then return chosen (← expand output word) else own
    | .assign orEmpty =>
      if unset orEmpty then
        let value ← joined (← expand output word)
        if !isName name.toList then fail (name ++ ": bad variable name").toList
        setVariable name value
        return itemsOf quoted value
      else own
    | .demand orEmpty =>
      if unset orEmpty then demanded name orEmpty (← joined (← expand output word)) else own
    | .alternative orEmpty =>
      if unset orEmpty then return if quoted then [.present] else []
      else return chosen (← expand output word)
    | .dropFront longest => do
      strictly
      let pattern := patternParts 0 (marked (← expand output word))
      return itemsOf quoted (dropMatchedFront longest pattern (value?.getD []))
    | .dropEnd longest => do
      strictly
      let pattern := patternParts 0 (marked (← expand output word))
      return itemsOf quoted (dropMatchedEnd longest pattern (value?.getD []))

end

/-- Expands a word that is not divided into fields. -/
def expandText (output : Octets → Running Octets) (w : Word) : Running Octets := do
  joined (← expand output w)

/-- Expands a word to the pattern that it spells. -/
def expandPattern (output : Octets → Running Octets) (w : Word) : Running (List PatternPart) := do
  let items ← expand output w
  return patternParts 0 (markedWith (← get).joint items)

/-- Expands a word to fields, patterns being replaced by the files that they match. -/
def expandWord (output : Octets → Running Octets) (w : Word) : Running (List Octets) := do
  let items ← expand output w
  let s ← get
  return (fields s.dividers none false items).flatMap fun field =>
    if s.has 'f' then [field.map (·.1)] else pathsFor s.files field

def expandWords (output : Octets → Running Octets) : List Word → Running (List Octets)
  | [] => return []
  | w :: ws => do
    let own ← expandWord output w
    return own ++ (← expandWords output ws)

/-- Expands words of which assignments are not divided into fields. -/
def expandDeclarations (output : Octets → Running Octets) : List Word → Running (List Octets)
  | [] => return []
  | w :: ws => do
    let own ← match Reading.assignment? w with
      | some (name, value) => do
        pure [name.toList ++ '=' :: (← expandText output value)]
      | none => expandWord output w
    return own ++ (← expandDeclarations output ws)

/-- Expands the words of a command. Behind a command that sets variables, assignments are not divided
into fields. -/
def expandCommand (output : Octets → Running Octets) : List Word → Running (List Octets)
  | [] => return []
  | w :: ws => do
    match ← expandWord output w with
    | [] => expandCommand output ws
    | [name] =>
      match String.ofList name with
      | "command" => return name :: (← expandCommand output ws)
      | "export" | "readonly" | "local" | "alias" =>
        return name :: (← expandDeclarations output ws)
      | _ => return name :: (← expandWords output ws)
    | fields => return fields ++ (← expandWords output ws)

def expandTargets (output : Octets → Running Octets) :
    List Redirect → Running (List (Nat × RedirectKind × Octets))
  | [] => return []
  | r :: rs => do
    let target ← expandText output r.target
    return (r.descriptor, r.kind, target) :: (← expandTargets output rs)

/-- Sets variables to expanded words, and gives the assignments. -/
def assign (output : Octets → Running Octets) (exported : Bool) :
    List (String × Word) → Running (List Octets)
  | [] => return []
  | (name, w) :: rest => do
    let value ← expandText output w
    setVariable name value
    if exported then
      modify fun s => s.replace name ((s.bound? name).map ({ · with exported := true }))
    return (name.toList ++ '=' :: value) :: (← assign output exported rest)

end Running
end LintRelay.Shell
