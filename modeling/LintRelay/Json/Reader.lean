import LintRelay.Json.Lexer

/-!
# Reading JSON as a type

A `Reader α` reads a value of type `α` at the front of a text. Errors come in the order of the text:
a value of the wrong shape is refused as soon as it is met, whatever follows. Arrays and objects may
be nested up to a budget, `nestingBudget` for a whole text.

* `Reader.list`, `Reader.nullable`, `Reader.natural`, … are the readers of the shapes;
* `Record` describes a structure with named fields, and `Record.reader` reads it, from an object
  with the fields in any order or from an array with the fields in their own order;
* `value` reads any value;
* `Reader.read` reads a whole text.
-/

namespace LintRelay.Json

/-- Reads a value at the front of a text, within a budget of nested arrays and objects. -/
abbrev Reader (α : Type) := Nat → List Char → OrError (α × List Char)

/-- One more than the depth to which arrays and objects may be nested. -/
def nestingBudget : Nat := 128

/-! ## Arrays and objects -/

/-- What follows in an array or an object. -/
inductive Next where
  /-- Its end; the closing bracket is dropped. -/
  | closed (rest : List Char)
  /-- An item, or a member after the quote of its name. -/
  | more (rest : List Char)

/-- Finds the next item of an array or its end. -/
def nextItem (first : Bool) (cs : List Char) : OrError Next :=
  match skipGap cs with
  | [] => .error .eofList
  | c :: cs =>
    if c == ']' then .ok (.closed cs)
    else if first then .ok (.more (c :: cs))
    else if c == ',' then
      match skipGap cs with
      | [] => .error .eofValue
      | c :: cs => if c == ']' then .error .trailingComma else .ok (.more (c :: cs))
    else .error .expectedListCommaOrEnd

/-- Finds the next member of an object or its end. -/
def nextMember (first : Bool) (cs : List Char) : OrError Next :=
  match skipGap cs with
  | [] => .error .eofObject
  | c :: cs =>
    if c == '\x7d' then .ok (.closed cs)
    else if first then if c == '"' then .ok (.more cs) else .error .keyNotString
    else if c == ',' then
      match skipGap cs with
      | [] => .error .eofValue
      | c :: cs =>
        if c == '"' then .ok (.more cs)
        else if c == '\x7d' then .error .trailingComma
        else .error .keyNotString
    else .error .expectedObjectCommaOrEnd

/-- Drops the colon between a name and its value. -/
def expectColon (cs : List Char) : OrError (List Char) :=
  match skipGap cs with
  | [] => .error .eofObject
  | c :: cs => if c == ':' then .ok cs else .error .expectedColon

/-- Reads items up to the end of their array. The number of characters bounds the items. -/
def readItems (item : List Char → OrError (α × List Char)) :
    Nat → Bool → List Char → OrError (List α × List Char)
  | 0, _, _ => .error .eofList
  | fuel + 1, first, cs =>
    match nextItem first cs with
    | .error e => .error e
    | .ok (.closed rest) => .ok ([], rest)
    | .ok (.more cs) => do
      let (a, cs) ← item cs
      let (as, cs) ← readItems item fuel false cs
      return (a :: as, cs)

/-- Reads members up to the end of their object, folding them with `put`. -/
def readMembers (member : σ → String → List Char → OrError (σ × List Char)) :
    Nat → Bool → σ → List Char → OrError (σ × List Char)
  | 0, _, _, _ => .error .eofObject
  | fuel + 1, first, s, cs =>
    match nextMember first cs with
    | .error e => .error e
    | .ok (.closed rest) => .ok (s, rest)
    | .ok (.more cs) => do
      let (name, cs) ← readString .text cs
      let (s, cs) ← member s (String.ofList name) cs
      readMembers member fuel false s cs

/-- Reads the value of a member, with the colon before it. -/
def memberValue (read : List Char → OrError (α × List Char)) (cs : List Char) :
    OrError (α × List Char) := do
  let cs ← expectColon cs
  read cs

/-- Whether one more level may be opened, and the budget inside it. -/
def descend (budget : Nat) : OrError Nat :=
  if budget ≤ 1 then .error .nestedTooDeep else .ok (budget - 1)

/-! ## Any value -/

def value : Reader Json
  | 0, _ => .error .nestedTooDeep
  | budget + 1, cs =>
    match skipGap cs with
    | [] => .error .eofValue
    | c :: cs =>
      if c == 'n' then do return (.null, ← expectWord ['u', 'l', 'l'] cs)
      else if c == 't' then do return (.bool true, ← expectWord ['r', 'u', 'e'] cs)
      else if c == 'f' then do return (.bool false, ← expectWord ['a', 'l', 's', 'e'] cs)
      else if c == '-' then do
        let (n, cs) ← readNumber true cs
        return (.number n, cs)
      else if (digitValue? c).isSome then do
        let (n, cs) ← readNumber false (c :: cs)
        return (.number n, cs)
      else if c == '"' then do
        let (s, cs) ← readString .text cs
        return (.string (String.ofList s), cs)
      else if c == '[' then do
        let _ ← descend (budget + 1)
        let (items, cs) ← readItems (value budget) (cs.length + 1) true cs
        return (.array items, cs)
      else if c == '\x7b' then do
        let _ ← descend (budget + 1)
        let put (ms : Members) (name : String) (cs : List Char) :
            OrError (Members × List Char) := do
          let (v, cs) ← memberValue (value budget) cs
          return (ms.set name v, cs)
        let (members, cs) ← readMembers put (cs.length + 1) true [] cs
        return (.object members, cs)
      else .error .expectedValue

/-! ## Passing over a value

A value that nobody asked for may be nested to any depth; the arrays and objects that are open are
kept in a list, innermost first. -/

inductive Bracket where
  | array
  | object
  deriving Repr, DecidableEq

def Bracket.close : Bracket → Char
  | .array => ']'
  | .object => '\x7d'

/-- The error where the text ends inside a bracket. -/
def Bracket.atEnd : Bracket → ReadError
  | .array => .eofList
  | .object => .eofObject

/-- The error where neither a comma nor the end of a bracket follows. -/
def Bracket.expected : Bracket → ReadError
  | .array => .expectedListCommaOrEnd
  | .object => .expectedObjectCommaOrEnd

/-- What is passed over at one spot: a whole scalar, or an opening bracket. -/
inductive Passed where
  | scalar (rest : List Char)
  | opened (bracket : Bracket) (rest : List Char)

/-- Passes over a scalar or an opening bracket. -/
def passOne (cs : List Char) : OrError Passed :=
  match skipGap cs with
  | [] => .error .eofValue
  | c :: cs =>
    if c == 'n' then do return .scalar (← expectWord ['u', 'l', 'l'] cs)
    else if c == 't' then do return .scalar (← expectWord ['r', 'u', 'e'] cs)
    else if c == 'f' then do return .scalar (← expectWord ['a', 'l', 's', 'e'] cs)
    else if c == '-' then do return .scalar (← skipNumber cs)
    else if (digitValue? c).isSome then do return .scalar (← skipNumber (c :: cs))
    else if c == '"' then do return .scalar (← skipString .text cs)
    else if c == '[' then .ok (.opened .array cs)
    else if c == '\x7b' then .ok (.opened .object cs)
    else .error .expectedValue

/-- Passes over the name of a member and its colon. -/
def passName (cs : List Char) : OrError (List Char) :=
  match skipGap cs with
  | [] => .error .eofObject
  | c :: cs =>
    if c == '"' then do expectColon (← skipString .text cs)
    else .error .keyNotString

/-- Closes brackets as long as their ends follow. `afterItem` says whether an item was just passed,
so that a comma may follow. Gives the brackets still open, with the text of the next item; no
bracket is left open when the whole value is passed. -/
def closeBrackets : List Bracket → Bool → List Char → OrError (List Bracket × List Char)
  | [], _, cs => .ok ([], cs)
  | b :: bs, afterItem, cs =>
    match skipGap cs with
    | [] => .error b.atEnd
    | c :: cs =>
      if c == ',' && afterItem then .ok (b :: bs, cs)
      else if c == b.close then closeBrackets bs true cs
      else if afterItem then .error b.expected
      else .ok (b :: bs, c :: cs)

/-- Passes over values until every open bracket is closed. The number of characters bounds the
steps. -/
def skipFrom : Nat → List Bracket → List Char → OrError (List Char)
  | 0, _, _ => .error .eofValue
  | fuel + 1, brackets, cs => do
    let (bs, cs) ←
      match ← passOne cs with
      | .scalar rest => closeBrackets brackets true rest
      | .opened b rest => closeBrackets (b :: brackets) false rest
    match bs with
    | [] => return cs
    | .array :: _ => skipFrom fuel bs cs
    | .object :: _ => skipFrom fuel bs (← passName cs)

/-- Passes over any value. -/
def skipValue (cs : List Char) : OrError (List Char) := skipFrom (cs.length + 1) [] cs

/-! ## Scalars -/

/-- What a number counts as in a message. -/
def Number.met : Number → Met
  | .integer n => .integer n
  | .float x => .float x

/-- The error for a value that is not of the expected kind. A scalar is read to its end, so that an
error inside it comes first. -/
def refuse (expected : String) (cs : List Char) : ReadError :=
  let met : OrError Met :=
    match skipGap cs with
    | [] => .error .eofValue
    | c :: cs =>
      if c == 'n' then do
        let _ ← expectWord ['u', 'l', 'l'] cs
        return .null
      else if c == 't' then do
        let _ ← expectWord ['r', 'u', 'e'] cs
        return .bool true
      else if c == 'f' then do
        let _ ← expectWord ['a', 'l', 's', 'e'] cs
        return .bool false
      else if c == '-' then do
        let (n, _) ← readNumber true cs
        return n.met
      else if (digitValue? c).isSome then do
        let (n, _) ← readNumber false (c :: cs)
        return n.met
      else if c == '"' then do
        let (s, _) ← readString .text cs
        return .string (String.ofList s)
      else if c == '[' then .ok .sequence
      else if c == '\x7b' then .ok .map
      else .error .expectedValue
  match met with
  | .ok met => .invalidType met expected
  | .error e => e

/-- Decides by the first character that is not blank. -/
def atFront (cs : List Char) (read : Char → List Char → Option (OrError (α × List Char)))
    (expected : String) : OrError (α × List Char) :=
  match skipGap cs with
  | [] => .error .eofValue
  | c :: rest =>
    match read c rest with
    | some step => step
    | none => .error (refuse expected (c :: rest))

def Reader.string : Reader String := fun _ cs =>
  atFront cs (fun c rest =>
    if c == '"' then some do
      let (s, rest) ← readString .text rest
      return (String.ofList s, rest)
    else none) "a string"

/-- True or false. -/
def Reader.bool : Reader Bool := fun _ cs =>
  atFront cs (fun c rest =>
    if c == 't' then some do return (true, ← expectWord ['r', 'u', 'e'] rest)
    else if c == 'f' then some do return (false, ← expectWord ['a', 'l', 's', 'e'] rest)
    else none) "a boolean"

/-- The natural number that a number is, where it is at most `greatest`. -/
def Number.natural (expected : String) (greatest : Nat) : Number → OrError Nat
  | .integer n =>
    if 0 ≤ n && n.toNat ≤ greatest then .ok n.toNat
    else .error (.invalidValue (.integer n) expected)
  | .float x => .error (.invalidType (.float x) expected)

/-- A natural number of at most `greatest`. -/
def Reader.natural (expected : String) (greatest : Nat) : Reader Nat := fun _ cs =>
  let finish (step : OrError (Number × List Char)) : OrError (Nat × List Char) := do
    let (n, rest) ← step
    return (← n.natural expected greatest, rest)
  atFront cs (fun c rest =>
    if c == '-' then some (finish (readNumber true rest))
    else if (digitValue? c).isSome then some (finish (readNumber false (c :: rest)))
    else none) expected

def Reader.nullable (read : Reader α) : Reader (Option α) := fun budget cs =>
  match skipGap cs with
  | 'n' :: rest => do return (none, ← expectWord ['u', 'l', 'l'] rest)
  | cs => do
    let (a, rest) ← read budget cs
    return (some a, rest)

def Reader.list (read : Reader α) : Reader (List α) := fun budget cs =>
  atFront cs (fun c rest =>
    if c == '[' then some do
      let inner ← descend budget
      readItems (read inner) (rest.length + 1) true rest
    else none) "a sequence"

/-- The same value in another form. -/
def Reader.map (f : α → β) (read : Reader α) : Reader β := fun budget cs => do
  let (a, rest) ← read budget cs
  return (f a, rest)

/-! ## Records -/

/-- A field of a structure that is drafted as `ρ`. -/
structure Field (ρ : Type) where
  name : String
  optional : Bool
  read : Reader (ρ → ρ)

/-- A structure with named fields. -/
structure Record (ρ : Type) where
  name : String
  blank : ρ
  fields : List (Field ρ)

/-- A field that is put into the draft with `put`. -/
def Field.of (name : String) (optional : Bool) (read : Reader α) (put : α → ρ → ρ) : Field ρ :=
  ⟨name, optional, read.map put⟩

namespace Record

variable {ρ : Type}

/-- What a list of fields has to be. -/
def lengthText (r : Record ρ) : String := listedText r.name r.fields.length

/-- What is read so far: the draft and the names of the fields that were given. -/
abbrev Progress (ρ : Type) := ρ × List String

/-- Reads one member of an object. An unknown name is passed over with its value. -/
def member (r : Record ρ) (budget : Nat) (p : Progress ρ) (name : String) (cs : List Char) :
    OrError (Progress ρ × List Char) :=
  match r.fields.find? (fun f => f.name == name) with
  | none => do
    let cs ← expectColon cs
    return (p, ← skipValue cs)
  | some f =>
    if p.2.contains name then .error (.duplicateField name)
    else do
      let (put, cs) ← memberValue (f.read budget) cs
      return ((put p.1, name :: p.2), cs)

/-- The first field that has to be given and was not. -/
def missing? (r : Record ρ) (given : List String) : Option String :=
  (r.fields.find? (fun f => !f.optional && !given.contains f.name)).map (·.name)

/-- Reads the members of an object after its opening bracket. -/
def ofObject (r : Record ρ) (budget : Nat) (cs : List Char) : OrError (ρ × List Char) := do
  let ((draft, given), cs) ← readMembers (r.member budget) (cs.length + 1) true (r.blank, []) cs
  match r.missing? given with
  | some name => .error (.missingField name)
  | none => return (draft, cs)

/-- Reads the fields `fs`, the first of which has the index `i`, from the items of an array. -/
def readFields (r : Record ρ) (budget : Nat) :
    List (Field ρ) → Nat → ρ → List Char → OrError (ρ × List Char)
  | [], i, draft, cs =>
    match nextItem (i == 0) cs with
    | .ok (.closed rest) => .ok (draft, rest)
    | .error .eofList => .error .eofList
    | .error .trailingComma => .error .trailingComma
    | _ => .error .trailingCharacters
  | f :: fs, i, draft, cs =>
    match nextItem (i == 0) cs with
    | .error e => .error e
    | .ok (.more cs) => do
      let (put, cs) ← f.read budget cs
      readFields r budget fs (i + 1) (put draft) cs
    | .ok (.closed _) =>
      if f.optional then readFields r budget fs (i + 1) draft cs
      else .error (.invalidLength i r.lengthText)

def reader (r : Record ρ) : Reader ρ := fun budget cs =>
  atFront cs (fun c rest =>
    if c == '[' then some do r.readFields (← descend budget) r.fields 0 r.blank rest
    else if c == '\x7b' then some do r.ofObject (← descend budget) rest
    else none) ("struct " ++ r.name)

end Record

/-! ## Whole texts -/

/-- Reads a whole text. -/
def Reader.read (read : Reader α) (cs : List Char) : OrError α := do
  let (a, rest) ← read nestingBudget cs
  if (skipGap rest).isEmpty then return a else .error .trailingCharacters

/-- Reads a whole text as a value. -/
def parse (cs : List Char) : OrError Json := Reader.read value cs

end LintRelay.Json
