import LintRelay.Json.Reader

/-!
# Values as types

A `Decoder α` takes a value apart. It refuses with the errors of reading; members of an object are
visited in the order in which the value holds them.
-/

namespace LintRelay.Json

/-- Takes a value apart. -/
abbrev Decoder (α : Type) := Json → OrError α

/-- What a value counts as in a message. -/
def met : Json → Met
  | .null => .null
  | .bool b => .bool b
  | .number n => n.met
  | .string s => .string s
  | .array _ => .sequence
  | .object _ => .map

/-- The error for a value that is not of the expected kind. -/
def refused (expected : String) (v : Json) : OrError α :=
  .error (.invalidType v.met expected)

def Decoder.string : Decoder String
  | .string s => .ok s
  | v => refused "a string" v

/-- True or false. -/
def Decoder.bool : Decoder Bool
  | .bool b => .ok b
  | v => refused "a boolean" v

/-- A natural number of at most `greatest`. -/
def Decoder.natural (expected : String) (greatest : Nat) : Decoder Nat
  | .number n => n.natural expected greatest
  | v => refused expected v

/-- An integer between `least` and `greatest`. -/
def Decoder.integer (expected : String) (least greatest : Int) : Decoder Int
  | .number (.integer n) =>
    if least ≤ n && n ≤ greatest then .ok n else .error (.invalidValue (.integer n) expected)
  | v => refused expected v

def Decoder.nullable (decode : Decoder α) : Decoder (Option α)
  | .null => .ok none
  | v => (decode v).map some

def Decoder.list (decode : Decoder α) : Decoder (List α)
  | .array items => items.mapM decode
  | v => refused "a sequence" v

def Decoder.any : Decoder Json := .ok

def Decoder.float (expected : String) : Decoder Unit
  | .number _ => .ok ()
  | v => refused expected v

def Decoder.unit : Decoder Unit
  | .null => .ok ()
  | v => refused "unit" v

/-- One of the given words, alone or as the name of a member that is null. -/
def Decoder.variant (words : List String) : Decoder String
  | .string s => known s
  | .object [(s, v)] => do
    let word ← known s
    Decoder.unit v
    return word
  | .object _ => .error (.invalidValue .map "map with a single key")
  | v => refused "string or map" v
where
  known (s : String) : OrError String :=
    if words.contains s then .ok s else .error (.unknownVariant s words)

/-- An object with names and values of the given kinds. -/
def Decoder.members (expected : String) (name : String → OrError Unit) (decode : Decoder α) :
    Decoder Unit
  | .object ms => ms.forM fun m => do
    name m.1
    discard (decode m.2)
  | v => refused expected v

/-- Whether a value is of a kind. -/
def Decoder.accepts (decode : Decoder α) (v : Json) : Bool :=
  match decode v with
  | .ok _ => true
  | .error _ => false

/-- A value of one of several kinds. -/
def Decoder.choice (name : String) (kinds : List (Decoder Unit)) : Decoder Unit := fun v =>
  if kinds.any (·.accepts v) then .ok ()
  else .error (.custom ("data did not match any variant of untagged enum " ++ name))

/-- A field of a structure that is drafted as `ρ`. -/
structure Slot (ρ : Type) where
  name : String
  /-- Whether an object may leave it out. -/
  optional : Bool
  /-- Whether a list of fields may end before it. -/
  trailing : Bool
  decode : Decoder (ρ → ρ)

/-- A field that is put into the draft with `put`. -/
def Slot.of (name : String) (optional : Bool) (decode : Decoder α) (put : α → ρ → ρ) : Slot ρ :=
  ⟨name, optional, optional, fun v => (decode v).map put⟩

/-- A field that may be null, that an object may leave out, and that a list of fields may not. -/
def Slot.nullable (name : String) (decode : Decoder α) (put : Option α → ρ → ρ) : Slot ρ :=
  ⟨name, true, false, fun v => (Decoder.nullable decode v).map put⟩

/-- A field that is looked at and not kept. -/
def Slot.checked (name : String) (decode : Decoder α) : Slot Unit :=
  .of name false decode fun _ u => u

/-- A field that is looked at and not kept, and that may be null or left out. -/
def Slot.checkedNullable (name : String) (decode : Decoder α) : Slot Unit :=
  .nullable name decode fun _ u => u

/-- Where a value comes from: it is taken apart as it stands, or it was set aside before. Only the
message about a list that is too long tells the two apart. -/
inductive Source where
  | direct
  | aside
  deriving Repr, DecidableEq

/-- What a list of `total` items, of which `taken` are fields, should have been. -/
def Source.excess (s : Source) (total taken : Nat) : ReadError :=
  .invalidLength total
    (match s with
      | .direct => "fewer elements in array"
      | .aside => elementsText taken ++ " in sequence")

/-- A structure with named fields, to be taken from values. -/
structure Form (ρ : Type) where
  /-- What the structure is called in messages. -/
  name : String
  blank : ρ
  slots : List (Slot ρ)

namespace Form

variable {ρ : Type}

/-- What a list of fields has to be. -/
def lengthText (f : Form ρ) : String := listedText f.name f.slots.length

/-- Takes the members of an object, one after the other. Unknown names are passed over. -/
def ofMembers (f : Form ρ) : List (String × Json) → ρ → OrError ρ
  | [], draft => .ok draft
  | (name, v) :: ms, draft =>
    match f.slots.find? (fun s => s.name == name) with
    | none => f.ofMembers ms draft
    | some s => do
      let put ← s.decode v
      f.ofMembers ms (put draft)

/-- The first field that has to be given and is not. -/
def missing? (f : Form ρ) (ms : List (String × Json)) : Option String :=
  (f.slots.find? (fun s => !s.optional && !ms.any (fun m => m.1 == s.name))).map (·.name)

/-- Takes the fields from the items of an array; `i` items were taken before, of `total`. -/
def ofItems (f : Form ρ) (source : Source) (total : Nat) :
    List (Slot ρ) → Nat → List Json → ρ → OrError ρ
  | [], _, [], draft => .ok draft
  | [], i, _ :: _, _ => .error (source.excess total i)
  | s :: ss, i, v :: vs, draft => do
    let put ← s.decode v
    ofItems f source total ss (i + 1) vs (put draft)
  | s :: ss, i, [], draft =>
    if s.trailing then ofItems f source total ss (i + 1) [] draft
    else .error (.invalidLength i f.lengthText)

/-- Takes the structure from a value. -/
def decoderFrom (f : Form ρ) (source : Source) : Decoder ρ
  | .array items => f.ofItems source items.length f.slots 0 items f.blank
  | .object members => do
    let draft ← f.ofMembers members f.blank
    match f.missing? members with
    | some name => .error (.missingField name)
    | none => return draft
  | v => refused ("struct " ++ f.name) v

/-- Takes the structure from a value as it stands. -/
def decoder (f : Form ρ) : Decoder ρ := f.decoderFrom .direct

end Form
end LintRelay.Json
