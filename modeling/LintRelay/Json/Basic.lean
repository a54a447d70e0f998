import LintRelay.Decimal.Shortest

/-!
# JSON values

A number is an integer of at most 64 bits or a floating point number. An object is a list of
members in the order in which they are written. `Members.set` keeps the names increasing, each name
once: setting a member again replaces its value. Objects that are read are built with it, and
`sorted` builds the objects of a value with it.
-/

namespace LintRelay

namespace Json

inductive Number where
  /-- An integer between `-2 ^ 63` and `2 ^ 64 - 1`. -/
  | integer (value : Int)
  | float (value : Decimal.Binary64)
  deriving Repr, DecidableEq, Inhabited

end Json

/-- A JSON value. -/
inductive Json where
  | null
  | bool (value : Bool)
  | number (value : Json.Number)
  | string (value : String)
  | array (items : List Json)
  | object (members : List (String × Json))
  deriving Repr, Inhabited

namespace Json

/-- The members of an object. -/
abbrev Members := List (String × Json)

/-- Sets the member `name`, keeping the order of the names. -/
def Members.set (name : String) (value : Json) : Members → Members
  | [] => [(name, value)]
  | (n, v) :: ms =>
    if name < n then (name, value) :: (n, v) :: ms
    else if n < name then (n, v) :: Members.set name value ms
    else (name, value) :: ms

/-- The value of the member `name`. -/
def Members.find? (name : String) (ms : Members) : Option Json :=
  (List.find? (fun m => m.1 == name) ms).map (·.2)

/-- The members of a list in which a later member of the same name wins. -/
def Members.ofList (ms : List (String × Json)) : Members :=
  ms.foldl (fun acc m => Members.set m.1 m.2 acc) []

/-- An object with the given members. -/
def ofMembers (ms : List (String × Json)) : Json := .object (Members.ofList ms)

mutual

/-- A value in which the members of every object stand in the order of their names. -/
def sorted : Json → Json
  | .array items => .array (sortedItems items)
  | .object members => .ofMembers (sortedMembers members)
  | .null => .null
  | .bool b => .bool b
  | .number n => .number n
  | .string s => .string s

/-- The items of an array, each sorted. -/
def sortedItems : List Json → List Json
  | [] => []
  | v :: vs => sorted v :: sortedItems vs

/-- The members of an object, each with its value sorted. -/
def sortedMembers : List (String × Json) → List (String × Json)
  | [] => []
  | (n, v) :: ms => (n, sorted v) :: sortedMembers ms

end

/-- The integer `n` as a value. -/
def ofInt (n : Int) : Json := .number (.integer n)

/-- The natural number `n` as a value. -/
def ofNat (n : Nat) : Json := ofInt n

/-- The string as a value, or null. -/
def ofString? : Option String → Json
  | some s => .string s
  | none => .null

/-- The member `name` of an object. -/
def get? (name : String) : Json → Option Json
  | .object ms => Members.find? name ms
  | _ => none

/-- The text of a string value. -/
def asString? : Json → Option String
  | .string s => some s
  | _ => none

/-- The items of an array value. -/
def asArray? : Json → Option (List Json)
  | .array items => some items
  | _ => none

def asInt? : Json → Option Int
  | .number (.integer n) => some n
  | _ => none

def isNull : Json → Bool
  | .null => true
  | _ => false

end Json
end LintRelay
