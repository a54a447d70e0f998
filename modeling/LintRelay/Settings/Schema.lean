import LintRelay.Json.Printer

/-!
# The schema of settings

Settings are checked against a schema before they are read, so that a mistake is reported with its
place. The members of an object are checked in the order of their names, and the first violation
counts.
-/

namespace LintRelay.Settings

/-- What a value may be. -/
inductive Kind where
  /-- A string of at least so many characters. -/
  | string (least : Nat)
  | stringOrNull
  | boolean
  /-- An integer that is not negative. -/
  | natural
  | array (item : Kind)
  deriving Repr, DecidableEq

/-- The members that settings may have. -/
def schema : List (String × Kind) := [
  ("$schema", .string 0),
  ("extensions", .array (.string 1)),
  ("exclude", .array (.string 0)),
  ("lintConfigFile", .string 1),
  ("projectConfigFile", .string 1),
  ("linterCommand", .stringOrNull),
  ("sourceId", .string 1),
  ("useRuleSeverity", .boolean),
  ("debounceMs", .natural)]

/-- How a value breaks the schema. -/
inductive Breach where
  | wrongType (value : Json) (types : List String)
  | tooShort (value : String) (least : Nat)
  | negative (value : Json)
  | unexpectedMember (name : String)
  deriving Repr

/-- A breach with the steps that lead to its place. -/
structure Violation where
  breach : Breach
  place : List String
  deriving Repr

def Breach.message : Breach → String
  | .wrongType v [t] => v.render ++ " is not of type \"" ++ t ++ "\""
  | .wrongType v ts =>
    v.render ++ " is not of types " ++ ", ".intercalate (ts.map fun t => "\"" ++ t ++ "\"")
  | .tooShort s least =>
    (Json.string s).render ++ " is shorter than " ++ toString least ++
      (if least == 1 then " character" else " characters")
  | .negative v => v.render ++ " is less than the minimum of 0"
  | .unexpectedMember name =>
    "Additional properties are not allowed ('" ++ name ++ "' was unexpected)"

def pointer (place : List String) : String := String.join (place.map ("/" ++ ·))

def Violation.message (v : Violation) : String :=
  v.breach.message ++ " at " ++ pointer v.place

/-- Whether a number counts as an integer. -/
def isIntegral : Json.Number → Bool
  | .integer _ => true
  | .float x => x.isIntegral

/-- Whether a number is below zero. -/
def isNegative : Json.Number → Bool
  | .integer n => n < 0
  | .float x => x.negative && !x.isZero

/-- The items, one after the other, with their place. -/
def checkItems (check : Json → Option Violation) : Nat → List Json → Option Violation
  | _, [] => none
  | i, v :: vs =>
    match check v with
    | some w => some { w with place := toString i :: w.place }
    | none => checkItems check (i + 1) vs

/-- The violation of a value that should be of a kind, if there is one. -/
def Kind.check : Kind → Json → Option Violation
  | .string least, .string s =>
    if s.length < least then some ⟨.tooShort s least, []⟩ else none
  | .string _, v => some ⟨.wrongType v ["string"], []⟩
  | .stringOrNull, .string _ => none
  | .stringOrNull, .null => none
  | .stringOrNull, v => some ⟨.wrongType v ["null", "string"], []⟩
  | .boolean, .bool _ => none
  | .boolean, v => some ⟨.wrongType v ["boolean"], []⟩
  | .natural, .number n =>
    if !isIntegral n then some ⟨.wrongType (.number n) ["integer"], []⟩
    else if isNegative n then some ⟨.negative (.number n), []⟩
    else none
  | .natural, v => some ⟨.wrongType v ["integer"], []⟩
  | .array item, .array vs => checkItems item.check 0 vs
  | .array _, v => some ⟨.wrongType v ["array"], []⟩

def checkMember (name : String) (v : Json) : Option Violation :=
  match schema.find? (fun m => m.1 == name) with
  | some (_, kind) => (kind.check v).map fun w => { w with place := name :: w.place }
  | none => some ⟨.unexpectedMember name, []⟩

/-- The first violation of a value that should be settings, if there is one. -/
def violation? : Json → Option Violation
  | .object ms => ms.findSome? fun m => checkMember m.1 m.2
  | v => some ⟨.wrongType v ["object"], []⟩

end LintRelay.Settings
