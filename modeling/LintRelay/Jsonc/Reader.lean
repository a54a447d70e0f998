import LintRelay.Jsonc.Token

/-!
# Reading commented JSON

A text holds one value or none. Items and members may be divided by a comma or by nothing, and a
comma may follow the last one. Of two members of one name the later counts. The readers hold the
token at hand and the characters behind it; every step takes at least one character, so the number
of characters bounds the steps.
-/

namespace LintRelay.Jsonc

/-- The token at hand, if there is one, and the characters behind it. -/
abbrev Rest := Option Token × List Char

/-- Moves to the next token, and over a comma if it is one. -/
def pastComma (cs : List Char) : OrFault Rest := do
  match ← next cs with
  | (some .comma, cs) => next cs
  | rest => return rest

def memberName? : Token → Option String
  | .string s => some s
  | .word w => some (String.ofList w)
  | .number n => some (String.ofList n)
  | _ => none

mutual

/-- Reads the value that begins with a token. -/
def readValue : Nat → Token → List Char → OrFault (Json × List Char)
  | 0, _, _ => .error .unexpectedToken
  | _ + 1, .null, cs => .ok (.null, cs)
  | _ + 1, .bool b, cs => .ok (.bool b, cs)
  | _ + 1, .string s, cs => .ok (.string s, cs)
  | _ + 1, .number n, cs => .ok (numberValue n, cs)
  | _ + 1, .word _, _ => .error .unexpectedWord
  | _ + 1, .comma, _ => .error .unexpectedComma
  | _ + 1, .colon, _ => .error .unexpectedColon
  | _ + 1, .closeBrace, _ => .error .unexpectedCloseBrace
  | _ + 1, .closeBracket, _ => .error .unexpectedCloseBracket
  | fuel + 1, .openBracket, cs => do
    let (t, cs) ← next cs
    let (items, cs) ← readItems fuel t cs
    return (.array items, cs)
  | fuel + 1, .openBrace, cs => do
    let (t, cs) ← next cs
    let (members, cs) ← readMembers fuel [] t cs
    return (.object members, cs)

/-- Reads items up to the end of their array. -/
def readItems : Nat → Option Token → List Char → OrFault (List Json × List Char)
  | _, none, _ => .error .unterminatedArray
  | _, some .closeBracket, cs => .ok ([], cs)
  | 0, some _, _ => .error .unterminatedArray
  | fuel + 1, some t, cs => do
    let (v, cs) ← readValue fuel t cs
    let (t, cs) ← pastComma cs
    let (vs, cs) ← readItems fuel t cs
    return (v :: vs, cs)

/-- Reads members up to the end of their object. -/
def readMembers : Nat → Json.Members → Option Token → List Char →
    OrFault (Json.Members × List Char)
  | _, _, none, _ => .error .unterminatedObject
  | _, ms, some .closeBrace, cs => .ok (ms, cs)
  | 0, _, some _, _ => .error .unterminatedObject
  | fuel + 1, ms, some t, cs => do
    match memberName? t with
    | none => throw .unexpectedTokenInObject
    | some name =>
      match ← next cs with
      | (some .colon, cs) =>
        match ← next cs with
        | (none, _) => throw .expectedObjectValue
        | (some t, cs) =>
          let (v, cs) ← readValue fuel t cs
          let (t, cs) ← pastComma cs
          readMembers fuel (ms.set name v) t cs
      | _ => throw .expectedColon

end

/-- Reads a whole text. An empty one holds no value. -/
def parse (text : String) : OrFault (Option Json) := do
  match ← next text.toList with
  | (none, _) => return none
  | (some t, cs) =>
    let (v, cs) ← readValue (2 * text.toList.length + 2) t cs
    match ← next cs with
    | (none, _) => return some v
    | (some _, _) => throw .multipleRoots

end LintRelay.Jsonc
