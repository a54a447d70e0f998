import LintRelay.Json.Decoder
import LintRelay.Uri.Parser

/-!
# Shapes that messages share

Positions, ranges and documents, and the small vocabulary in which the shapes of parameters are
written down. What the server does not use is only looked at: such a shape decodes to nothing.
-/

namespace LintRelay.Server

open Json (Decoder Form Slot)

def uri : Decoder Uri
  | .string s =>
    match Uri.parse s with
    | .ok u => .ok u
    | .error e => .error (.custom (e.message ++ ": " ++ Text.quote s))
  | v => Json.refused "a string representing an URL" v

def int32 : Decoder Int := .integer "i32" (-0x80000000) 0x7FFFFFFF

/-- A natural number of 32 bits. -/
def word32 : Decoder Nat := .natural "u32" 0xFFFFFFFF

/-! ## Words for shapes -/

/-- A structure with these fields. -/
def shape (name : String) (slots : List (Slot Unit)) : Decoder Unit :=
  (⟨name, (), slots⟩ : Form Unit).decoder

/-- A field that has to be there. -/
def need (name : String) (decode : Decoder α) : Slot Unit := .checked name decode

/-- A field that may be null or left out. -/
def may (name : String) (decode : Decoder α) : Slot Unit := .checkedNullable name decode

/-- A field that may tell whether something holds. -/
def flag (name : String) : Slot Unit := may name .bool

/-- A field that may be a list of strings. -/
def mayNames (name : String) : Slot Unit := may name (.list .string)

/-- A field that is a list of strings. -/
def needNames (name : String) : Slot Unit := need name (.list .string)

def forgetting (decode : Decoder α) : Decoder Unit := fun v => discard (decode v)

/-- A value of one of two kinds, none of which has a name. -/
def either (a b : Decoder Unit) : Decoder Unit := .choice "OneOf" [a, b]

/-! ## Places -/

def position : Form Unit := ⟨"Position", (), [need "line" word32, need "character" word32]⟩

def range : Form Unit :=
  ⟨"Range", (), [need "start" position.decoder, need "end" position.decoder]⟩

def needRange (name : String) : Slot Unit := need name range.decoder

/-- What stands for a URI until it is taken. -/
def noUri : Uri := ⟨[], [], none, none, .rooted [], none, none⟩

/-- A document that is named by its URI. -/
def document : Form Uri := ⟨"TextDocumentIdentifier", noUri, [.of "uri" false uri fun u _ => u]⟩

def needDocument : Slot Unit := need "textDocument" document.decoder

/-- A range in a document. -/
def location : Decoder Unit := shape "Location" [need "uri" uri, needRange "range"]

def documentPosition (source : Json.Source) : Form Unit :=
  ⟨"TextDocumentPositionParams", (),
    [need "textDocument" (document.decoderFrom source),
      need "position" (position.decoderFrom source)]⟩

/-! ## Texts -/

def numberOrString : Decoder Unit :=
  .choice "NumberOrString" [forgetting int32, forgetting .string]

/-- How a text is marked up. -/
def markupKind : Decoder String := .variant ["plaintext", "markdown"]

/-- A text and how it is marked up. -/
def markup : Decoder Unit := shape "MarkupContent" [need "kind" markupKind, need "value" .string]

/-- A text, marked up or plain, that messages know by a name. -/
def textNamed (name : String) : Decoder Unit := .choice name [forgetting .string, markup]

/-- What is said about something in a list of completions or signatures. -/
def documentation : Decoder Unit := textNamed "Documentation"

def textEdit : Decoder Unit := shape "TextEdit" [needRange "range", need "newText" .string]

/-- A command that the editor offers. -/
def command : Decoder Unit :=
  shape "Command"
    [need "title" .string, need "command" .string, may "arguments" (.list .any)]

/-! ## Fields in groups -/

/-- Parameters whose fields come in groups. The first group is taken first; where there are others,
the rest is set aside for them, and a list of fields is refused. -/
structure Grouped (ρ : Type) where
  main : Form ρ
  others : List (Form Unit)

/-- Takes grouped parameters from a value. -/
def Grouped.decoder (g : Grouped ρ) : Decoder ρ := fun v =>
  match v, g.others with
  | v, [] => g.main.decoder v
  | .object ms, others => do
    let draft ← g.main.decoder (.object ms)
    others.forM fun f => discard (f.decoderFrom .aside (.object ms))
    return draft
  | v, _ => Json.refused ("struct " ++ g.main.name) v

/-- The group of a token under which progress is reported. -/
def workDone : Form Unit :=
  ⟨"WorkDoneProgressParams", (), [may "workDoneToken" numberOrString]⟩

/-- The group of a token under which parts of a result are reported. -/
def partialResult : Form Unit :=
  ⟨"PartialResultParams", (), [may "partialResultToken" numberOrString]⟩

end LintRelay.Server
