import LintRelay.Json.Decoder
import LintRelay.Jsonc.Reader
import LintRelay.Settings.Basic
import LintRelay.Settings.Schema

/-!
# Reading and writing settings

Settings are one object, all members of which may be left out. They are read from commented JSON,
from a value, or from strict JSON; the first two check the schema. Written settings hold every
member.
-/

namespace LintRelay

/-- Why settings are refused. -/
inductive SettingsError where
  | malformed (fault : Jsonc.Fault)
  | invalid (violation : Settings.Violation)
  | unreadable (reason : Json.ReadError)
  /-- The exclude patterns are refused. -/
  | badGlob (refusal : Glob.Refusal)
  | unreachable (reason : String)
  deriving Repr

/-- The wording of a refusal. -/
def SettingsError.message : SettingsError → String
  | .malformed f => "Invalid JSONC: " ++ f.message
  | .invalid v => "Settings validation failed: " ++ v.message
  | .unreadable e => "Invalid settings: " ++ e.message
  | .badGlob r => r.message
  | .unreachable reason => "Failed to read settings: " ++ reason

namespace Settings

def greatestDelay : Nat := 0xFFFFFFFFFFFFFFFF

/-- What a field holds, by the type that it is kept as. -/
inductive Content : Type → Type where
  | strings : Content (List String)
  | string : Content String
  | stringOrNull : Content (Option String)
  | boolean : Content Bool
  | delay : Content Nat

/-- Takes what a field holds from a value. -/
def Content.decoder : Content α → Json.Decoder α
  | .strings => .list .string
  | .string => .string
  | .stringOrNull => .nullable .string
  | .boolean => .bool
  | .delay => .natural "u64" greatestDelay

/-- Reads what a field holds from strict JSON. -/
def Content.reader : Content α → Json.Reader α
  | .strings => .list .string
  | .string => .string
  | .stringOrNull => .nullable .string
  | .boolean => .bool
  | .delay => .natural "u64" greatestDelay

/-- A field, to be taken from a value and to be read. Any field may be left out. -/
def field (name : String) (content : Content α) (put : α → Settings → Settings) :
    Json.Slot Settings × Json.Field Settings :=
  (.of name true content.decoder put, .of name true content.reader put)

def fields : List (Json.Slot Settings × Json.Field Settings) := [
  field "extensions" .strings fun x s => { s with extensions := x },
  field "exclude" .strings fun x s => { s with exclude := x },
  field "lintConfigFile" .string fun x s => { s with lintConfigFile := x },
  field "projectConfigFile" .string fun x s => { s with projectConfigFile := x },
  field "linterCommand" .stringOrNull fun x s => { s with linterCommand := x },
  field "sourceId" .string fun x s => { s with sourceId := x },
  field "useRuleSeverity" .boolean fun x s => { s with useRuleSeverity := x },
  field "debounceMs" .delay fun x s => { s with debounceMs := .ofNat x }]

/-- What the structure is called in messages. -/
def structureName : String := "BridgeSettings"

/-- Settings to be taken from a value. -/
def form : Json.Form Settings := ⟨structureName, standard, fields.map (·.1)⟩

/-- Settings to be read from strict JSON. -/
def record : Json.Record Settings := ⟨structureName, standard, fields.map (·.2)⟩

/-- Settings from a value. -/
def ofJson (v : Json) : Except SettingsError Settings :=
  match violation? v with
  | some w => .error (.invalid w)
  | none => (form.decoder v).mapError .unreadable

/-- Settings from commented JSON. An empty text gives the standard ones. -/
def ofText (text : String) : Except SettingsError Settings :=
  match Jsonc.parse text with
  | .error f => .error (.malformed f)
  | .ok none => ofJson (.object [])
  | .ok (some v) => ofJson v

/-- Settings from strict JSON, without the schema. -/
def decode (text : String) : Json.OrError Settings := record.reader.read text.toList

def stringList (ss : List String) : Json := .array (ss.map .string)

/-- Settings as a value. -/
def toJson (s : Settings) : Json :=
  .object [
    ("extensions", stringList s.extensions),
    ("exclude", stringList s.exclude),
    ("lintConfigFile", .string s.lintConfigFile),
    ("projectConfigFile", .string s.projectConfigFile),
    ("linterCommand", .ofString? s.linterCommand),
    ("sourceId", .string s.sourceId),
    ("useRuleSeverity", .bool s.useRuleSeverity),
    ("debounceMs", .ofNat s.debounceMs.toNat)]

/-- The text of settings. -/
def encode (s : Settings) : String := s.toJson.render

end Settings
end LintRelay
