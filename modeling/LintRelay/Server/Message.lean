import LintRelay.Json.Basic

/-!
# Messages of the editor

The editor and the server exchange JSON messages. A message with an identifier is a request and gets
an answer; one without is a notification.
-/

namespace LintRelay.Server

/-- A message from the editor. -/
structure Message where
  method : String
  params : Option Json
  id : Option Json

/-- A notification to the editor. -/
structure Notice where
  method : String
  params : Json

/-- Why a request is refused. -/
inductive Refusal where
  | notInitialized
  | invalidRequest
  /-- The method is unknown, or known and not served; an unknown one is named. -/
  | methodNotFound (name : Option String)
  | invalidParams (reason : String)
  deriving Repr, DecidableEq

/-- What the editor gets for a message. -/
inductive Answer where
  | silence
  | result (id : Json) (value : Json)
  | refusal (id : Json) (cause : Refusal)
  | exited

def Refusal.code : Refusal → Int
  | .notInitialized => -32002
  | .invalidRequest => -32600
  | .methodNotFound _ => -32601
  | .invalidParams _ => -32602

def Refusal.message : Refusal → String
  | .notInitialized => "Server not initialized"
  | .invalidRequest => "Invalid request"
  | .methodNotFound _ => "Method not found"
  | .invalidParams reason => reason

def Refusal.toJson (r : Refusal) : Json :=
  Json.ofMembers ([("code", .ofInt r.code), ("message", .string r.message)] ++
    match r with
    | .methodNotFound (some name) => [("data", .string name)]
    | _ => [])

def formatVersion : String × Json := ("jsonrpc", .string "2.0")

/-- An answer as a value, if there is one to send. -/
def Answer.toJson? : Answer → Option Json
  | .silence | .exited => none
  | .result id value => some (.ofMembers [formatVersion, ("id", id), ("result", value)])
  | .refusal id cause => some (.ofMembers [formatVersion, ("id", id), ("error", cause.toJson)])

/-- A notification as a value. -/
def Notice.toJson (n : Notice) : Json :=
  .ofMembers [formatVersion, ("method", .string n.method), ("params", n.params)]

def Message.ofJson (v : Json) : Message :=
  ⟨((v.get? "method").bind Json.asString?).getD "", v.get? "params", v.get? "id"⟩

/-- The refusal of a message, which a notification does not get. -/
def Message.refuse (m : Message) (cause : Refusal) : Answer :=
  match m.id with
  | some id => .refusal id cause
  | none => .silence

end LintRelay.Server
