import LintRelay.FileTree.Change
import LintRelay.Proofs.Server.Runs

/-!
# What an editor writes

The messages about documents and settings as an editor writes them, and what the server takes them
for. A document is named by any text that is a URI, and has any version of 32 bits.
-/

namespace LintRelay

namespace Json.Form

variable {ρ : Type} {f : Form ρ}

/-- A member goes into the draft by its slot. -/
theorem ofMembers_cons {name : String} {v : Json} {members : List (String × Json)} {draft : ρ}
    {result : OrError ρ} {slot : Slot ρ} {put : ρ → ρ}
    (hslot : f.slots.find? (fun s => s.name == name) = some slot) (hput : slot.decode v = .ok put)
    (hrest : f.ofMembers members (put draft) = result) :
    f.ofMembers ((name, v) :: members) draft = result := by
  rw [ofMembers, hslot]
  show (slot.decode v >>= fun put => f.ofMembers members (put draft)) = _
  rw [hput]
  exact hrest

/-- A structure is taken from its members if none that is needed is missing. -/
theorem decoder_object {members : List (String × Json)} {draft : ρ}
    (hmembers : f.ofMembers members f.blank = .ok draft) (hmissing : f.missing? members = none) :
    f.decoder (.object members) = .ok draft := by
  simp only [decoder, decoderFrom, hmembers, hmissing]
  rfl

end Json.Form

namespace Server

open Json Json.Form

namespace Message

/-- A notification with the given members. -/
def notification (method : String) (members : List (String × Json)) : Message :=
  ⟨method, some (.object members), none⟩

/-- The workspace is taken up, with settings or null for none. -/
def setUp (root : String) (options : Json) : Message :=
  ⟨"initialize", some (.object [("rootUri", .string root), ("initializationOptions", options),
    ("capabilities", .object [])]), some (.ofNat 1)⟩

def didOpen (u : String) (version : Int) (text : String) : Message :=
  notification "textDocument/didOpen" [("textDocument", .object [("uri", .string u),
    ("languageId", .string "javascript"), ("version", .ofInt version), ("text", .string text)])]

/-- A document is changed to a text. -/
def didChange (u : String) (version : Int) (text : String) : Message :=
  notification "textDocument/didChange" [
    ("textDocument", .object [("uri", .string u), ("version", .ofInt version)]),
    ("contentChanges", .array [.object [("text", .string text)]])]

def didClose (u : String) : Message :=
  notification "textDocument/didClose" [("textDocument", .object [("uri", .string u)])]

def didChangeWatchedFile (u : String) : Message :=
  notification "workspace/didChangeWatchedFiles" [
    ("changes", .array [.object [("uri", .string u), ("type", .ofNat 2)]])]

/-- The buffer of a document is shown in another mode. -/
def modeChanged (u : String) : Message := notification modeChangedName [("uri", .string u)]

end Message

/-- The versions that a message can carry. -/
def IsVersion (version : Int) : Prop := -0x80000000 ≤ version ∧ version ≤ 0x7FFFFFFF

instance (version : Int) : Decidable (IsVersion version) := inferInstanceAs (Decidable (_ ∧ _))

theorem int32_ofInt {version : Int} (h : IsVersion version) :
    int32 (.ofInt version) = .ok version := by
  obtain ⟨hleast, hgreatest⟩ := h
  show (if _ then _ else _) = _
  rw [if_pos (by simp [hleast, hgreatest])]

theorem uri_string {u : String} {w : Uri} (h : Uri.parse u = .ok w) : uri (.string u) = .ok w := by
  simp only [uri, h]

/-- What a slot makes of a value that is taken. -/
theorem map_of_ok {α β : Type} {decode : Decoder α} {v : Json} {a : α} (h : decode v = .ok a)
    (put : α → β) : (decode v).map put = .ok (put a) := by
  rw [h]
  rfl

theorem asNotification_of_decoded {α : Type} {method : String} {members : List (String × Json)}
    {decode : Decoder α} {a : α} (h : decode (.object members) = .ok a) (act : α → Effect) :
    (Message.notification method members).asNotification decode act = act a := by
  simp only [Message.asNotification, Message.notification, params, h, Except.mapError]

section Documents

variable {u : String} {w : Uri} {version : Int}

theorem decode_document (hu : Uri.parse u = .ok w) :
    document.decoder (.object [("uri", .string u)]) = .ok w :=
  decoder_object (ofMembers_cons rfl (map_of_ok (uri_string hu) _) rfl) rfl

theorem decode_versionedDocument (hu : Uri.parse u = .ok w) (hversion : IsVersion version) :
    versionedDocument.decoder (.object [("uri", .string u), ("version", .ofInt version)]) =
      .ok (w, version) :=
  decoder_object
    (ofMembers_cons rfl (map_of_ok (uri_string hu) _) <|
      ofMembers_cons rfl (map_of_ok (int32_ofInt hversion) _) rfl) rfl

theorem decode_documentItem (text : String) (hu : Uri.parse u = .ok w)
    (hversion : IsVersion version) :
    documentItem.decoder (.object [("uri", .string u), ("languageId", .string "javascript"),
      ("version", .ofInt version), ("text", .string text)]) = .ok (w, version) :=
  decoder_object
    (ofMembers_cons rfl (map_of_ok (uri_string hu) _) <| ofMembers_cons rfl rfl <|
      ofMembers_cons rfl (map_of_ok (int32_ofInt hversion) _) <| ofMembers_cons rfl rfl rfl) rfl

theorem decode_fileEvent (hu : Uri.parse u = .ok w) :
    fileEvent.decoder (.object [("uri", .string u), ("type", .ofNat 2)]) = .ok w :=
  decoder_object
    (ofMembers_cons rfl (map_of_ok (uri_string hu) _) <| ofMembers_cons rfl rfl rfl) rfl

theorem effect_didOpen (text : String) (hu : Uri.parse u = .ok w) (hversion : IsVersion version) :
    (Message.didOpen u version text).effect .initialized = .opened w version := by
  show (Message.notification _ _).asNotification openParams.decoder (fun d => .opened d.1 d.2) = _
  refine asNotification_of_decoded (a := (w, version)) (decoder_object ?_ rfl) _
  exact ofMembers_cons rfl (map_of_ok (decode_documentItem text hu hversion) _) rfl

theorem effect_didChange (text : String) (hu : Uri.parse u = .ok w)
    (hversion : IsVersion version) :
    (Message.didChange u version text).effect .initialized = .changed w version := by
  show (Message.notification _ _).asNotification changeParams.decoder
    (fun d => .changed d.1 d.2) = _
  refine asNotification_of_decoded (a := (w, version)) (decoder_object ?_ rfl) _
  exact ofMembers_cons rfl (map_of_ok (decode_versionedDocument hu hversion) _) <|
    ofMembers_cons rfl rfl rfl

theorem effect_didClose (hu : Uri.parse u = .ok w) :
    (Message.didClose u).effect .initialized = .closed w := by
  show (Message.notification _ _).asNotification closeParams.decoder .closed = _
  refine asNotification_of_decoded (a := w) (decoder_object ?_ rfl) _
  exact ofMembers_cons rfl (map_of_ok (decode_document hu) _) rfl

/-- A change of a settings file has the settings read again. -/
theorem effect_didChangeWatchedFile (hu : Uri.parse u = .ok w) (hnames : namesSettings w = true) :
    (Message.didChangeWatchedFile u).effect .initialized = .reload := by
  show (Message.notification _ _).asNotification watchedFilesParams.decoder
    (fun ws => if ws.any namesSettings then .reload else .nothing) = _
  rw [asNotification_of_decoded (a := [w]), List.any_cons, hnames, Bool.true_or, if_pos rfl]
  refine decoder_object (ofMembers_cons rfl (map_of_ok (a := [w]) ?_ _) rfl) rfl
  show List.mapM fileEvent.decoder [_] = _
  rw [List.mapM_cons, decode_fileEvent hu]
  rfl

/-- The workspace is taken up with the settings that are not null. -/
theorem effect_setUp {options : Json} {given : Option Json} (hu : Uri.parse u = .ok w)
    (hoptions : Decoder.nullable .any options = .ok given) :
    (Message.setUp u options).effect .uninitialized = .setUp ⟨some w, none, given⟩ := by
  have hdecoded : initializeParams.decoder (.object [("rootUri", .string u),
      ("initializationOptions", options), ("capabilities", .object [])]) =
      .ok ⟨some w, none, given⟩ :=
    decoder_object
      (ofMembers_cons rfl (map_of_ok (map_of_ok (uri_string hu) some) _) <|
        ofMembers_cons rfl (map_of_ok hoptions _) <| ofMembers_cons rfl rfl rfl) rfl
  show (Message.setUp u options).asRequest initializeParams.decoder .setUp = _
  simp only [Message.asRequest, Message.setUp, params, hdecoded, Except.mapError]

end Documents

/-! ## A file in the root -/

def rootFileUri : String := "file:///a.js"

/-- The same in normal form. -/
def rootFile : Uri := { noUri with scheme := "file".toList, path := .rooted ["a.js".toList] }

theorem parse_rootFileUri : Uri.parse rootFileUri = .ok rootFile := rfl

/-- A message is told where there are no files. -/
def told (m : Message) : Moment := ⟨.bare, .message m⟩

@[simp] theorem effect_told (m : Message) (phase : Phase) :
    (told m).effect phase = m.effect phase :=
  rfl

@[simp] theorem phase_fresh : fresh.phase = .uninitialized := rfl

end Server
end LintRelay
