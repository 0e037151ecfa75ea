import Pasteboard.Json.Reader
import Pasteboard.Json.Writer
import Pasteboard.Settings.Validation

/-!
# The settings document

Settings are kept as a JSON object with one line for each field. Reading accepts any document whose
fields validation accepts; `render` is the one form that is written. A record whose fields have been
assigned is written field by field in the same form (`SettingsRecord.content`), whatever it holds.
-/

namespace Pasteboard.Settings

/-- One field of the document. -/
def line (name value : Text) : Text := "  " ++ Json.writeString name ++ ": " ++ value

/-- The document with the three fields as they are written. -/
def page (backend timeout strip : Text) : Text :=
  Text.join "\n"
    ["\x7b",
     line backendField backend ++ ",",
     line timeoutField timeout ++ ",",
     line stripField strip,
     "\x7d"]

/-- The octets of a document, which holds no surrogates. -/
def octetsOf (document : Text) : Bytes :=
  document.flatMap fun c => (Charset.utf8.encodePoint c).getD []

/-- The document that holds the settings. -/
def render (s : Settings) : Text :=
  page (Json.writeString s.backend.name) s.timeout.document (Json.writeBool s.stripTrailingNewline)

/-- The octets of the document that holds the settings. -/
def renderBytes (s : Settings) : Bytes := octetsOf s.render

/-- Why a document gives no settings: it is no JSON object, or some of its fields are bad. -/
inductive DocumentFault
  | notObject
  | fields (faults : List Fault)

/-- How many errors a document without settings counts as. -/
def DocumentFault.count : DocumentFault → Nat
  | notObject => 1
  | fields faults => faults.length

/-- The settings that a document holds. -/
def parse (document : Bytes) : Except DocumentFault Settings :=
  match Json.read? document with
  | some (.object fields) => (validate fields).mapError .fields
  | _ => .error .notObject

end Pasteboard.Settings

namespace Pasteboard.SettingsRecord

/-- A backend as it is written; a value that is none is written as what it is. -/
def writeBackend : BackendField → Except Failure Text
  | .known b => .ok (Json.writeString b.name)
  | .other v => Json.writeValue 1 v

/-- A timeout as it is written: any number in one form, and what is no number as what it is. -/
def writeTimeout (v : Value) : Except Failure Text :=
  match v.number? with
  | some x => .ok x.document
  | none => Json.writeValue 1 v

/-- The document that holds a record, if its values can be written. -/
def render (r : SettingsRecord) : Except Failure Text :=
  return Settings.page (← writeBackend r.backend) (← writeTimeout r.timeout)
    (← Json.writeValue 1 r.stripTrailingNewline)

/-- The octets of the document that holds a record, if its values can be written. -/
def content (r : SettingsRecord) : Except Failure Bytes := Settings.octetsOf <$> r.render

/-- The record of settings can always be written. -/
@[simp] theorem content_record (s : Settings) : content s = .ok s.renderBytes := rfl

end Pasteboard.SettingsRecord
