import Pasteboard.Failure
import Pasteboard.Value

/-!
# Settings

What a user can choose: the clipboard tool, how many seconds one native command may take, and
whether reading drops one line end. `Settings.Valid` says which choices validation lets through.

Callers hold settings in a `SettingsRecord`. Its fields can be assigned one by one and nothing
checks what is assigned, so a record may hold any values. `Settings.record` is the record of
settings; a record of another kind goes through the library as it is, and fails where a value is not
fit for what is done with it.
-/

namespace Pasteboard

/-- A clipboard tool by name, or the choice to detect one. -/
inductive Backend
  | auto
  | pbcopy
  | wlClipboard
  | xclip
  | windows
deriving DecidableEq

namespace Backend

/-- Every backend, in the order in which they are listed. -/
def all : List Backend := [auto, pbcopy, wlClipboard, xclip, windows]

/-- The name of a backend. -/
def name : Backend → Text
  | auto => "auto"
  | pbcopy => "pbcopy"
  | wlClipboard => "wl-clipboard"
  | xclip => "xclip"
  | windows => "windows"

/-- The backend with a name. -/
def ofName? (n : Text) : Option Backend := all.find? fun b => decide (b.name = n)

end Backend

/-- The choices of a user. -/
structure Settings where
  backend : Backend := .auto
  timeout : Binary64 := Binary64.ofInt 5
  stripTrailingNewline : Bool := false
deriving DecidableEq

namespace Settings

/-- The most seconds that one native command may be given. -/
def longestTimeout : Nat := 60

/-- The settings can be used: the timeout is a positive number of at most `longestTimeout`. -/
def Valid (s : Settings) : Prop :=
  s.timeout.isPositive = true ∧ s.timeout.atMost longestTimeout = true

instance (s : Settings) : Decidable s.Valid := inferInstanceAs (Decidable (_ ∧ _))

end Settings

/-- Why a value cannot be a key of a table. -/
def Value.keyFault? : Value → Option Failure
  | list _ => some (.badCall "unhashable type: 'list'")
  | object _ => some (.badCall "unhashable type: 'dict'")
  | _ => none

/-- What stands for a backend: one of the backends, which is text as well, or some other value. -/
inductive BackendField
  | known (b : Backend)
  | other (v : Value)
deriving DecidableEq

namespace BackendField

/-- What stands for a backend as a plain value. -/
def value : BackendField → Value
  | known b => .text b.name
  | other v => v

/-- The backend that is looked up. A text is as good as the backend with this name; other values are
no key of the table of tools, or cannot be a key at all. -/
def resolved : BackendField → Except Failure Backend
  | known b => .ok b
  | other v =>
    match v.keyFault? with
    | some f => .error f
    | none =>
      match v with
      | .text t => ((Backend.ofName? t).map .ok).getD (.error (.noEntryFor t))
      | _ => .error (.noEntry v.quoted)

end BackendField

/-- A record of settings as callers hold it. Nothing checks what its fields hold. -/
structure SettingsRecord where
  backend : BackendField
  timeout : Value
  stripTrailingNewline : Value
deriving DecidableEq

/-- The record that holds settings. -/
def Settings.record (s : Settings) : SettingsRecord where
  backend := .known s.backend
  timeout := .float s.timeout
  stripTrailingNewline := .bool s.stripTrailingNewline

instance : Coe Settings SettingsRecord := ⟨Settings.record⟩

/-- The backend of a record by its name. What is no backend has none, not even as a text. -/
def SettingsRecord.named (r : SettingsRecord) : Except Failure Backend :=
  match r.backend with
  | .known b => .ok b
  | .other v => .error (.noAttribute v.kindName "value")

/-- The records agree: their fields hold equal values. -/
def SettingsRecord.agrees (r s : SettingsRecord) : Bool :=
  r.backend.value.agrees s.backend.value && r.timeout.agrees s.timeout
    && r.stripTrailingNewline.agrees s.stripTrailingNewline

end Pasteboard
