import Pasteboard.Attribute
import Pasteboard.Command

/-!
# Applications

An application has any number of containers, and at most one that all of it shares. The shared
container is built when it is first asked for, from what the store holds at that time, and stays the
same until it is forgotten; commands that name no container use it. Containers are told apart by
their number, in the order in which they were built.
-/

namespace Pasteboard

/-- A host and the containers on it. -/
structure Application (β : Type) where
  host : Host β
  containers : List (Container β) := []
  /-- The number of the container that all of the application shares. -/
  shared : Option Nat := none

/-- A change of a record of settings. Nothing checks the values. -/
inductive Assignment
  | backend (b : BackendField)
  | timeout (v : Value)
  | stripTrailingNewline (v : Value)
  /-- A change of something that is no field. -/
  | other (target : Attribute) (given : Value)

/-- The change that sets a name to a value. -/
def Assignment.ofName (name : Text) (given : Value) : Assignment :=
  if name = Settings.backendField then backend (.other given)
  else if name = Settings.timeoutField then timeout given
  else if name = Settings.stripField then stripTrailingNewline given
  else if name = "model_extra" ∨ name = "model_fields_set" then other (.computed name) given
  else other (.ofName Settings.recordName name) given

namespace SettingsRecord

/-- The record that has its fields in a table. Without one of them it is a record that cannot be
looked at; that is told at once. -/
def ofTable (fields : Fields) : Except Failure SettingsRecord :=
  let look (name : Text) : Except Failure Value :=
    ((fields.get? name).map .ok).getD (.error (.noAttribute Settings.recordName name))
  return ⟨.other (← look Settings.backendField), ← look Settings.timeoutField,
    ← look Settings.stripField⟩

/-- The record after a change. There are no visible names but those of the fields, and what is set
beside the fields leaves them as they are. -/
def assign (r : SettingsRecord) : Assignment → Except Failure SettingsRecord
  | .backend b => .ok { r with backend := b }
  | .timeout v => .ok { r with timeout := v }
  | .stripTrailingNewline v => .ok { r with stripTrailingNewline := v }
  | .other (.visible name) _ => .error (.unknownField Settings.recordName name)
  | .other target given =>
    match target.refusal? Settings.recordName given, target, given with
    | some f, _, _ => .error f
    | none, .table _, .object fields => ofTable fields
    | none, _, _ => .ok r

end SettingsRecord

namespace Application

variable {β α : Type}

/-- What happens on the host of the application. -/
def onHost (a : Action (Host β) α) : Action (Application β) α :=
  a.within Application.host fun host app => { app with host }

/-- The container with a number. -/
def container (number : Nat) : Action (Application β) (Container β) := do
  match (← Action.ask Application.containers)[number]? with
  | some c => pure c
  | none => throw (.noEntry (Text.ofNat number))

/-- Puts a container in the place of the one with its number. -/
def replace (number : Nat) (c : Container β) : Action (Application β) Unit :=
  Action.update fun app => { app with containers := app.containers.set number c }

/-- Builds a container and gives its number. -/
def build (given : Option GivenSettings) (directory : Option Path)
    (injected : Option (Clipboard (Host β))) : Action (Application β) Nat := do
  let c ← onHost (Container.build given directory injected)
  let number ← Action.ask fun app => app.containers.length
  Action.update fun app => { app with containers := app.containers ++ [c] }
  pure number

/-- The number of the shared container, which is built if there is none. -/
def sharedContainer : Action (Application β) Nat := do
  match ← Action.ask Application.shared with
  | some number => pure number
  | none => do
    let number ← build none none none
    Action.update fun app => { app with shared := some number }
    pure number

/-- Forgets which container is shared; the container itself goes on. -/
def forgetShared : Action (Application β) Unit :=
  Action.update fun app => { app with shared := none }

/-- The container with a number, or the shared one for no number. -/
def containerOrShared : Option Nat → Action (Application β) (Container β)
  | some number => container number
  | none => do container (← sharedContainer)

/-- Puts a container that has taken up settings in the place of the one with its number, and
announces the settings. They are in force even if they cannot be announced. -/
def takeUp (number : Nat) (c : Container β) : Action (Application β) SettingsRecord := do
  replace number c
  onHost (Container.announce c.settings)
  pure c.settings

/-- Keeps settings and takes them up in a container. -/
def saveSettings (number : Nat) (given : GivenSettings) :
    Action (Application β) SettingsRecord := do
  let c ← container number
  takeUp number (← onHost (c.saveSettings given))

/-- Forgets the settings that are kept and takes up the defaults in a container. -/
def resetSettings (number : Nat) : Action (Application β) SettingsRecord := do
  let c ← container number
  takeUp number (← onHost c.resetSettings)

/-- Changes a field of the settings that a container shows; its clipboard stays as it is. -/
def assign (number : Nat) (assignment : Assignment) : Action (Application β) Unit := do
  let c ← container number
  let settings ← Action.ofResult (c.settings.assign assignment)
  replace number { c with settings }

/-- Puts a text on the clipboard of a container, or of the shared one for no number. -/
def copy (number : Option Nat) (text : Value) : Action (Application β) Reply := do
  let c ← containerOrShared number
  onHost (Command.copy c text)

/-- Reads the text on the clipboard of a container, or of the shared one for no number. -/
def read (number : Option Nat) : Action (Application β) Reply := do
  let c ← containerOrShared number
  onHost (Command.read c)

end Application

end Pasteboard
