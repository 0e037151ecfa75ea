import Pasteboard.NativeClipboard
import Pasteboard.Settings.Store

/-!
# Containers

A container holds the settings in force and the clipboard that goes with them. Settings come from a
caller or from the store; those that come as a mapping are validated first. New settings take effect
only when they have been kept.

Every time that settings are taken up, the container asks the clipboard that was brought along
whether it counts as true. If so, that one is in use, and if not, a new clipboard of the host. Most
clipboards always count as true, but it is for them to say.
-/

namespace Pasteboard

/-- Settings as a caller hands them over. -/
inductive GivenSettings
  /-- Field values that are to be validated. -/
  | mapping (fields : Fields)
  /-- A record that is taken as it is. -/
  | record (record : SettingsRecord)

namespace GivenSettings

/-- The settings that a caller means. -/
def accepted : GivenSettings → Except Failure SettingsRecord
  | record r => .ok r
  | mapping fields =>
    (Settings.record <$> Settings.validate fields).mapError fun faults =>
      .configuration ("Invalid clipboard settings: " ++ Fault.summary Settings.recordName faults)
        faults

/-- What a value consists of, one after the other: code points, octets, items or names. -/
def parts? : Value → Option (List Value)
  | .text t => some (t.map fun c => .text [c])
  | .bytes b => some (b.map fun o => .int o.toNat)
  | .list vs => some vs
  | .object fields => some (fields.map fun f => .text f.1)
  | _ => none

/-- The field that one part of a series of pairs stands for; a name that is no text names none. -/
def pair? (place : Nat) (part : Value) : Except Failure (Option (Text × Value)) :=
  let which : Text := "dictionary update sequence element #" ++ Text.ofNat place
  match parts? part with
  | none => .error (.badCall ("cannot convert " ++ which ++ " to a sequence"))
  | some [name, v] =>
    match name.keyFault?, name with
    | some f, _ => .error f
    | none, .text name => .ok (some (name, v))
    | none, _ => .ok none
  | some parts => .error (.other "ValueError"
      (some (which ++ " has length " ++ Text.ofNat parts.length ++ "; 2 is required")))

/-- The fields that a series of pairs stands for, counted from `place` on. -/
def pairs (place : Nat) : List Value → Except Failure Fields
  | [] => .ok []
  | part :: rest => return (← pair? place part).toList ++ (← pairs (place + 1) rest)

/-- A value where a mapping is asked for: an object, or a series of pairs. -/
def ofValue : Value → Except Failure GivenSettings
  | .object fields => .ok (mapping fields)
  | v =>
    match parts? v with
    | some parts => mapping <$> pairs 0 parts
    | none => .error (.badCall (v.kindName.quoted ++ " object is not iterable"))

end GivenSettings

/-- The clipboard of a container. -/
inductive Adapter (σ : Type)
  /-- A clipboard that the caller brought along. -/
  | injected (clipboard : Clipboard σ)
  /-- The clipboard of the host. -/
  | system (clipboard : SystemClipboard)

/-- Settings in force, the clipboard for them and the place where they are kept. -/
structure Container (β : Type) where
  settings : SettingsRecord
  adapter : Adapter (Host β)
  /-- The clipboard that the caller brought along, if any. -/
  injected : Option (Clipboard (Host β))
  store : SettingsStore

namespace Container

variable {β : Type}

/-- The clipboard of the container, whichever kind it is. -/
def clipboard (c : Container β) : Clipboard (Host β) :=
  match c.adapter with
  | .injected clipboard => clipboard
  | .system clipboard => clipboard.asClipboard

/-- The clipboard for settings: the one that was brought along if there is one and it counts as true
on the host, else one of the host. -/
def adapterFor (injected : Option (Clipboard (Host β))) (r : SettingsRecord) (host : Host β) :
    Adapter (Host β) :=
  match injected.filter fun clipboard => clipboard.counts host with
  | some clipboard => .injected clipboard
  | none => .system (.ofSettings r)

/-- The container with settings that it takes up on a host, and the clipboard for them. -/
def withSettings (c : Container β) (r : SettingsRecord) (host : Host β) : Container β :=
  { c with settings := r, adapter := adapterFor c.injected r host }

/-- Sends the notice that settings are in force, which names their backend. -/
def announce (r : SettingsRecord) : Action (Host β) Unit := do
  let backend ← Action.ofResult r.named
  Host.notify (.containerReady backend r.timeout)

/-- Builds a container. Settings that are not given are loaded, and a directory that is not given is
that of the host. -/
def build (given : Option GivenSettings) (directory : Option Path)
    (injected : Option (Clipboard (Host β))) : Action (Host β) (Container β) := do
  let standard ← Action.ask Host.settingsDirectory
  let store : SettingsStore := ⟨directory.getD standard⟩
  let settings ← match given with
    | some given => Action.ofResult given.accepted
    | none => Settings.record <$> store.load
  let adapter ← Action.ask (adapterFor injected settings)
  announce settings
  pure ⟨settings, adapter, injected, store⟩

/-- A failure of the operating system as one of the settings. -/
def configurationFailure (what : Text) (f : Failure) : Failure :=
  if f.isSystem then .configuration (what ++ f.message) [] else f

/-- Keeps settings and gives the container that has taken them up. -/
def saveSettings (c : Container β) (given : GivenSettings) : Action (Host β) (Container β) := do
  let r ← Action.ofResult given.accepted
  (c.store.save r).mapFailure (configurationFailure "Cannot save clipboard settings: ")
  Action.ask (c.withSettings r)

/-- Forgets the settings that are kept and gives the container that has taken up the defaults. -/
def resetSettings (c : Container β) : Action (Host β) (Container β) := do
  let settings ← c.store.reset.mapFailure
    (configurationFailure "Cannot reset clipboard settings: ")
  Action.ask (c.withSettings settings)

end Container

end Pasteboard
