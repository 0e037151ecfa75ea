import Pasteboard.Host
import Pasteboard.Settings.Document
import Pasteboard.Settings.Location

/-!
# Keeping settings

Settings are kept in one file of a directory. Loading always gives settings that can be used: the
defaults stand in for a file that is missing, cannot be read or does not hold settings, and a notice
is sent unless the file is just missing. Saving writes a temporary file in the same directory and
moves it over the old file, so the file is never seen half written; if anything goes wrong the
temporary file is removed and the old file stays.
-/

namespace Pasteboard

/-- The place where settings are kept. -/
structure SettingsStore where
  directory : Path
deriving DecidableEq

namespace SettingsStore

variable {β : Type}

/-- The settings file. -/
def file (store : SettingsStore) : Path := Settings.fileIn store.directory

/-- The settings in the content of the file; the defaults and a notice if there are none. -/
def accept (store : SettingsStore) (content : Bytes) : Action (Host β) Settings :=
  match Settings.parse content with
  | .ok settings => pure settings
  | .error fault => do
    Host.notify (.settingsIgnored store.file.text fault.count)
    pure {}

/-- The settings that are kept, or the defaults. -/
def load (store : SettingsStore) : Action (Host β) Settings := do
  let content ← tryCatch (some <$> Host.onDisk (Disk.read store.file)) fun f =>
    if f.isMissing then pure none
    else if f.isSystem then do
      Host.notify (.settingsUnreadable store.file.text f.message)
      pure none
    else throw f
  match content with
  | some content => store.accept content
  | none => pure {}

/-- Writes a temporary file and moves it over the settings file, which is replaced at once. -/
def replace (store : SettingsStore) (temporary : Path) (content : Bytes) : Action Disk Unit := do
  Disk.append temporary content
  Disk.rename temporary store.file

/-- Does an action that is to use up a temporary file; the file is removed if the action fails. -/
def cleaningUp (temporary : Path) (a : Action Disk Unit) : Action Disk Unit :=
  tryCatch a fun f => do
    Disk.removeIfPresent temporary
    throw f

/-- Makes the file hold what is written; there is a temporary file before it is known whether
anything can be written. -/
def writeOnDisk (store : SettingsStore) (tokens : List Token) (written : Except Failure Bytes) :
    Action Disk Unit := do
  Disk.makeDirectories store.directory
  let temporary ← Disk.createUnder store.directory.resolved (tokens.map Settings.temporaryName)
  cleaningUp temporary do
    store.replace temporary (← Action.ofResult written)

/-- What saving does on the disk, given the tokens that the temporary file may get. -/
def saveOnDisk (store : SettingsStore) (tokens : List Token) (record : SettingsRecord) :
    Action Disk Unit :=
  store.writeOnDisk tokens record.content

/-- Keeps settings in place of those that were kept before. -/
def save (store : SettingsStore) (record : SettingsRecord) : Action (Host β) Unit := do
  let tokens ← Action.ask Host.temporaryTokens
  Host.onDisk (store.saveOnDisk tokens record)
  Host.notify (.settingsSaved store.file.text)

/-- Forgets what is kept; the defaults are what counts then. -/
def reset (store : SettingsStore) : Action (Host β) Settings := do
  Host.onDisk (Disk.removeIfPresent store.file)
  pure {}

end SettingsStore

end Pasteboard
