import Pasteboard.Failure
import Pasteboard.Settings.Basic

/-!
# Notices

What the library says about its work while it does it. A notice is what happened; its level, its
channel and its text follow from that.
-/

namespace Pasteboard

/-- How much a notice matters. -/
inductive Level
  | debug
  | info
  | warning
deriving DecidableEq

/-- The name of a level. -/
def Level.name : Level → Text
  | debug => "DEBUG"
  | info => "INFO"
  | warning => "WARNING"

/-- Something that happened. -/
inductive Notice
  /-- A container took up settings. -/
  | containerReady (backend : Backend) (timeout : Value)
  /-- A command failed and the user was told so. -/
  | commandFailed (op : Operation) (error : Text)
  /-- The tool of a configured backend was chosen. -/
  | configuredTool (name : Backend)
  /-- A tool was found by detection. -/
  | detectedTool (name : Backend)
  /-- A handle for a tool was handed out. -/
  | handleOpened (name : Backend)
  /-- A handle for a tool was released. -/
  | handleReleased (name : Backend)
  /-- A native command is started. -/
  | running (program : Text) (op : Operation)
  /-- The settings file was written. -/
  | settingsSaved (path : Text)
  /-- The settings file could not be read. -/
  | settingsUnreadable (path reason : Text)
  /-- The settings file holds no settings. -/
  | settingsIgnored (path : Text) (errors : Nat)
deriving DecidableEq

namespace Notice

/-- How much a notice matters. -/
def level : Notice → Level
  | containerReady _ _ => .info
  | commandFailed _ _ => .warning
  | settingsUnreadable _ _ => .warning
  | settingsIgnored _ _ => .warning
  | _ => .debug

/-- The channel that a notice is sent on. -/
def channel : Notice → Text
  | containerReady _ _ => "clipbridge.bootstrap"
  | commandFailed _ _ => "clipbridge.commands"
  | configuredTool _ => "clipbridge.infrastructure.clipboard.tools"
  | detectedTool _ => "clipbridge.infrastructure.clipboard.tools"
  | handleOpened _ => "clipbridge.infrastructure.clipboard.system_clipboard"
  | handleReleased _ => "clipbridge.infrastructure.clipboard.system_clipboard"
  | running _ _ => "clipbridge.infrastructure.clipboard.system_clipboard"
  | settingsSaved _ => "clipbridge.infrastructure.config.settings_manager"
  | settingsUnreadable _ _ => "clipbridge.infrastructure.config.settings_manager"
  | settingsIgnored _ _ => "clipbridge.infrastructure.config.settings_manager"

/-- The name of the command of an operation. -/
def commandName : Operation → Text
  | .copy => "copy_to_clipboard"
  | .read => "read_from_clipboard"

/-- What a notice says. -/
def text : Notice → Text
  | containerReady backend timeout =>
    "Clipboard container ready (backend=" ++ backend.name ++ ", timeout=" ++ timeout.shown ++ "s)"
  | commandFailed op error => commandName op ++ " failed: " ++ error
  | configuredTool name => "Using configured clipboard tool " ++ name.name
  | detectedTool name => "Detected clipboard tool " ++ name.name
  | handleOpened name => "Opened clipboard handle for " ++ name.name
  | handleReleased name => "Released clipboard handle for " ++ name.name
  | running program op => "Running " ++ program ++ " for " ++ op.name
  | settingsSaved path => "Saved settings to " ++ path
  | settingsUnreadable path reason => "Cannot read settings file " ++ path ++ ": " ++ reason
  | settingsIgnored path errors =>
    "Ignoring invalid settings file " ++ path ++ " (" ++ Text.ofNat errors ++ " error(s))"

end Notice

end Pasteboard
