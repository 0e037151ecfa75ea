import Pasteboard.Disk.Path
import Pasteboard.Environment
import Pasteboard.Text.Blank

/-!
# Where settings are kept

Settings are in a directory of their own below the user's configuration directory. The variable
`XDG_CONFIG_HOME` names that directory if its value is an absolute path; else it is `.config` in the
home directory.
-/

namespace Pasteboard.Settings

/-- The name of the directory of this library below a user's configuration directory. -/
def directoryName : Text := "clipbridge"

/-- The name of the settings file. -/
def fileName : Text := "settings.json"

/-- The name of a temporary file of settings. -/
def temporaryName (token : Token) : Text := ".settings-" ++ token.letters ++ ".tmp"

/-- A text without the slashes at its end. -/
def withoutEndSlashes (t : Text) : Text :=
  (t.reverse.dropWhile fun c => decide (c = Path.slash)).reverse

/-- The user's configuration directory, given the home directory for a user without `HOME`. -/
def configurationDirectory (e : Environment) (fallback : Text) : Path :=
  let chosen := (e.get? "XDG_CONFIG_HOME").getD []
  if (Path.ofText chosen).isAbsolute then Path.ofText chosen
  else Path.ofText (withoutEndSlashes ((e.get? "HOME").getD fallback) ++ "/.config")

/-- The directory of the settings file. -/
def directory (e : Environment) (fallback : Text) : Path :=
  (configurationDirectory e fallback).child directoryName

/-- The settings file in a directory. -/
def fileIn (directory : Path) : Path := directory.child fileName

end Pasteboard.Settings
