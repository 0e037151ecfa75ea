import Pasteboard.Charset.Encoding
import Pasteboard.Environment
import Pasteboard.Settings.Basic

/-!
# Clipboard tools

A tool is a pair of native commands: one takes text on its standard input and puts it on the
clipboard, the other prints what the clipboard holds. The table lists one tool for each backend that
can be configured.
-/

namespace Pasteboard

/-- A pair of commands that write and read the clipboard. The encodings may be any, also names
without a codec. -/
structure Tool where
  name : Backend
  copyCommand : List Text
  pasteCommand : List Text
  writeEncoding : Encoding := .ofCharset .utf8
  readEncoding : Encoding := .ofCharset .utf8
  /-- The variable that says that there is a display session to work in. -/
  sessionVariable : Option Text := none
  /-- Variables that the commands are run with beside those of the process. -/
  extraVariables : Environment := []
  /-- The paste command ends its output with a line feed of its own. -/
  outputNewline : Bool := false

namespace Tool

/-- The command of an operation. -/
def command (tool : Tool) : Operation → List Text
  | .copy => tool.copyCommand
  | .read => tool.pasteCommand

/-- The first word of a command. -/
def firstWord : List Text → Except Failure Text
  | [] => .error .emptyCommand
  | word :: _ => .ok word

/-- The programs that the commands start, each once. -/
def executables (tool : Tool) : Except Failure (List Text) := do
  let copy ← firstWord tool.copyCommand
  let paste ← firstWord tool.pasteCommand
  pure (if copy = paste then [copy] else [copy, paste])

/-- The environment of the commands, given that of the process; none if they inherit it. -/
def environment? (tool : Tool) (inherited : Environment) : Option Environment :=
  if tool.extraVariables.isEmpty then none else some (inherited.override tool.extraVariables)

/-! ### The table of tools -/

/-- The tool of macOS. What reads the clipboard fails when that holds no text, where the plain paste
program would print nothing. -/
def pbcopy : Tool where
  name := .pbcopy
  copyCommand := ["pbcopy"]
  pasteCommand := ["osascript", "-e", "the clipboard as text"]
  extraVariables := [("LANG", "en_US.UTF-8")]
  outputNewline := true

/-- The tool of Wayland sessions. -/
def wlClipboard : Tool where
  name := .wlClipboard
  copyCommand := ["wl-copy"]
  pasteCommand := ["wl-paste", "--no-newline", "--type", "text"]
  sessionVariable := some "WAYLAND_DISPLAY"

/-- The tool of X11 sessions. -/
def xclip : Tool where
  name := .xclip
  copyCommand := ["xclip", "-selection", "clipboard", "-in"]
  pasteCommand := ["xclip", "-selection", "clipboard", "-out"]
  sessionVariable := some "DISPLAY"

/-- The words that start a script on Windows. -/
def windowsShell : List Text := ["powershell", "-NoProfile", "-NonInteractive", "-Sta", "-Command"]

/-- The script that puts standard input on the clipboard of Windows, as UTF-8 without a mark. -/
def windowsCopyScript : Text :=
  "Add-Type -AssemblyName System.Windows.Forms; "
    ++ "$ms = New-Object System.IO.MemoryStream; "
    ++ "[Console]::OpenStandardInput().CopyTo($ms); "
    ++ "$t = (New-Object System.Text.UTF8Encoding $false).GetString($ms.ToArray()); "
    ++ "$d = New-Object System.Windows.Forms.DataObject; "
    ++ "$d.SetData([System.Windows.Forms.DataFormats]::UnicodeText, $t); "
    ++ "[System.Windows.Forms.Clipboard]::SetDataObject($d, $true)"

/-- The script that prints the text on the clipboard of Windows, as UTF-8 without a mark. -/
def windowsPasteScript : Text :=
  "Add-Type -AssemblyName System.Windows.Forms; "
    ++ "if (-not [System.Windows.Forms.Clipboard]::ContainsText()) "
    ++ "\x7b [Console]::Error.Write('clipboard contains no text'); exit 1 \x7d; "
    ++ "$b = (New-Object System.Text.UTF8Encoding $false).GetBytes("
    ++ "[System.Windows.Forms.Clipboard]::GetText()); "
    ++ "[Console]::OpenStandardOutput().Write($b, 0, $b.Length)"

/-- The tool of Windows. -/
def windows : Tool where
  name := .windows
  copyCommand := windowsShell ++ [windowsCopyScript]
  pasteCommand := windowsShell ++ [windowsPasteScript]

/-- The tool of a backend; automatic detection has none of its own. -/
def ofBackend? : Backend → Option Tool
  | .auto => none
  | .pbcopy => some pbcopy
  | .wlClipboard => some wlClipboard
  | .xclip => some xclip
  | .windows => some windows

/-- The tool under the name of a backend. -/
def named (name : Text) : Except Failure Tool :=
  match Backend.ofName? name with
  | none => .error (.unknownName name "BackendName")
  | some backend =>
    match ofBackend? backend with
    | some tool => .ok tool
    | none => .error (.noEntry "<BackendName.AUTO: 'auto'>")

end Tool

end Pasteboard
