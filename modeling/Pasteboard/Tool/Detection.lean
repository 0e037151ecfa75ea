import Pasteboard.Tool.Basic

/-!
# Choosing a tool

A tool can be used in a session if its session variable is set and the programs it starts are found.
A backend that is configured by name is used or refused; automatic detection takes the first usable
tool of the platform's candidates, in order.

`Surroundings` holds all that the choice depends on, so it is a function of the backend and these.
-/

namespace Pasteboard

/-- What the choice of a tool depends on. -/
structure Surroundings where
  platform : Text
  environment : Environment
  /-- A program of this name can be started. -/
  finds : Text → Bool

/-- The surroundings with another platform and another environment in place of their own. An empty
platform stands for their own, as none does. Programs are found where they are found without that.
-/
def Surroundings.replacing (own : Surroundings) (platform : Option Text)
    (environment : Option Environment) : Surroundings where
  platform := match platform with
    | some p => if p.isEmpty then own.platform else p
    | none => own.platform
  environment := environment.getD own.environment
  finds := own.finds

theorem Surroundings.replacing_none (own : Surroundings) : own.replacing none none = own := rfl

namespace Tool

/-- The text that names tools that are missing. -/
private def missingText (tool : Tool) (missing : List Text) : Text :=
  tool.name.name ++ " is not available: " ++ Text.join ", " missing ++ " not found on PATH"

/-- The text that names a session variable that is not set. -/
private def sessionText (tool : Tool) (variableName : Text) : Text :=
  tool.name.name ++ " needs a display session but " ++ variableName ++ " is not set"

/-- The session variable of the tool that is not set, if it has one. -/
def missingSession? (tool : Tool) (around : Surroundings) : Option Text :=
  match tool.sessionVariable with
  | some v => if !v.isEmpty && !around.environment.isSet v then some v else none
  | none => none

/-- Why the tool cannot be used, or nothing if it can. The session counts before the programs. -/
def check (tool : Tool) (around : Surroundings) : Except Failure Unit :=
  match tool.missingSession? around with
  | some v => .error (.init (tool.sessionText v))
  | none => do
    let missing := (← tool.executables).filter fun program => !around.finds program
    if missing.isEmpty then pure () else throw (.init (tool.missingText missing))

/-- The starts of the names of the platforms with Wayland or X11 desktops. -/
def desktopPlatforms : List Text := ["linux", "freebsd", "openbsd", "netbsd"]

/-- The tools to try on such a desktop, in order. -/
def desktopCandidates : List Tool := [wlClipboard, xclip]

/-- The tools to try on a platform, in order, or why there are none. -/
def candidates (around : Surroundings) : Except Failure (List Tool) :=
  if around.platform = "darwin" then .ok [pbcopy]
  else if around.platform = "win32" then .ok [windows]
  else if desktopPlatforms.any fun start => around.platform.startsWith start then
    if !around.environment.isSet "WAYLAND_DISPLAY" && !around.environment.isSet "DISPLAY" then
      .error (.init "no display session available (DISPLAY and WAYLAND_DISPLAY are unset)")
    else .ok desktopCandidates
  else .error (.init ("unsupported platform: " ++ around.platform))

/-- The first tool that can be used, or why none can: the reason of the only candidate, or one text
for all of several. -/
def firstUsable (around : Surroundings) : List Tool → List Failure → Except Failure Tool
  | [], [.init reason] => .error (.init reason)
  | [], _ => .error (.init "no clipboard tool found; install wl-clipboard or xclip")
  | tool :: rest, reasons =>
    match tool.check around with
    | .ok () => .ok tool
    | .error reason => firstUsable around rest (reasons ++ [reason])

/-- The tool to use for a backend. -/
def resolve (around : Surroundings) (backend : Backend) : Except Failure Tool :=
  match ofBackend? backend with
  | some tool => do tool.check around; pure tool
  | none => do firstUsable around (← candidates around) []

end Tool

end Pasteboard
