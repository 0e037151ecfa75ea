import Pasteboard.Disk.Basic
import Pasteboard.Environment
import Pasteboard.Handle
import Pasteboard.Notice
import Pasteboard.Tool.Detection

/-!
# The host

The machine that the library works on: its platform and environment, the programs it can start, its
disk, the notices that were sent, and one more part `memory` for clipboards that live in the process
itself.

A program is started with a `Run` and ends with an `Ending`. What programs do is up to the host;
they may read and change the disk. Every run is recorded.
-/

namespace Pasteboard

/-- What happens to the output of a run. -/
inductive Output
  | capture
  | discard
deriving DecidableEq

/-- A run of a native command. -/
structure Run where
  command : List Text
  /-- What the command reads; none if it reads nothing. -/
  input : Option Bytes := none
  output : Output
  /-- How many seconds the command has, in whatever form the caller gave it. -/
  timeout : Value
  /-- The variables of the command; none if it inherits those of the process. -/
  environment : Option Environment := none
deriving DecidableEq

/-- How a run ends. What the command prints is collected in files, which can fail on its own. -/
inductive Ending
  /-- The command ended; a status below zero is the number of the signal that ended it. -/
  | exited (status : Int) (output errors : Bytes)
  /-- The command could not be started, or did not end by itself. -/
  | failed (failure : Failure)
  /-- The files for what the command prints could not be had: not made, and then it was not started,
  or not read after it had ended. -/
  | uncollected (started : Bool) (error : SystemError)
deriving DecidableEq

/-- The command was to be started at all. -/
def Ending.isRun : Ending → Bool
  | uncollected started _ => started
  | _ => true

/-- The programs of a host, given the environment of the process. -/
structure Programs where
  /-- A program of this name is found. -/
  finds : Environment → Disk → Text → Bool
  /-- What a run does. -/
  run : Environment → Run → Disk → Ending × Disk

/-- Programs that are found by a list of names and all end in one way. -/
def Programs.scripted (available : List Text) (ending : Ending) : Programs where
  finds _ _ name := available.contains name
  run _ _ disk := (ending, disk)

/-- A machine; `β` is what clipboards inside the process are made of. -/
structure Host (β : Type) where
  platform : Text
  environment : Environment
  programs : Programs
  /-- The runs so far. -/
  runs : List Run := []
  disk : Disk := {}
  /-- The tokens that temporary files may get. -/
  temporaryTokens : List Token
  /-- The directory of the settings if no other is named. -/
  settingsDirectory : Path
  /-- The notices so far. -/
  notices : List Notice := []
  memory : β

namespace Host

variable {β α : Type}

/-- A host without programs, files and variables. -/
def bare (memory : β) : Host β where
  platform := "linux"
  environment := []
  programs := .scripted [] (.exited 0 [] [])
  temporaryTokens := []
  settingsDirectory := ⟨"/", []⟩
  memory := memory

/-- Sends a notice. -/
def notify (n : Notice) : Action (Host β) Unit :=
  Action.update fun host => { host with notices := host.notices ++ [n] }

/-- A call on the disk of the host. -/
def onDisk (a : Action Disk α) : Action (Host β) α :=
  a.within Host.disk fun disk host => { host with disk }

/-- What the choice of a tool depends on. -/
def surroundings (host : Host β) : Surroundings where
  platform := host.platform
  environment := host.environment
  finds := host.programs.finds host.environment host.disk

/-- Runs a native command. -/
def run (r : Run) : Action (Host β) Ending :=
  Action.ofFunction fun host =>
    let (ending, disk) := host.programs.run host.environment r host.disk
    (.ok ending, { host with runs := host.runs ++ (if ending.isRun then [r] else []), disk })

/-- A clipboard in the memory of the process as a clipboard of the host. -/
def inMemory (p : Clipboard β) : Clipboard (Host β) :=
  p.within Host.memory fun memory host => { host with memory }

end Host

end Pasteboard
