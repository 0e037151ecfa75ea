import Pasteboard.Handle

/-!
# Scripted clipboards

A clipboard that does what a script says and keeps a trace of how it was used: which hooks ran, in
order, and which values were put on it.
-/

namespace Pasteboard

/-- A use of a clipboard. -/
inductive Use
  | acquire
  | get
  | set
  | release
deriving DecidableEq

/-- The name of a use. -/
def Use.name : Use → Text
  | acquire => "open"
  | get => "get"
  | set => "set"
  | release => "release"

/-- How a clipboard was used. -/
structure Trace where
  uses : List Use := []
  written : List Value := []

namespace Trace

/-- Adds a use at the end. -/
def note (u : Use) (trace : Trace) : Trace := { trace with uses := trace.uses ++ [u] }

/-- Adds a value that was put on the clipboard. -/
def noteWritten (v : Value) (trace : Trace) : Trace :=
  { trace with written := trace.written ++ [v] }

end Trace

/-- What a scripted clipboard does. -/
structure Script where
  /-- How getting a handle ends. -/
  acquire : Except Failure Unit := .ok ()
  /-- Handles are released before they are handed out. -/
  released : Bool := false
  get : Except Failure Value := .ok .null
  set : Except Failure Unit := .ok ()
  release : Except Failure Unit := .ok ()

namespace Script

/-- The hooks of a script, each of which leaves its trace before it ends. -/
def hooks (s : Script) : Hooks Trace where
  get := do Action.update (Trace.note .get); Action.ofResult s.get
  set v := do
    Action.update fun trace => (trace.note .set).noteWritten v
    Action.ofResult s.set
  release := do Action.update (Trace.note .release); Action.ofResult s.release

/-- The clipboard that follows a script. -/
def clipboard (s : Script) : Clipboard Trace where
  acquire := do
    Action.update (Trace.note .acquire)
    Action.ofResult s.acquire
    let handle : Handle Trace := { hooks := s.hooks }
    if s.released then
      handle.close
      pure (handle.after .close)
    else pure handle

end Script

end Pasteboard
