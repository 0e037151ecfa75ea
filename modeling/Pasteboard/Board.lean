import Pasteboard.Handle

/-!
# Boards

A clipboard in the memory of the process. It may be unavailable, it may reject what is put on it,
and it counts its handles.
-/

namespace Pasteboard

/-- A clipboard in memory. A reason that is empty is none. -/
structure Board where
  /-- What the board holds; `null` if it holds no text. -/
  text : Value := .null
  /-- How many handles were handed out. -/
  opened : Nat := 0
  /-- How many handles were released. -/
  released : Nat := 0
  /-- Why no handle can be had. -/
  unavailable : Text := []
  /-- Why nothing can be put on the board. -/
  rejectWrites : Text := []

namespace Board

/-- Takes what is on the board. -/
def get : Action Board Value := do
  match ← Action.ask Board.text with
  | .null => throw (.operation .read "clipboard contains no text")
  | v => pure v

/-- Puts a value on the board, which takes any. -/
def set (v : Value) : Action Board Unit := do
  let reason ← Action.ask Board.rejectWrites
  if reason.isEmpty then Action.update fun board => { board with text := v }
  else throw (.operation .copy reason)

/-- What a handle does on the board. -/
def hooks : Hooks Board where
  get := get
  set := set
  release := Action.update fun board => { board with released := board.released + 1 }

/-- The board as a clipboard. -/
def clipboard : Clipboard Board where
  acquire := do
    let reason ← Action.ask Board.unavailable
    if reason.isEmpty then
      Action.update fun board => { board with opened := board.opened + 1 }
      pure { hooks }
    else throw (.init reason)

end Board

end Pasteboard
