import Pasteboard.Text.CodePoint

/-!
# Environments

The variables that a program runs with. Of two entries with one name the later one counts, and
setting a variable leaves its place in the order as it is.
-/

namespace Pasteboard

/-- Variables with their values. -/
abbrev Environment := List (Text × Text)

namespace Environment

/-- The value of a variable. -/
def get? (e : Environment) (name : Text) : Option Text :=
  (e.reverse.find? fun entry => decide (entry.1 = name)).map Prod.snd

/-- The variable has a value that is not empty. -/
def isSet (e : Environment) (name : Text) : Bool :=
  match e.get? name with
  | some value => !value.isEmpty
  | none => false

/-- The environment with one more variable, or another value of one that it has. -/
def insert (e : Environment) (name value : Text) : Environment :=
  if e.any fun entry => decide (entry.1 = name) then
    e.map fun entry => if entry.1 = name then (name, value) else entry
  else e ++ [(name, value)]

/-- The environment with the variables of another one, which win; no name is there twice. -/
def override (e extra : Environment) : Environment :=
  (e ++ extra).foldl (fun e entry => e.insert entry.1 entry.2) []

end Environment

end Pasteboard
