import Pasteboard.Text.CodePoint

/-!
# Paths

A path is an anchor, which is empty for a relative path, and the names that lead on from there. The
text of a path is cleaned when it is read: empty names and single points are dropped. Exactly two
slashes at the start are an anchor of their own; any other number of slashes is one.
-/

namespace Pasteboard

namespace CodePoint

/-- Half of a surrogate pair that stands for an octet which is no text on its own. -/
def standsForOctet (c : CodePoint) : Bool := decide (0xDC80 ≤ c.val ∧ c.val ≤ 0xDCFF)

/-- A code point without octets in the names of the system. -/
def lacksOctets (c : CodePoint) : Bool := c.isSurrogate && !c.standsForOctet

/-- A code point that no name of the system holds: a NUL, or one without octets. -/
def isUnnameable (c : CodePoint) : Bool := decide (c.val = 0) || c.lacksOctets

end CodePoint

/-- A path: where it starts, and the names on the way. -/
structure Path where
  anchor : Text
  names : List Text
deriving DecidableEq

namespace Path

/-- The mark between two names. -/
def slash : CodePoint := CodePoint.ofChar '/'

/-- The anchor that a text starts with. -/
def anchorOf (t : Text) : Text :=
  match (t.takeWhile fun c => decide (c = slash)).length with
  | 0 => []
  | 2 => [slash, slash]
  | _ => [slash]

/-- The path that a text denotes. -/
def ofText (t : Text) : Path where
  anchor := anchorOf t
  names := (t.splitAt slash).filter fun name => !name.isEmpty && !decide (name = ".")

/-- The path as text; the empty path is a point. -/
def text (p : Path) : Text :=
  if p.anchor.isEmpty && p.names.isEmpty then "."
  else p.anchor ++ Text.join [slash] p.names

/-- The path one name further. -/
def child (p : Path) (name : Text) : Path := { p with names := p.names ++ [name] }

/-- The path that a text denotes, seen from a directory: the directory does not matter if the text
is absolute. -/
def join (p : Path) (t : Text) : Path :=
  let q := ofText t
  if q.anchor.isEmpty then { p with names := p.names ++ q.names } else q

/-- The path without its last name. -/
def parent (p : Path) : Path := { p with names := p.names.dropLast }

/-- The name that leads from a directory back to the one it is in. -/
def back : Text := ".."

/-- The path without names that lead back, each of which takes away the name before it. -/
def resolved (p : Path) : Path :=
  { p with names := p.names.foldl (fun done name =>
      if name = back then done.dropLast else done ++ [name]) [] }

/-- The path holds a code point that no name of the system holds. -/
def isUnnameable (p : Path) : Bool :=
  p.anchor.any CodePoint.isUnnameable || p.names.any fun name => name.any CodePoint.isUnnameable

/-- The path starts at the root. -/
def isAbsolute (p : Path) : Bool := !p.anchor.isEmpty

end Path

/-- What the names of temporary files are told apart by: a text that can be part of a name. -/
structure Token where
  letters : Text
  isPlain : ∀ c ∈ letters, c ≠ Path.slash ∧ c.isUnnameable = false

/-- The token that is left of a text without its slashes and what else no name holds. -/
def Token.ofText (t : Text) : Token where
  letters := t.filter fun c => decide (c ≠ Path.slash ∧ c.isUnnameable = false)
  isPlain := fun _ h => of_decide_eq_true (List.mem_filter.1 h).2

end Pasteboard
