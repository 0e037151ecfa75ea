import Pasteboard.Failure
import Pasteboard.Value

/-!
# Writing JSON

A string stands between quotation marks; the marks themselves, backslashes and control characters
are escaped, everything else stands for itself. Half of a surrogate pair cannot be written, nor can
octets that are no text. Each item of a list and each field of an object is on a line of its own,
set in by two spaces for each list and object around it.
-/

namespace Pasteboard.Json

/-- The control characters that have a letter of their own. -/
def letters : List (Nat × Char) :=
  [(0x8, 'b'), (0x9, 't'), (0xA, 'n'), (0xC, 'f'), (0xD, 'r')]

/-- One code point inside a string. -/
def writePoint (c : CodePoint) : Text :=
  if c = CodePoint.ofChar '"' ∨ c = CodePoint.ofChar '\\' then [CodePoint.ofChar '\\', c]
  else if 0x20 ≤ c.val then [c]
  else match letters.find? fun e => e.1 == c.val with
    | some (_, letter) => [CodePoint.ofChar '\\', CodePoint.ofChar letter]
    | none => "\\u" ++ Text.hex 4 c.val

/-- A string. -/
def writeString (t : Text) : Text :=
  CodePoint.ofChar '"' :: t.flatMap writePoint ++ [CodePoint.ofChar '"']

/-- A truth value. -/
def writeBool (b : Bool) : Text := if b then "true" else "false"

/-- A string, or `null` for none; refused if the string cannot be written. -/
def writeOptional : Option Text → Except EncodeFault Text
  | none => .ok "null"
  | some t => (Charset.utf8.encode t).map fun _ => writeString t

/-- Why octets cannot be written as a string. -/
def brokenOctets (fault : DecodeFault) : Failure :=
  .unserializable ("Error serializing to JSON: " ++
    match fault.cause with
    | .unexpectedEnd => "incomplete utf-8 byte sequence from index " ++ Text.ofNat fault.start
    | _ => "invalid utf-8 sequence of " ++ Text.ofNat fault.run.length ++ " bytes from index "
        ++ Text.ofNat fault.start)

/-- A string of any code points, if it can be written. -/
def writeText (t : Text) : Except Failure Text :=
  ((Charset.utf8.encode t).map fun _ => writeString t).mapError .unwritable

/-- Lines inside of `depth` lists and objects, between the marks of one more. -/
def block (depth : Nat) (first last : Char) (lines : List Text) : Text :=
  let margin (n : Nat) : Text :=
    CodePoint.ofChar '\n' :: List.replicate (2 * n) (CodePoint.ofChar ' ')
  if lines.isEmpty then [CodePoint.ofChar first, CodePoint.ofChar last]
  else CodePoint.ofChar first :: margin (depth + 1) ++ Text.join ("," ++ margin (depth + 1)) lines
    ++ margin depth ++ [CodePoint.ofChar last]

mutual

/-- A value inside of `depth` lists and objects, if it can be written. Numbers that are not finite
are written as `null`. -/
def writeValue (depth : Nat) : Value → Except Failure Text
  | .null => .ok "null"
  | .bool b => .ok (writeBool b)
  | .int i => .ok (Text.ofInt i)
  | .float x => .ok x.document
  | .text t => writeText t
  | .bytes b =>
    match Charset.utf8.decode b with
    | .ok t => writeText t
    | .error fault => .error (brokenOctets fault)
  | .list vs => return block depth '[' ']' (← writeItems (depth + 1) vs)
  | .object fs => return block depth '\x7b' '\x7d' (← writeFields (depth + 1) fs)
  | .foreign kind _ =>
    .error (.unserializable ("Unable to serialize unknown type: <class " ++ kind.quoted ++ ">"))

/-- The items of a list. -/
def writeItems (depth : Nat) : List Value → Except Failure (List Text)
  | [] => .ok []
  | v :: vs => return (← writeValue depth v) :: (← writeItems depth vs)

/-- The fields of an object. -/
def writeFields (depth : Nat) : List (Text × Value) → Except Failure (List Text)
  | [] => .ok []
  | (n, v) :: fs =>
    return ((← writeText n) ++ ": " ++ (← writeValue depth v)) :: (← writeFields depth fs)

end

end Pasteboard.Json
