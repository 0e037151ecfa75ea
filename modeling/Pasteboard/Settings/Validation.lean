import Pasteboard.Field
import Pasteboard.Settings.Basic

/-!
# Validation of settings

`Settings.validate` reads the three fields of settings independently of each other: a field that is
absent keeps its default, a name that is no field is passed over, and if any field is refused the
result is the list of their faults in field order.

There are two ways in: a mapping that a caller hands over and the document in the settings file. It
is an assumption about the validator behind them that it treats the same field values alike on both
ways, words and numerals for numbers included, so that one function stands for both.
-/

namespace Pasteboard

namespace Settings

/-- The backend that a value names. -/
def readBackend (v : Value) : Except FaultKind Backend := do
  match ← v.asText? .notBackend with
  | some t =>
    match Backend.ofName? t with
    | some b => .ok b
    | none => .error .notBackend
  | none => .error .notBackend

/-- The timeout that a value gives: a number above zero and at most `longestTimeout`. What is not a
number is not above zero and not at most the limit; it counts as above the limit. -/
def readTimeout (v : Value) : Except FaultKind Binary64 := do
  let x ← v.readNumber
  if x = .nan then .error .aboveLimit
  else if !x.isPositive then .error .notPositive
  else if !x.atMost longestTimeout then .error .aboveLimit
  else .ok x

/-- The names of the fields. -/
def backendField : Text := "backend"

@[inherit_doc backendField]
def timeoutField : Text := "timeout"

@[inherit_doc backendField]
def stripField : Text := "strip_trailing_newline"

/-- The name of the record in messages. -/
def recordName : Text := "ClipboardSettings"

/-- The settings that the fields of an object give, or the faults of its bad fields. -/
def validate (fields : Fields) : Except (List Fault) Settings :=
  let default : Settings := {}
  let backend := fields.readOr backendField default.backend readBackend
  let timeout := fields.readOr timeoutField default.timeout readTimeout
  let strip := fields.readOr stripField default.stripTrailingNewline Value.readBool
  match backend, timeout, strip with
  | .ok backend, .ok timeout, .ok strip => .ok ⟨backend, timeout, strip⟩
  | _, _, _ => .error (Field.faultOf backend ++ Field.faultOf timeout ++ Field.faultOf strip)

end Settings

end Pasteboard
