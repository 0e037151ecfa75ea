import Pasteboard.Attribute
import Pasteboard.Field
import Pasteboard.Json.Writer

/-!
# Replies

A reply is what a command hands back: whether it worked, the value it has, and the sentence for the
user if it did not work. A reply is made from values of any kind, field by field as settings are,
and does not change once it is made. There are two kinds of reply, one whose value is text and one
that has no value; the kind decides what is accepted and is no part of the reply.
-/

namespace Pasteboard

/-- What the value of a reply may be. -/
inductive ReplyKind
  | text
  | nothing
deriving DecidableEq

/-- The name of the record in messages. -/
def ReplyKind.recordName : ReplyKind → Text
  | text => "CommandResult[str]"
  | nothing => "CommandResult[NoneType]"

/-- The answer of a command. -/
structure Reply where
  ok : Bool
  value : Option Text := none
  error : Option Text := none
deriving DecidableEq

/-- The text that a value is, or none for `null`. Text is taken as it is, surrogates included. -/
def Value.readOptionalText : Value → Except FaultKind (Option Text)
  | null => .ok none
  | text t => .ok (some t)
  | bytes b =>
    match Charset.utf8.decode b with
    | .ok t => .ok (some t)
    | .error _ => .error .notUnicode
  | _ => .error .notText

/-- Accepts `null` alone. -/
def Value.readNothing : Value → Except FaultKind (Option Text)
  | null => .ok none
  | _ => .error .notNone

namespace Reply

/-- The names of the fields. -/
def okField : Text := "ok"

@[inherit_doc okField]
def valueField : Text := "value"

@[inherit_doc okField]
def errorField : Text := "error"

/-- Reads the field that says whether the command worked; it has to be there. -/
def readOk (fields : Fields) : Except Fault Bool :=
  match fields.get? okField with
  | none => .error ⟨okField, .missing⟩
  | some v => v.readBool.mapError fun kind => ⟨okField, kind⟩

/-- The reader of the value of a kind of reply. -/
def readValue : ReplyKind → Value → Except FaultKind (Option Text)
  | .text => Value.readOptionalText
  | .nothing => Value.readNothing

/-- The reply that the fields of an object give, or the faults of its bad fields. -/
def validate (kind : ReplyKind) (fields : Fields) : Except (List Fault) Reply :=
  let ok := readOk fields
  let value := fields.readOr valueField none (readValue kind)
  let error := fields.readOr errorField none Value.readOptionalText
  match ok, value, error with
  | .ok ok, .ok value, .ok error => .ok ⟨ok, value, error⟩
  | _, _, _ => .error (Field.faultOf ok ++ Field.faultOf value ++ Field.faultOf error)

/-- Makes a reply from the fields of an object. -/
def make (kind : ReplyKind) (fields : Fields) : Except Failure Reply :=
  (validate kind fields).mapError (Failure.refused kind.recordName)

/-- The reply of a command that worked, with its value. -/
def success (kind : ReplyKind) (value : Value) : Except Failure Reply :=
  make kind [(okField, .bool true), (valueField, value)]

/-- The reply of a command that did not work, with the sentence for the user. -/
def failure (kind : ReplyKind) (error : Value) : Except Failure Reply :=
  make kind [(okField, .bool false), (errorField, error)]

/-- The failure of a call that was given too many arguments; the record itself counts as one. -/
def tooMany (accepted : Text) (arguments : List Value) : Failure :=
  .badCall (accepted ++ " but " ++ Text.ofNat (arguments.length + 1) ++ " were given")

/-- Calls `success` with a list of arguments, of which the value may be left out. -/
def successOf (kind : ReplyKind) : List Value → Except Failure Reply
  | [] => success kind .null
  | [value] => success kind value
  | arguments => .error
      (tooMany "CommandResult.success() takes from 1 to 2 positional arguments" arguments)

/-- Calls `failure` with a list of arguments. -/
def failureOf (kind : ReplyKind) : List Value → Except Failure Reply
  | [] => .error (.badCall
      "CommandResult.failure() missing 1 required positional argument: 'error'")
  | [error] => failure kind error
  | arguments => .error (tooMany "CommandResult.failure() takes 2 positional arguments" arguments)

/-- The value of a reply that is fine; the sentence for the user as a failure of any other. -/
def unwrap (r : Reply) : Except Failure (Option Text) :=
  if r.ok then .ok r.value else .error (.general r.error)

/-- What becomes of a reply when an attribute of it has been set. -/
inductive Change
  /-- The reply has the fields that it had. -/
  | kept
  /-- The reply has the fields of another table, whatever they are. -/
  | replaced (fields : Fields)

/-- An attempt to set an attribute. Replies do not change: a visible name is refused, and what is
set beside the fields leaves them as they are. The one way around this is to set the table of the
fields. -/
def assign (kind : ReplyKind) (given : Value) (target : Attribute) : Except Failure Change :=
  match target, target.refusal? kind.recordName given, given with
  | .visible name, _, _ => .error (.refused kind.recordName [⟨name, .frozen⟩])
  | _, some f, _ => .error f
  | .table _, none, .object fields => .ok (.replaced fields)
  | _, none, _ => .ok .kept

/-- Whether a reply on which some attributes have been set agrees with another one: its fields are
the same and nothing was set that sets it apart. -/
def agrees (r : Reply) (marks : List Attribute) (s : Reply) : Bool :=
  !marks.contains .compared && decide (r = s)

/-- The reply as JSON on one line, if its texts can be written. -/
def render (r : Reply) : Except Failure Text := do
  let value ← (Json.writeOptional r.value).mapError Failure.unwritable
  let error ← (Json.writeOptional r.error).mapError Failure.unwritable
  pure ("\x7b\"ok\":" ++ Json.writeBool r.ok ++ ",\"value\":" ++ value ++ ",\"error\":" ++ error
    ++ "\x7d")

end Reply

end Pasteboard
