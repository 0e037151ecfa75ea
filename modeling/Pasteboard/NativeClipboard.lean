import Pasteboard.Host
import Pasteboard.Text.Blank

/-!
# The clipboard of the host

The clipboard is reached through a native tool, chosen anew for every handle. A handle then keeps
its tool: each text that is got or set is one run of a command of that tool, with the time that the
handle was given. A run that ends in any other way than by itself with status zero is a failure of
the operation, described by what the command said or, if it said nothing, by its status. A codec
that breaks down and files that cannot be had for what a command prints are no failures of the
operation: they are passed on as they are.
-/

namespace Pasteboard

/-- Why a value that counts as no number cannot be told like one. -/
def Value.unbrief : Value → Failure
  | int _ => .other "OverflowError" (some "int too large to convert to float")
  | text _ => .other "ValueError" (some "Unknown format code 'g' for object of type 'str'")
  | v => .badCall ("unsupported format string passed to " ++ v.kindName ++ ".__format__")

/-- A time in seconds as it is told to the user, with six digits. Only numbers have such a form. -/
def Value.brief (v : Value) : Except Failure Text :=
  match v.number? with
  | some x => .ok x.brief
  | none => .error v.unbrief

/-- What a failed run is described by: its error output, or its status if that is blank. -/
def Ending.complaint (program : Text) (status : Int) (errors : Bytes) : Text :=
  let said := (Charset.utf8.decodeReplacing errors).trimmed
  if said.isEmpty then program ++ " exited with status " ++ Text.ofInt status else said

/-- The output of a run of `program`, or why the operation it was for failed. -/
def Ending.outcome (program : Text) (op : Operation) (timeout : Value) :
    Ending → Except Failure Bytes
  | .exited status output errors =>
    if status = 0 then .ok output else .error (.operation op (complaint program status errors))
  | .failed (.timeout _) => do
    let seconds ← timeout.brief
    .error (.operation op (program ++ " did not finish within " ++ seconds ++ " seconds"))
  | .failed (.system error) => .error (.operation op error.message)
  | .failed f => .error f
  | .uncollected _ error => .error (.system error)

/-- The failure that a fault of a codec stands for, where `refusal` words what the codec refuses. -/
def CodecFault.failure (refusal : Text → Failure) : CodecFault → Failure
  | refused reason => refusal reason
  | broken f => f

namespace Tool

variable {β : Type}

/-- The octets of a text in the encoding that the tool reads. -/
def encode (tool : Tool) (t : Text) : Except Failure Bytes :=
  match tool.writeEncoding.codec? with
  | none => .error (.unknownCharset tool.writeEncoding.name)
  | some codec => (codec.encode t).mapError (CodecFault.failure (.operation .copy))

/-- The text of octets in the encoding that the tool writes. No octets are the empty text in any
encoding. -/
def decode (tool : Tool) (content : Bytes) : Except Failure Text :=
  if content.isEmpty then .ok []
  else match tool.readEncoding.codec? with
    | none => .error (.unknownCharset tool.readEncoding.name)
    | some codec =>
      (codec.decode content).mapError (CodecFault.failure fun reason =>
        .operation .read ("clipboard content is not valid " ++ tool.readEncoding.name ++ " text: "
          ++ reason))

/-- The output of a paste command without the line feed that the tool puts at its end. -/
def clipped (tool : Tool) (program : Text) (output : Bytes) : Except Failure Bytes :=
  if tool.outputNewline then
    if output.getLast? = some 10 then .ok output.dropLast
    else .error (.operation .read (program ++ " returned no clipboard text"))
  else .ok output

/-- The text that the output of a paste command stands for. -/
def interpret (tool : Tool) (stripLineEnd : Bool) (program : Text) (output : Bytes) :
    Except Failure Text := do
  let t ← tool.decode (← tool.clipped program output)
  pure (if stripLineEnd then t.withoutLineEnd else t)

/-- The run of a command of the tool. -/
def runOf (tool : Tool) (op : Operation) (timeout : Value) (inherited : Environment)
    (input : Option Bytes) : Run where
  command := tool.command op
  input := input
  output := match op with
    | .copy => .discard
    | .read => .capture
  timeout := timeout
  environment := tool.environment? inherited

/-- Runs a command of the tool and hands over the program's name and its output. -/
def runCommand (tool : Tool) (op : Operation) (timeout : Value) (input : Option Bytes) :
    Action (Host β) (Text × Bytes) := do
  let program ← Action.ofResult (firstWord (tool.command op))
  Host.notify (.running program op)
  let inherited ← Action.ask Host.environment
  let ending ← Host.run (tool.runOf op timeout inherited input)
  let output ← Action.ofResult (ending.outcome program op timeout)
  pure (program, output)

/-- What a handle for the tool does. -/
def hooks (tool : Tool) (timeout : Value) (stripLineEnd : Bool) : Hooks (Host β) where
  get := do
    let (program, output) ← tool.runCommand .read timeout none
    let t ← Action.ofResult (tool.interpret stripLineEnd program output)
    pure (.text t)
  set
    | .text t => do
      let input ← Action.ofResult (tool.encode t)
      let _ ← tool.runCommand (β := β) .copy timeout (some input)
    | v => throw (.noAttribute v.kindName "encode")
  release := Host.notify (.handleReleased tool.name)

end Tool

/-- The clipboard of the host as it is configured; nothing checks with what. -/
structure SystemClipboard where
  backend : BackendField := .known .auto
  timeout : Value := .float (Binary64.ofInt 5)
  stripLineEnd : Value := .bool false
deriving DecidableEq

namespace SystemClipboard

variable {β : Type}

/-- The clipboard that a record of settings asks for. -/
def ofSettings (r : SettingsRecord) : SystemClipboard :=
  ⟨r.backend, r.timeout, r.stripTrailingNewline⟩

/-- The notice that a tool was chosen for a backend. -/
def chosen (backend : Backend) (tool : Tool) : Notice :=
  if backend = .auto then .detectedTool tool.name else .configuredTool tool.name

/-- Chooses the tool for a backend; a platform and an environment may be given in place of those of
the process. -/
def resolve (backend : BackendField) (platform : Option Text := none)
    (environment : Option Environment := none) : Action (Host β) Tool := do
  let around ← Action.ask fun host => host.surroundings.replacing platform environment
  let backend ← Action.ofResult backend.resolved
  let tool ← Action.ofResult (Tool.resolve around backend)
  Host.notify (chosen backend tool)
  pure tool

/-- Chooses a tool and hands out a handle for it. -/
def acquire (clipboard : SystemClipboard) : Action (Host β) (Tool × Handle (Host β)) := do
  let tool ← resolve clipboard.backend
  Host.notify (.handleOpened tool.name)
  pure (tool, { hooks := tool.hooks clipboard.timeout clipboard.stripLineEnd.counts })

/-- The clipboard of the host as one that hands out handles. -/
def asClipboard (clipboard : SystemClipboard) : Clipboard (Host β) where
  acquire := Prod.snd <$> clipboard.acquire

end SystemClipboard

end Pasteboard
