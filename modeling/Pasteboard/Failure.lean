import Pasteboard.Charset.Codec
import Pasteboard.Fault
import Pasteboard.Text.Quoted

/-!
# Failures

Everything that can go wrong, as causes. A clipboard failure is tagged by what failed: getting at
the clipboard at all, or one operation on it. Clipboards are written by others, so any failure may
come out of one: untagged clipboard failures, failures of this library's other kinds and failures of
kinds that it does not know, which `Failure.other` carries with their kind and text.

`Failure.message` is the text of a failure, `Failure.details` what a clipboard failure says about
its reason, and `Failure.display` the one sentence that a user is shown for a tagged clipboard
failure.
-/

namespace Pasteboard

/-- What can be done with a clipboard. -/
inductive Operation
  | copy
  | read
deriving DecidableEq

namespace Operation

/-- The name of an operation. -/
def name : Operation → Text
  | copy => "copy"
  | read => "read"

/-- The operation with a name. -/
def ofName? (n : Text) : Option Operation := [copy, read].find? fun op => decide (op.name = n)

end Operation

/-- A failure that the operating system reports. -/
inductive SystemError
  /-- No reason at all. -/
  | bare
  /-- A number without a reason. -/
  | coded (number : Int)
  /-- A reason without a number. -/
  | described (reason : Text)
  /-- A reason with a word in place of the number. -/
  | labelled (label reason : Text)
  /-- A number and its reason, with the files it is about. -/
  | numbered (number : Int) (reason : Text) (file : Option Text) (target : Option Text)
deriving DecidableEq

/-- The text of a system failure: the number, the reason and the quoted file names. A lone number
or a lone reason is the whole text. -/
def SystemError.message : SystemError → Text
  | bare => []
  | coded number => Text.ofInt number
  | described reason => reason
  | labelled label reason => "[Errno " ++ label ++ "] " ++ reason
  | numbered number reason file target =>
    "[Errno " ++ Text.ofInt number ++ "] " ++ reason
      ++ (match file with
          | some f => ": " ++ f.quoted
          | none => [])
      ++ (match target with
          | some t => " -> " ++ t.quoted
          | none => [])

/-- The kind that the number of a system failure stands for. -/
def SystemError.kind : SystemError → Text
  | numbered number _ _ _ =>
    let kinds : List (List Int × String) :=
      [([1, 13], "PermissionError"), ([2], "FileNotFoundError"), ([3], "ProcessLookupError"),
       ([4], "InterruptedError"), ([10], "ChildProcessError"),
       ([11, 114, 115], "BlockingIOError"), ([17], "FileExistsError"),
       ([20], "NotADirectoryError"), ([21], "IsADirectoryError"),
       ([32, 108], "BrokenPipeError"), ([103], "ConnectionAbortedError"),
       ([104], "ConnectionResetError"), ([110], "TimeoutError"),
       ([111], "ConnectionRefusedError")]
    match kinds.find? fun k => k.1.contains number with
    | some (_, kind) => kind
    | none => "OSError"
  | _ => "OSError"

/-- What went wrong. -/
inductive Failure
  /-- The clipboard could not be reached. -/
  | init (details : Text)
  /-- The clipboard was reached and an operation on it failed. -/
  | operation (op : Operation) (details : Text)
  /-- A clipboard failure without a tag. -/
  | clipboard (details : Text)
  /-- A failure of a command, or one without a kind of its own. -/
  | general (text : Option Text)
  /-- A handle was used after it was released. -/
  | released (text : Text)
  /-- Settings cannot be used, saved or reset; `faults` are the fields that are to blame. -/
  | configuration (text : Text) (faults : List Fault)
  /-- The operating system refused. -/
  | system (error : SystemError)
  /-- A native command did not end in time; the text names it and its time. -/
  | timeout (text : Text)
  /-- What was to be copied is no text. -/
  | notText (kind : Text)
  /-- There is no wording for this failure, which the text shows. -/
  | unclassified (shown : Text)
  /-- A record refused a value. -/
  | refused (record : Text) (faults : List Fault)
  /-- A record cannot be written as JSON. -/
  | unwritable (fault : EncodeFault)
  /-- A record holds what JSON has no form for; the text says what. -/
  | unserializable (text : Text)
  /-- There is no charset of this name. -/
  | unknownCharset (name : Text)
  /-- A name that is none of a family. -/
  | unknownName (name family : Text)
  /-- A record has no field of a name. -/
  | unknownField (record field : Text)
  /-- A record cannot be given an attribute of this kind; the text says why. -/
  | badAttribute (text : Text)
  /-- Nothing is stored under a key, which the text shows. -/
  | noEntry (shown : Text)
  /-- A tool has a command without words. -/
  | emptyCommand
  /-- A path or a word of a command holds a NUL. -/
  | embeddedNull
  /-- A path or a word of a command has no octets. -/
  | unencodable (fault : EncodeFault)
  /-- A call with arguments that it does not take. -/
  | badCall (text : Text)
  /-- A failure of another kind; without a text it shows none. -/
  | other (kind : Text) (text : Option Text)
deriving DecidableEq

namespace Failure

/-- The failure that a used handle has been released. -/
def handleReleased : Failure := released "Clipboard handle has already been released"

/-- The failure that a value of a kind has no attribute of a name. -/
def noAttribute (kind name : Text) : Failure :=
  badAttribute (kind.quoted ++ " object has no attribute " ++ name.quoted)

/-- The failure of a look-up under a text. -/
def noEntryFor (key : Text) : Failure := noEntry key.quoted

/-- The name of a failure's kind. -/
def kind : Failure → Text
  | init _ => "ClipboardInitError"
  | operation _ _ => "ClipboardOperationError"
  | clipboard _ => "ClipboardError"
  | general _ => "ClipbridgeError"
  | released _ => "HandleClosedError"
  | configuration _ _ => "ConfigurationError"
  | system error => error.kind
  | timeout _ => "TimeoutExpired"
  | notText _ => "TypeError"
  | unclassified _ => "TypeError"
  | refused _ _ => "ValidationError"
  | unwritable _ => "SerializationError"
  | unserializable _ => "SerializationError"
  | unknownCharset _ => "LookupError"
  | unknownName _ _ => "ValueError"
  | unknownField _ _ => "ValueError"
  | badAttribute _ => "AttributeError"
  | noEntry _ => "KeyError"
  | emptyCommand => "IndexError"
  | embeddedNull => "ValueError"
  | unencodable _ => "UnicodeEncodeError"
  | badCall _ => "TypeError"
  | other kind _ => kind

/-- The text of a failure. -/
def message : Failure → Text
  | init details => details
  | operation _ details => details
  | clipboard details => details
  | general text => text.getD "None"
  | released text => text
  | configuration text _ => text
  | system error => error.message
  | timeout text => text
  | notText kind => "text must be str, not " ++ kind
  | unclassified shown => "Unclassified clipboard error: " ++ shown
  | refused record faults => Fault.summary record faults
  | unwritable fault => "Error serializing to JSON: UnicodeEncodeError: " ++ fault.message
  | unserializable text => text
  | unknownCharset name => "unknown encoding: " ++ name
  | unknownName name family => name.quoted ++ " is not a valid " ++ family
  | unknownField record field =>
    "\"" ++ record ++ "\" object has no field \"" ++ field ++ "\""
  | badAttribute text => text
  | noEntry shown => shown
  | emptyCommand => "tuple index out of range"
  | embeddedNull => "embedded null byte"
  | unencodable fault => fault.message
  | badCall text => text
  | other _ text => text.getD []

/-- The fields to blame, for failures that blame fields. -/
def faults : Failure → List Fault
  | configuration _ faults => faults
  | refused _ faults => faults
  | _ => []

/-- The failure is one of a clipboard, tagged or not. -/
def isClipboard : Failure → Bool
  | init _ => true
  | operation _ _ => true
  | clipboard _ => true
  | _ => false

/-- The failure is one of a clipboard and says what failed. -/
def isTagged : Failure → Bool
  | init _ => true
  | operation _ _ => true
  | _ => false

/-- What a clipboard failure says about its reason. -/
def details? : Failure → Option Text
  | init details => some details
  | operation _ details => some details
  | clipboard details => some details
  | _ => none

/-- A failure as another failure's text shows it: its kind and the texts it was made of. -/
def shown (f : Failure) : Text :=
  let parts : List Text := match f with
    | general text => [(text.map Text.quoted).getD "None"]
    | system (.numbered number reason _ _) => [Text.ofInt number, reason.quoted]
    | system (.labelled label reason) => [label.quoted, reason.quoted]
    | system (.coded number) => [Text.ofInt number]
    | system .bare => []
    | noEntry key => [key]
    | other _ none => []
    | _ => [f.message.quoted]
  f.kind ++ "(" ++ Text.join ", " parts ++ ")"

/-- What a user is told first: which step failed. -/
def headline : Failure → Option Text
  | init _ => some "Failed to initialize clipboard"
  | operation .copy _ => some "Failed to copy to clipboard"
  | operation .read _ => some "Failed to read from clipboard"
  | _ => none

/-- The sentence that a user is shown for a tagged clipboard failure; there is none for others. -/
def display (f : Failure) : Except Failure Text :=
  match f.headline with
  | some headline => .ok (headline ++ ": " ++ f.message)
  | none => .error (unclassified f.shown)

end Failure

end Pasteboard
