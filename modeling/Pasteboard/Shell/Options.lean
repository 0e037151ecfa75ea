import Pasteboard.Shell.Machine
import Pasteboard.Shell.Quotation

/-!
# Options of native commands

Native commands read their options in one way: letters behind a dash, names behind two of them,
which may be cut short as long as they are clear, and operands between them.
-/

namespace Pasteboard.Shell

/-- Whether an option has an argument. -/
inductive Takes
  | nothing
  | something
  | maybe
deriving DecidableEq

/-- The options of a command. -/
structure OptionTable where
  /-- The letters of options without an argument. -/
  plain : String := ""
  /-- The letters of options with an argument. -/
  valued : String := ""
  /-- The letters of options that may have an argument in the same word. -/
  free : String := ""
  /-- The names of options, each with the letter that it stands for. -/
  long : List (String × Takes × Char) := []
  /-- Options may come behind operands. -/
  permutes : Bool := true

/-- What the arguments of a command are. -/
structure Given where
  options : List (Char × Octets) := []
  operands : List Octets := []

namespace Given

/-- An option is given. -/
def has (g : Given) (letter : Char) : Bool := g.options.any fun o => o.1 = letter

/-- The argument of an option that is given last. -/
def value? (g : Given) (letter : Char) : Option Octets :=
  (g.options.reverse.find? fun o => o.1 = letter).map Prod.snd

/-- The last of some options that is given. -/
def last? (g : Given) (letters : String) : Option Char :=
  (g.options.reverse.find? fun o => letters.toList.contains o.1).map Prod.fst

end Given

namespace OptionTable

/-- The letters of a word with options; gives the argument that the last one still needs, or what is
wrong. -/
def readLetters (t : OptionTable) : Octets → List (Char × Octets) →
    Except Octets (List (Char × Octets) × Option Char)
  | [], done => .ok (done, none)
  | c :: rest, done =>
    if t.plain.toList.contains c then t.readLetters rest ((c, []) :: done)
    else if t.valued.toList.contains c then
      if rest.isEmpty then .ok (done, some c) else .ok ((c, rest) :: done, none)
    else if t.free.toList.contains c then .ok ((c, rest) :: done, none)
    else .error ("invalid option -- ".toList ++ [Octets.apostrophe, c, Octets.apostrophe])

/-- An option that is given by name; what is still needed, or what is wrong. -/
def readName (t : OptionTable) (word : Octets) (done : List (Char × Octets)) :
    Except Octets (List (Char × Octets) × Option (Char × Octets)) :=
  let name := word.takeWhile (· != '=')
  let value? : Option Octets :=
    if name.length = word.length then none else some (word.drop (name.length + 1))
  let shown := Octets.apostrophe :: '-' :: '-' :: name ++ [Octets.apostrophe]
  let candidates := t.long.filter fun l => name.isPrefixOf l.1.toList
  let exact := candidates.filter fun l => l.1.toList = name
  let chosen : Except Octets (String × Takes × Char) :=
    match exact, candidates with
    | l :: _, _ => .ok l
    | [], [] => .error ("unrecognized option ".toList ++ Octets.apostrophe :: '-' :: '-' :: word
        ++ [Octets.apostrophe])
    | [], l :: more =>
      if more.all fun k => k.2 = l.2 then .ok l
      else .error ("option ".toList ++ shown ++ " is ambiguous; possibilities:".toList
        ++ candidates.flatMap fun k =>
          ' ' :: Octets.apostrophe :: '-' :: '-' :: k.1.toList ++ [Octets.apostrophe])
  match chosen with
  | .error message => .error message
  | .ok (full, takes, letter) =>
    let fullName := Octets.apostrophe :: '-' :: '-' :: full.toList ++ [Octets.apostrophe]
    match takes, value? with
    | .nothing, none => .ok ((letter, []) :: done, none)
    | .nothing, some _ =>
      .error ("option ".toList ++ fullName ++ " doesn't allow an argument".toList)
    | .maybe, v => .ok ((letter, v.getD []) :: done, none)
    | .something, some v => .ok ((letter, v) :: done, none)
    | .something, none => .ok (done, some (letter, fullName))

/-- Reads arguments; options and operands so far are in reverse. -/
def readFrom (t : OptionTable) (options : List (Char × Octets)) (operands : List Octets) :
    List Octets → Except Octets Given
  | [] => .ok ⟨options.reverse, operands.reverse⟩
  | ['-', '-'] :: rest => .ok ⟨options.reverse, operands.reverse ++ rest⟩
  | ('-' :: '-' :: name) :: rest =>
    match t.readName name options with
    | .error message => .error message
    | .ok (options, none) => t.readFrom options operands rest
    | .ok (options, some (letter, shown)) =>
      match rest with
      | v :: rest => t.readFrom ((letter, v) :: options) operands rest
      | [] => .error ("option ".toList ++ shown ++ " requires an argument".toList)
  | ('-' :: c :: letters) :: rest =>
    match t.readLetters (c :: letters) options with
    | .error message => .error message
    | .ok (options, none) => t.readFrom options operands rest
    | .ok (options, some letter) =>
      match rest with
      | v :: rest => t.readFrom ((letter, v) :: options) operands rest
      | [] => .error ("option requires an argument -- ".toList
          ++ [Octets.apostrophe, letter, Octets.apostrophe])
  | operand :: rest =>
    if t.permutes then t.readFrom options (operand :: operands) rest
    else .ok ⟨options.reverse, operands.reverse ++ operand :: rest⟩

/-- Reads the arguments of a command. -/
def read (t : OptionTable) (args : List Octets) : Except Octets Given := t.readFrom [] [] args

end OptionTable

namespace Machine

/-- What a native command says about a mistake. -/
def nativeComplain (m : Machine) (message : Octets) : Machine :=
  m.complain (m.frame.name ++ ": ".toList ++ message ++ ['\n'])

/-- What a native command says before it gives up. -/
def nativeFail (m : Machine) (status : Nat) (message : Octets) : Machine :=
  (m.nativeComplain message).withStatus status

/-- Where help is to be had. -/
def pointToHelp (m : Machine) : Machine :=
  m.complain ("Try '".toList ++ m.frame.name ++ " --help' for more information.\n".toList)

/-- What a native command says if it is called in a wrong way. -/
def usageFail (m : Machine) (status : Nat) (message : Octets) : Machine :=
  ((m.nativeComplain message).pointToHelp).withStatus status

/-- Goes on with the options and operands of a command. -/
def withOptions (m : Machine) (t : OptionTable) (status : Nat) (args : List Octets)
    (f : Given → Machine → Machine) : Machine :=
  match t.read args with
  | .ok g => f g m
  | .error message => m.usageFail status message

/-- What a native command says about a file. -/
def fileComplain (m : Machine) (before name : Octets) (o : Obstacle) : Machine :=
  m.nativeFail 1 (before ++ name ++ ": ".toList ++ Octets.ofText o.reason)

/-- The end of a native command that writes: it fails if something could not be written. -/
def closeOutput (m : Machine) (status : Nat) : Machine :=
  match m.frame.unwritten with
  | some reason =>
    if m.isInterrupted then m
    else
      (m.nativeFail status ("write error: ".toList ++ reason)).withFrame fun f =>
        { f with unwritten := none }
  | none => m

end Machine

end Pasteboard.Shell
