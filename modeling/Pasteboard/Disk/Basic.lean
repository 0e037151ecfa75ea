import Pasteboard.Action
import Pasteboard.Disk.Path

/-!
# Files and directories

A disk maps paths to files and directories, and each call on it goes through the directories on the
way one after the other, so the first obstacle decides how the call fails. What cannot be told from
the entries, such as a full disk or missing rights, is a refusal: the disk may refuse any call for
any reason, and a call that is refused changes nothing.
-/

namespace Pasteboard

/-- What a path can lead to. -/
inductive Node
  | file (content : Bytes) (executable : Bool)
  | directory
deriving DecidableEq

/-- A call on a disk. -/
inductive DiskCall
  | read (path : Path)
  | makeDirectory (path : Path)
  | create (path : Path)
  | append (path : Path)
  | rename (source target : Path)
  | remove (path : Path)
deriving DecidableEq

/-- The failure of a text that is to have octets in the names of the system, at the first run of
surrogates where it has none. -/
def Text.encodingFailure? (t : Text) : Option Failure :=
  (t.findIdx? CodePoint.lacksOctets).map fun i =>
    .unencodable ⟨.utf8, i, (t.drop i).takeWhile CodePoint.isSurrogate, .surrogate⟩

/-- The failure of a path that the system cannot be asked about: its text has no octets, or there is
a NUL among them. -/
def Path.failure (p : Path) : Failure := p.text.encodingFailure?.getD .embeddedNull

/-- A path of the call is none that the system can be asked about. -/
def DiskCall.isUnnameable : DiskCall → Bool
  | read p => p.isUnnameable
  | makeDirectory p => p.isUnnameable
  | create p => p.isUnnameable
  | append p => p.isUnnameable
  | rename p q => p.isUnnameable || q.isUnnameable
  | remove p => p.isUnnameable

/-- The failure of a call that the system cannot be asked for: that of its first bad path. -/
def DiskCall.pathFailure : DiskCall → Failure
  | read p => p.failure
  | makeDirectory p => p.failure
  | create p => p.failure
  | append p => p.failure
  | rename p q => if p.isUnnameable then p.failure else q.failure
  | remove p => p.failure

/-- What stands in the way of a call. -/
inductive Obstacle
  | missing
  | present
  | notDirectory
  | isDirectory
  | nameTooLong
  | denied
  | notEmpty
deriving DecidableEq

/-- The number of an obstacle. -/
def Obstacle.number : Obstacle → Int
  | missing => 2
  | denied => 13
  | present => 17
  | notDirectory => 20
  | isDirectory => 21
  | nameTooLong => 36
  | notEmpty => 39

/-- The wording of an obstacle. -/
def Obstacle.reason : Obstacle → Text
  | missing => "No such file or directory"
  | present => "File exists"
  | notDirectory => "Not a directory"
  | isDirectory => "Is a directory"
  | nameTooLong => "File name too long"
  | denied => "Permission denied"
  | notEmpty => "Directory not empty"

/-- The failure of a call on a path that meets an obstacle. -/
def Obstacle.failureAt (o : Obstacle) (path : Path) : Failure :=
  .system (.numbered o.number o.reason (some path.text) none)

/-- The failure is one of the operating system. -/
def Failure.isSystem : Failure → Bool
  | system _ => true
  | _ => false

/-- The failure says that a path is none that the system can be asked about. -/
def Failure.blamesPath : Failure → Bool
  | embeddedNull => true
  | unencodable _ => true
  | _ => false

/-- The failure says that a file is missing. -/
def Failure.isMissing : Failure → Bool
  | system (.numbered number _ _ _) => decide (number = Obstacle.missing.number)
  | _ => false

/-- The failure says that a file is there already. -/
def Failure.isPresent : Failure → Bool
  | system (.numbered number _ _ _) => decide (number = Obstacle.present.number)
  | _ => false

/-- Files and directories by path. The starting points of paths are directories without an entry. -/
structure Disk where
  entries : List (Path × Node) := []
  /-- The reason why a call is refused, if it is. -/
  refusal : DiskCall → Option SystemError := fun _ => none

namespace Disk

/-- The most octets that a name may have. -/
def longestName : Nat := 255

/-- The most octets that a path may have. -/
def longestPath : Nat := 4095

/-- How many octets a text has as a name of the system; a surrogate that a name may hold stands for
one. -/
def octets (t : Text) : Nat := (t.flatMap fun c => (Charset.utf8.encodePoint c).getD [0]).length

/-- What is at a path without names that lead back, whatever is on the way. -/
def node? (d : Disk) (p : Path) : Option Node :=
  if p.names.isEmpty then some .directory
  else (d.entries.find? fun entry => decide (entry.1 = p)).map Prod.snd

/-- Puts a node at a path. -/
def put (d : Disk) (p : Path) (n : Node) : Disk :=
  { d with entries := (p.resolved, n) ::
      d.entries.filter fun entry => !decide (entry.1 = p.resolved) }

/-- Removes what is at a path. -/
def erase (d : Disk) (p : Path) : Disk :=
  { d with entries := d.entries.filter fun entry => !decide (entry.1 = p.resolved) }

/-- Goes on from the directory at `start` along the names; the last name need not be there. -/
def walk (d : Disk) (start : Path) : List Text → Except Obstacle (Option Node)
  | [] => .ok (d.node? start)
  | name :: rest =>
    match d.node? start with
    | none => .error .missing
    | some (.file _ _) => .error .notDirectory
    | some .directory =>
      if name = Path.back then d.walk start.parent rest
      else if longestName < octets name then .error .nameTooLong
      else d.walk (start.child name) rest

/-- What is at a path, or what is in the way; nothing if only the last name is missing. -/
def find (d : Disk) (p : Path) : Except Obstacle (Option Node) :=
  if longestPath < octets p.text then .error .nameTooLong else d.walk ⟨p.anchor, []⟩ p.names

/-- The path leads to a directory. -/
def isDirectory (d : Disk) (p : Path) : Bool :=
  match d.find p with
  | .ok (some .directory) => true
  | _ => false

/-- The names in a directory. -/
def children (d : Disk) (p : Path) : List Text :=
  d.entries.filterMap fun entry =>
    if entry.1.anchor = p.anchor ∧ entry.1.names.dropLast = p.resolved.names then
      entry.1.names.getLast?
    else none

/-- The disk without a path and all that is below it. -/
def eraseTree (d : Disk) (p : Path) : Disk :=
  { d with entries := d.entries.filter fun entry =>
      !(decide (entry.1.anchor = p.anchor) && p.resolved.names.isPrefixOf entry.1.names) }

/-! ### Calls -/

/-- A call that may be refused. A call with a path that is none fails before the disk is asked. -/
def call {α : Type} (c : DiskCall) (a : Action Disk α) : Action Disk α :=
  Action.ofFunction fun d =>
    if c.isUnnameable then (.error c.pathFailure, d)
    else match d.refusal c with
      | some reason => (.error (.system reason), d)
      | none => a.start d

/-- What is at the path of a call. -/
def look (p : Path) : Action Disk (Option Node) :=
  Action.ofFunction fun d => ((d.find p).mapError (·.failureAt p), d)

/-- The content of a file. -/
def read (p : Path) : Action Disk Bytes :=
  call (.read p) do
    match ← look p with
    | none => throw (Obstacle.missing.failureAt p)
    | some .directory => throw (Obstacle.isDirectory.failureAt p)
    | some (.file content _) => pure content

/-- Makes a directory where nothing is. -/
def makeDirectory (p : Path) : Action Disk Unit :=
  call (.makeDirectory p) do
    match ← look p with
    | none => Action.update (·.put p .directory)
    | some _ => throw (Obstacle.present.failureAt p)

/-- Makes an empty file where nothing is. -/
def create (p : Path) : Action Disk Unit :=
  call (.create p) do
    match ← look p with
    | none => Action.update (·.put p (.file [] false))
    | some _ => throw (Obstacle.present.failureAt p)

/-- Adds octets to the end of a file. -/
def append (p : Path) (content : Bytes) : Action Disk Unit :=
  call (.append p) do
    match ← look p with
    | none => throw (Obstacle.missing.failureAt p)
    | some .directory => throw (Obstacle.isDirectory.failureAt p)
    | some (.file old executable) => Action.update (·.put p (.file (old ++ content) executable))

/-- Writes a file in place of what it held; it is made if nothing is there. -/
def write (p : Path) (content : Bytes) : Action Disk Unit :=
  call (.append p) do
    match ← look p with
    | none => Action.update (·.put p (.file content false))
    | some .directory => throw (Obstacle.isDirectory.failureAt p)
    | some (.file _ executable) => Action.update (·.put p (.file content executable))

/-- Moves a file to another path, in place of a file that is there. -/
def rename (source target : Path) : Action Disk Unit :=
  call (.rename source target) do
    let refuse (o : Obstacle) : Failure :=
      .system (.numbered o.number o.reason (some source.text) (some target.text))
    match ← (look source).mapFailure fun _ => refuse .missing with
    | none => throw (refuse .missing)
    | some node =>
      match ← Action.ofFunction fun d => ((d.find target).mapError refuse, d) with
      | some .directory => throw (refuse .isDirectory)
      | _ => Action.update fun d => (d.erase source).put target node

/-- Removes a file. -/
def remove (p : Path) : Action Disk Unit :=
  call (.remove p) do
    match ← look p with
    | none => throw (Obstacle.missing.failureAt p)
    | some .directory => throw (Obstacle.isDirectory.failureAt p)
    | some (.file _ _) => Action.update (·.erase p)

/-- Removes a directory with all that is in it. -/
def removeTree (p : Path) : Action Disk Unit :=
  call (.remove p) do
    match ← look p with
    | none => throw (Obstacle.missing.failureAt p)
    | some (.file _ _) => throw (Obstacle.notDirectory.failureAt p)
    | some .directory => Action.update (·.eraseTree p)

/-! ### Series of calls -/

/-- Removes a file that may be missing. -/
def removeIfPresent (p : Path) : Action Disk Unit :=
  tryCatch (remove p) fun f => if f.isMissing then pure () else throw f

/-- Makes a directory if there is none. -/
def ensureDirectory (p : Path) : Action Disk Unit :=
  tryCatch (makeDirectory p) fun f => do
    if f.isSystem && !f.isMissing && (← Action.ask (·.isDirectory p)) then pure () else throw f

/-- Makes the directory `names` below an anchor and those above it that are missing; `names` is in
reverse. -/
def makeDirectoriesFrom (anchor : Text) : List Text → Action Disk Unit
  | [] => ensureDirectory ⟨anchor, []⟩
  | name :: above =>
    let p : Path := ⟨anchor, (name :: above).reverse⟩
    tryCatch (makeDirectory p) fun f => do
      if f.isMissing then
        makeDirectoriesFrom anchor above
        ensureDirectory p
      else if f.isSystem && (← Action.ask (·.isDirectory p)) then pure ()
      else throw f

/-- Makes a directory and those above it that are missing. -/
def makeDirectories (p : Path) : Action Disk Unit :=
  makeDirectoriesFrom p.anchor p.names.reverse

/-- Makes an empty file in a directory under the first of some names that is not taken. -/
def createUnder (directory : Path) : List Text → Action Disk Path
  | [] => throw (.system (.numbered Obstacle.present.number
      "No usable temporary file name found" none none))
  | name :: rest =>
    let p := directory.child name
    tryCatch (do create p; pure p) fun f =>
      if f.isPresent then createUnder directory rest else throw f

end Disk

end Pasteboard
