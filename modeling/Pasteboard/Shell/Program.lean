import Pasteboard.Shell.Machine

/-!
# Programs on a disk

An executable file is a native command, which has a mark and its name as content, or a script, which
names its interpreter in the first line. Starting a script is starting its interpreter with the
script's path in front of the arguments. `standardDisk` has the native commands in the usual places,
and lets an ordinary user change nothing but what is below the directories for temporary files.
-/

namespace Pasteboard.Shell

/-- The mark at the start of a native command. -/
def nativeMark : Octets := [Char.ofNat 127, 'E', 'L', 'F']

/-- The native commands that there are. -/
def nativeCommands : List String :=
  ["[", "base64", "basename", "cat", "chmod", "cp", "cut", "dash", "dd", "dirname", "echo", "egrep",
   "env", "expr", "false", "fgrep", "grep", "head", "kill", "ls", "mkdir", "mv", "nl", "nohup",
   "od", "printenv", "printf", "pwd", "readlink", "realpath", "rev", "rm", "rmdir", "sed", "seq",
   "sh", "sleep", "sort", "tac", "tail", "tee", "test", "timeout", "touch", "tr", "true", "uname",
   "uniq", "wc", "xargs", "yes"]

/-- Directories that there always are. -/
def standardDirectories : List String :=
  ["/bin", "/boot", "/dev", "/dev/shm", "/etc", "/home", "/lib", "/media", "/mnt", "/opt", "/proc",
   "/root", "/run", "/sbin", "/srv", "/sys", "/tmp", "/usr", "/usr/bin", "/usr/lib", "/usr/local",
   "/usr/local/bin", "/usr/sbin", "/usr/share", "/var", "/var/log", "/var/tmp"]

/-- Plain files that there always are. -/
def standardFiles : List String :=
  ["/dev/full", "/dev/null", "/dev/zero", "/etc/group", "/etc/hostname", "/etc/hosts",
   "/etc/passwd", "/etc/shadow"]

/-- The entries of a usual disk. -/
def standardEntries : List (Path × Node) :=
  let path (s : String) : Path := Path.ofText (Text.ofString s)
  let command (directory name : String) : Path × Node :=
    ((path directory).child (Text.ofString name),
      .file (Octets.toBytes (nativeMark ++ name.toList)) true)
  standardDirectories.map (fun s => (path s, .directory))
    ++ standardFiles.map (fun s => (path s, .file [] false))
    ++ nativeCommands.map (command "/bin") ++ nativeCommands.map (command "/usr/bin")

/-- The directories below which anyone may change files. -/
def sharedDirectories : List (List Text) := [["tmp"], ["var", "tmp"], ["dev", "shm"]]

/-- Only the system itself may change what is at a path. -/
def isProtected (p : Path) : Bool :=
  !(sharedDirectories.any fun d => d.isPrefixOf p.resolved.names && d != p.resolved.names)

/-- Only the system itself may read what is at a path. -/
def isHidden (p : Path) : Bool :=
  let hidden : List (List Text) := [["root"], ["etc", "shadow"]]
  hidden.any fun names => names.isPrefixOf p.resolved.names

/-- Why an ordinary user is refused a call. -/
def ordinaryRefusal (c : DiskCall) : Option SystemError :=
  let denied (p : Path) : SystemError :=
    .numbered Obstacle.denied.number Obstacle.denied.reason (some p.text) none
  let change (p : Path) : Option SystemError := if isProtected p then some (denied p) else none
  match c with
  | .read p => if isHidden p then some (denied p) else none
  | .makeDirectory p => change p
  | .create p => change p
  | .append p => change p
  | .remove p => change p
  | .rename p q => (change p).or (change q)

/-- What the owner of a file or directory may do with it. -/
structure Rights where
  reads : Bool := true
  writes : Bool := true
  /-- It may be started, or what is in it may be reached. -/
  enters : Bool := true

/-- The rights that an octal digit stands for. -/
def Rights.ofDigit (n : Nat) : Rights :=
  { reads := n / 4 % 2 = 1, writes := n / 2 % 2 = 1, enters := n % 2 = 1 }

/-- A disk on which the owner of what is at a path has some rights to it. They decide about reading
it and writing to it, and about changing what is in it. -/
def withRights (d : Disk) (path : Path) (r : Rights) : Disk :=
  let p := path.resolved
  let isInside (q : Path) : Bool := q.resolved.parent = p && q.resolved != p
  let allow (fine : Bool) (q : Path) : Option SystemError :=
    if fine then none
    else some (.numbered Obstacle.denied.number Obstacle.denied.reason (some q.text) none)
  let change (q : Path) (c : DiskCall) : Option SystemError :=
    if isInside q then allow (r.writes && r.enters) q else d.refusal c
  { d with refusal := fun c =>
      match c with
      | .read q =>
        if q.resolved = p then allow r.reads q
        else if isInside q && !r.enters then allow false q else d.refusal c
      | .append q =>
        if q.resolved = p then allow r.writes q
        else if isInside q && !r.enters then allow false q else d.refusal c
      | .create q => change q c
      | .makeDirectory q => change q c
      | .remove q => change q c
      | .rename q q' => if isInside q then change q c else change q' c }

/-- A disk with native commands in the usual places. -/
def standardDisk : Disk := { entries := standardEntries, refusal := ordinaryRefusal }

/-- Why a program cannot be started. -/
inductive StartFailure
  | missing
  | notDirectory
  | nameTooLong
  | denied
  | notProgram
  | tooLong
  | tooDeep
deriving DecidableEq

namespace StartFailure

/-- The number of a failure. -/
def number : StartFailure → Int
  | missing => 2
  | tooLong => 7
  | notProgram => 8
  | denied => 13
  | notDirectory => 20
  | nameTooLong => 36
  | tooDeep => 40

/-- The wording of a failure. -/
def reason : StartFailure → Text
  | missing => "No such file or directory"
  | tooLong => "Argument list too long"
  | notProgram => "Exec format error"
  | denied => "Permission denied"
  | notDirectory => "Not a directory"
  | nameTooLong => "File name too long"
  | tooDeep => "Too many levels of symbolic links"

/-- The failure that an obstacle on the way to a program is. -/
def ofObstacle : Obstacle → StartFailure
  | .missing => missing
  | .notDirectory => notDirectory
  | .nameTooLong => nameTooLong
  | _ => denied

/-- The program is not there. -/
def isAbsence (f : StartFailure) : Bool := f = missing || f = notDirectory

end StartFailure

/-- A program that is started: the native command, the name that it goes by, and its arguments. -/
structure Started where
  native : Octets
  name : Octets
  args : List Octets

/-- How many octets of a file tell what kind of program it is. -/
def headLength : Nat := 256

/-- The interpreter and its argument in the first line of a script. A line that goes on behind the
first octets of the file has to hold the whole name of the interpreter there. -/
def interpreter? (content : Octets) : Option (Octets × List Octets) :=
  let isBlank (c : Char) : Bool := c = ' ' || c = '\t'
  let ends (c : Char) : Bool := isBlank c || c = Char.ofNat 0
  match content.take headLength with
  | '#' :: '!' :: rest =>
    let line := rest.takeWhile (· != '\n')
    let isWhole := line.length < rest.length || content.length < headLength
    let line := if isWhole then line else line.take (headLength - 3)
    let line := line.dropWhile isBlank
    if !isWhole && !line.any ends then none
    else
      let line := (line.reverse.dropWhile isBlank).reverse
      let word := line.takeWhile fun c => !ends c
      let argument := ((line.drop word.length).dropWhile isBlank).takeWhile (· != Char.ofNat 0)
      if word.isEmpty then none
      else some (word, if argument.isEmpty then [] else [argument])
  | _ => none

/-- The native command that starting a file comes to. Interpreters may be scripts a few times over;
`name` is what the program would go by. -/
def startedBy (look : Octets → Except Obstacle Node) :
    Nat → (file name : Octets) → List Octets → Except StartFailure Started
  | 0, _, _, _ => .error .tooDeep
  | n + 1, file, name, args =>
    match look file with
    | .error o => .error (.ofObstacle o)
    | .ok .directory => .error .denied
    | .ok (.file content executable) =>
      if !executable then .error .denied
      else
        let content := Octets.ofBytes content
        if nativeMark.isPrefixOf content && nativeMark.length < content.length then
          .ok ⟨content.drop nativeMark.length, name, args⟩
        else match interpreter? content with
          | some (interpreter, argument) =>
            startedBy look n interpreter interpreter (argument ++ file :: args)
          | none => .error .notProgram

/-- How many programs in a row may be scripts. -/
def scriptLimit : Nat := 6

/-- The files that a name may stand for: itself if it has a slash, else the files of that name in
the directories of the search path. -/
def filesFor (searchPath name : Octets) : List Octets :=
  if name.contains '/' then [name]
  else (Octets.splitAt ':' searchPath).map fun directory =>
    if directory.isEmpty then name
    else if directory.getLast? = some '/' then directory ++ name
    else directory ++ '/' :: name

/-- The search path of a program if there is no variable that gives one. -/
def defaultSearchPath : Octets := "/bin:/usr/bin"

/-- The search path of a shell if there is no variable that gives one. -/
def standardSearchPath : Octets := "/usr/local/sbin:/usr/local/bin:/usr/sbin:/usr/bin:/sbin:/bin"

end Pasteboard.Shell
