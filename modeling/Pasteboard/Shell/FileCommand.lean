import Pasteboard.Shell.Options
import Pasteboard.Shell.Program

/-!
# Native commands on files

The native commands that make, move, list and remove files. Each goes through its operands one after
the other; what is wrong with one is said in its turn and does not keep the others from being done.
-/

namespace Pasteboard.Shell.Machine

/-- What is at the place of a name, even if nothing is there yet, and its path. -/
def entryAt (m : Machine) (name : Octets) : Except Obstacle (Option Node) :=
  if name.isEmpty then .error .missing
  else match m.disk.find (m.path name) with
    | .ok (some (.file content executable)) =>
      if name.getLast? = some '/' then .error .notDirectory
      else .ok (some (.file content executable))
    | other => other

/-- The last name of a file name. -/
def lastName (name : Octets) : Octets :=
  let bare := (name.reverse.dropWhile (· = '/')).reverse
  if bare.isEmpty then name.take 1
  else (bare.reverse.takeWhile (· != '/')).reverse

/-- A name in a directory. -/
def inDirectory (directory name : Octets) : Octets :=
  if directory.getLast? = some '/' then directory ++ name else directory ++ '/' :: name

/-- A directory is there. -/
def isDirectory (m : Machine) (name : Octets) : Bool :=
  match m.look name with
  | .ok .directory => true
  | _ => false

/-- The names in a directory, in order. -/
def namesIn (m : Machine) (directory : Octets) : List Octets :=
  ((m.disk.children (m.path directory)).map Octets.ofText).mergeSort Octets.isOrdered

/-- Says what is wrong with a file, which stands in quotes. -/
def fault (m : Machine) (status : Nat) (before : String) (name : Octets) (what : Octets) :
    Machine :=
  m.nativeFail status (before.toList ++ quotedName name ++ ": ".toList ++ what)

/-- Goes through operands, as long as nothing stops the command. -/
def eachOperand (m : Machine) (names : List Octets) (f : Octets → Machine → Machine) : Machine :=
  names.foldl (fun m name => if m.isInterrupted then m else f name m) m

/-! ### Removing -/

/-- Removes what is at a path; `n` bounds the depth of directories. -/
def removeEntry (g : Given) : Nat → Octets → Machine → Machine
  | 0, _, m => m
  | n + 1, name, m =>
    let recursive := g.has 'r' || g.has 'R'
    let said (what : String) (m : Machine) : Machine :=
      if g.has 'v' then m.print (what.toList ++ quotedName name ++ ['\n']) else m
    let deny (m : Machine) : Machine :=
      m.fault 1 "cannot remove " name (Octets.ofText Obstacle.denied.reason)
    let erase (what : String) (m : Machine) : Machine :=
      if m.isDenied (.remove (m.path name)) then deny m
      else said what { m with disk := withRights (m.disk.erase (m.path name)) (m.path name) {} }
    match m.entryAt name with
    | .error o =>
      if g.has 'f' && (o = .missing || o = .notDirectory) then m
      else m.fault 1 "cannot remove " name (Octets.ofText o.reason)
    | .ok none =>
      if g.has 'f' then m
      else m.fault 1 "cannot remove " name (Octets.ofText Obstacle.missing.reason)
    | .ok (some (.file _ _)) => erase "removed " m
    | .ok (some .directory) =>
      let names := m.namesIn name
      if recursive then
        let m := names.foldl (fun m inner => removeEntry g n (inDirectory name inner) m) m
        if (m.namesIn name).isEmpty then erase "removed directory " m else m
      else if g.has 'd' then
        if names.isEmpty then erase "removed directory " m
        else m.fault 1 "cannot remove " name (Octets.ofText Obstacle.notEmpty.reason)
      else m.fault 1 "cannot remove " name (Octets.ofText Obstacle.isDirectory.reason)

/-- Removes files. -/
def removeFiles (m : Machine) (args : List Octets) : Machine :=
  let table : OptionTable := {
    plain := "dfirRvI"
    long := [("force", .nothing, 'f'), ("recursive", .nothing, 'r'), ("verbose", .nothing, 'v'),
      ("dir", .nothing, 'd'), ("interactive", .maybe, 'i'), ("one-file-system", .nothing, 'x'),
      ("no-preserve-root", .nothing, 'N'), ("preserve-root", .maybe, 'P'),
      ("help", .nothing, '?'), ("version", .nothing, '!')] }
  m.withOptions table 1 args fun g m =>
    if g.operands.isEmpty then
      if g.has 'f' then m else m.usageFail 1 "missing operand"
    else m.eachOperand g.operands fun name m =>
      let last := lastName name
      let recursive := g.has 'r' || g.has 'R'
      if recursive && (last = ['.'] || last = ['.', '.']) then
        m.nativeFail 1 ("refusing to remove '.' or '..' directory: skipping ".toList
          ++ quotedName name)
      else if recursive && (m.path name).names.isEmpty then
        (m.nativeFail 1 "it is dangerous to operate recursively on '/'").nativeFail 1
          "use --no-preserve-root to override this failsafe"
      else removeEntry g 64 name m

/-- Removes empty directories. -/
def removeDirectories (m : Machine) (args : List Octets) : Machine :=
  let table : OptionTable := {
    plain := "pv"
    long := [("parents", .nothing, 'p'), ("verbose", .nothing, 'v'),
      ("ignore-fail-on-non-empty", .nothing, 'I'), ("help", .nothing, '?'),
      ("version", .nothing, '!')] }
  m.withOptions table 1 args fun g m =>
    let remove (name : Octets) (m : Machine) : Machine :=
      let m := if g.has 'v' then
          m.print ("rmdir: removing directory, ".toList ++ quotedName name ++ ['\n'])
        else m
      let fail (o : Obstacle) : Machine :=
        m.fault 1 "failed to remove " name (Octets.ofText o.reason)
      match m.entryAt name with
      | .error o => fail o
      | .ok none => fail .missing
      | .ok (some (.file _ _)) => fail .notDirectory
      | .ok (some .directory) =>
        if m.isDenied (.remove (m.path name)) then fail .denied
        else if !(m.namesIn name).isEmpty then
          if g.has 'I' then m else fail .notEmpty
        else { m with disk := m.disk.erase (m.path name) }
    let rec withParents (n : Nat) (name : Octets) (m : Machine) : Machine :=
      let before := m.frame.status
      let m := remove name m
      match n with
      | 0 => m
      | n + 1 =>
        let parent := ((name.reverse.dropWhile (· = '/')).dropWhile (· != '/')).dropWhile (· = '/')
        if parent.isEmpty || m.frame.status != before then m else withParents n parent.reverse m
    if g.operands.isEmpty then m.usageFail 1 "missing operand"
    else m.eachOperand g.operands fun name m =>
      if g.has 'p' then withParents name.length name m else remove name m

/-! ### Making -/

/-- Makes a directory; says what is in the way. -/
def makeDirectoryAt (m : Machine) (name : Octets) : Except Obstacle Machine :=
  match m.entryAt name with
  | .error .notDirectory =>
    .error (if (m.disk.find (m.path name)).toOption.isSome then .present else .notDirectory)
  | .error o => .error o
  | .ok (some _) => .error .present
  | .ok none =>
    if m.isDenied (.makeDirectory (m.path name)) then .error .denied
    else .ok { m with disk := m.disk.put (m.path name) .directory }

/-- The directories above a name and the name itself, from the outermost on. -/
def ancestry (name : Octets) : List Octets :=
  ((List.range name.length).filterMap fun i =>
    if name[i]? = some '/' && i != 0 && name[i - 1]? != some '/' then some (name.take i) else none)
    ++ [name]

/-- Makes directories. -/
def makeDirectories (m : Machine) (args : List Octets) : Machine :=
  let table : OptionTable := {
    plain := "pv"
    valued := "m"
    long := [("parents", .nothing, 'p'), ("verbose", .nothing, 'v'), ("mode", .something, 'm'),
      ("help", .nothing, '?'), ("version", .nothing, '!')] }
  m.withOptions table 1 args fun g m =>
    let make (name : Octets) (m : Machine) : Except Obstacle Machine :=
      (m.makeDirectoryAt name).map fun m =>
        if g.has 'v' then
          m.print ("mkdir: created directory ".toList ++ quotedName name ++ ['\n'])
        else m
    let fail (name : Octets) (o : Obstacle) (m : Machine) : Machine :=
      m.fault 1 "cannot create directory " name (Octets.ofText o.reason)
    if g.operands.isEmpty then m.usageFail 1 "missing operand"
    else m.eachOperand g.operands fun name m =>
      if g.has 'p' then
        ((ancestry name).foldl (fun (m, goes) part =>
          if !goes then (m, false)
          else match make part m with
            | .ok m => (m, true)
            | .error o =>
              if m.isDirectory part then (m, true)
              else
                let o := if o = .present && part != name then .notDirectory else o
                (fail part o m, false)) (m, true)).1
      else match make name m with
        | .ok m => m
        | .error o => fail name o m

/-- Makes files that are not there. -/
def touchFiles (m : Machine) (args : List Octets) : Machine :=
  let table : OptionTable := {
    plain := "acfhm"
    valued := "drt"
    long := [("no-create", .nothing, 'c'), ("date", .something, 'd'),
      ("reference", .something, 'r'), ("time", .something, 'T'), ("no-dereference", .nothing, 'h'),
      ("help", .nothing, '?'), ("version", .nothing, '!')] }
  m.withOptions table 1 args fun g m =>
    if g.operands.isEmpty then m.usageFail 1 "missing file operand"
    else m.eachOperand g.operands fun name m =>
      match m.look name with
      | .ok _ =>
        if m.isDenied (.append (m.path name)) then
          m.fault 1 "cannot touch " name (Octets.ofText Obstacle.denied.reason)
        else m
      | .error .missing =>
        if g.has 'c' then m
        else match m.openOutput name true with
          | .ok (_, m) => m
          | .error o =>
            let o := if o = .isDirectory then .missing else o
            m.fault 1 "cannot touch " name (Octets.ofText o.reason)
      | .error o => m.fault 1 "cannot touch " name (Octets.ofText o.reason)

/-! ### Copying and moving -/

/-- Puts the content of a file at another name. -/
def copyContent (m : Machine) (target : Octets) (content : Bytes) (executable : Bool) : Machine :=
  let isNew := (m.look target).toOption.isNone
  match m.openOutput target false with
  | .ok (.file p, m) => { m with disk := m.disk.put p (.file content (executable && isNew)) }
  | .ok (t, m) => m.writeTo (some t) { now := Octets.ofBytes content }
  | .error o =>
    let o := if target.getLast? = some '/' then .notDirectory else o
    m.fault 1 "cannot create regular file " target (Octets.ofText o.reason)

/-- Copies a file or, if that is asked for, a directory; `n` bounds the depth. -/
def copyEntry (g : Given) : Nat → (source target : Octets) → Machine → Machine
  | 0, _, _, m => m
  | n + 1, source, target, m =>
    let recursive := g.has 'r' || g.has 'R' || g.has 'a'
    let said (m : Machine) : Machine :=
      if g.has 'v' then
        m.print (quotedName source ++ " -> ".toList ++ quotedName target ++ ['\n'])
      else m
    let same := decide ((m.path source).resolved = (m.path target).resolved)
    match m.look source with
    | .error o => m.fault 1 "cannot stat " source (Octets.ofText o.reason)
    | .ok .directory =>
      if !recursive then
        m.nativeFail 1 ("-r not specified; omitting directory ".toList ++ quotedName source)
      else match m.look target with
        | .ok (.file _ _) =>
          m.nativeFail 1 ("cannot overwrite non-directory ".toList ++ quotedName target
            ++ " with directory ".toList ++ quotedName source)
        | other =>
          let made : Except Obstacle Machine := match other with
            | .ok _ => .ok m
            | .error _ => m.makeDirectoryAt target
          match made with
          | .error o => m.fault 1 "cannot create directory " target (Octets.ofText o.reason)
          | .ok m =>
            (m.namesIn source).foldl (fun m name =>
              copyEntry g n (inDirectory source name) (inDirectory target name) m) (said m)
    | .ok (.file content executable) =>
      if same then
        m.nativeFail 1 (quotedName source ++ " and ".toList ++ quotedName target
          ++ " are the same file".toList)
      else if m.isDirectory target then
        m.nativeFail 1 ("cannot overwrite directory ".toList ++ quotedName target
          ++ " with non-directory".toList)
      else if g.has 'n' && (m.look target).toOption.isSome then m
      else match m.readFile source with
        | .ok _ => (said m).copyContent target content executable
        | .error o =>
          m.nativeFail 1 ("cannot open ".toList ++ quotedName source ++ " for reading: ".toList
            ++ Octets.ofText o.reason)

/-- All that is below a path, moved below another one. -/
def movedEntries (disk : Disk) (source target : Path) : Disk :=
  let inside (p : Path) : Bool :=
    decide (p.anchor = source.anchor) && source.resolved.names.isPrefixOf p.names
  let moved := (disk.entries.filter fun e => inside e.1).map fun (p, node) =>
    (({ p with
      anchor := target.anchor
      names := target.resolved.names ++ p.names.drop source.resolved.names.length } : Path), node)
  let cleared := (disk.eraseTree source).erase target
  { cleared with entries := moved ++ cleared.entries }

/-- Moves a file or a directory. -/
def moveEntry (g : Given) (source target : Octets) (m : Machine) : Machine :=
  let p := m.path source
  let q := m.path target
  match m.look source with
  | .error o => m.fault 1 "cannot stat " source (Octets.ofText o.reason)
  | .ok node =>
    let fail (o : Obstacle) : Machine :=
      m.nativeFail 1 ("cannot move ".toList ++ quotedName source ++ " to ".toList
        ++ quotedName target ++ ": ".toList ++ Octets.ofText o.reason)
    if p.resolved = q.resolved then
      m.nativeFail 1 (quotedName source ++ " and ".toList ++ quotedName target
        ++ " are the same file".toList)
    else
      let isTree := decide (node = .directory)
      match m.entryAt target with
      | .error o => fail o
      | .ok there =>
        let inTheWay : Option Octets := match there with
          | some .directory =>
            if isTree then none
            else some ("cannot overwrite directory ".toList ++ quotedName target
              ++ " with non-directory".toList)
          | some (.file _ _) =>
            if isTree then some ("cannot overwrite non-directory ".toList ++ quotedName target
              ++ " with directory ".toList ++ quotedName source)
            else none
          | none => none
        match inTheWay with
        | some message => m.nativeFail 1 message
        | none =>
          if there.isSome && g.has 'n' then m
          else if isTree && p.resolved.names.isPrefixOf q.resolved.names then
            m.nativeFail 1 ("cannot move ".toList ++ quotedName source
              ++ " to a subdirectory of itself, ".toList ++ quotedName target)
          else if there.isSome && isTree && !(m.namesIn target).isEmpty then fail .notEmpty
          else if m.isDenied (.rename p q) then fail .denied
          else
            let m := { m with disk := movedEntries m.disk p q }
            if g.has 'v' then
              m.print ("renamed ".toList ++ quotedName source ++ " -> ".toList ++ quotedName target
                ++ ['\n'])
            else m

/-- Does something with sources and the targets that they go to: one name, or a name in a
directory. -/
def withTargets (m : Machine) (g : Given) (f : Octets → Octets → Machine → Machine) : Machine :=
  let into (directory : Octets) (sources : List Octets) (m : Machine) : Machine :=
    m.eachOperand sources fun source m => f source (inDirectory directory (lastName source)) m
  match g.value? 't', g.operands with
  | some directory, sources =>
    match m.look directory with
    | .ok .directory =>
      if sources.isEmpty then m.usageFail 1 "missing file operand" else into directory sources m
    | .ok _ =>
      m.nativeFail 1 ("target directory ".toList ++ quotedName directory ++ ": ".toList
        ++ Octets.ofText Obstacle.notDirectory.reason)
    | .error o =>
      m.nativeFail 1 ("target directory ".toList ++ quotedName directory ++ ": ".toList
        ++ Octets.ofText o.reason)
  | none, [] => m.usageFail 1 "missing file operand"
  | none, [source] =>
    m.usageFail 1 ("missing destination file operand after ".toList ++ quotedName source)
  | none, operands =>
    let target := operands.getLast?.getD []
    let sources := operands.dropLast
    if g.has 'T' then
      match sources with
      | [source] => f source target m
      | _ => m.usageFail 1 ("extra operand ".toList ++ quotedName (operands[2]?.getD []))
    else if m.isDirectory target then into target sources m
    else match sources with
      | [source] => f source target m
      | _ =>
        let o : Obstacle := match m.look target with
          | .ok _ => .notDirectory
          | .error o => o
        m.nativeFail 1 ("target ".toList ++ quotedName target ++ ": ".toList
          ++ Octets.ofText o.reason)

/-- Copies files. -/
def copyFiles (m : Machine) (args : List Octets) : Machine :=
  let table : OptionTable := {
    plain := "abdfHilLnPprRsTuvxZ"
    valued := "tS"
    long := [("archive", .nothing, 'a'), ("force", .nothing, 'f'), ("recursive", .nothing, 'r'),
      ("verbose", .nothing, 'v'), ("no-clobber", .nothing, 'n'),
      ("no-target-directory", .nothing, 'T'), ("target-directory", .something, 't'),
      ("update", .maybe, 'u'), ("help", .nothing, '?'), ("version", .nothing, '!')] }
  m.withOptions table 1 args fun g m => m.withTargets g (copyEntry g 64)

/-- Moves files. -/
def moveFiles (m : Machine) (args : List Octets) : Machine :=
  let table : OptionTable := {
    plain := "bfinTuvZ"
    valued := "tS"
    long := [("force", .nothing, 'f'), ("verbose", .nothing, 'v'), ("no-clobber", .nothing, 'n'),
      ("no-target-directory", .nothing, 'T'), ("target-directory", .something, 't'),
      ("update", .maybe, 'u'), ("help", .nothing, '?'), ("version", .nothing, '!')] }
  m.withOptions table 1 args fun g m => m.withTargets g (moveEntry g)

/-! ### Modes -/

/-- The rights of the owner that a mode in letters makes of those before; `none` if it is no
mode. -/
def lettersMode? (mode : Octets) (isDirectory : Bool) (before : Rights) : Option Rights :=
  (Octets.splitAt ',' mode).foldl (fun state clause =>
    state.bind fun r =>
      let who := clause.takeWhile "ugoa".toList.contains
      match clause.drop who.length with
      | op :: permissions =>
        if !"+-=".toList.contains op || !permissions.all "rwxXst".toList.contains then none
        else
          let counts := who.isEmpty || who.contains 'u' || who.contains 'a'
          let change (before named : Bool) : Bool :=
            if !counts then before
            else if op = '+' then before || named
            else if op = '-' then before && !named
            else named
          some {
            reads := change r.reads (permissions.contains 'r')
            writes := change r.writes (permissions.contains 'w')
            enters := change r.enters (permissions.contains 'x'
              || (permissions.contains 'X' && (isDirectory || r.enters))) }
      | [] => none) (some before)

/-- Changes the modes of files. -/
def changeModes (m : Machine) (args : List Octets) : Machine :=
  let isMode (a : Octets) : Bool := match a with
    | '-' :: c :: _ => "rwxXst".toList.contains c
    | _ => false
  let args := match args with
    | a :: rest => if isMode a then ['-', '-'] :: a :: rest else args
    | [] => []
  let table : OptionTable := {
    plain := "cfvR"
    long := [("recursive", .nothing, 'R'), ("silent", .nothing, 'f'), ("quiet", .nothing, 'f'),
      ("verbose", .nothing, 'v'), ("reference", .something, 'r'), ("help", .nothing, '?'),
      ("version", .nothing, '!')] }
  m.withOptions table 1 args fun g m =>
    match g.operands with
    | [] => m.usageFail 1 "missing operand"
    | [mode] => m.usageFail 1 ("missing operand after ".toList ++ quoted mode)
    | mode :: files =>
      let isOctal := !mode.isEmpty && mode.all Octets.isOctal && mode.length ≤ 5
      if !isOctal && (lettersMode? mode false {}).isNone then
        m.usageFail 1 ("invalid mode: ".toList ++ quoted mode)
      else m.eachOperand files fun name m =>
        match m.look name with
        | .error o => m.fault 1 "cannot access " name (Octets.ofText o.reason)
        | .ok node =>
          let p := m.path name
          let isDirectory := node = .directory
          let before : Rights := {
            reads := !m.isDenied (.read p)
            writes := !m.isDenied (if isDirectory then .create (p.child "x") else .append p)
            enters := match node with
              | .file _ executable => executable
              | .directory => true }
          let r := if isOctal then Rights.ofDigit (Octets.digitsValue 8 mode / 64)
            else (lettersMode? mode isDirectory before).getD before
          if isProtected p then
            m.nativeFail 1 ("changing permissions of ".toList ++ quotedName name
              ++ ": Operation not permitted".toList)
          else
            let disk := match node with
              | .file content _ => m.disk.put p (.file content r.enters)
              | .directory => m.disk
            { m with disk := withRights disk p r }

/-! ### Listing -/

/-- The names of a directory that are listed. -/
def listedNames (m : Machine) (g : Given) (directory : Octets) : List Octets :=
  let names := m.namesIn directory
  let names := if g.has 'a' then (['.'] :: ['.', '.'] :: names).mergeSort Octets.isOrdered
    else if g.has 'A' then names
    else names.filter fun n => n.head? != some '.'
  if g.has 'r' then names.reverse else names

/-- Names as they are listed, `place` being the directory that they are in. -/
def listing (m : Machine) (g : Given) (place : Octets → Octets) (names : List Octets) : Octets :=
  let marked (name : Octets) : Octets :=
    let shown := if g.has 'Q' then '"' :: name ++ ['"'] else name
    let isTree := m.isDirectory (place name)
    if isTree && (g.has 'p' || g.has 'F') then shown ++ ['/']
    else match m.look (place name) with
      | .ok (.file _ true) => if g.has 'F' then shown ++ ['*'] else shown
      | _ => shown
  match g.last? "1mxC" with
  | some 'm' => if names.isEmpty then [] else
      Octets.join ", ".toList (names.map marked) ++ ['\n']
  | some '1' => names.flatMap fun n => marked n ++ ['\n']
  | none => names.flatMap fun n => marked n ++ ['\n']
  | some _ => if names.isEmpty then [] else
      Octets.join "  ".toList (names.map marked) ++ ['\n']

/-- Lists directories with a title for each, and those in them if that is asked for; `n` bounds the
depth. -/
def listDirectories (g : Given) (titled : Bool) :
    Nat → (isFirst : Bool) → List Octets → Machine → Machine
  | 0, _, _, m => m
  | n + 1, isFirst, directories, m =>
    (directories.foldl (fun (isFirst, m) d =>
      if m.isDenied (.read (m.path d)) then
        (isFirst, m.fault 2 "cannot open directory " d (Octets.ofText Obstacle.denied.reason))
      else
        let names := m.listedNames g d
        let title := if titled then (if isFirst then [] else ['\n']) ++ d ++ [':', '\n'] else []
        let m := m.print (title ++ m.listing g (inDirectory d) names)
        let inner := if g.has 'R' then
            (names.filter fun name => name != ['.'] && name != ['.', '.']
              && m.isDirectory (inDirectory d name)).map (inDirectory d)
          else []
        (false, if inner.isEmpty then m else listDirectories g titled n false inner m))
      (isFirst, m)).2

/-- Lists files and what is in directories. -/
def listFiles (m : Machine) (args : List Octets) : Machine :=
  let table : OptionTable := {
    plain := "1aAbBcCdfFgGhHiklLmnNopqQrRsStuUvxXZ"
    valued := "ITw"
    long := [("all", .nothing, 'a'), ("almost-all", .nothing, 'A'), ("directory", .nothing, 'd'),
      ("reverse", .nothing, 'r'), ("recursive", .nothing, 'R'), ("classify", .maybe, 'F'),
      ("quote-name", .nothing, 'Q'), ("color", .maybe, 'Y'), ("help", .nothing, '?'),
      ("version", .nothing, '!')] }
  m.withOptions table 2 args fun g m =>
    let operands := if g.operands.isEmpty then [['.']] else g.operands.mergeSort Octets.isOrdered
    let operands := if g.has 'r' then operands.reverse else operands
    let m := m.eachOperand (g.operands.mergeSort Octets.isOrdered) fun name m =>
      match m.look name with
      | .ok _ => m
      | .error o =>
        if Machine.descriptorOf? name |>.isSome then m
        else m.fault 2 "cannot access " name (Octets.ofText o.reason)
    let there := operands.filter fun name => (m.look name).toOption.isSome
    let files := there.filter fun name => g.has 'd' || !m.isDirectory name
    let trees := there.filter fun name => !g.has 'd' && m.isDirectory name
    let m := m.print (m.listing g id files)
    let titled := 1 < g.operands.length || g.has 'R'
    (listDirectories g titled 64 files.isEmpty trees m).closeOutput 2

/-! ### Copies of the input -/

/-- Writes the input to the standard output and to files. -/
def teeFiles (m : Machine) (args : List Octets) : Machine :=
  let table : OptionTable := {
    plain := "aip"
    long := [("append", .nothing, 'a'), ("ignore-interrupts", .nothing, 'i'),
      ("output-error", .maybe, 'p'), ("help", .nothing, '?'), ("version", .nothing, '!')] }
  m.withOptions table 1 args fun g m =>
    let (targets, m) := g.operands.foldl (fun (targets, m) name =>
      match m.openOutput name (g.has 'a') with
      | .ok (t, m) => (targets ++ [t], m)
      | .error o => (targets, m.fileComplain [] (namedFile name) o)) ([], m)
    let (flow, m) := m.drain
    let m := targets.foldl (fun m t =>
      if flow.isEndless then m
      else m.writeTo (some t) flow) m
    m.write 1 flow

/-- A number of `dd`, which may have a unit. -/
def sizeOf? (o : Octets) : Option Nat :=
  let digits := o.takeWhile Char.isDigit
  let unit : Option Nat := match String.ofList (o.drop digits.length) with
    | "" => some 1
    | "c" => some 1
    | "w" => some 2
    | "b" => some 512
    | "k" => some 1024
    | "K" => some 1024
    | "kB" => some 1000
    | "M" => some 1048576
    | "MB" => some 1000000
    | "G" => some 1073741824
    | _ => none
  if digits.isEmpty then none else unit.map (Octets.digitsValue 10 digits * ·)

/-- Copies blocks. -/
def copyBlocks (m : Machine) (args : List Octets) : Machine :=
  let keys : List String :=
    ["if", "of", "bs", "ibs", "obs", "count", "skip", "seek", "conv", "status", "iflag", "oflag",
     "cbs"]
  let value? (key : String) : Option Octets :=
    (args.reverse.find? fun a => (key.toList ++ ['=']).isPrefixOf a).map
      (·.drop (key.length + 1))
  let isKnown (a : Octets) : Bool := keys.any fun k => (k.toList ++ ['=']).isPrefixOf a
  match args.find? fun a => !isKnown a with
  | some a => m.usageFail 1 ("unrecognized operand ".toList ++ quoted a)
  | none =>
    let numbers := ["bs", "ibs", "obs", "count", "skip", "seek"].filterMap value?
    let isBad (v : Octets) : Bool :=
      (sizeOf? v).isNone || (value? "bs" = some v && sizeOf? v = some 0)
    match numbers.find? isBad with
    | some v => m.nativeFail 1 ("invalid number: ".toList ++ quoted v)
    | none =>
      let number (key : String) (other : Nat) : Nat := ((value? key).bind sizeOf?).getD other
      let size := number "bs" (number "ibs" 512)
      let source : Except Obstacle (Flow × Machine) := match value? "if" with
        | none => .ok m.drain
        | some name => (m.readFile name).map fun f => (f, m)
      match source with
      | .error o =>
        m.fault 1 "failed to open " ((value? "if").getD []) (Octets.ofText o.reason)
      | .ok (flow, m) =>
        let target : Except Obstacle (Option Target × Machine) := match value? "of" with
          | none => .ok (m.target? 1, m)
          | some name => (m.openOutput name false).map fun (t, m) => (some t, m)
        match target with
        | .error o => m.fault 1 "failed to open " ((value? "of").getD []) (Octets.ofText o.reason)
        | .ok (t, m) =>
          let skipped := number "skip" 0 * size
          let most := (value? "count").map fun _ => number "count" 0 * size
          if flow.isEndless && most.isNone then m.interrupt .stuck
          else
            let o := match most with
              | some n => (flow.take (skipped + n)).drop skipped
              | none => flow.now.drop skipped
            let m := m.writeTo t { now := o }
            let record (what : String) : Octets :=
              Octets.ofNat (o.length / size) ++ '+' ::
                (if o.length % size = 0 then ['0'] else ['1']) ++ " records ".toList ++ what.toList
                ++ ['\n']
            if value? "status" = some "none".toList then m
            else
              let m := m.complain (record "in" ++ record "out")
              if value? "status" = some "noxfer".toList then m
              else m.complain (Octets.ofNat o.length ++ " bytes copied, 0 s, 0 B/s\n".toList)

end Pasteboard.Shell.Machine
