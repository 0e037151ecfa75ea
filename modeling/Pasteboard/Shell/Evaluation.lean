import Pasteboard.Shell.Arithmetic
import Pasteboard.Shell.Batch
import Pasteboard.Shell.NativeCommand
import Pasteboard.Shell.Reader

/-!
# Doing commands

What commands do to a machine. A simple command is done in this order: its words are expanded, then
the targets of its redirections, then those are done, then its assignments, and only then is it
found out what its name stands for. A mistake in an expansion ends the shell, one in a redirection
only the command, unless it is one of the special ones.

Commands of a pipeline are done one after the other, each with the clock at the start of the
pipeline, the later ones on the channel that the earlier ones have filled. One that writes after its
reader has ended is ended by that.

The fuel bounds the nesting of steps; a process that runs out of it is ended as one whose stack is
full.
-/

namespace Pasteboard.Shell

/-- In which manner a command is done. -/
structure Manner where
  /-- Its status is asked for, so a failure does not end the shell. -/
  checked : Bool := false
  /-- The process does nothing behind it. -/
  last : Bool := false

/-- What a simple command calls. -/
structure Call where
  name : Octets
  args : List Octets
  /-- A mistake in it ends the shell. -/
  isSpecial : Bool := false
  /-- Functions count. -/
  isFree : Bool := true
  /-- The search path for programs, if it is not that of the process. -/
  searchPath : Option Octets := none

namespace Machine

/-- The process is ended because its steps are nested too deep. -/
def overflow (m : Machine) : Machine := m.interrupt (.signal 11)

/-- How many calls of functions may be nested. -/
def functionLimit : Nat := 1000

/-- The time that it takes to handle texts. -/
def textTime (texts : List Octets) : Nat := texts.foldl (fun n o => n + o.length) 0 / 20

/-- A name stands for a function. -/
def isFunction (m : Machine) (name : Octets) : Bool := m.frame.functions.any fun f => f.1 = name

/-- What is called behind `command`: nothing if there is no name, or an option that asks for a
description. -/
def calledBehind? : List Octets → Option (List Octets × Bool)
  | [] => none
  | ('-' :: c :: more) :: rest =>
    if c = '-' && more.isEmpty then if rest.isEmpty then none else some (rest, false)
    else if (c :: more).all (· = 'p') then (calledBehind? rest).map fun r => (r.1, true)
    else none
  | words => some (words, false)

/-- What the words of a simple command call. -/
def callOf (m : Machine) : Nat → List Octets → Option Call
  | 0, _ => none
  | _ + 1, [] => none
  | n + 1, name :: args =>
    if name = "command".toList && !m.isFunction name then
      match calledBehind? args with
      | none => some { name, args }
      | some (words, isStandard) =>
        (m.callOf n words).map fun c => { c with
          isSpecial := false
          isFree := false
          searchPath := if isStandard then some standardSearchPath else c.searchPath }
    else some { name, args, isSpecial := specialBuiltins.contains (String.ofList name) }

/-- The words of the command are those of an assignment if they look like one. -/
def takesAssignments (c : Option Call) : Bool :=
  match c with
  | some c => ["alias", "export", "local", "readonly"].contains (String.ofList c.name)
  | none => false

/-- The memory of arithmetic is the variables. -/
def memory : Arithmetic.Memory Machine where
  value m name :=
    let text := (m.get? name).getD []
    match Octets.readInteger? true text with
    | some (i, rest) =>
      if rest.all Octets.isSpace then .ok (Octets.clamped i)
      else .error ("Illegal number: ".toList ++ text)
    | none =>
      if text.all Octets.isSpace then .ok 0 else .error ("Illegal number: ".toList ++ text)
  assign m name i :=
    if m.isReadOnly name then .error (name ++ ": is read only".toList)
    else .ok (m.set name (Octets.ofInt i))

/-- The value of a substitution as pieces. -/
def valueOf (quoted isSplit : Bool) (text : Octets) : List Piece :=
  if quoted || !isSplit then [.fixed text quoted] else [.split [text]]

/-- Pieces of the word of a parameter, in which separators count outside quotes. -/
def cutPieces (isSplit : Bool) (ps : List Piece) : List Piece :=
  if !isSplit then ps
  else ps.map fun p =>
    match p with
    | .fixed text false => .split [text]
    | p => p

/-- What is wrong with opening a file for a redirection. -/
def openingFault (opening : Opening) (name : Octets) (o : Obstacle) : Octets :=
  let isAbsent := o = .missing || o = .notDirectory
  match opening with
  | .reading =>
    "cannot open ".toList ++ name ++ ": ".toList
      ++ (if isAbsent then "No such file".toList else Octets.ofText o.reason)
  | _ =>
    "cannot create ".toList ++ name ++ ": ".toList
      ++ (if isAbsent then "Directory nonexistent".toList else Octets.ofText o.reason)

/-- Opens a file for a redirection. -/
def openFor (m : Machine) (opening : Opening) (name : Octets) :
    Except Obstacle (Target × Machine) :=
  match opening with
  | .reading => m.openInput name
  | .writing =>
    match m.look name with
    | .ok (.file _ _) =>
      if m.hasOption 'C' && !(Condition.devices.contains (String.ofList name)) then .error .present
      else m.openOutput name false
    | _ => m.openOutput name false
  | .overwriting => m.openOutput name false
  | .adding => m.openOutput name true
  | .both =>
    match m.look name with
    | .ok (.file _ _) => m.openInput name
    | _ =>
      match m.openOutput name true with
      | .ok (_, m) => m.openInput name
      | .error o => .error o

/-- A redirection whose target is known. -/
inductive ReadyRedirection
  | file (descriptor : Nat) (opening : Opening) (name : Octets)
  | copy (descriptor source : Nat)
  | close (descriptor : Nat)
  | text (descriptor : Nat) (content : Octets)

/-- Does a redirection; says what is in the way. -/
def redirect (m : Machine) : ReadyRedirection → Except Octets Machine
  | .file descriptor opening name =>
    match m.openFor opening name with
    | .ok (t, m) => .ok (m.connect descriptor (some t))
    | .error o => .error (openingFault opening name o)
  | .copy descriptor source =>
    match m.target? source with
    | some t => .ok (m.connect descriptor (some t))
    | none => .error (Octets.ofNat source ++ ": Bad file descriptor".toList)
  | .close descriptor => .ok (m.connect descriptor none)
  | .text descriptor content =>
    let (k, m) := m.addChannel (Channel.of content false)
    .ok (m.connect descriptor (some (.source k)))

/-- Does redirections in order, up to one that cannot be done; gives whether all were. -/
def redirectAll (m : Machine) (rs : List ReadyRedirection) : Machine × Bool :=
  rs.foldl (fun (m, fine) r =>
    if !fine then (m, false)
    else match m.redirect r with
      | .ok m => (m, true)
      | .error message => ((m.warn message).withStatus 2, false)) (m, true)

/-- What a round of a loop comes to: whether there may be another one. -/
def afterRound (m : Machine) : Machine × Bool :=
  match m.frame.interrupt with
  | none => (m, true)
  | some (.breakLoop levels) =>
    (if levels ≤ 1 then m.resumed else m.interrupt (.breakLoop (levels - 1)), false)
  | some (.nextRound levels) =>
    if levels ≤ 1 then (m.resumed, true) else (m.interrupt (.nextRound (levels - 1)), false)
  | some _ => (m, false)

/-- Inside one more loop. -/
def insideLoop (m : Machine) (f : Machine → Machine) : Machine :=
  let loops := m.frame.loops
  (f (m.withFrame fun f => { f with loops := loops + 1 })).withFrame fun f => { f with loops }

/-- The descriptors as they were. -/
def withDescriptors (m : Machine) (descriptors : List (Nat × Target)) : Machine :=
  m.withFrame fun f => { f with descriptors }

/-- The variables with which a shell starts, taken from its environment. -/
def initialVariables (m : Machine) : List Variable :=
  let own (name value : String) : Variable := { name := name.toList, value := some value.toList }
  let fixed : List Octets := ["IFS", "OPTIND", "PPID", "PWD"]
  let given := m.frame.bindings.filter fun v => Octets.isName v.name && !fixed.contains v.name
  let base : List Variable :=
    [own "IFS" " \t\n", own "OPTIND" "1", own "PS1" "$ ", own "PS2" "> ", own "PS4" "+ ",
     { name := "PATH", value := some standardSearchPath },
     { name := "PPID", value := some (Octets.ofNat m.frame.parent) },
     { name := "PWD", value := some m.frame.directory, exported := true }]
  (base.map fun v => (given.find? fun g => g.name = v.name).getD v)
    ++ given.filter fun g => !base.any fun v => v.name = g.name

/-- The elements of a pipeline that write to a channel behind the end of its reader end at that. -/
def brokenBy (m : Machine) (number k readerEnd : Nat) (f : Finish) : Finish × Machine :=
  let late := (m.channel k).chunks.find? fun c =>
    c.family.contains number && decide (readerEnd < c.time)
  match late with
  | some c =>
    if c.time < f.ends then
      ({ ends := c.time, status := 141, signal := 13 },
        { m with channels := m.channels.map fun ch => ch.without number c.time })
    else (f, m)
  | none =>
    match f.endless with
    | some .flooding => ({ ends := readerEnd, status := 141, signal := 13 }, m)
    | _ => (f, m)

mutual

/-- Expands a part of a word; `isSplit` if the word may become several. -/
def expandPart (n : Nat) (isSplit : Bool) (part : Part) (m : Machine) : List Piece × Machine :=
  match n with
  | 0 => ([], m.overflow)
  | n + 1 =>
    match part with
    | .literal text quoted => ([.fixed text quoted], m)
    | .output c quoted =>
      let (text, m) := substitute n c m
      (valueOf quoted isSplit text, m)
    | .arithmetic source quoted =>
      let (pieces, m) := expandParts n false source m
      if m.isInterrupted then ([], m)
      else match Arithmetic.value memory (Piece.text pieces) m with
        | .ok (i, m) => (valueOf quoted isSplit (Octets.ofInt i), m)
        | .error message => ([], m.mistake message)
    | .parameter name use quoted =>
      let value := m.parameter? name
      let pieces (m : Machine) : List Piece := m.valuePieces name quoted isSplit
      let isArguments := name = ['@'] || name = ['*']
      let unset (m : Machine) : Bool := value.isNone && !isArguments && m.hasOption 'u'
      let notSet : List Piece × Machine := ([], m.mistake (name ++ ": parameter not set".toList))
      match use with
      | .value => if unset m then notSet else (pieces m, m)
      | .length =>
        if unset m then notSet
        else (valueOf quoted isSplit (Octets.ofNat (value.getD []).length), m)
      | .cut fromEnd longest pattern =>
        if unset m then notSet
        else
          let (ps, m) := expandParts n false (withTilde m pattern) m
          if value.isNone then ([], m)
          else (valueOf quoted isSplit
            ((Piece.pattern ps).cut fromEnd longest (value.getD [])), m)
      | .faulty _ => ([], m.mistake "Bad substitution")
      | .instead fallback emptyCounts w =>
        let isSet := match value with
          | some v => !(emptyCounts && v.isEmpty)
          | none => false
        let word (m : Machine) : List Piece × Machine :=
          let (ps, m) := expandParts n isSplit (if quoted then w else withTilde m w) m
          (cutPieces (isSplit && !quoted) ps, m)
        match fallback with
        | .word => if isSet then (pieces m, m) else word m
        | .replacement => if isSet then word m else ([], m)
        | .assigned =>
          if isSet then (pieces m, m)
          else
            let (ps, m) := expandParts n false (if quoted then w else withTilde m w) m
            if m.isInterrupted then ([], m)
            else
              let m := m.assign name (Piece.text ps)
              (pieces m, m)
        | .complaint =>
          if isSet then (pieces m, m)
          else
            let (ps, m) := expandParts n false (if quoted then w else withTilde m w) m
            if m.isInterrupted then ([], m)
            else
              let message := if !w.isEmpty then Piece.text ps
                else if emptyCounts then "parameter not set or null".toList
                else "parameter not set".toList
              ([], m.mistake (name ++ ": ".toList ++ message))

/-- Expands the parts of a word. -/
def expandParts (n : Nat) (isSplit : Bool) (w : Word) (m : Machine) : List Piece × Machine :=
  match n with
  | 0 => ([], m.overflow)
  | n + 1 =>
    let (pieces, m) := w.foldl (fun (done, m) part =>
      if m.isInterrupted then (done, m)
      else
        let (more, m) := expandPart n isSplit part m
        (more.reverse ++ done, m)) (([] : List Piece), m)
    (pieces.reverse, m)

/-- What a command prints, without the line feeds at the end. -/
def substitute (n : Nat) (c : Command) (m : Machine) : Octets × Machine :=
  match n with
  | 0 => ([], m.overflow)
  | n + 1 =>
    match c with
    | .nothing => ([], m)
    | c =>
      let (k, m) := m.addChannel {}
      let (_, f, m) := m.fork false fun m =>
        endShell n (doCommand n { last := true } c (m.connect 1 (some (.sink k))))
      let channel := m.channel k
      if f.endless.isSome || !channel.cycle.isEmpty then ([], m.interrupt .stuck)
      else
        let m := (m.passTo channel.ends).await f
        if m.isInterrupted then ([], m)
        else
          let text := channel.flow.now.filter fun c => c.toNat != 0
          (Octets.withoutLineEnds text,
            (m.report f).withFrame fun frame => { frame with substituted := f.status })

/-- Expands a word to one text. -/
def expandText (n : Nat) (w : Word) (m : Machine) : Octets × Machine :=
  match n with
  | 0 => ([], m.overflow)
  | n + 1 =>
    let (pieces, m) := expandParts n false (withTilde m w) m
    (Piece.text pieces, m)

/-- Expands the value of an assignment. -/
def expandValue (n : Nat) (w : Word) (m : Machine) : Octets × Machine :=
  match n with
  | 0 => ([], m.overflow)
  | n + 1 =>
    let (pieces, m) := expandParts n false (withTildes m true w) m
    (Piece.text pieces, m)

/-- Expands a word, which may become several words, or none. -/
def expandWord (n : Nat) (w : Word) (m : Machine) : List Octets × Machine :=
  match n with
  | 0 => ([], m.overflow)
  | n + 1 =>
    let (pieces, m) := expandParts n true (withTilde m w) m
    if m.isInterrupted then ([], m)
    else ((Piece.words m.separators pieces).flatMap m.pathnames, m)

/-- Expands the words of a simple command. Behind some commands, words that look like assignments
are expanded like those. -/
def expandWords (n : Nat) (ws : List Word) (m : Machine) : List Octets × Machine :=
  match n with
  | 0 => ([], m.overflow)
  | n + 1 =>
    let (words, m) := ws.foldl (fun (done, m) w =>
      if m.isInterrupted then (done, m)
      else
        let asAssignment := !done.isEmpty && w.assignment?.isSome
          && takesAssignments (m.callOf (done.length + 1) done.reverse)
        match if asAssignment then w.assignment? else none with
        | some (name, value) =>
          let (text, m) := expandValue n value m
          ((name ++ '=' :: text) :: done, m)
        | none =>
          let (more, m) := expandWord n w m
          (more.reverse ++ done, m)) (([] : List Octets), m)
    (words.reverse, m)

/-- Expands the targets of redirections. -/
def expandRedirections (n : Nat) (rs : List Redirection) (m : Machine) :
    List ReadyRedirection × Machine :=
  match n with
  | 0 => ([], m.overflow)
  | n + 1 =>
    rs.foldl (fun (done, m) r =>
      if m.isInterrupted then (done, m)
      else match r with
        | .file descriptor opening w =>
          let (name, m) := expandText n w m
          (done ++ [.file descriptor opening name], m)
        | .duplicate descriptor w =>
          let (word, m) := expandText n w m
          match word with
          | ['-'] => (done ++ [.close descriptor], m)
          | [c] =>
            if c.isDigit then (done ++ [.copy descriptor (c.toNat - 48)], m)
            else (done, m.mistake "Syntax error: Bad fd number")
          | _ => (done, m.mistake "Syntax error: Bad fd number")
        | .document descriptor number =>
          let w := ((m.documents.find? fun d => d.1 = number).map Prod.snd).getD []
          let (pieces, m) := expandParts n false w m
          (done ++ [.text descriptor (Piece.text pieces)], m))
      (([] : List ReadyRedirection), m)

/-- Does the commands of a text. `isFile` if its lines are shown when that is asked for. -/
def doText (n : Nat) (how : Manner) (isFile : Bool) (text : Octets) (m : Machine) : Machine :=
  match n with
  | 0 => m.overflow
  | n + 1 =>
    let step : Source × Bool × Machine → (Source × Bool × Machine) × Bool := fun (s, ran, m) =>
      let s := { s with
        aliases := m.frame.aliases
        documents := m.documents
        nextDocument := m.nextDocument }
      let echoed (rest : Octets) (m : Machine) : Machine :=
        if isFile && m.hasOption 'v' then m.complain (s.rest.take (s.rest.length - rest.length))
        else m
      match Reading.complete.run s with
      | .error fault =>
        ((s, true, (m.withFrame fun f => { f with line := fault.line }).mistake fault.message),
          false)
      | .ok (none, after) => ((after, ran, echoed after.rest m), false)
      | .ok (some c, after) =>
        let m := echoed after.rest { m with
          documents := after.documents
          nextDocument := after.nextDocument }
        match c with
        | .nothing => ((after, ran, m), true)
        | c =>
          let atEnd := match after.held with
            | some .endOfInput => true
            | _ => false
          let m := doCommand n { how with last := how.last && atEnd } c m
          ((after, true, m), !m.isInterrupted)
    let (_, ran, m) := repeated step (text.length + 2) ({ rest := text }, false, m)
    if ran then m else m.withStatus 0

/-- Does what is to be done on signals that have come. -/
def doTraps (n : Nat) (m : Machine) : Machine :=
  match n with
  | 0 => m.overflow
  | n + 1 =>
    if m.sent.isEmpty || m.isInterrupted then m
    else match m.takeSignal? with
      | none => m
      | some (signal, m) =>
        match m.action? signal with
        | none => doTraps n (m.receive signal m.clock)
        | some [] => doTraps n m
        | some action =>
          let status := m.frame.status
          let before := m.frame.statusBefore
          let m := m.withFrame fun f => { f with statusBefore := some (before.getD status) }
          let m := doText n {} false action m
          let m := m.withFrame fun f => { f with statusBefore := before }
          match m.frame.interrupt with
          | none => doTraps n (m.withStatus status)
          | some .returned => m
          | some (.breakLoop _) => m.withStatus status
          | some (.nextRound _) => m.withStatus status
          | some _ => m

/-- The end of a shell: what is to be done then, and the status. -/
def endShell (n : Nat) (m : Machine) : Machine :=
  match n with
  | 0 => m.overflow
  | n + 1 =>
    let goOn (status : Nat) : Machine :=
      match (m.frame.traps.find? fun t => t.1 = 0).map Prod.snd with
      | none => m.interrupt (.exit status)
      | some action =>
        let m := (m.withFrame fun f => { f with
          traps := f.traps.filter fun t => t.1 != 0
          interrupt := none
          statusBefore := some status }).withStatus status
        let m := doText n {} false action m
        match m.frame.interrupt with
        | some (.exit _) => m
        | some (.signal _) => m
        | some .stuck => m
        | some .flooding => m
        | some .failed => m.interrupt (.exit m.frame.status)
        | _ => m.interrupt (.exit status)
    match m.frame.interrupt with
    | some (.signal _) => m
    | some .stuck => m
    | some .flooding => m
    | some (.exit status) => goOn status
    | _ => goOn m.frame.status

/-- Does a command. -/
def doCommand (n : Nat) (how : Manner) (c : Command) (m : Machine) : Machine :=
  match n with
  | 0 => m.overflow
  | n + 1 =>
    let m := doTraps n m
    if m.isInterrupted || m.hasOption 'n' then m
    else
      let after (m : Machine) : Machine :=
        let m := doTraps n m
        if m.hasOption 'e' && !how.checked && m.frame.status != 0 && !m.isInterrupted then
          m.interrupt (.exit m.frame.status)
        else m
      let inner : Manner := { checked := how.checked }
      let onLine (line : Nat) (m : Machine) : Machine := m.withFrame fun f => { f with line }
      match c with
      | .nothing => m
      | .simple line assignments words redirections =>
        after (doSimple n how line assignments words redirections m)
      | .pipeline parts => after (doPipeline n { how with last := true } parts m)
      | .negated c =>
        let m := doCommand n { checked := true } c m
        if m.isInterrupted then m
        else doTraps n (m.withStatus (if m.frame.status = 0 then 1 else 0))
      | .both c d =>
        let m := doCommand n { checked := true } c m
        if m.isInterrupted || m.frame.status != 0 then m else doCommand n how d m
      | .either c d =>
        let m := doCommand n { checked := true } c m
        if m.isInterrupted || m.frame.status = 0 then m else doCommand n how d m
      | .sequence c d =>
        let m := doCommand n inner c m
        if m.isInterrupted then m else doCommand n how d m
      | .choose condition yes no =>
        let m := doCommand n { checked := true } condition m
        if m.isInterrupted then m
        else if m.frame.status = 0 then
          match yes with
          | .nothing => m
          | yes => doCommand n how yes m
        else match no with
          | .nothing => m.withStatus 0
          | no => doCommand n how no m
      | .loop untilTrue condition body =>
        doTraps n (m.insideLoop fun m => doLoop n inner untilTrue condition body m)
      | .each line name words body =>
        let m := onLine line m
        let (values, m) := words.foldl (fun (done, m) w =>
          if m.isInterrupted then (done, m)
          else
            let (more, m) := expandWord n w m
            (done ++ more, m)) (([] : List Octets), m)
        if m.isInterrupted then m
        else
          let round (m : Machine) (value : Octets) : Machine × Bool :=
            let m := m.assign name value
            if m.isInterrupted then (m, false) else (doCommand n inner body m).afterRound
          doTraps n ((m.withStatus 0).insideLoop fun m =>
            (values.foldl (fun (m, goesOn) value =>
              if goesOn then round m value else (m, false)) (m, true)).1)
      | .select line subject clauses =>
        let (text, m) := expandText n subject (onLine line m)
        if m.isInterrupted then m else doClauses n how text clauses (m.withStatus 0)
      | .function name body =>
        (m.withFrame fun f => { f with
          functions := (name, body) :: f.functions.filter fun g => g.1 != name }).withStatus 0
      | .redirected line c redirections =>
        let (ready, m) := expandRedirections n redirections (onLine line m)
        if m.isInterrupted then m
        else
          let before := m.frame.descriptors
          let (m, fine) := m.redirectAll ready
          (if fine then doCommand n inner c m else m).withDescriptors before
      | .subshell line c redirections =>
        let (ready, m) := expandRedirections n redirections (onLine line m)
        if m.isInterrupted then m
        else
          let work (m : Machine) : Machine :=
            let (m, fine) := m.redirectAll ready
            if fine then doCommand n { how with last := true } c m
            else m.interrupt (.exit 2)
          if how.last && !m.hasTraps then
            let m := work m
            if m.isInterrupted then m else m.interrupt (.exit m.frame.status)
          else
            let (_, f, m) := m.fork false fun m => endShell n (work m)
            after (m.settle f)
      | .background line c redirections =>
        let (ready, m) := expandRedirections n redirections (onLine line m)
        if m.isInterrupted then m
        else
          let ignored := 2 :: 3 :: m.ignoredSignals
          let (number, f, m) := m.fork true fun m =>
            let (m, fine) := (m.connect 0 (some .nowhere)).redirectAll ready
            endShell n (if fine then doCommand n { last := true } c m else m.interrupt (.exit 2))
          let parts := match c with
            | .pipeline parts => parts.length
            | _ => 1
          after (m.addJob number parts f ignored)

/-- Does the rounds of a loop with a condition. -/
def doLoop (n : Nat) (how : Manner) (untilTrue : Bool) (condition body : Command) (m : Machine) :
    Machine :=
  match n with
  | 0 => m.overflow
  | n + 1 =>
    let step : Nat × Machine → (Nat × Machine) × Bool := fun (status, m) =>
      let m := doCommand n { checked := true } condition m
      let isReturn := match m.frame.interrupt with
        | some .returned => true
        | _ => false
      if isReturn then ((m.frame.status, m), false)
      else
        let wasInterrupted := m.isInterrupted
        let (m, goesOn) := m.afterRound
        if !goesOn then ((status, m), false)
        else if wasInterrupted then ((status, m), true)
        else if (m.frame.status = 0) = untilTrue then ((status, m), false)
        else
          let m := doCommand n how body m
          let status := m.frame.status
          let (m, goesOn) := m.afterRound
          ((status, m), goesOn)
    let (status, m) := repeated step 100000000 (0, m)
    match m.frame.interrupt with
    | some (.exit _) => m
    | some .failed => m
    | _ => m.withStatus status

/-- Does the first clause with a pattern that matches. -/
def doClauses (n : Nat) (how : Manner) (subject : Octets) (clauses : List (List Word × Command))
    (m : Machine) : Machine :=
  match n with
  | 0 => m.overflow
  | n + 1 =>
    let (chosen, m) := clauses.foldl (fun (chosen, m) (patterns, body) =>
      match chosen with
      | some c => (some c, m)
      | none =>
        let (found, m) := patterns.foldl (fun (found, m) w =>
          if found || m.isInterrupted then (found, m)
          else
            let (pieces, m) := expandParts n false (withTilde m w) m
            ((Piece.pattern pieces).accepts subject, m)) (false, m)
        (if found then some body else none, m)) ((none : Option Command), m)
    if m.isInterrupted then m
    else match chosen with
      | none => m
      | some .nothing => m
      | some body => doCommand n how body m

/-- Does the parts of a pipeline, which all start at about the same time. -/
def doPipeline (n : Nat) (how : Manner) (parts : List Command) (m : Machine) : Machine :=
  match n with
  | 0 => m.overflow
  | n + 1 =>
    let start := m.clock
    let count := parts.length
    /- Each part with its number, its end and the channel that it writes to, the last one first. -/
    let (started, _, m) := (parts.zipIdx).foldl (fun (started, input, m) (c, i) =>
      let isLast := i + 1 = count
      let (k, m) := if isLast then (0, m) else m.addChannel {}
      let (number, f, m) := { m with clock := start + i * (forkTime / 2) }.fork false fun m =>
        let m := match input with
          | some k => m.connect 0 (some (.source k))
          | none => m
        let m := if isLast then m else m.connect 1 (some (.sink k))
        endShell n (doCommand n how c m)
      ((number, f, k) :: started, some k, m))
      (([] : List (Nat × Finish × Nat)), (none : Option Nat), m)
    let m := { m with clock := start }
    match started with
    | [] => m
    | (_, last, _) :: writers =>
      let (finishes, _, m) := writers.foldl (fun (finishes, readerEnd, m) (number, f, k) =>
        let (f, m) := m.brokenBy number k readerEnd f
        (f :: finishes, f.ends, m)) ([last], last.ends, m)
      let m := finishes.foldl (fun m f =>
        if m.isInterrupted then m
        else
          let m := m.await f
          if m.isInterrupted then m else m.report f) m
      if m.isInterrupted then m else m.withStatus last.status

/-- Does a simple command. -/
def doSimple (n : Nat) (how : Manner) (line : Nat) (assignments : List (Octets × Word))
    (words : List Word) (redirections : List Redirection) (m : Machine) : Machine :=
  match n with
  | 0 => m.overflow
  | n + 1 =>
    let m := (m.withFrame fun f => { f with line, substituted := 0 }).spend commandTime
    let (fields, m) := expandWords n words m
    let m := m.spend (textTime fields)
    if m.isInterrupted then m
    else
      let call := m.callOf (fields.length + 1) fields
      let isSpecial := match call with
        | some c => c.isSpecial
        | none => false
      let descriptors := m.frame.descriptors
      let errors := m.target? 2
      let (ready, m) := expandRedirections n redirections m
      if m.isInterrupted then m
      else
        let (m, fine) := m.redirectAll ready
        if !fine then
          let m := m.withDescriptors descriptors
          if isSpecial then m.interrupt .failed else m
        else
          let isLocal := call.isSome && !isSpecial
          let exports := match call with
            | some c => isLocal || (c.name = "exec".toList && !c.args.isEmpty)
            | none => false
          let (shown, saved, m) := assignments.foldl (fun (shown, saved, m) (name, w) =>
            if m.isInterrupted then (shown, saved, m)
            else
              let (value, m) := expandValue n w m
              let m := m.spend (textTime [value])
              if m.isInterrupted then (shown, saved, m)
              else
                let before := (m.held? name).getD { name, value := none }
                let m := m.assign name value
                let m := if exports && !m.isInterrupted then
                    m.change name fun v => { v with exported := true }
                  else m
                (shown ++ [name ++ '=' :: value], saved ++ [before], m))
            (([] : List Octets), ([] : List Variable), m)
          if m.isInterrupted then m.withDescriptors descriptors
          else
            let m := if m.hasOption 'x' then
                let front := (m.get? "PS4").getD []
                m.writeTo errors { now := front ++ Octets.join [' '] (shown ++ fields) ++ ['\n'] }
              else m
            let m := match call with
              | none => m.withStatus m.frame.substituted
              | some c => doCall n how c m
            let m := match call with
              | some c =>
                if c.name = "exec".toList && !m.isFunction c.name then m
                else m.withDescriptors descriptors
              | none => m.withDescriptors descriptors
            if isLocal then m.restoreVariables saved else m

/-- Does what a name stands for: a function, a command of the shell or a program. -/
def doCall (n : Nat) (how : Manner) (c : Call) (m : Machine) : Machine :=
  match n with
  | 0 => m.overflow
  | n + 1 =>
    let body := if c.isFree then m.frame.functions.find? fun f => f.1 = c.name else none
    match body with
    | some (_, body) =>
      if functionLimit ≤ m.frame.saved.length then
        m.mistake ("Maximum function recursion depth (".toList ++ Octets.ofNat functionLimit
          ++ ") reached".toList)
      else
        let before := m.frame
        let m := doCommand n { checked := how.checked } body (m.withFrame fun f => { f with
          arguments := c.args
          optionIndex := 1
          optionPlace := none
          loops := 0
          saved := [] :: f.saved })
        let m := m.restoreVariables (m.frame.saved.headD [])
        m.withFrame fun f => { f with
          arguments := before.arguments
          optionIndex := before.optionIndex
          optionPlace := before.optionPlace
          loops := before.loops
          saved := before.saved
          interrupt := match f.interrupt with
            | some .returned => none
            | other => other }
    | none =>
      if builtinNames.contains (String.ofList c.name) then
        let command := m.frame.command
        let m := doBuiltin n how c (m.withFrame fun f => { f with command := some c.name })
        let m := match m.frame.unwritten with
          | some _ =>
            let m := m.withFrame fun f => { f with unwritten := none }
            (m.warn (c.name ++ ": I/O error".toList)).withStatus
              (if m.frame.status % 2 = 1 then m.frame.status else m.frame.status + 1)
          | none => m
        let m := m.withFrame fun f => { f with command }
        match m.frame.interrupt with
        | some .failed => if c.isSpecial then m else m.resumed
        | _ => m
      else doProgram n how c m

/-- Does a command of the shell itself. -/
def doBuiltin (n : Nat) (how : Manner) (c : Call) (m : Machine) : Machine :=
  match n with
  | 0 => m.overflow
  | n + 1 =>
    let withNumber (f : Nat → Machine) : Machine :=
      match c.args with
      | word :: _ => m.orMistake (number word) f
      | [] => f (m.frame.statusBefore.getD m.frame.status)
    match String.ofList c.name with
    | "eval" =>
      let text := Octets.join [' '] c.args
      if c.args.isEmpty then m.withStatus 0
      else doText n { checked := how.checked } false text m
    | "." => m.withLetters "" c.args fun _ args =>
      match args with
      | [] => m.withStatus 0
      | name :: _ =>
        let files := if name.contains '/' then [name]
          else (filesFor m.searchPath name).filter fun file =>
            match m.look file with
            | .ok (.file _ _) => true
            | _ => false
        match files with
        | [] => m.mistake (name ++ ": not found".toList)
        | file :: _ =>
          match m.readFile file with
          | .ok flow =>
            let m := m.withFrame fun f => { f with command := some file }
            let m := doText n {} true flow.now m
            m.withFrame fun f => { f with interrupt := match f.interrupt with
              | some .returned => none
              | other => other }
          | .error .isDirectory => m.withStatus 0
          | .error o => m.mistake (openingFault .reading file o)
    | "exec" =>
      match c.args with
      | [] => m.withStatus 0
      | name :: args =>
        match m.startOn (c.searchPath.getD m.searchPath) name args with
        | .ok s => doNative n s m.handingOver
        | .error failure =>
          (m.warn (name ++ ": ".toList ++ failureWording failure)).interrupt
            (.exit (failureStatus failure))
    | "command" => m.withLetters "pvV" c.args fun options names =>
      let asked := options.filter fun o => o.1 != 'p'
      let searchPath := if asked.length < options.length then standardSearchPath else m.searchPath
      match asked.getLast?, names with
      | some (letter, _), name :: _ => m.describe (letter = 'V') searchPath name
      | _, _ => m.withStatus 0
    | "wait" => m.withLetters "" c.args fun _ words =>
      if words.isEmpty then m.waitForAll else m.waitFor words
    | "exit" => withNumber fun status => m.interrupt (.exit status)
    | "return" => withNumber fun status => (m.withStatus status).interrupt .returned
    | _ =>
      match builtin? c.name c.args with
      | some f => f (m.withStatus 0)
      | none => m.withStatus 0

/-- Does a program. If there is nothing behind it, it takes the place of the shell. -/
def doProgram (n : Nat) (how : Manner) (c : Call) (m : Machine) : Machine :=
  match n with
  | 0 => m.overflow
  | n + 1 =>
    let searchPath := c.searchPath.getD m.searchPath
    let isThere (file : Octets) : Except Obstacle Unit :=
      match m.look file with
      | .ok (.file _ _) => .ok ()
      | .ok .directory => .error .denied
      | .error o => .error o
    let places := (filesFor searchPath c.name).map isThere
    let isFound := c.name.contains '/' || places.any fun r => r.toOption.isSome
    if !isFound then
      let denied := places.any fun r => match r with
        | .error o => o != .missing && o != .notDirectory
        | .ok _ => false
      let reason := if denied then ": Permission denied" else ": not found"
      (m.warn (c.name ++ reason.toList)).withStatus 127
    else
      let m := m.remember c.name
      let started (m : Machine) : Machine :=
        match m.startOn searchPath c.name c.args with
        | .ok s => doNative n s m.handingOver
        | .error failure =>
          (m.warn (c.name ++ ": ".toList ++ failureWording failure)).interrupt
            (.exit (failureStatus failure))
      if how.last && !m.hasTraps then started m
      else
        let (_, f, m) := m.fork false started
        m.settle f

/-- Does a native command, or a shell, in place of the process. -/
def doNative (n : Nat) (s : Started) (m : Machine) : Machine :=
  match n with
  | 0 => m.overflow
  | n + 1 =>
    let m := (m.becoming s m.exported).spend startTime
    if m.isInterrupted then m
    else
      let m := match String.ofList s.native with
        | "sh" => doShell n s.args m
        | "dash" => doShell n s.args m
        | "env" => doEnvironment n s.args m
        | "nohup" => doUnhurt n s.args m
        | "timeout" => doTimed n s.args m
        | "xargs" => doBatches n s.args m
        | _ =>
          match nativeCommand? s.native with
          | some f => f s.args m
          | none => m.withStatus 127
      if m.isInterrupted then m else m.interrupt (.exit m.frame.status)

/-- The shell as a program. -/
def doShell (n : Nat) (args : List Octets) (m : Machine) : Machine :=
  match n with
  | 0 => m.overflow
  | n + 1 =>
    let m := m.withFrame fun f => { f with
      shellNumber := f.number
      arguments := []
      bindings := m.initialVariables }
    let a := readOptionWords true (args.length + 1) { machine := m, rest := args }
    let m := a.machine
    let m := if m.hasOption 'i' then m.warn noTerminal else m
    if m.isInterrupted then endShell n m
    else if a.hasText then
      match a.rest with
      | [] => endShell n (m.mistake "-c requires an argument")
      | text :: rest =>
        let m := m.withFrame fun f => { f with
          name := rest.headD f.name
          arguments := rest.tail }
        let isStill := m.hasOption 's'
        let m := doText n { last := !isStill } false text m
        if isStill && !m.isInterrupted then
          let (flow, m) := m.drain
          endShell n (doText n {} true flow.now m)
        else endShell n m
    else if a.rest.isEmpty || m.hasOption 's' then
      let m := if m.hasOption 's' then m else m.setOption 's' true
      let m := m.withFrame fun f => { f with arguments := a.rest }
      let (flow, m) := m.drain
      if flow.isEndless then m.interrupt .stuck
      else endShell n (doText n {} true flow.now m)
    else
      match a.rest with
      | [] => endShell n m
      | file :: rest =>
        match m.readFile file with
        | .ok flow =>
          if flow.isEndless then m.interrupt .stuck
          else endShell n (doText n {} true flow.now (m.withFrame fun f =>
            { f with name := file, arguments := rest }))
        | .error .isDirectory => m
        | .error o => endShell n (m.mistake (openingFault .reading file o))

/-- Starts a command in place of a native one; says what is in the way. -/
def replaceBy (n : Nat) (before : String) (inQuotes : Bool) (words : List Octets) (m : Machine) :
    Machine :=
  match n with
  | 0 => m.overflow
  | n + 1 =>
    match words with
    | [] => m
    | name :: args =>
      match m.startOn ((m.get? "PATH").getD defaultSearchPath) name args with
      | .ok s => doNative n s m
      | .error failure => m.refuseProgram before (if inQuotes then quoted name else name) failure

/-- Prints the environment, or starts a command in another one. -/
def doEnvironment (n : Nat) (args : List Octets) (m : Machine) : Machine :=
  match n with
  | 0 => m.overflow
  | n + 1 =>
    let table : OptionTable := {
      plain := "0iv"
      valued := "uCS"
      long := [("ignore-environment", .nothing, 'i'), ("null", .nothing, '0'),
        ("unset", .something, 'u'), ("chdir", .something, 'C'), ("split-string", .something, 'S'),
        ("help", .nothing, '?'), ("version", .nothing, '!')]
      permutes := false }
    m.withOptions table 125 args fun g m =>
      let (isBare, operands) := match g.operands with
        | ['-'] :: rest => (true, rest)
        | operands => (false, operands)
      let words := (g.options.filter fun o => o.1 = 'S').flatMap fun o =>
        (Octets.splitAt ' ' o.2).filter fun w => !w.isEmpty
      let operands := words ++ operands
      let m := if isBare || g.has 'i' then m.withFrame fun f => { f with bindings := [] } else m
      let m := (g.options.filter fun o => o.1 = 'u').foldl (fun m o => m.remove o.2) m
      let settings := operands.takeWhile fun w => w.contains '='
      let m := settings.foldl (fun m w =>
        let name := w.takeWhile (· != '=')
        m.change name fun v =>
          { v with value := some (w.drop (name.length + 1)), exported := true }) m
      let stop : Octets := if g.has '0' then [Char.ofNat 0] else ['\n']
      match operands.drop settings.length with
      | [] => (m.print (m.exported.flatMap fun v =>
          v.name ++ '=' :: v.value.getD [] ++ stop)).closeOutput 125
      | command =>
        if g.has '0' then m.usageFail 125 "cannot specify --null (-0) with command"
        else match g.value? 'C' with
        | none => replaceBy n "" true command m
        | some directory =>
          match m.look directory with
          | .ok .directory => replaceBy n "" true command (m.withFrame fun f =>
              { f with directory := Octets.ofText (m.path directory).resolved.text })
          | .ok _ => m.nativeFail 125 ("cannot change directory to ".toList ++ quotedName directory
              ++ ": Not a directory".toList)
          | .error o => m.nativeFail 125 ("cannot change directory to ".toList
              ++ quotedName directory ++ ": ".toList ++ Octets.ofText o.reason)

/-- Starts a command that takes no notice of the end of a session. -/
def doUnhurt (n : Nat) (args : List Octets) (m : Machine) : Machine :=
  match n with
  | 0 => m.overflow
  | n + 1 =>
    m.withOptions { permutes := false } 125 args fun g m =>
      if g.operands.isEmpty then m.usageFail 125 "missing operand"
      else replaceBy n "failed to run command " true g.operands (m.withFrame fun f =>
        { f with ignored := 1 :: f.ignored })

/-- Starts a command that has some time. -/
def doTimed (n : Nat) (args : List Octets) (m : Machine) : Machine :=
  match n with
  | 0 => m.overflow
  | n + 1 =>
    let table : OptionTable := {
      plain := "v"
      valued := "ks"
      long := [("kill-after", .something, 'k'), ("signal", .something, 's'),
        ("preserve-status", .nothing, 'p'), ("foreground", .nothing, 'f'),
        ("verbose", .nothing, 'v'), ("help", .nothing, '?'), ("version", .nothing, '!')]
      permutes := false }
    m.withOptions table 125 args fun g m =>
      let signalOf (word : Octets) : Option Nat :=
        Signal.ofName? (if "SIG".toList.isPrefixOf word then word.drop 3 else word)
      let signal := match g.value? 's' with
        | none => some 15
        | some word => signalOf word
      match g.operands, signal with
      | _, none => m.usageFail 125 (quoted ((g.value? 's').getD []) ++ ": invalid signal".toList)
      | [], _ => m.pointToHelp.withStatus 125
      | [_], _ => m.pointToHelp.withStatus 125
      | time :: command, some signal =>
        match duration? time with
        | none => m.usageFail 125 ("invalid time interval ".toList ++ quoted time)
        | some time =>
          let limit := match time with
            | some 0 => none
            | some t => some (m.clock + t)
            | none => none
          let outer := m.deadline
          let inner := match limit, outer with
            | some t, some d => some (min t d)
            | some t, none => some t
            | none, d => d
          let (number, f, m) := { m with deadline := inner }.fork false fun m =>
            replaceBy n "failed to run command " true command m
          let m := { m with deadline := outer }
          match limit.bind fun t => if t < f.ends then some t else none with
          | none =>
            let m := m.await f
            if m.isInterrupted then m
            else if f.signal != 0 then m.interrupt (.signal f.signal)
            else m.withStatus f.status
          | some t =>
            let m := m.passTo t
            if m.isInterrupted then m
            else
              let m := { m with channels := m.channels.map fun (c : Channel) => c.without number t }
              if signal = 9 then m.interrupt (.signal 9)
              else m.withStatus (if g.has 'p' then 128 + signal else 124)

/-- Starts a command again and again with words of the input. -/
def doBatches (n : Nat) (args : List Octets) (m : Machine) : Machine :=
  match n with
  | 0 => m.overflow
  | n + 1 =>
    m.withOptions Batch.table 1 args fun g m =>
      let (flow, m) := m.drain
      match Batch.fault? g with
      | some message => m.usageFail 1 message
      | none =>
        if flow.isEndless then m.interrupt .stuck
        else match Batch.commands? g flow.now with
          | none =>
            m.nativeFail 1 ("unmatched quote; by default quotes are special to xargs unless you "
              ++ "use the -0 option").toList
          | some batches =>
            let (status, m) := batches.foldl (fun (status, m) batch =>
              if m.isInterrupted || 123 < status then (status, m)
              else
                let name := batch.headD []
                let m := if g.has 't' then m.complain (Octets.join [' '] batch ++ ['\n']) else m
                match m.startOn ((m.get? "PATH").getD defaultSearchPath) name batch.tail with
                | .error failure =>
                  let m := m.refuseProgram "" name failure
                  (m.frame.status, m)
                | .ok s =>
                  let (_, f, m) := m.fork false fun m => doNative n s (m.connect 0 (some .nowhere))
                  let m := m.await f
                  if m.isInterrupted then (status, m)
                  else if f.signal != 0 then
                    (125, m.nativeComplain (name ++ ": terminated by signal ".toList
                      ++ Octets.ofNat f.signal))
                  else if f.status = 255 then
                    (124, m.nativeComplain (name ++ ": exited with status 255; aborting".toList))
                  else (if f.status = 0 then status else 123, m)) (0, m)
            if m.isInterrupted then m else m.withStatus status

end

end Machine

end Pasteboard.Shell
