import Pasteboard.Disk.Basic
import Pasteboard.Shell.Command

/-!
# What commands work on

Commands share a disk, a clock and the channels between them; each process has a frame of its own
with its variables and descriptors. Time passes by what commands are known to take, so a command
that has a deadline is stopped at the same point in every run.

A command that runs in the background is done at once, with the clock set back behind it. So each
channel keeps the times at which its parts were written: they are read in the order of their times,
and a process that is ended before its time takes back what it wrote later.
-/

namespace Pasteboard.Shell

/-- Octets that may go on forever with one piece again and again. -/
structure Flow where
  now : Octets := []
  cycle : Octets := []

namespace Flow

/-- The flow goes on forever. -/
def isEndless (f : Flow) : Bool := !f.cycle.isEmpty

/-- The first octets of a flow. -/
def take (f : Flow) (n : Nat) : Octets :=
  if n ≤ f.now.length || !f.isEndless then f.now.take n
  else
    let more := n - f.now.length
    f.now ++ ((List.replicate (more / f.cycle.length + 1) f.cycle).flatten).take more

/-- Every octet replaced by some. -/
def flatMap (f : Flow) (g : Char → Octets) : Flow :=
  { now := f.now.flatMap g, cycle := f.cycle.flatMap g }

/-- One flow behind another; nothing comes behind an endless one. -/
def append (f g : Flow) : Flow :=
  if f.isEndless then f else { now := f.now ++ g.now, cycle := g.cycle }

end Flow

/-- What was written at one time, and by whom: a process, its parent, and so on. -/
structure Chunk where
  time : Nat
  family : List Nat
  text : Octets

/-- The time at which the texts of chunks come to some measure, if they do. -/
def Chunk.timeOf (measure : Octets → Nat) : Nat → List Chunk → Option Nat
  | 0, _ => some 0
  | _, [] => none
  | least, c :: rest =>
    if least ≤ measure c.text then some c.time else timeOf measure (least - measure c.text) rest

/-- What was written and not yet read. -/
structure Channel where
  /-- What was written, the last first. -/
  written : List Chunk := []
  cycle : Octets := []
  /-- Until when processes can still write. -/
  holders : List (List Nat × Nat) := []
  /-- What is left by one reader is there for the next one. -/
  isFile : Bool := false

namespace Channel

/-- A channel that holds some octets from the beginning. -/
def of (o : Octets) (isFile : Bool) : Channel := { written := [⟨0, [], o⟩], isFile }

/-- What was written, in the order of time. -/
def chunks (c : Channel) : List Chunk :=
  c.written.reverse.mergeSort fun a b => decide (a.time ≤ b.time)

/-- All that can be read. -/
def flow (c : Channel) : Flow := { now := c.chunks.flatMap Chunk.text, cycle := c.cycle }

/-- All that was written up to a time. -/
def writtenBy (c : Channel) (time : Nat) : Octets :=
  (c.chunks.filter fun chunk => decide (chunk.time ≤ time)).flatMap Chunk.text

/-- Since when nothing more comes. -/
def ends (c : Channel) : Nat := c.holders.foldl (fun t holder => max t holder.2) 0

/-- Puts a flow behind what there is. -/
def add (c : Channel) (time : Nat) (family : List Nat) (f : Flow) : Channel :=
  if !c.cycle.isEmpty then c
  else { c with
    written := if f.now.isEmpty then c.written else ⟨time, family, f.now⟩ :: c.written
    cycle := f.cycle }

/-- A process can write until some time. -/
def heldBy (c : Channel) (family : List Nat) (time : Nat) : Channel :=
  { c with holders := (family, time) :: c.holders }

/-- The channel as it is if a process was ended at a time, and did not start others after it. -/
def without (c : Channel) (number time : Nat) : Channel :=
  { c with
    written := c.written.filter fun chunk =>
      !chunk.family.contains number || decide (chunk.time ≤ time)
    holders := c.holders.map fun h =>
      if h.1.contains number then (h.1, min time h.2) else h }

end Channel

/-- Where a descriptor leads. -/
inductive Target
  /-- A channel that is read. -/
  | source (channel : Nat)
  /-- A channel that is written to. -/
  | sink (channel : Nat)
  | file (path : Path)
  | nowhere
  /-- A device that takes nothing more. -/
  | full

/-- Why a process does not go on with its commands. -/
inductive Interrupt
  | exit (status : Nat)
  | signal (number : Nat)
  /-- A command of the shell met a mistake. -/
  | failed
  /-- It waits for something that does not come in time. -/
  | stuck
  /-- It writes and does not come to an end. -/
  | flooding
  | breakLoop (levels : Nat)
  | nextRound (levels : Nat)
  | returned

/-- A variable of a shell. -/
structure Variable where
  name : Octets
  value : Option Octets
  exported : Bool := false
  readOnly : Bool := false

/-- How a process ends, and when. -/
structure Finish where
  ends : Nat
  status : Nat
  /-- The signal that ends it, or zero. -/
  signal : Nat := 0
  /-- Why it does not end by itself. -/
  endless : Option Interrupt := none

/-- A command in the background. -/
structure Job where
  number : Nat
  /-- Its place among the commands in the background. -/
  place : Nat
  /-- How many processes it consists of. -/
  parts : Nat := 1
  finish : Finish
  /-- The signals that it takes no notice of. -/
  ignored : List Nat := []
  /-- It is over, and the shell has waited for it. -/
  isSeen : Bool := false

/-- A signal on its way to a process. -/
structure Sent where
  number : Nat
  signal : Nat
  time : Nat

/-- What one process has for itself. -/
structure Frame where
  /-- The number of the process, of its parent, and so on. -/
  family : List Nat
  /-- The number by which a shell and its subshells go. -/
  shellNumber : Nat
  name : Octets
  arguments : List Octets
  bindings : List Variable
  functions : List (Octets × Command) := []
  aliases : List (Octets × Octets) := []
  descriptors : List (Nat × Target)
  directory : Octets
  mask : Nat := 18
  status : Nat := 0
  /-- The letters of the options that are set. -/
  options : Octets := []
  interrupt : Option Interrupt := none
  /-- The signals that the process takes no notice of from its start on. -/
  ignored : List Nat := []
  /-- What is done on signals, and on the end as signal zero; nothing to ignore one. -/
  traps : List (Nat × Octets) := []
  jobs : List Job := []
  lastJob : Option Nat := none
  /-- The command of the shell that is being done, for complaints. -/
  command : Option Octets := none
  /-- The line of the command that is being done. -/
  line : Nat := 0
  /-- How many loops are around the command. -/
  loops : Nat := 0
  /-- The variables that functions will have back, for each function. -/
  saved : List (List Variable) := []
  /-- The argument at which `getopts` is, and the place in the one before. -/
  optionIndex : Nat := 1
  optionPlace : Option Nat := none
  /-- The names of programs whose places are remembered. -/
  hashed : List Octets := []
  /-- The status of the last substitution in a command. -/
  substituted : Nat := 0
  /-- Why something could not be written. -/
  unwritten : Option Octets := none
  /-- The status before the action for a signal or the end that is being done. -/
  statusBefore : Option Nat := none

/-- The number of the process. -/
def Frame.number (f : Frame) : Nat := f.family.headD 0

/-- The number of the parent of the process. -/
def Frame.parent (f : Frame) : Nat := f.family.tail.headD 0

/-- What commands work on. Times are in microseconds. -/
structure Machine where
  disk : Disk
  clock : Nat := 0
  deadline : Option Nat
  channels : Array Channel
  /-- The here-documents that were read. -/
  documents : List (Nat × Word) := []
  nextDocument : Nat := 0
  nextNumber : Nat
  sent : List Sent := []
  frame : Frame

namespace Machine

/-- The frame changed. -/
def withFrame (m : Machine) (f : Frame → Frame) : Machine := { m with frame := f m.frame }

/-- The process does not go on. -/
def isInterrupted (m : Machine) : Bool := m.frame.interrupt.isSome

/-- The process stops going on. -/
def interrupt (m : Machine) (i : Interrupt) : Machine :=
  m.withFrame fun f => { f with interrupt := some i }

/-- The process goes on again. -/
def resumed (m : Machine) : Machine := m.withFrame fun f => { f with interrupt := none }

/-- The last command ended with a status. -/
def withStatus (m : Machine) (status : Nat) : Machine := m.withFrame fun f => { f with status }

/-- Time passes; a process that passes the deadline gets stuck. -/
def spend (m : Machine) (time : Nat) : Machine :=
  let m := { m with clock := m.clock + time }
  match m.deadline with
  | some deadline => if deadline < m.clock then m.interrupt .stuck else m
  | none => m

/-- Time passes up to some point, if it has not yet. -/
def waitUntil (m : Machine) (time : Nat) : Machine := m.spend (time - m.clock)

/-- A number that no process had. -/
def newNumber (m : Machine) : Nat × Machine :=
  (m.nextNumber, { m with nextNumber := m.nextNumber + 1 })

/-- An option of the shell is set. -/
def hasOption (m : Machine) (letter : Char) : Bool := m.frame.options.contains letter

/-! ### Variables -/

/-- A variable. -/
def held? (m : Machine) (name : Octets) : Option Variable :=
  m.frame.bindings.find? fun v => v.name = name

/-- The value of a variable. -/
def get? (m : Machine) (name : Octets) : Option Octets :=
  (m.held? name).bind Variable.value

/-- Changes a variable, which is made if there is none. -/
def change (m : Machine) (name : Octets) (f : Variable → Variable) : Machine :=
  m.withFrame fun frame =>
    if frame.bindings.any fun v => v.name = name then
      { frame with bindings := frame.bindings.map fun v => if v.name = name then f v else v }
    else
      let exported := frame.options.contains 'a'
      { frame with bindings := frame.bindings ++ [f { name, value := none, exported }] }

/-- Sets a variable, whatever it was. -/
def set (m : Machine) (name value : Octets) : Machine :=
  m.change name fun v =>
    { v with value := some value, exported := v.exported || m.hasOption 'a' }

/-- Removes a variable. -/
def remove (m : Machine) (name : Octets) : Machine :=
  m.withFrame fun f => { f with bindings := f.bindings.filter fun v => v.name != name }

/-- A variable may not be changed. -/
def isReadOnly (m : Machine) (name : Octets) : Bool :=
  match m.held? name with
  | some v => v.readOnly
  | none => false

/-- The variables that commands are started with. -/
def exported (m : Machine) : List Variable :=
  m.frame.bindings.filter fun v => v.exported && v.value.isSome

/-! ### Descriptors and channels -/

/-- Where a descriptor leads. -/
def target? (m : Machine) (descriptor : Nat) : Option Target :=
  (m.frame.descriptors.find? fun d => d.1 = descriptor).map Prod.snd

/-- Lets a descriptor lead somewhere, or nowhere at all. -/
def connect (m : Machine) (descriptor : Nat) (target : Option Target) : Machine :=
  m.withFrame fun f =>
    let others := f.descriptors.filter fun d => d.1 != descriptor
    { f with descriptors := match target with
      | some t => (descriptor, t) :: others
      | none => others }

/-- A new channel. -/
def addChannel (m : Machine) (c : Channel) : Nat × Machine :=
  (m.channels.size, { m with channels := m.channels.push c })

/-- A channel. -/
def channel (m : Machine) (k : Nat) : Channel := m.channels[k]?.getD {}

/-- Changes a channel. -/
def changeChannel (m : Machine) (k : Nat) (f : Channel → Channel) : Machine :=
  { m with channels := m.channels.modify k f }

/-- The channel that the standard input leads from. -/
def inputChannel? (m : Machine) : Option Nat :=
  match m.target? 0 with
  | some (.source k) => some k
  | _ => none

/-- The standard input that is there when the first octets come to some measure, which is waited
for. What is written later is left for others. -/
def drainUpTo (m : Machine) (measure : Octets → Nat) (least : Nat) : Flow × Machine :=
  match m.inputChannel? with
  | some k =>
    let c := m.channel k
    if !c.cycle.isEmpty then
      (c.flow, (m.changeChannel k fun c => { c with written := [] }).waitUntil
        ((c.chunks.getLast?.map Chunk.time).getD 0))
    else
      let time := (Chunk.timeOf measure least c.chunks).getD c.ends
      let (now, later) := c.chunks.partition fun chunk => chunk.time ≤ max time m.clock
      ({ now := now.flatMap Chunk.text },
        (m.changeChannel k fun c => { c with written := later.reverse }).waitUntil time)
  | none => ({}, m)

/-- All of the standard input, which is waited for. One that goes on forever is there at once. -/
def drain (m : Machine) : Flow × Machine := m.drainUpTo (fun _ => 0) 1

/-- The standard input is not closed. -/
def canRead (m : Machine) : Bool :=
  match m.target? 0 with
  | some (.source _) => true
  | some .nowhere => true
  | _ => false

/-- Leaves some of a file for the next reader of the standard input. -/
def leave (m : Machine) (f : Flow) : Machine :=
  match m.inputChannel? with
  | some k =>
    if (m.channel k).isFile then m.changeChannel k fun c => c.add m.clock m.frame.family f else m
  | none => m

/-- The chunks up to the first line feed, whether there is one, and the chunks behind it. -/
def cutLine : List Chunk → List Chunk × Bool × List Chunk
  | [] => ([], false, [])
  | c :: rest =>
    let line := c.text.takeWhile (· != '\n')
    match c.text.drop line.length with
    | _ :: more =>
      let rest := if more.isEmpty then rest else { c with text := more } :: rest
      ([{ c with text := line }], true, rest)
    | [] =>
      let (chunks, found, rest) := cutLine rest
      (c :: chunks, found, rest)

/-- A line of the standard input without its end, and whether it had one. -/
def readLine (m : Machine) : Octets × Bool × Machine :=
  match m.inputChannel? with
  | none => ([], false, m)
  | some k =>
    let c := m.channel k
    let endless : List Chunk := if c.cycle.isEmpty then [] else [⟨0, [], c.cycle⟩]
    let (line, found, rest) := cutLine (c.chunks ++ endless)
    let m := m.changeChannel k fun c => { c with written := rest.reverse }
    let time := if found then line.foldl (fun t chunk => max t chunk.time) 0 else c.ends
    (line.flatMap Chunk.text, found, m.waitUntil time)

/-- The channels that collect what a whole run writes; as files, they are emptied when they are
opened anew. -/
def isCollector (k : Nat) : Bool := k = 1 || k = 2

/-- Why nothing can be written to a target. -/
def obstacleAt? : Option Target → Option Octets
  | none => some "Bad file descriptor"
  | some (.source _) => some "Bad file descriptor"
  | some .full => some "No space left on device"
  | some _ => none

/-- Writes a flow to a target. -/
def writeTo (m : Machine) (target : Option Target) (f : Flow) : Machine :=
  if f.now.isEmpty && !f.isEndless then m
  else
    let m := match target with
      | some (.sink k) => m.changeChannel k fun c => c.add m.clock m.frame.family f
      | some (.file p) =>
        match m.disk.find p with
        | .ok (some (.file old executable)) =>
          { m with disk := m.disk.put p (.file (old ++ Octets.toBytes f.now) executable) }
        | _ => m
      | t => match obstacleAt? t with
        | some reason => m.withFrame fun f => { f with unwritten := some reason }
        | none => m
    if f.isEndless && m.frame.unwritten.isNone then
      m.interrupt (match target with
        | some (.sink k) => if isCollector k then .stuck else .flooding
        | _ => .stuck)
    else m

/-- Writes a flow to a descriptor. -/
def write (m : Machine) (descriptor : Nat) (f : Flow) : Machine :=
  m.writeTo (m.target? descriptor) f

/-- Writes octets to the standard output. -/
def print (m : Machine) (o : Octets) : Machine := m.write 1 { now := o }

/-- Writes octets to the standard error output; nothing is said if that is not possible. -/
def complain (m : Machine) (o : Octets) : Machine :=
  let before := m.frame.unwritten
  (m.write 2 { now := o }).withFrame fun f => { f with unwritten := before }

/-- The process can write to the channels of its descriptors until some time. -/
def holdChannels (m : Machine) (time : Nat) : Machine :=
  m.frame.descriptors.foldl (fun m d =>
    match d.2 with
    | .sink k => m.changeChannel k fun c => c.heldBy m.frame.family time
    | _ => m) m

/-! ### Files -/

/-- A file name seen from the directory of the process. -/
def path (m : Machine) (name : Octets) : Path :=
  if name.head? = some '/' then Path.ofText name.toText
  else (Path.ofText m.frame.directory.toText).join name.toText

/-- What is at a path, or what is in the way. A slash at the end asks for a directory. -/
def look (m : Machine) (name : Octets) : Except Obstacle Node :=
  if name.isEmpty then .error .missing
  else match m.disk.find (m.path name) with
    | .ok (some (.file content executable)) =>
      if name.getLast? = some '/' then .error .notDirectory else .ok (.file content executable)
    | .ok (some n) => .ok n
    | .ok none => .error .missing
    | .error o => .error o

/-- A call on the disk is not allowed. -/
def isDenied (m : Machine) (c : DiskCall) : Bool := (m.disk.refusal c).isSome

/-- The content of a file that is to be read. -/
def readFile (m : Machine) (name : Octets) : Except Obstacle Flow :=
  if name = "/dev/null".toList then .ok {}
  else if name = "/dev/zero".toList || name = "/dev/full".toList then
    .ok { cycle := [Char.ofNat 0] }
  else match m.look name with
    | .ok (.file content _) =>
      if m.isDenied (.read (m.path name)) then .error .denied
      else .ok { now := Octets.ofBytes content }
    | .ok .directory => .error .isDirectory
    | .error o => .error o

/-- The descriptor that a file name stands for. -/
def descriptorOf? (name : Octets) : Option Nat :=
  let numbered (directory : String) : Option Nat :=
    if directory.toList.isPrefixOf name then Octets.toNat? (name.drop directory.length) else none
  if name = "/dev/stdin".toList then some 0
  else if name = "/dev/stdout".toList then some 1
  else if name = "/dev/stderr".toList then some 2
  else (numbered "/dev/fd/").or (numbered "/proc/self/fd/")

/-- Makes a file at a path where nothing is. -/
def makeFile (m : Machine) (p : Path) : Except Obstacle Machine :=
  if m.isDenied (.create p) then .error .denied
  else .ok { m with disk := m.disk.put p (.file [] false) }

/-- Opens a file for writing, emptied if it is not to be added to. -/
def openOutput (m : Machine) (name : Octets) (adds : Bool) : Except Obstacle (Target × Machine) :=
  match descriptorOf? name with
  | some d =>
    match m.target? d with
    | some (.sink k) =>
      .ok (.sink k, if isCollector k && !adds then
        m.changeChannel k fun c => { c with written := [], cycle := [] } else m)
    | some t => .ok (t, m)
    | none => .error .missing
  | none =>
    if name = "/dev/null".toList || name = "/dev/zero".toList then .ok (.nowhere, m)
    else if name = "/dev/full".toList then .ok (.full, m)
    else match m.look name with
      | .ok .directory => .error .isDirectory
      | .ok (.file _ executable) =>
        let p := m.path name
        if m.isDenied (.append p) then .error .denied
        else if adds then .ok (.file p, m)
        else .ok (.file p, { m with disk := m.disk.put p (.file [] executable) })
      | .error .missing =>
        let p := m.path name
        if name.isEmpty then .error .missing
        else match m.disk.find p with
          | .error o => .error o
          | .ok _ =>
            if name.getLast? = some '/' then .error .isDirectory
            else (m.makeFile p).map fun m => (.file p, m)
      | .error o => .error o

/-- Opens a file for reading. -/
def openInput (m : Machine) (name : Octets) : Except Obstacle (Target × Machine) :=
  match descriptorOf? name with
  | some d =>
    match m.target? d with
    | some t => .ok (t, m)
    | none => .error .missing
  | none =>
    if name = "/dev/null".toList then .ok (.nowhere, m)
    else match m.readFile name with
      | .ok f =>
        let (k, m) := m.addChannel { Channel.of f.now true with cycle := f.cycle }
        .ok (.source k, m)
      | .error .isDirectory =>
        let (k, m) := m.addChannel {}
        .ok (.source k, m)
      | .error o => .error o

end Machine

end Pasteboard.Shell
