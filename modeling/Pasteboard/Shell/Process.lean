import Pasteboard.Shell.Builtin
import Pasteboard.Shell.Options

/-!
# Processes

What a process does for itself: it starts others, waits for them, and takes notice of signals. A
process that is started is done at once with the clock of its own, which is set back for the one
that started it; to wait for it is to let the clock pass to its end.

Signals to a process that is not the one being done wait in `Machine.sent` until their time has
come for it.
-/

namespace Pasteboard.Shell

/-- Repeats a step as long as it asks for more, but no more often than some bound. -/
def repeated {α : Type} (step : α → α × Bool) : Nat → α → α
  | 0, a => a
  | n + 1, a =>
    match step a with
    | (a, true) => repeated step n a
    | (a, false) => a

namespace Machine

/-- How long it takes to start a process. -/
def forkTime : Nat := 400

/-- How long it takes until a program that is started does something. -/
def startTime : Nat := 1000

/-- How long a command of the shell itself takes. -/
def commandTime : Nat := 3

/-- The end of what never ends. -/
def never : Nat := 1000000000000000000

/-- How the process ends, as it is now. -/
def finish (m : Machine) : Finish :=
  let exited (status : Nat) : Finish := { ends := m.clock, status := status % 256 }
  match m.frame.interrupt with
  | some (.exit status) => exited status
  | some (.signal n) => { ends := m.clock, status := 128 + n, signal := n }
  | some .stuck => { ends := never, status := 0, endless := some .stuck }
  | some .flooding => { ends := never, status := 0, endless := some .flooding }
  | _ => exited m.frame.status

/-- The signals that the process takes no notice of. -/
def ignoredSignals (m : Machine) : List Nat :=
  m.frame.ignored ++ (m.frame.traps.filter fun t => t.2.isEmpty).map Prod.fst

/-- Something else than the usual is done on a signal or at the end. -/
def hasTraps (m : Machine) : Bool := m.frame.traps.any fun t => !t.2.isEmpty

/-- What a new process does: gives its number and how it ends. What the old process does on signals
is not done by the new one, unless it is nothing. The old process may want to know of its end. -/
def fork (m : Machine) (inBackground : Bool) (body : Machine → Machine) :
    Nat × Finish × Machine :=
  let (number, m) := m.makeRoom.newNumber
  let before := m.frame
  let start := m.clock
  let frame := { before with
    family := number :: before.family
    ignored := if inBackground then 2 :: 3 :: before.ignored else before.ignored
    traps := before.traps.filter fun t => t.2.isEmpty
    jobs := []
    interrupt := none
    unwritten := none }
  let m := body ({ m with frame }.spend forkTime)
  let f := m.finish
  let m := m.holdChannels f.ends
  let asked := before.traps.any fun t => t.1 = Signal.childEnded && !t.2.isEmpty
  (number, f, { m with
    frame := before
    clock := start
    sent := if asked then m.sent ++ [⟨before.family.headD 0, Signal.childEnded, f.ends⟩]
      else m.sent })

/-! ### Signals -/

/-- What the signals on their way to the process do to it up to a time: the first one that ends it,
and whether one is to be taken notice of. -/
def fatal? (m : Machine) (time : Nat) : Option Sent :=
  let untaken (s : Sent) : Bool :=
    s.number = m.frame.number && s.time ≤ time && !Signal.isHarmless s.signal
      && (Signal.isFinal s.signal || (m.action? s.signal).isNone)
  (m.sent.filter untaken).foldl (fun first s =>
    match first with
    | some f => if s.time < f.time then some s else first
    | none => some s) none

/-- Lets the clock pass to a time, or to the signal that ends the process before. -/
def passTo (m : Machine) (time : Nat) : Machine :=
  match m.fatal? time with
  | some s =>
    if Signal.halts s.signal then m.interrupt .stuck
    else (m.waitUntil s.time).interrupt (.signal s.signal)
  | none => m.waitUntil time

/-- Waits for a process. -/
def await (m : Machine) (f : Finish) : Machine :=
  match f.endless, m.fatal? never with
  | some i, none => m.interrupt i
  | _, _ => m.passTo f.ends

/-- The first signal that the process has to do something about, which is then no longer on its
way. -/
def takeSignal? (m : Machine) : Option (Nat × Machine) :=
  let isDue (s : Sent) : Bool := s.number = m.frame.number && s.time ≤ m.clock
  match (m.sent.filter isDue).foldl (fun n s => min n s.signal) (Signal.count + 1) with
  | n =>
    if Signal.count < n then none
    else some (n, { m with sent := m.sent.filter fun s => !(isDue s && s.signal = n) })

/-- Says which signal has ended a command; of some nothing is said. -/
def report (m : Machine) (f : Finish) : Machine :=
  if f.signal = 0 || f.signal = 2 || f.signal = 13 then m
  else m.complain (Signal.wording f.signal ++ ['\n'])

/-- Takes over how a process that was waited for has ended. -/
def settle (m : Machine) (f : Finish) : Machine :=
  let m := m.await f
  if m.isInterrupted then m else (m.report f).withStatus f.status

/-- For how long a process that waits for another one does not take notice of a signal. -/
def noticeTime : Nat := 300

/-- Waits for commands in the background up to a time; a signal that something is done about ends
the waiting, and gives the status. -/
def waitForJobs (m : Machine) (time : Nat) : Machine × Option Nat :=
  let isTaken (s : Sent) : Bool :=
    s.number = m.frame.number && s.time + noticeTime ≤ time
      && (m.action? s.signal).any fun action => !action.isEmpty
  let first := (m.sent.filter isTaken).foldl (fun (first : Option Sent) s =>
    match first with
    | some f => if s.time < f.time then some s else first
    | none => some s) none
  match first with
  | some s => (m.passTo s.time, some (128 + s.signal))
  | none =>
    if time < never || (m.fatal? time).isSome then (m.passTo time, none)
    else (m.interrupt .stuck, none)

/-- Waits for all commands in the background. -/
def waitForAll (m : Machine) : Machine :=
  let time := m.frame.jobs.foldl (fun t j => max t j.finish.ends) m.clock
  match m.waitForJobs time with
  | (m, some status) => m.withStatus status
  | (m, none) =>
    (m.withStatus 0).withFrame fun f =>
      { f with jobs := f.jobs.map fun j => { j with isSeen := true } }

/-- Waits for some commands in the background. -/
def waitFor (m : Machine) (words : List Octets) : Machine :=
  (words.foldl (fun (m, goesOn) word =>
    if m.isInterrupted || !goesOn then (m, goesOn)
    else match m.jobFor word with
      | .error message => (m.mistake message, false)
      | .ok none => (m, true)
      | .ok (some j) =>
        match m.waitForJobs j.finish.ends with
        | (m, some status) => (m.withStatus status, false)
        | (m, none) =>
          let m := if j.isSeen || m.isInterrupted then m else m.report j.finish
          ((m.withStatus j.finish.status).withFrame fun f => { f with jobs := f.jobs.map fun k =>
            if k.number = j.number then { k with isSeen := true } else k }, true))
    (m.withStatus 127, true)).1

/-! ### Programs -/

/-- The variables of a shell that is about to become another program: those that are exported, in
the order in which they are handed on. -/
def handingOver (m : Machine) : Machine :=
  let place (v : Variable) : Nat :=
    (v.name.foldl (fun n c => n + c.toNat) ((v.name.headD (Char.ofNat 0)).toNat * 16)) % 39
  m.withFrame fun f => { f with bindings := m.exported.mergeSort fun a b => place a ≤ place b }

/-- The frame of the process becomes the one of a program that takes its place. -/
def becoming (m : Machine) (s : Started) (bindings : List Variable) : Machine :=
  m.withFrame fun f =>
    { family := f.family
      shellNumber := f.shellNumber
      name := s.name
      arguments := s.args
      bindings
      descriptors := f.descriptors
      directory := f.directory
      mask := f.mask
      ignored := m.ignoredSignals
      interrupt := f.interrupt }

/-- The first of some files that can be started. One that is neither a native command nor a script
is done by a shell. -/
def startFirst (m : Machine) (name : Octets) (args : List Octets) :
    StartFailure → List Octets → Except StartFailure Started
  | failure, [] => .error failure
  | failure, file :: rest =>
    match startedBy m.look scriptLimit file name args with
    | .ok s => .ok s
    | .error .notProgram => .ok ⟨"sh", "/bin/sh", file :: args⟩
    | .error other =>
      m.startFirst name args (if other.isAbsence then failure else other) rest

/-- What starting a command on a search path comes to. -/
def startOn (m : Machine) (searchPath name : Octets) (args : List Octets) :
    Except StartFailure Started :=
  m.startFirst name args .missing (filesFor searchPath name)

/-- The status for a program that cannot be started. -/
def failureStatus (f : StartFailure) : Nat :=
  if f.isAbsence || f = .nameTooLong || f = .tooDeep then 127 else 126

/-- What a shell says about a program that cannot be started. -/
def failureWording (f : StartFailure) : Octets :=
  if f.isAbsence then "not found" else Octets.ofText f.reason

/-- What a native command says about a program that it cannot start, and its status. -/
def refuseProgram (m : Machine) (before : String) (name : Octets) (f : StartFailure) : Machine :=
  m.nativeFail (failureStatus f) (before.toList ++ name ++ ": ".toList ++ Octets.ofText f.reason)

end Machine

end Pasteboard.Shell
