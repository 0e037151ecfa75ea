import Pasteboard.Shell.Machine
import Pasteboard.Shell.Signal

/-!
# Commands in the background

A shell keeps its commands in the background in numbered places. A command leaves its place when it
is over and the shell has told so, or has waited for it and needs the place for another one; every
process that is started takes a place for a moment. The latest command is the current one.
-/

namespace Pasteboard.Shell

namespace Job

/-- The first place that is free from `place` on, with the commands that keep their places; a
command that was waited for gives its place up. At most `n` places are tried. -/
def freePlace : Nat → Nat → List Job → Nat × List Job
  | 0, place, jobs => (place, jobs)
  | n + 1, place, jobs =>
    match jobs.find? fun j => j.place = place with
    | none => (place, jobs)
    | some j =>
      if j.isSeen then (place, jobs.filter fun k => k.place != place)
      else freePlace n (place + 1) jobs

/-- The command is over. -/
def isOver (j : Job) (clock : Nat) : Bool := j.finish.ends ≤ clock

/-- What a list of commands tells about the command: its number if that is asked for, and how it
ended. The mark is for the current command and the one before it. -/
def line (j : Job) (withNumber : Bool) (clock : Nat) (mark : Char) : Octets :=
  let state : Octets := if !j.isOver clock then "Running"
    else if j.finish.signal != 0 then Signal.wording j.finish.signal
    else if j.finish.status = 0 then "Done"
    else "Done(".toList ++ Octets.ofNat j.finish.status ++ [')']
  let number := if withNumber then Octets.ofNat j.number ++ [' '] else []
  Octets.fill true 33 ('[' :: Octets.ofNat j.place ++ [']', ' ', mark, ' '] ++ number ++ state)
    ++ (List.replicate (j.parts - 1) " | ".toList).flatten ++ ['\n']

/-- The command that a word with a percent sign stands for. -/
def named? (jobs : List Job) : Octets → Option Job
  | ['%'] => jobs.getLast?
  | ['%', '%'] => jobs.getLast?
  | ['%', '+'] => jobs.getLast?
  | ['%', '-'] => jobs.dropLast.getLast?
  | '%' :: digits => (Octets.toNat? digits).bind fun n => jobs.find? fun j => j.place = n
  | _ => none

end Job

namespace Machine

/-- Makes room for a process that is started, which may take a place from a command that is over. -/
def makeRoom (m : Machine) : Machine :=
  m.withFrame fun f => { f with jobs := (Job.freePlace (f.jobs.length + 1) 1 f.jobs).2 }

/-- A command in the background that was started becomes the current one. -/
def addJob (m : Machine) (number parts : Nat) (finish : Finish) (ignored : List Nat) : Machine :=
  m.withFrame fun f =>
    let (place, jobs) := Job.freePlace (f.jobs.length + 1) 1 f.jobs
    { f with
      jobs := jobs ++ [{ number, place, parts, finish, ignored }]
      lastJob := some number
      status := 0 }

/-- Ends a command in the background, if it is not over. -/
def endJob (m : Machine) (number signal : Nat) : Machine :=
  let isHit (j : Job) : Bool :=
    j.number = number && !j.isOver m.clock && !Signal.isHarmless signal
      && (Signal.isFinal signal || !j.ignored.contains signal)
  if m.frame.jobs.any isHit && !Signal.halts signal then
    let jobs := m.frame.jobs.map fun j =>
      if isHit j then { j with finish := { ends := m.clock, status := 128 + signal, signal } }
      else j
    { m with
      frame := { m.frame with jobs }
      channels := m.channels.map fun c => c.without number m.clock }
  else m

/-- Tells about commands in the background, the latest first; those that are over are then
forgotten. -/
def tellJobs (m : Machine) (line : Job → Char → Octets) (those : List Job) : Machine :=
  those.reverse.foldl (fun m j =>
    let isCurrent := (m.frame.jobs.getLast?.map Job.place) = some j.place
    let isBefore := (m.frame.jobs.dropLast.getLast?.map Job.place) = some j.place
    let m := m.print (line j (if isCurrent then '+' else if isBefore then '-' else ' '))
    if j.isOver m.clock then
      m.withFrame fun f => { f with jobs := f.jobs.filter fun k => k.place != j.place }
    else m) m

end Machine

end Pasteboard.Shell
