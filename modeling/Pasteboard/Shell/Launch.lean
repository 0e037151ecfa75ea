import Pasteboard.Host
import Pasteboard.Shell.Evaluation

/-!
# Running commands on a host

The programs of a host that has a shell and the usual native commands on its disk. They stand for
what is outside of this library: it runs commands and takes what they say as it comes, and
everything that is proved about it holds whatever programs a host has. Nothing but a program that
wants to try the library on such a host needs this module and those beside it.

A command is looked for along the search path of its own environment; it is stopped when its time is
over, and what it did to the disk before that stays. Its output is what was written when it ended:
what it leaves running in the background writes in vain.
-/

namespace Pasteboard.Shell

/-- The octets of a text. It holds no surrogates but those that stand for octets. -/
def octetsOf (t : Text) : Except Failure Octets :=
  match t.encodingFailure? with
  | some f => .error f
  | none => .ok (Octets.ofText t)

/-- A text holds a NUL. -/
def holdsNull (t : Text) : Bool := t.any fun c => decide (c.val = 0)

/-- The octets of a word of a command, which holds no NUL. -/
def wordOctets (t : Text) : Except Failure Octets :=
  if holdsNull t then .error .embeddedNull else octetsOf t

/-- A name and a value as a variable. -/
def variableOf (entry : Text × Text) : Except Failure Variable := do
  let name ← octetsOf entry.1
  if name.contains '=' then throw (.other "ValueError" (some "illegal environment variable name"))
  let value ← octetsOf entry.2
  pure { name, value := some value, exported := true }

/-- The words of a command and the variables that it is given, if all can be handed to a program.
The names of the variables are looked at first and NULs in their values last. -/
def handedOver (command : List Text) (given : Option Environment) :
    Except Failure (List Octets × Option (List Variable)) := do
  let bindings ← given.mapM fun e => (e.override []).mapM variableOf
  let words ← command.mapM wordOctets
  let isBad (v : Variable) : Bool :=
    v.name.contains (Char.ofNat 0) || (v.value.getD []).contains (Char.ofNat 0)
  if (bindings.getD []).any isBad then throw .embeddedNull
  pure (words, bindings)

/-- The variables of an environment as far as they are texts. -/
def bindingsOf (e : Environment) : List Variable :=
  (e.override []).map fun (name, value) =>
    { name := Octets.ofText name, value := some (Octets.ofText value), exported := true }

/-- The most octets that one word may have. -/
def longestWord : Nat := 131071

/-- The search path in an environment. -/
def searchPathOf (e : Environment) : Octets :=
  ((e.get? "PATH").map Octets.ofText).getD defaultSearchPath

/-- How deep steps may be nested. -/
def nestingLimit : Nat := 20000

/-- The time that a value stands for, if it is one to wait for: any number, or none at all. -/
def timeOf : Value → Except Failure (Option Binary64)
  | .null => .ok none
  | v =>
    match v.number?, v with
    | some x, _ => .ok (some x)
    | none, .int _ => .error (.other "OverflowError" (some "int too large to convert to float"))
    | none, _ => .error (.badCall ("unsupported operand type(s) for +: 'float' and "
        ++ v.kindName.quoted))

/-- When a command is stopped, in microseconds; never if its time is no number or endless. -/
def deadline? : Option Binary64 → Option Nat
  | some (.finite negative place) =>
    some (if negative then 0
      else Binary64.units place.val * 1000000 / Binary64.unitsPerOne)
  | some (.infinite true) => some 0
  | _ => none

/-- Why a time cannot be waited for while a command is given its input. -/
def waitingFault? : Option Binary64 → Option Failure
  | none => none
  | some (.infinite false) =>
    some (.other "OverflowError" (some "cannot convert float infinity to integer"))
  | some (.finite false place) =>
    let milliseconds :=
      (Binary64.units place.val * 1000 + Binary64.unitsPerOne - 1) / Binary64.unitsPerOne
    if 9223372036854 < milliseconds then
      some (.other "OverflowError" (some "timestamp too large to convert to C _PyTime_t"))
    else if 2147483647 < milliseconds then
      some (.other "OverflowError" (some "timeout is too large"))
    else none
  | some (.finite true _) => none
  | some (.infinite true) => none
  | some .nan => some (.other "ValueError" (some "cannot convert float NaN to integer"))

/-- The machine on which a run starts. -/
def machineFor (r : Run) (time : Option Binary64) (bindings : List Variable) (disk : Disk) :
    Machine where
  disk := disk
  deadline := deadline? time
  channels := #[Channel.of (Octets.ofBytes (r.input.getD [])) false, {}, {}]
  nextNumber := 1002
  frame := {
    family := [1001, 1000]
    shellNumber := 1001
    name := []
    arguments := []
    bindings
    descriptors := [(0, if r.input.isSome then .source 0 else .nowhere), (1, .sink 1), (2, .sink 2)]
    directory := "/" }

/-- An executable file of this name is on the search path. -/
def finds (e : Environment) (disk : Disk) (name : Text) : Bool :=
  let m := machineFor { command := [], output := .discard, timeout := .null } none [] disk
  let isProgram (file : Octets) : Bool :=
    match m.look file with
    | .ok (.file _ executable) => executable
    | _ => false
  !(searchPathOf e).isEmpty && (filesFor (searchPathOf e) (Octets.ofText name)).any isProgram

/-- The first file that can be started; if there is none, the first failure that is not about a
file's absence, or the last one. -/
def firstStarted {α : Type} : Option StartFailure → List (Except StartFailure α) →
    Except StartFailure α
  | seen, [] => .error (seen.getD .missing)
  | _, .ok a :: _ => .ok a
  | seen, .error failure :: rest =>
    match seen with
    | some earlier =>
      firstStarted (some (if earlier.isAbsence then failure else earlier)) rest
    | none => firstStarted (some failure) rest

/-- The failure of a command that did not end in time. -/
def outOfTime (r : Run) : Failure :=
  .timeout ("Command '[" ++ Text.join ", " (r.command.map Text.quoted) ++ "]' timed out after "
    ++ r.timeout.shown ++ " seconds")

/-- How a run on a machine ended. -/
def endingOf (r : Run) (m : Machine) : Ending :=
  let f := m.finish
  let written (k : Nat) : Bytes := Octets.toBytes ((m.channel k).writtenBy f.ends)
  if f.endless.isSome then .failed (outOfTime r)
  else .exited (if f.signal = 0 then f.status else -(f.signal : Int)) (written 1) (written 2)

/-- Runs a command. -/
def run (inherited : Environment) (r : Run) (disk : Disk) : Ending × Disk :=
  match handedOver r.command r.environment, timeOf r.timeout with
  | .error f, _ => (.failed f, disk)
  | .ok ([], _), _ => (.failed .emptyCommand, disk)
  | .ok (_ :: _, _), .error f => (.failed f, disk)
  | .ok (name :: args, given), .ok time =>
    let e := r.environment.getD inherited
    let m := machineFor r time (given.getD (bindingsOf inherited)) disk
    let refuse (failure : StartFailure) : Ending :=
      .failed (.system (.numbered failure.number failure.reason r.command.head? none))
    if (name :: args).any fun word => decide (longestWord < word.length) then
      (refuse .tooLong, disk)
    else
      match firstStarted none ((filesFor (searchPathOf e) name).map
          fun file => startedBy m.look scriptLimit file name args) with
      | .error failure => (refuse failure, disk)
      | .ok s =>
        match if (r.input.getD []).isEmpty then none else waitingFault? time with
        | some f => (.failed f, disk)
        | none =>
          let m := m.doNative nestingLimit s
          (endingOf r m, m.disk)

/-- The programs of a host with a shell. -/
def programs : Programs := { finds, run }

end Pasteboard.Shell
