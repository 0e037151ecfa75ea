import Pasteboard.Shell.Octets

/-!
# Signals

The signals of the system by number: their names, the wording with which a shell says that one
ended a command, and what a process does on one if it has not decided otherwise.
-/

namespace Pasteboard.Shell.Signal

/-- The names of the signals from the first one on; some numbers have none. -/
def names : List String :=
  ["HUP", "INT", "QUIT", "ILL", "TRAP", "ABRT", "BUS", "FPE", "KILL", "USR1", "SEGV", "USR2",
   "PIPE", "ALRM", "TERM", "16", "CHLD", "CONT", "STOP", "TSTP", "TTIN", "TTOU", "URG", "XCPU",
   "XFSZ", "VTALRM", "PROF", "WINCH", "IO", "PWR", "SYS", "32", "33", "RTMIN", "RTMIN+1",
   "RTMIN+2", "RTMIN+3", "RTMIN+4", "RTMIN+5", "RTMIN+6", "RTMIN+7", "RTMIN+8", "RTMIN+9",
   "RTMIN+10", "RTMIN+11", "RTMIN+12", "RTMIN+13", "RTMIN+14", "RTMIN+15", "RTMAX-14",
   "RTMAX-13", "RTMAX-12", "RTMAX-11", "RTMAX-10", "RTMAX-9", "RTMAX-8", "RTMAX-7", "RTMAX-6",
   "RTMAX-5", "RTMAX-4", "RTMAX-3", "RTMAX-2", "RTMAX-1", "RTMAX"]

/-- How many signals there are. -/
def count : Nat := 64

/-- The signal for the end of a process that the process has started. -/
def childEnded : Nat := 17

/-- The name of a signal; zero is the end of a shell. -/
def name? : Nat → Option Octets
  | 0 => some "EXIT"
  | n + 1 => (names[n]?).map String.toList

/-- Letters in their capital form. -/
def capital (o : Octets) : Octets := o.map Char.toUpper

/-- The signal that a name or a number stands for, which may be zero. -/
def ofName? (o : Octets) : Option Nat :=
  match Octets.toNat? o with
  | some n => if n ≤ count then some n else none
  | none =>
    let o := capital o
    if o = "EXIT".toList then some 0
    else
      let i := names.idxOf (String.ofList o)
      if i < names.length then some (i + 1) else none

/-- What is said about a command that a signal ended. -/
def wording (n : Nat) : Octets :=
  let known : List (Nat × String) :=
    [(1, "Hangup"), (2, "Interrupt"), (3, "Quit"), (4, "Illegal instruction"),
     (5, "Trace/breakpoint trap"), (6, "Aborted"), (7, "Bus error"),
     (8, "Floating point exception"), (9, "Killed"), (10, "User defined signal 1"),
     (11, "Segmentation fault"), (12, "User defined signal 2"), (13, "Broken pipe"),
     (14, "Alarm clock"), (15, "Terminated"), (16, "Stack fault"), (24, "CPU time limit exceeded"),
     (25, "File size limit exceeded"), (26, "Virtual timer expired"),
     (27, "Profiling timer expired"), (29, "I/O possible"), (30, "Power failure"),
     (31, "Bad system call")]
  match known.find? fun k => k.1 = n with
  | some (_, s) => s.toList
  | none =>
    if 34 ≤ n then "Real-time signal ".toList ++ Octets.ofNat (n - 34)
    else "Unknown signal ".toList ++ Octets.ofNat n

/-- A process takes no notice of the signal by itself. -/
def isHarmless (n : Nat) : Bool := [0, 17, 18, 23, 28].contains n

/-- The signal halts a process. -/
def halts (n : Nat) : Bool := 19 ≤ n && n ≤ 22

/-- No process can do anything about the signal. -/
def isFinal (n : Nat) : Bool := n = 9 || n = 19

end Pasteboard.Shell.Signal
