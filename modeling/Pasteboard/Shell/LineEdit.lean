import Pasteboard.Shell.LineScript
import Pasteboard.Shell.TextCommand

/-!
# Editing lines by a script

The commands of a script are done for one line after the other. They change the line, which is
printed behind the last command, and can keep text in a second place. A last line without an end
stays without one as long as nothing is printed behind it.
-/

namespace Pasteboard.Shell

/-- A text that is being edited. -/
structure LineEdit where
  /-- The line, which may consist of several ones, and whether its last one has an end. -/
  line : Octets := []
  hasEnd : Bool := true
  /-- The second place for text. -/
  kept : Octets := []
  keptHasEnd : Bool := true
  number : Nat := 0
  /-- The lines that come, each with whether it has an end. -/
  left : List (Octets × Bool) := []
  /-- What was printed, the last first. -/
  printed : List Octets := []
  /-- What was printed last is a line without an end. -/
  lacksEnd : Bool := false
  /-- What is printed behind the line. -/
  behind : List Octets := []
  /-- Something in the line was replaced. -/
  replaced : Bool := false
  /-- The ranges that the line may be in, by the number of the command, with their last lines. -/
  ranges : List (Nat × Option Nat) := []
  lastPattern : Option Regex := none
  /-- What was written to files. -/
  files : List (Octets × Octets) := []
  /-- The status with which all ends. -/
  ended : Option Nat := none
  /-- There is no end to it. -/
  endless : Bool := false

namespace LineEdit

open LineScript

/-- Prints a text, with an end if it has one. -/
def print (e : LineEdit) (o : Octets) (hasEnd : Bool) : LineEdit :=
  { e with
    printed := ((if e.lacksEnd then ['\n'] else []) ++ o ++ (if hasEnd then ['\n'] else []))
      :: e.printed
    lacksEnd := !hasEnd }

/-- Prints a text as it is. -/
def put (e : LineEdit) (o : Octets) : LineEdit :=
  { e with
    printed := ((if e.lacksEnd then ['\n'] else []) ++ o) :: e.printed
    lacksEnd := false }

/-- Writes the line to a file; one name stands for what is printed. -/
def write (e : LineEdit) (name : Octets) : LineEdit :=
  if name = "/dev/stdout".toList then e.print e.line e.hasEnd
  else { e with files := e.files.map fun f =>
      if f.1 = name then (name, f.2 ++ e.line ++ (if e.hasEnd then ['\n'] else [])) else f }

/-- Prints what is to be printed behind the line. -/
def flush (e : LineEdit) : LineEdit :=
  { e.behind.foldl put e with behind := [] }

/-- Goes on to the next line, which becomes the line or is put behind it. -/
def advance (e : LineEdit) (joins : Bool) : Option LineEdit :=
  match e.left with
  | [] => none
  | (o, hasEnd) :: left =>
    let e := e.flush
    some { e with
      line := if joins then e.line ++ '\n' :: o else o
      hasEnd, left
      number := e.number + 1 }

/-- The expression that is meant, which becomes the one that was used last. -/
def resolve (e : LineEdit) (r : Option Regex) : Regex × LineEdit :=
  match r.or e.lastPattern with
  | some r => (r, { e with lastPattern := some r })
  | none => (.empty, e)

/-- The line is at a place. -/
def isAt (e : LineEdit) (p : Place) : Bool × LineEdit :=
  match p with
  | .number n => (e.number = n, e)
  | .every first step => (first ≤ e.number && (e.number - first) % step = 0, e)
  | .last => (e.left.isEmpty, e)
  | .holding r =>
    let (r, e) := e.resolve r
    ((r.find? e.line.toArray 0).isSome, e)

/-- The line is one that a command is for; `i` is the number of the command. -/
def isChosen (e : LineEdit) (i : Nat) (s : Selection) : Bool × LineEdit :=
  let (found, e) := match s.first, s.second with
    | none, _ => (true, e)
    | some p, none => e.isAt p
    | some p, some stop =>
      let close (e : LineEdit) : LineEdit :=
        { e with ranges := e.ranges.filter fun r => r.1 != i }
      let enter (e : LineEdit) (last : Option Nat) : Bool × LineEdit :=
        if last.any fun n => n ≤ e.number then (true, e)
        else (true, { e with ranges := (i, last) :: e.ranges })
      let isFirst := e.number = 1 && match p with
        | .number 0 => true
        | _ => false
      match if isFirst then some (i, none) else e.ranges.find? fun r => r.1 = i with
      | some (_, some last) =>
        let e := if last ≤ e.number then close e else e
        (e.number ≤ last, e)
      | some (_, none) =>
        let (isLast, e) := match stop with
          | .place q => e.isAt q
          | _ => (false, e)
        (true, if isLast then close e else if isFirst then (enter e none).2 else e)
      | none =>
        let (starts, e) := e.isAt p
        if !starts then (false, e)
        else match stop with
          | .place (.number n) => enter e (some n)
          | .place _ => enter e none
          | .after count => enter e (some (e.number + count))
          | .multipleOf n =>
            enter e (some (if n = 0 then e.number else (e.number + n - 1) / n * n))
  (found != s.negated, e)

/-- What a match is replaced by. -/
def replacementOf (text : Array Char) (start stop : Nat) (groups : Regex.Groups)
    (ps : List Fragment) : Octets :=
  let extract (a b : Nat) : Octets := (text.extract a b).toList
  let turn (all : Option Char) (one : Option Char) (o : Octets) : Octets :=
    let turned := match all with
      | some 'U' => o.map Char.toUpper
      | some 'L' => o.map Char.toLower
      | _ => o
    match one, turned with
    | some 'u', c :: rest => c.toUpper :: rest
    | some 'l', c :: rest => c.toLower :: rest
    | _, o => o
  (ps.foldl (fun (done, all, one) p =>
    let add (o : Octets) : Octets × Option Char × Option Char :=
      (done ++ turn all one o, all, if o.isEmpty then one else none)
    match p with
    | .text o => add o
    | .group 0 => add (extract start stop)
    | .group n => match groups.find? fun g => g.1 = n with
      | some (_, a, b) => add (extract a b)
      | none => add []
    | .letters 'E' => (done, none, none)
    | .letters k => if k = 'u' || k = 'l' then (done, all, some k) else (done, some k, none))
    (([] : Octets), (none : Option Char), (none : Option Char))).1

/-- Replaces matches from a place on; gives the new text and whether any was replaced. An empty
match right behind another one does not count. -/
def replaceFrom (r : Regex) (text : Array Char) (s : Replacement) :
    Nat → (place count : Nat) → (last : Option Nat) → Octets × Bool
  | 0, place, _, _ => ((text.extract place text.size).toList, false)
  | n + 1, place, count, last =>
    match r.find? text place with
    | none => ((text.extract place text.size).toList, false)
    | some (start, stop, groups) =>
      let before := (text.extract place start).toList
      let next (place : Nat) (count : Nat) (last : Option Nat) : Octets × Bool :=
        if text.size < place then ([], false) else replaceFrom r text s n place count last
      let skipped : Octets := match text[start]? with
        | some c => [c]
        | none => []
      if start = stop && last = some start then
        let (o, more) := next (start + 1) count none
        (before ++ skipped ++ o, more)
      else
        let count := count + 1
        let isDone := s.start ≤ count
        let new := if isDone then replacementOf text start stop groups s.parts
          else (text.extract start stop).toList
        if isDone && !s.everywhere then
          (before ++ new ++ (text.extract stop text.size).toList, true)
        else if start = stop then
          let (o, more) := next (start + 1) count none
          (before ++ new ++ skipped ++ o, isDone || more)
        else
          let (o, more) := next stop count (some stop)
          (before ++ new ++ o, isDone || more)

/-- Replaces matches in the line. -/
def replace (e : LineEdit) (s : Replacement) : LineEdit :=
  let (r, e) := e.resolve s.pattern
  let text := e.line.toArray
  let (line, found) := replaceFrom r text s (2 * text.size + 2) 0 0 none
  if !found then e
  else
    let e := { e with line, replaced := true }
    let e := if s.prints then e.print line e.hasEnd else e
    match s.file with
    | some name => e.write name
    | none => e

/-- The line in a form that can be seen, in rows of a limited width. -/
def visibleLine (o : Octets) : Octets :=
  let shown (c : Char) : Octets :=
    if c = '\\' then ['\\', '\\'] else if Octets.isPrintable c then [c] else escapedChar c
  let (rows, row) := o.foldl (fun (rows, row) c =>
    let s := shown c
    if 69 < row.length + s.length then (rows ++ row ++ ['\\', '\n'], s) else (rows, row ++ s))
    (([] : Octets), ([] : Octets))
  rows ++ row ++ ['$', '\n']

/-- The number of the command behind the block that starts behind command `i`. -/
def behindBlock (s : Script) : Nat → (depth i : Nat) → Nat
  | 0, _, i => i
  | n + 1, depth, i =>
    match s[i]? with
    | none => i
    | some (_, .opening) => behindBlock s n (depth + 1) (i + 1)
    | some (_, .closing) => if depth = 0 then i + 1 else behindBlock s n (depth - 1) (i + 1)
    | some _ => behindBlock s n depth (i + 1)

/-- Does the commands from the one with number `i` on for the line and those that come. -/
def run (s : Script) (quiet : Bool) (read : Octets → Octets) : Nat → Nat → LineEdit → LineEdit
  | 0, _, e => { e with endless := true }
  | n + 1, i, e =>
    let run := run s quiet read n
    let close (e : LineEdit) : LineEdit := (if quiet then e else e.print e.line e.hasEnd).flush
    let nextLine (e : LineEdit) : LineEdit :=
      match e.advance false with
      | some e => run 0 { e with replaced := false }
      | none => e
    match s[i]? with
    | none => nextLine (close e)
    | some (lines, c) =>
      let (chosen, e) := e.isChosen i lines
      if !chosen then
        match c with
        | .opening => run (behindBlock s s.size 0 (i + 1)) e
        | _ => run (i + 1) e
      else
        let jump (name : Octets) (e : LineEdit) : LineEdit :=
          run (if name.isEmpty then s.size else (labelAt? s name).getD s.size) e
        let firstLine := e.line.takeWhile (· != '\n')
        match c with
        | .replace r => run (i + 1) (e.replace r)
        | .exchange old new => run (i + 1) { e with line := e.line.map fun c =>
            ((old.zip new).find? fun p => p.1 = c).elim c Prod.snd }
        | .text 'i' o => run (i + 1) (e.put o)
        | .text 'a' o => run (i + 1) { e with behind := e.behind ++ [o] }
        | .text _ o =>
          let inside := lines.second.isSome && !lines.negated && e.ranges.any fun r => r.1 = i
          nextLine ((if inside then e else e.put o).flush)
        | .quit 'q' status => { close e with ended := some status }
        | .quit _ status => { e with ended := some status }
        | .file 'r' name => run (i + 1) { e with behind := e.behind ++ [read name] }
        | .file _ name => run (i + 1) (e.write name)
        | .jump 'b' name => jump name e
        | .jump letter name =>
          if e.replaced = (letter = 't') then jump name { e with replaced := false }
          else run (i + 1) { e with replaced := false }
        | .label _ => run (i + 1) e
        | .opening => run (i + 1) e
        | .closing => run (i + 1) e
        | .plain letter =>
          match letter with
          | '=' => run (i + 1) (e.print (Octets.ofNat e.number) true)
          | 'p' => run (i + 1) (e.print e.line e.hasEnd)
          | 'P' => run (i + 1)
              (e.print firstLine (e.hasEnd || firstLine.length < e.line.length))
          | 'l' => run (i + 1) (e.put (visibleLine e.line))
          | 'd' => nextLine e.flush
          | 'D' =>
            if firstLine.length = e.line.length then nextLine e.flush
            else run 0 { e.flush with line := e.line.drop (firstLine.length + 1) }
          | 'h' => run (i + 1) { e with kept := e.line, keptHasEnd := e.hasEnd }
          | 'H' => run (i + 1) { e with
              kept := e.kept ++ '\n' :: e.line
              keptHasEnd := e.hasEnd }
          | 'g' => run (i + 1) { e with line := e.kept, hasEnd := e.keptHasEnd }
          | 'G' => run (i + 1) { e with
              line := e.line ++ '\n' :: e.kept
              hasEnd := e.keptHasEnd }
          | 'x' => run (i + 1) { e with
              line := e.kept
              hasEnd := e.keptHasEnd
              kept := e.line
              keptHasEnd := e.hasEnd }
          | 'n' =>
            if e.left.isEmpty then close e
            else
              let e := if quiet then e else e.print e.line e.hasEnd
              run (i + 1) ((e.advance false).getD e)
          | 'N' =>
            match e.advance true with
            | some e => run (i + 1) e
            | none => close e
          | 'z' => run (i + 1) { e with line := [] }
          | _ => run (i + 1) e

/-- The names of the files that a script writes to. -/
def outputFiles (s : Script) : List Octets :=
  (s.toList.filterMap fun c => match c.2 with
    | .file 'w' name => some name
    | .replace r => r.file
    | _ => none).eraseDups

/-- Does a script for all lines of a text. -/
def edit (s : Script) (quiet : Bool) (read : Octets → Octets) (e : LineEdit)
    (lines : List (Octets × Bool)) : LineEdit :=
  match { e with left := lines, number := 0 }.advance false with
  | some e => run s quiet read ((lines.length + 1) * (s.size + 2) * 4 + 100000) 0 e
  | none => e

end LineEdit

namespace Machine

/-- How the command for editing lines is used. -/
def editUsage : Octets :=
  "Usage: sed [OPTION]... \x7bscript-only-if-no-other-script\x7d [input-file]...\n\n"

/-- Edits lines by a script. -/
def editLines (m : Machine) (args : List Octets) : Machine :=
  let table : OptionTable := {
    plain := "nErsuz"
    valued := "efl"
    free := "i"
    long := [("quiet", .nothing, 'n'), ("silent", .nothing, 'n'), ("expression", .something, 'e'),
      ("file", .something, 'f'), ("in-place", .maybe, 'i'), ("regexp-extended", .nothing, 'E'),
      ("separate", .nothing, 's'), ("unbuffered", .nothing, 'u'), ("null-data", .nothing, 'z'),
      ("posix", .nothing, 'o'), ("help", .nothing, '?'), ("version", .nothing, '!')] }
  let usage (m : Machine) : Machine := (m.complain editUsage).withStatus 1
  let linesOf (o : Octets) : List (Octets × Bool) := (Octets.lines o).map fun l =>
    if l.getLast? = some '\n' then (l.dropLast, true) else (l, false)
  match table.read args with
  | .error message => usage (m.nativeComplain message)
  | .ok g =>
    let given := g.options.filter fun o => o.1 = 'e' || o.1 = 'f'
    let pieceOf (o : Char × Octets) : Except (Octets × Obstacle) Octets :=
      if o.1 = 'e' then .ok o.2
      else match m.readFile o.2 with
        | .ok flow => .ok (Octets.withoutLineEnds flow.now)
        | .error obstacle => .error (o.2, obstacle)
    let names := if given.isEmpty then g.operands.drop 1 else g.operands
    match if given.isEmpty then .ok (g.operands.take 1) else given.mapM pieceOf with
    | .error (name, o) =>
      m.nativeFail 4 ("couldn't open file ".toList ++ name ++ ": ".toList ++ Octets.ofText o.reason)
    | .ok [] => usage m
    | .ok pieces =>
      match LineScript.read (g.has 'E' || g.has 'r') pieces with
      | .error (message, status) => m.nativeFail status message
      | .ok s =>
        let startsQuiet := "#n\n".toList.isPrefixOf (pieces.headD [] ++ ['\n'])
        let quiet := g.has 'n' || startsQuiet
        let start : LineEdit := { files := (LineEdit.outputFiles s).map fun f => (f, []) }
        let read (m : Machine) (name : Octets) : Octets :=
          (m.readFile name).toOption.elim [] Flow.now
        let refuse (name : Octets) (o : Obstacle) (m : Machine) : Machine :=
          match o with
          | .isDirectory =>
            if g.has 'i' then
              m.nativeFail 4 ("couldn't edit ".toList ++ name ++ ": not a regular file".toList)
            else m.nativeFail 4 ("read error on ".toList ++ name ++ ": Is a directory".toList)
          | o => m.nativeFail 2 ("can't read ".toList ++ name ++ ": ".toList
              ++ Octets.ofText o.reason)
        let output (e : LineEdit) : Octets := e.printed.reverse.flatten
        let close (e : LineEdit) (m : Machine) : Machine :=
          let m := e.files.foldl (fun m (name, o) =>
            if name = "/dev/stdout".toList then m
            else match m.openOutput name false with
              | .ok (t, m) => m.writeTo (some t) { now := o }
              | .error obstacle => m.nativeFail 4 ("couldn't open file ".toList ++ name
                  ++ ": ".toList ++ Octets.ofText obstacle.reason)) m
          match e.ended with
          | some status => if status = 0 then m else m.withStatus status
          | none => m
        if g.has 'i' then
          if names.isEmpty then m.nativeFail 1 "no input files"
          else
            let (e, m) := names.foldl (fun (e, m) name =>
              if e.ended.isSome then (e, m)
              else match m.readFile name with
                | .error o => (e, refuse name o m)
                | .ok flow =>
                  let suffix := (g.value? 'i').getD []
                  let e := { e with printed := [] }
                  let e := LineEdit.edit s quiet (read m) e (linesOf flow.now)
                  let save (name : Octets) (o : Octets) (m : Machine) : Machine :=
                    match m.openOutput name false with
                    | .ok (t, m) => m.writeTo (some t) { now := o }
                    | .error _ => m.nativeFail 4 ("couldn't open temporary file ./sed".toList)
                  let m := if suffix.isEmpty then m else save (name ++ suffix) flow.now m
                  (e, save name (output e
                    ++ e.left.flatMap fun l => l.1 ++ (if l.2 then ['\n'] else [])) m))
              (start, m)
            close e m
        else
          let (flows, m) := (if names.isEmpty then [['-']] else names).foldl
            (fun (flows, m) name =>
              if name = ['-'] then
                let (flow, m) := m.drain
                (flows ++ [flow], m)
              else match m.readFile name with
                | .ok flow => (flows ++ [flow], m)
                | .error o => (flows, refuse name o m)) (([] : List Flow), m)
          let isEndless := flows.any Flow.isEndless
          let texts := flows.map fun (f : Flow) =>
            linesOf (if f.isEndless then f.take 8192 else f.now)
          let e := (if g.has 's' then texts else [texts.flatten]).foldl (fun e lines =>
            if e.ended.isSome then e else LineEdit.edit s quiet (read m) e lines) start
          if e.endless || (isEndless && e.ended.isNone) then m.interrupt .stuck
          else
            let m := close e (m.print (output e))
            match m.frame.unwritten with
            | some reason => m.nativeFail 4 ("couldn't flush stdout: ".toList ++ reason)
            | none => m

end Machine

end Pasteboard.Shell
