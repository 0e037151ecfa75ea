import Pasteboard.Shell.Condition
import Pasteboard.Shell.Format
import Pasteboard.Shell.Options
import Pasteboard.Shell.Regex
import Pasteboard.Shell.Signal

/-!
# Plain native commands

The native commands that print or decide something about their arguments, their environment or the
time: they read no files and start no other commands.
-/

namespace Pasteboard.Shell.Machine

/-! ### Printing -/

/-- Prints the arguments. -/
def echo (m : Machine) (args : List Octets) : Machine :=
  (m.print (Format.echo true false args)).closeOutput 1

/-- Prints arguments in a format. -/
def printFormatted (m : Machine) (args : List Octets) : Machine :=
  let args := if args.head? = some ['-', '-'] then args.tail else args
  match args with
  | [] => m.usageFail 1 "missing operand"
  | format :: args =>
    let p := Format.printf .native format args
    let m := p.events.foldl (fun m e =>
      if e.1 = 1 then m.print e.2 else m.nativeComplain e.2) m
    let m := match p.mistake with
      | some message => m.nativeComplain message
      | none => m
    (m.withStatus p.status).closeOutput 1

/-- Prints a line again and again. -/
def repeatLine (m : Machine) (args : List Octets) : Machine :=
  m.withOptions {} 1 args fun g m =>
    let line := if g.operands.isEmpty then ['y'] else Octets.join [' '] g.operands
    (m.write 1 { cycle := line ++ ['\n'] }).closeOutput 1

/-- Prints variables of the environment. -/
def printVariables (m : Machine) (args : List Octets) : Machine :=
  let table : OptionTable := {
    plain := "0"
    long := [("null", .nothing, '0'), ("help", .nothing, '?'), ("version", .nothing, '!')]
    permutes := false }
  m.withOptions table 2 args fun g m =>
    let stop : Octets := if g.has '0' then [Char.ofNat 0] else ['\n']
    if g.operands.isEmpty then
      m.print (m.exported.flatMap fun v => v.name ++ '=' :: v.value.getD [] ++ stop)
    else
      g.operands.foldl (fun m name =>
        match m.get? name with
        | some value => m.print (value ++ stop)
        | none => m.withStatus 1) m

/-- Prints the directory of the process. -/
def printDirectory (m : Machine) (args : List Octets) : Machine :=
  m.withOptions { plain := "LP" } 1 args fun g m =>
    let m := if g.operands.isEmpty then m
      else m.nativeComplain "ignoring non-option arguments"
    (m.print (m.frame.directory ++ ['\n'])).closeOutput 1

/-- Prints what system this is. -/
def printSystem (m : Machine) (args : List Octets) : Machine :=
  m.withOptions { plain := "asnrvmpio" } 1 args fun g m =>
    match g.operands with
    | o :: _ => m.usageFail 1 ("extra operand ".toList ++ quoted o)
    | [] =>
      let words := (if g.options.isEmpty || g.has 's' then ["Linux"] else [])
        ++ (if g.has 'm' then ["x86_64"] else []) ++ (if g.has 'o' then ["GNU/Linux"] else [])
      m.print (Octets.join [' '] (words.map String.toList) ++ ['\n'])

/-! ### Parts of file names -/

/-- A file name without slashes at its end, but not empty. -/
def withoutSlashes (name : Octets) : Octets :=
  let bare := (name.reverse.dropWhile (· = '/')).reverse
  if bare.isEmpty then name.take 1 else bare

/-- The last name of a file name, without an ending. -/
def baseName (ending name : Octets) : Octets :=
  let last := if (withoutSlashes name) = ['/'] then ['/']
    else ((withoutSlashes name).reverse.takeWhile (· != '/')).reverse
  let front := last.take (last.length - ending.length)
  if !ending.isEmpty && !front.isEmpty && front ++ ending = last then front else last

/-- A file name without its last name. -/
def directoryName (name : Octets) : Octets :=
  let front := (withoutSlashes name).reverse.dropWhile (· != '/')
  if front.isEmpty then ['.'] else withoutSlashes front.reverse

/-- Prints last names of file names. -/
def printBaseNames (m : Machine) (args : List Octets) : Machine :=
  let table : OptionTable := {
    plain := "az"
    valued := "s"
    long := [("multiple", .nothing, 'a'), ("suffix", .something, 's'), ("zero", .nothing, 'z'),
      ("help", .nothing, '?'), ("version", .nothing, '!')]
    permutes := false }
  m.withOptions table 1 args fun g m =>
    let stop : Octets := if g.has 'z' then [Char.ofNat 0] else ['\n']
    let many := g.has 'a' || g.has 's'
    match g.operands with
    | [] => m.usageFail 1 "missing operand"
    | [name] => m.print (baseName ((g.value? 's').getD []) name ++ stop)
    | name :: ending :: rest =>
      if many then
        g.operands.foldl (fun m name => m.print (baseName ((g.value? 's').getD []) name ++ stop)) m
      else match rest with
        | extra :: _ => m.usageFail 1 ("extra operand ".toList ++ quoted extra)
        | [] => m.print (baseName ending name ++ stop)

/-- Prints file names without their last names. -/
def printDirectoryNames (m : Machine) (args : List Octets) : Machine :=
  let table : OptionTable := {
    plain := "z"
    long := [("zero", .nothing, 'z'), ("help", .nothing, '?'), ("version", .nothing, '!')] }
  m.withOptions table 1 args fun g m =>
    let stop : Octets := if g.has 'z' then [Char.ofNat 0] else ['\n']
    if g.operands.isEmpty then m.usageFail 1 "missing operand"
    else g.operands.foldl (fun m name => m.print (directoryName name ++ stop)) m

/-- Prints file names as paths from the root. -/
def printPaths (m : Machine) (mustBe : Bool) (args : List Octets) : Machine :=
  let table : OptionTable := {
    plain := "efmqsLPzn"
    long := [("canonicalize", .nothing, 'f'), ("canonicalize-existing", .nothing, 'e'),
      ("canonicalize-missing", .nothing, 'm'), ("quiet", .nothing, 'q'), ("help", .nothing, '?'),
      ("version", .nothing, '!')] }
  m.withOptions table 1 args fun g m =>
    if g.operands.isEmpty then m.usageFail 1 "missing operand"
    else g.operands.foldl (fun m name =>
      let p := (m.path name).resolved
      let found : Except Obstacle Unit := match m.disk.find (m.path name) with
        | .ok (some _) => if name.isEmpty then .error .missing else .ok ()
        | .ok none => if g.has 'e' || name.isEmpty then .error .missing else .ok ()
        | .error o => if g.has 'm' then .ok () else .error o
      let isAsked := mustBe || g.has 'e' || g.has 'f' || g.has 'm'
      match found with
      | .ok () => if isAsked then m.print (Octets.ofText p.text ++ ['\n']) else m.withStatus 1
      | .error o =>
        if mustBe && !g.has 'q' then
          m.nativeFail 1 (namedFile name ++ ": ".toList ++ Octets.ofText o.reason)
        else m.withStatus 1) m

/-! ### Time -/

/-- The time that a word denotes, in microseconds: a number and maybe a unit. Nothing inside stands
for a time without end. -/
def duration? (o : Octets) : Option (Option Nat) :=
  let factor? (unit : Octets) : Option Nat := match unit with
    | [] => some 1
    | ['s'] => some 1
    | ['m'] => some 60
    | ['h'] => some 3600
    | ['d'] => some 86400
    | _ => none
  let lower := (o.dropWhile Octets.isSpace).map Char.toLower
  let lower := if lower.head? = some '+' then lower.tail else lower
  let endless := ["infinity", "inf"].find? fun w => w.toList.isPrefixOf lower
  match endless with
  | some w => (factor? (lower.drop w.length)).map fun _ => none
  | none =>
    match Format.readFraction? o with
    | some (negative, f, rest) =>
      if negative && f.numerator != 0 then none
      else (factor? rest).map fun factor =>
        some ((f.numerator * factor * 1000000 + f.denominator - 1) / f.denominator)
    | none => none

/-- Time passes without end. -/
def waitForever (m : Machine) : Machine := m.interrupt .stuck

/-- Waits. -/
def sleep (m : Machine) (args : List Octets) : Machine :=
  m.withOptions {} 1 args fun g m =>
    let wrong := g.operands.filter fun o => (duration? o).isNone
    if g.operands.isEmpty then m.usageFail 1 "missing operand"
    else if !wrong.isEmpty then
      (wrong.foldl (fun m o =>
        m.nativeFail 1 ("invalid time interval ".toList ++ quoted o)) m).pointToHelp
    else
      let times := g.operands.filterMap duration?
      if times.contains none then m.waitForever
      else m.spend (times.foldl (fun n t => n + t.getD 0) 0)

/-! ### Deciding -/

/-- Decides a condition. -/
def decideCondition (m : Machine) (bracketed : Bool) (args : List Octets) : Machine :=
  if bracketed && args.getLast? != some [']'] then m.nativeFail 2 "missing ']'"
  else match Condition.nativelyDecided m (if bracketed then args.dropLast else args) with
    | .ok holds => m.withStatus (if holds then 0 else 1)
    | .error message => m.nativeFail 2 message

end Machine

/-! ### Expressions -/

namespace Expression

/-- The value of an expression: a text, which may be the text of a number. -/
abbrev Value := Octets

/-- A value that is nothing: empty or zero. -/
def isNull (v : Value) : Bool :=
  let digits := if v.head? = some '-' then v.tail else v
  v.isEmpty || (!digits.isEmpty && digits.all (· = '0'))

/-- The integer that a value is. -/
def integer? (v : Value) : Option Int :=
  match v with
  | '-' :: rest => (Octets.toNat? rest).map fun n => -(n : Int)
  | v => (Octets.toNat? v).map fun n => (n : Int)

/-- A step of an evaluation: a value and the words that are left, or a complaint. -/
abbrev Step := Except Octets (Value × List Octets)

/-- The complaint about a word at which an operand is missing. -/
def missingAfter (word : Octets) : Octets :=
  "syntax error: missing argument after ".toList ++ quoted word

/-- What a pattern at the start of a text matches: its first group, or how long it is. -/
def matched (text pattern : Octets) : Except Octets Value :=
  match Regex.read {} ('^' :: pattern) with
  | .error message => .error message
  | .ok r =>
    let hasGroup := (List.range pattern.length).any fun i =>
      pattern[i]? = some '\\' && pattern[i + 1]? = some '('
    match r.find? text.toArray 0 with
    | some (start, stop, groups) =>
      if hasGroup then
        match groups.find? fun g => g.1 = 1 with
        | some (_, a, b) => .ok ((text.drop a).take (b - a))
        | none => .ok []
      else .ok (Octets.ofNat (stop - start))
    | none => .ok (if hasGroup then [] else ['0'])

/-- How tightly an operator between two operands binds. -/
def level? (word : Octets) : Option Nat :=
  match String.ofList word with
  | "|" => some 1
  | "&" => some 2
  | "<" => some 3
  | "<=" => some 3
  | "=" => some 3
  | "==" => some 3
  | "!=" => some 3
  | ">=" => some 3
  | ">" => some 3
  | "+" => some 4
  | "-" => some 4
  | "*" => some 5
  | "/" => some 5
  | "%" => some 5
  | ":" => some 6
  | _ => none

/-- What an operator makes of two values. -/
def operate (op : Octets) (a b : Value) : Except Octets Value :=
  let truth (holds : Bool) : Except Octets Value := .ok (if holds then ['1'] else ['0'])
  let numbers (f : Int → Int → Except Octets Int) : Except Octets Value :=
    match integer? a, integer? b with
    | some i, some j => (f i j).map Octets.ofInt
    | _, _ => .error "non-integer argument"
  let compared (onNumbers : Int → Int → Bool) (onTexts : Bool) : Except Octets Value :=
    match integer? a, integer? b with
    | some i, some j => truth (onNumbers i j)
    | _, _ => truth onTexts
  let divided (f : Int → Int → Int) : Except Octets Value := numbers fun i j =>
    if j = 0 then .error "division by zero" else .ok (f i j)
  match String.ofList op with
  | "|" => .ok (if !isNull a then a else if isNull b then ['0'] else b)
  | "&" => .ok (if isNull a || isNull b then ['0'] else a)
  | "<" => compared (fun i j => i < j) (!Octets.isOrdered b a)
  | "<=" => compared (fun i j => i ≤ j) (Octets.isOrdered a b)
  | "!=" => compared (fun i j => i != j) (a != b)
  | ">=" => compared (fun i j => i ≥ j) (Octets.isOrdered b a)
  | ">" => compared (fun i j => i > j) (!Octets.isOrdered a b)
  | "+" => numbers fun i j => .ok (i + j)
  | "-" => numbers fun i j => .ok (i - j)
  | "*" => numbers fun i j => .ok (i * j)
  | "/" => divided Int.tdiv
  | "%" => divided Int.tmod
  | ":" => matched a b
  | _ => compared (fun i j => i = j) (a = b)

mutual

/-- An operand and the operations behind it that bind no less than a level. -/
def expression (n level : Nat) (before : Octets) (words : List Octets) : Step :=
  match n with
  | 0 => .error "too long"
  | n + 1 => do
    let (a, rest) ← operand n before words
    operations n level a rest

/-- The operations behind a value that bind no less than a level. -/
def operations (n level : Nat) (a : Value) (words : List Octets) : Step :=
  match n with
  | 0 => .error "too long"
  | n + 1 => do
    match words with
    | [] => pure (a, [])
    | op :: rest =>
      match level? op with
      | none => pure (a, words)
      | some own =>
        if own < level then pure (a, words)
        else
          let (b, rest) ← expression n (own + 1) op rest
          operations n level (← operate op a b) rest

/-- An operand; `before` is the word in front of it. -/
def operand (n : Nat) (before : Octets) (words : List Octets) : Step :=
  match n with
  | 0 => .error "too long"
  | n + 1 => do
    let whole (words : List Octets) (before : Octets) : Step := expression n 6 before words
    match words with
    | [] => .error (missingAfter before)
    | ['('] :: rest =>
      let (a, rest) ← expression n 1 ['('] rest
      match rest with
      | [')'] :: rest => pure (a, rest)
      | [] => .error ("syntax error: expecting ')' after ".toList
          ++ quoted ((words.getLast?).getD []))
      | other :: _ =>
        .error ("syntax error: expecting ')' instead of ".toList ++ quoted other)
    | [')'] :: _ => .error "syntax error: unexpected ')'"
    | word :: rest =>
      match String.ofList word with
      | "+" =>
        match rest with
        | a :: rest => pure (a, rest)
        | [] => .error (missingAfter word)
      | "length" =>
        let (a, rest) ← whole rest word
        pure (Octets.ofNat a.length, rest)
      | "match" =>
        let (a, rest) ← whole rest word
        let (b, rest) ← whole rest a
        pure (← matched a b, rest)
      | "index" =>
        let (a, rest) ← whole rest word
        let (b, rest) ← whole rest a
        let place := a.findIdx b.contains
        pure (Octets.ofNat (if place < a.length then place + 1 else 0), rest)
      | "substr" =>
        let (a, rest) ← whole rest word
        let (start, rest) ← whole rest a
        let (count, rest) ← whole rest start
        match integer? start, integer? count with
        | some i, some k =>
          pure (if i ≤ 0 || k ≤ 0 then [] else (a.drop (i.toNat - 1)).take k.toNat, rest)
        | _, _ => pure ([], rest)
      | _ => pure (word, rest)

end

/-- The value of an expression. -/
def value (words : List Octets) : Except Octets Value := do
  let (a, rest) ← expression (8 * words.length + 16) 1 [] words
  match rest with
  | [] => pure a
  | word :: _ => .error ("syntax error: unexpected argument ".toList ++ quoted word)

end Expression

namespace Machine

/-- Prints the value of an expression. -/
def printExpression (m : Machine) (args : List Octets) : Machine :=
  let args := if args.head? = some ['-', '-'] then args.tail else args
  if args.isEmpty then m.usageFail 2 "missing operand"
  else match Expression.value args with
    | .ok v =>
      let m := m.print (v ++ ['\n'])
      (m.withStatus (if Expression.isNull v then 1 else 0)).closeOutput 3
    | .error message => m.nativeFail 2 message

/-! ### Signals -/

/-- How the native command for signals is used. -/
def signalUsage : Octets :=
  ["", "Usage:", " kill [options] <pid> [...]", "", "Options:",
   " <pid> [...]            send signal to every <pid> listed",
   " -<signal>, -s, --signal <signal>",
   "                        specify the <signal> to be sent",
   " -q, --queue <value>    integer value to be sent with the signal",
   " -l, --list=[<signal>]  list all signal names, or convert one to a name",
   " -L, --table            list all signal names in a nice table", "",
   " -h, --help     display this help and exit",
   " -V, --version  output version information and exit",
   "", "For more details see kill(1)."].flatMap fun l => l.toList ++ ['\n']

end Pasteboard.Shell.Machine
