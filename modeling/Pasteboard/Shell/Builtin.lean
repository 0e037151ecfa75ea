import Pasteboard.Shell.Condition
import Pasteboard.Shell.Expansion
import Pasteboard.Shell.Format
import Pasteboard.Shell.Job
import Pasteboard.Shell.Program
import Pasteboard.Shell.Source

/-!
# Commands of the shell itself

The commands that a shell does without starting a program, as far as they do no other commands. A
mistake in one of them is said with the place where it is and leaves the status two; whether it ends
the shell is up to the one who does the command.
-/

namespace Pasteboard.Shell.Machine

/-! ### Complaints -/

/-- Says something with the place of the command that is being done. -/
def warn (m : Machine) (message : Octets) : Machine :=
  let command := match m.frame.command with
    | some name => name ++ ": ".toList
    | none => []
  m.complain (m.frame.name ++ ": ".toList ++ Octets.ofNat m.frame.line ++ ": ".toList ++ command
    ++ message ++ ['\n'])

/-- Says what is wrong, and gives the command up. -/
def mistake (m : Machine) (message : Octets) : Machine :=
  ((m.warn message).withStatus 2).interrupt .failed

/-- Sets a variable, if that is possible. -/
def assign (m : Machine) (name value : Octets) : Machine :=
  if !Octets.isName name then m.mistake (name ++ ": bad variable name".toList)
  else if m.isReadOnly name then m.mistake (name ++ ": is read only".toList)
  else m.set name value

/-- A number that is not negative, or the complaint about it. -/
def number (o : Octets) : Except Octets Nat :=
  match Octets.toNat? o with
  | some n => if n ≤ 2147483647 then .ok n else .error ("Illegal number: ".toList ++ o)
  | none => .error ("Illegal number: ".toList ++ o)

/-- Goes on with the value of something that may be a mistake. -/
def orMistake {α : Type} (m : Machine) (r : Except Octets α) (f : α → Machine) : Machine :=
  match r with
  | .ok a => f a
  | .error message => m.mistake message

/-- The options at the start of arguments, and the arguments behind them. A letter that a colon
follows has an argument. -/
def readOptions (letters : Octets) : Nat → List Octets →
    Except Octets (List (Char × Octets) × List Octets)
  | 0, args => .ok ([], args)
  | n + 1, args =>
    match args with
    | ['-', '-'] :: rest => .ok ([], rest)
    | ('-' :: c :: more) :: rest =>
      let place := letters.idxOf c
      if c = ':' || letters.length ≤ place then .error ("Illegal option -".toList ++ [c])
      else
        let (given, rest) : Option Octets × List Octets :=
          if letters[place + 1]? = some ':' then
            if more.isEmpty then (rest.head?, rest.tail) else (some more, rest)
          else (some [], if more.isEmpty then rest else ('-' :: more) :: rest)
        match given with
        | none => .error ("No arg for -".toList ++ c :: " option".toList)
        | some value =>
          (readOptions letters n rest).map fun (options, rest) => ((c, value) :: options, rest)
    | args => .ok ([], args)

/-- Goes on with the options and the other arguments of a command. -/
def withLetters (m : Machine) (letters : String) (args : List Octets)
    (f : List (Char × Octets) → List Octets → Machine) : Machine :=
  m.orMistake (readOptions letters.toList ((args.map List.length).foldl (· + ·) 1) args)
    fun (options, rest) => f options rest

/-- A text in quotes from which a shell reads it back. -/
def singleQuoted (o : Octets) : Octets :=
  let q := Octets.apostrophe
  match o.takeWhile (· != q), o.dropWhile (· != q) with
  | front, [] => q :: front ++ [q]
  | _, _ => (runs o.length o).flatten
where
  /-- The parts of a text, each in quotes that it does not hold. -/
  runs : Nat → Octets → List Octets
    | 0, _ => []
    | n + 1, o =>
      let q := Octets.apostrophe
      if o.isEmpty then []
      else
        let front := o.takeWhile (· != q)
        let marks := (o.drop front.length).takeWhile (· = q)
        let rest := o.drop (front.length + marks.length)
        (q :: front ++ [q]) :: (if marks.isEmpty then [] else '"' :: marks ++ ['"']) :: runs n rest

/-! ### Printing and deciding -/

/-- Prints arguments in a format. What was printed before a mistake follows the complaint. -/
def shellPrintf (m : Machine) (args : List Octets) : Machine :=
  m.withLetters "" args fun _ args =>
    match args with
    | [] => m.mistake "usage: printf format [arg ...]"
    | format :: args =>
      let p := Format.printf .shell format args
      let m := p.events.foldl (fun m e => if e.1 = 2 then m.warn e.2 else m) m
      let m := match p.mistake with
        | some message => m.mistake message
        | none => m.withStatus p.status
      m.print (p.events.flatMap fun e => if e.1 = 1 then e.2 else [])

/-- Decides a condition; `bracketed` if a bracket has to end it. -/
def shellTest (m : Machine) (bracketed : Bool) (args : List Octets) : Machine :=
  let closed := match args.getLast? with
    | some word => word.head? = some ']'
    | none => false
  if bracketed && !closed then m.mistake "missing ]"
  else m.orMistake (Condition.decided m (if bracketed then args.dropLast else args)) fun holds =>
    m.withStatus (if holds then 0 else 1)

/-! ### Signals -/

/-- What the process has decided to do on a signal; the empty text to do nothing. -/
def action? (m : Machine) (signal : Nat) : Option Octets :=
  if m.frame.ignored.contains signal then some []
  else (m.frame.traps.find? fun t => t.1 = signal).map Prod.snd

/-- The signal reaches the process itself. -/
def receive (m : Machine) (signal time : Nat) : Machine :=
  let byDefault : Machine :=
    if Signal.isHarmless signal then m
    else if Signal.halts signal then m.interrupt .stuck
    else m.interrupt (.signal signal)
  if Signal.isFinal signal then byDefault
  else match m.action? signal with
    | some [] => m
    | some _ => { m with sent := m.sent ++ [⟨m.frame.number, signal, time⟩] }
    | none => byDefault

/-- Sends a signal to a process; nothing if there is none with this number. -/
def send? (m : Machine) (number signal : Nat) : Option Machine :=
  if number = m.frame.number then some (m.receive signal m.clock)
  else if m.frame.jobs.any fun j => j.number = number && !j.isOver m.clock then
    some (m.endJob number signal)
  else if m.frame.family.contains number || number = m.frame.shellNumber then
    some { m with sent := m.sent ++ [⟨number, signal, m.clock⟩] }
  else none

/-- How the command for signals is used. -/
def killUsage : Octets :=
  "Usage: kill [-s sigspec | -signum | -sigspec] [pid | job]... or\nkill -l [exitstatus]"

/-- Sends a signal to each of some processes. -/
def sendAll (m : Machine) (signal : Nat) (words : List Octets) : Machine :=
  words.foldl (fun m word =>
    let absent (m : Machine) : Machine := (m.warn "No such process\n").withStatus 1
    if m.isInterrupted then m
    else if word.head? = some '%' then
      match Job.named? m.frame.jobs word with
      | some _ => absent m
      | none => m.mistake ("No such job: ".toList ++ word)
    else
      let (isGroup, digits) := match word with
        | '-' :: rest => (true, rest)
        | word => (false, word)
      m.orMistake (number digits) fun n =>
        if isGroup then absent m
        else match m.send? n signal with
          | some m => m
          | none => absent m) (m.withStatus 0)

/-- Sends signals, or tells their names. -/
def shellKill (m : Machine) (args : List Octets) : Machine :=
  let usage := m.mistake killUsage
  let named? (word : Octets) : Option Nat := match Signal.ofName? word with
    | some 0 => if Octets.toNat? word = some 0 then some 0 else none
    | other => other
  let tell (words : List Octets) : Machine :=
    match words with
    | [] => m.print (['0', '\n'] ++ Signal.names.flatMap fun s => s.toList ++ ['\n'])
    | word :: _ => m.orMistake (number word) fun n =>
      let n := if 128 < n then n - 128 else n
      match if n = 0 then none else Signal.name? n with
      | some name => m.print (name ++ ['\n'])
      | none => m.mistake ("invalid signal number or exit status: ".toList ++ word)
  match args with
  | [] => usage
  | ('-' :: word) :: rest =>
    match named? word with
    | some signal => if rest.isEmpty then usage else m.sendAll signal rest
    | none => m.withLetters "ls:" args fun options rest =>
      let wrong := options.find? fun o => o.1 = 's' && (named? o.2).isNone
      let asked := (options.reverse.find? fun o => o.1 = 's').bind fun o => named? o.2
      match wrong with
      | some (_, word) => m.mistake ("invalid signal number or name: ".toList ++ word)
      | none =>
        if options.any fun o => o.1 = 'l' then
          if asked.isSome then usage else tell rest
        else if rest.isEmpty then usage
        else m.sendAll (asked.getD 15) rest
  | words => m.sendAll 15 words

/-- Decides what is done on signals and at the end, or lists it. -/
def setTraps (m : Machine) (args : List Octets) : Machine :=
  m.withLetters "" args fun _ args =>
    match args with
    | [] =>
      let traps := m.frame.traps.mergeSort fun a b => a.1 ≤ b.1
      m.print (traps.flatMap fun (signal, action) =>
        "trap -- ".toList ++ singleQuoted action ++ ' ' :: (Signal.name? signal).getD [] ++ ['\n'])
    | first :: rest =>
      let isReset := rest.isEmpty || (Octets.toNat? first).any fun n => n ≤ Signal.count
      let (action, words) : Option Octets × List Octets :=
        if isReset then (none, args) else (if first = ['-'] then none else some first, rest)
      let rec place (words : List Octets) (m : Machine) : Machine :=
        match words with
        | [] => m
        | word :: rest =>
          match Signal.ofName? word with
          | none => (m.complain ("trap: ".toList ++ word ++ ": bad trap\n".toList)).withStatus 1
          | some signal => place rest (m.withFrame fun f =>
            let others := f.traps.filter fun t => t.1 != signal
            { f with traps := match action with
              | some action => (signal, action) :: others
              | none => others })
      place words m

/-! ### Directories -/

/-- Makes a directory the one of the process; nothing if that is not possible. -/
def enter? (m : Machine) (name : Octets) : Option Machine :=
  match m.look (if name.isEmpty then ['.'] else name) with
  | .ok .directory =>
    if m.isDenied (.read (m.path name)) then none
    else
      let before := m.frame.directory
      let isDouble := "//".toList.isPrefixOf name && name[2]? != some '/'
      let slashes : Octets := if isDouble then ['/'] else []
      let place : Path := { (m.path name).resolved with anchor := "/" }
      let there := slashes ++ Octets.ofText place.text
      let m := m.withFrame fun f => { f with directory := there }
      let declare (m : Machine) (name value : Octets) : Machine :=
        m.change name fun v => { v with value := some value, exported := true }
      some (declare (declare m "OLDPWD" before) "PWD" there)
  | _ => none

/-- Changes the directory. -/
def changeDirectory (m : Machine) (args : List Octets) : Machine :=
  m.withLetters "LP" args fun _ args =>
    let (wanted, prints) : Octets × Bool := match args with
      | [] => ((m.get? "HOME").getD [], false)
      | ['-'] :: _ => ((m.get? "OLDPWD").getD [], true)
      | name :: _ => (name, false)
    let isFixed := wanted.head? = some '/' || wanted = ['.'] || wanted = ['.', '.']
      || "./".toList.isPrefixOf wanted || "../".toList.isPrefixOf wanted
    let wanted := if wanted.isEmpty then ['.'] else wanted
    let places : List (Octets × Bool) := match m.get? "CDPATH" with
      | some path =>
        if isFixed then [] else
          (Octets.splitAt ':' path).map fun d =>
            if d.isEmpty then (wanted, false) else (d ++ '/' :: wanted, true)
      | none => []
    let outcome := (places ++ [(wanted, false)]).findSome? fun (place, shows) =>
      (m.enter? place).map fun m => (m, shows)
    match outcome with
    | some (m, shows) => if prints || shows then m.print (m.frame.directory ++ ['\n']) else m
    | none => m.mistake ("can't cd to ".toList ++ (if wanted = ['.'] then [] else wanted))

/-! ### Variables -/

/-- Reads a line, in which a backslash protects the next character if it is not to be taken as it
is; `n` bounds how many lines are joined. -/
def readPattern (raw : Bool) : Nat → Pattern → Machine → Pattern × Bool × Machine
  | 0, done, m => (done, false, m)
  | n + 1, done, m =>
    let (line, found, m) := m.readLine
    let line := line.filter fun c => c.toNat != 0
    if raw then (done ++ Pattern.of false line, found, m)
    else
      let rec protect (o : Octets) : Pattern × Bool :=
        match o with
        | '\\' :: c :: rest =>
          let (p, goesOn) := protect rest
          (⟨c, true⟩ :: p, goesOn)
        | ['\\'] => ([], true)
        | c :: rest =>
          let (p, goesOn) := protect rest
          (⟨c, false⟩ :: p, goesOn)
        | [] => ([], false)
      let (p, goesOn) := protect line
      if goesOn && found then readPattern raw n (done ++ p) m else (done ++ p, found, m)

/-- Reads a line of the standard input into variables. -/
def readVariables (m : Machine) (args : List Octets) : Machine :=
  m.withLetters "p:r" args fun options names =>
    if names.isEmpty then m.mistake "arg count"
    else
      let (line, found, m) := readPattern (options.any fun o => o.1 = 'r') 10000 [] m
      let words := lineWords m.separators names.length line
      let m := (names.zipIdx).foldl (fun m (name, i) =>
        if m.isInterrupted then m else m.assign name (words[i]?.getD [])) m
      if m.isInterrupted then m else m.withStatus (if found then 0 else 1)

/-- Sets a variable that is given as a word with an equals sign, or only marks it. -/
def declareWord (m : Machine) (mark : Variable → Variable) (word : Octets) : Machine :=
  let name := word.takeWhile (· != '=')
  if !Octets.isName name then m.mistake (name ++ ": bad variable name".toList)
  else if name.length = word.length then m.change name mark
  else
    let m := m.assign name (word.drop (name.length + 1))
    if m.isInterrupted then m else m.change name mark

/-- Variables as they are listed, each with a word in front. -/
def listVariables (m : Machine) (before : Octets) (which : Variable → Bool) : Machine :=
  let those := (m.frame.bindings.filter which).mergeSort fun a b => Octets.isOrdered a.name b.name
  m.print (those.flatMap fun v =>
    before ++ v.name ++ (match v.value with
      | some value => '=' :: singleQuoted value
      | none => []) ++ ['\n'])

/-- Marks variables for the commands that are started, or as not to be changed. -/
def declareVariables (m : Machine) (readOnly : Bool) (args : List Octets) : Machine :=
  m.withLetters "p" args fun options words =>
    if words.isEmpty || !options.isEmpty then
      if readOnly then m.listVariables "readonly " Variable.readOnly
      else m.listVariables "export " Variable.exported
    else words.foldl (fun m word =>
      if m.isInterrupted then m
      else m.declareWord (fun v =>
        if readOnly then { v with readOnly := true } else { v with exported := true }) word) m

/-- Makes variables ones of the function. -/
def declareLocal (m : Machine) (args : List Octets) : Machine :=
  match m.frame.saved with
  | [] => m.mistake "not in a function"
  | _ => args.foldl (fun m word =>
    if m.isInterrupted then m
    else
      let name := word.takeWhile (· != '=')
      let before := (m.held? name).getD { name, value := none }
      let before :=
        if word = ['-'] then { name := ['-'], value := some m.frame.options } else before
      let m := m.withFrame fun f => { f with saved := match f.saved with
        | those :: outer => (those ++ [before]) :: outer
        | [] => [] }
      if word = ['-'] then m
      else if name.length = word.length && Octets.isName name then m
      else m.declareWord id word) m

/-- Gives variables back what they were before. -/
def restoreVariables (m : Machine) (before : List Variable) : Machine :=
  before.foldr (fun v m =>
    if v.name = ['-'] then m.withFrame fun f => { f with options := v.value.getD [] }
    else if v.value.isNone && !v.exported && !v.readOnly then m.remove v.name
    else m.change v.name fun _ => v) m

/-- Removes variables or functions. -/
def unset (m : Machine) (args : List Octets) : Machine :=
  m.withLetters "vf" args fun options names =>
    let kind := (options.getLast?).map Prod.fst
    names.foldl (fun m name =>
      if m.isInterrupted then m
      else if kind = some 'f' then
        m.withFrame fun f => { f with functions := f.functions.filter fun g => g.1 != name }
      else if !Octets.isName name then m.mistake (name ++ ": bad variable name".toList)
      else if m.isReadOnly name then m.mistake (name ++ ": is read only".toList)
      else m.remove name) m

/-- Takes arguments away from the front. -/
def shift (m : Machine) (args : List Octets) : Machine :=
  m.orMistake (match args with
    | word :: _ => number word
    | [] => .ok 1) fun n =>
    if m.frame.arguments.length < n then m.mistake "can't shift that many"
    else m.withFrame fun f => { f with
      arguments := f.arguments.drop n
      optionIndex := 1
      optionPlace := none }

/-- Reads the next option of the arguments into variables. -/
def nextOption (m : Machine) (args : List Octets) : Machine :=
  match args with
  | options :: name :: given =>
    let words := if given.isEmpty then m.frame.arguments else given
    let asked := ((m.get? "OPTIND").bind Octets.toNat?).getD 1
    let asked := if asked = 0 then 1 else asked
    let isMoved := asked != m.frame.optionIndex || words.length + 1 < asked
    let index := if words.length + 1 < asked then 1 else asked
    let rest : Option Octets := if isMoved || index ≤ 1 then none
      else m.frame.optionPlace.bind fun place =>
        (words[index - 2]?).bind fun word =>
          if word.length < place || (word.drop place).isEmpty then none else some (word.drop place)
    /- The letters that are left, and the number of words that are begun. -/
    let begun : Option Octets × Nat × Bool := match rest with
      | some letters => (some letters, index - 1, false)
      | none => match words[index - 1]? with
        | some ('-' :: c :: more) =>
          if c = '-' && more.isEmpty then (none, index, true) else (some (c :: more), index, false)
        | _ => (none, index - 1, true)
    let finish (m : Machine) (letter : Char) (count : Nat) (left : Octets) (status : Nat) :
        Machine :=
      let place := if left.isEmpty then none
        else (words[count - 1]?).map fun word => word.length - left.length
      let m := m.withFrame fun f => { f with optionIndex := count + 1, optionPlace := place }
      let m := m.assign "OPTIND" (Octets.ofNat (count + 1))
      let m := m.assign name [letter]
      if m.isInterrupted then m else m.withStatus status
    let isQuiet := options.head? = some ':'
    match begun with
    | (none, count, _) => finish m '?' count [] 1
    | (some [], count, _) => finish m '?' count [] 1
    | (some (c :: left), count, _) =>
      let place := options.idxOf c
      if c = ':' || options.length ≤ place then
        let m := if isQuiet then m.set "OPTARG" [c]
          else (m.complain ("Illegal option -".toList ++ [c, '\n'])).remove "OPTARG"
        finish m '?' count left 0
      else if options[place + 1]? = some ':' then
        if !left.isEmpty then finish (m.set "OPTARG" left) c count [] 0
        else match words[count]? with
          | some word => finish (m.set "OPTARG" word) c (count + 1) [] 0
          | none =>
            if isQuiet then finish (m.set "OPTARG" [c]) ':' count [] 0
            else finish ((m.complain ("No arg for -".toList ++ c :: " option\n".toList)).remove
              "OPTARG") '?' count [] 0
      else finish (m.set "OPTARG" []) c count left 0
  | _ => m.mistake "Usage: getopts optstring var [arg...]"

/-! ### Options -/

/-- The options of a shell: the names, and the letters of those that have one. -/
def shellOptions : List (String × Option Char) :=
  [("errexit", some 'e'), ("noglob", some 'f'), ("ignoreeof", some 'I'), ("interactive", some 'i'),
   ("monitor", some 'm'), ("noexec", some 'n'), ("stdin", some 's'), ("xtrace", some 'x'),
   ("verbose", some 'v'), ("vi", some 'V'), ("emacs", some 'E'), ("noclobber", some 'C'),
   ("allexport", some 'a'), ("notify", some 'b'), ("nounset", some 'u'), ("privileged", some 'p'),
   ("nolog", none), ("debug", none)]

/-- What is said when commands cannot be stopped and brought to the front. -/
def noTerminal : Octets := "can't access tty; job control turned off"

/-- Sets an option or takes it back. -/
def setOption (m : Machine) (letter : Char) (value : Bool) : Machine :=
  let letters := shellOptions.filterMap Prod.snd
  if !letters.contains letter then m.mistake ("Illegal option -".toList ++ [letter])
  else if letter = 'm' && value then m.warn noTerminal
  else m.withFrame fun f =>
    { f with options := (letters.filter fun c =>
        if c = letter then value else f.options.contains c).reverse }

/-- Sets an option that is given by name. -/
def setNamedOption (m : Machine) (name : Octets) (value : Bool) : Machine :=
  match shellOptions.find? fun o => o.1.toList = name with
  | some (_, some letter) => m.setOption letter value
  | some (_, none) => m
  | none => m.mistake ("Illegal option -o ".toList ++ name)

/-- Lists the options, as text or as commands. -/
def listOptions (m : Machine) (asCommands : Bool) : Machine :=
  let isSet (o : String × Option Char) : Bool := match o.2 with
    | some letter => m.hasOption letter
    | none => false
  if asCommands then
    m.print (shellOptions.flatMap fun o =>
      "set ".toList ++ (if isSet o then '-' else '+') :: 'o' :: ' ' :: o.1.toList ++ ['\n'])
  else
    m.print ("Current option settings\n".toList ++ shellOptions.flatMap fun o =>
      Octets.fill true 16 o.1.toList ++ (if isSet o then "on\n".toList else "off\n".toList))

/-- What the arguments of a shell come to. -/
structure Arguments where
  machine : Machine
  /-- The arguments that are left. -/
  rest : List Octets
  /-- What is left was told apart from the options. -/
  isApart : Bool := false
  /-- A text of commands is one of the arguments. -/
  hasText : Bool := false

/-- Reads the letters of options. At the start of a shell `c` stands for a text of commands. -/
def readOptionLetters (atStart value : Bool) (letters : Octets) (a : Arguments) : Arguments :=
  letters.foldl (fun a c =>
    if a.machine.isInterrupted then a
    else if c = 'c' && atStart then { a with hasText := true }
    else if c = 'l' && atStart then a
    else if c = 'o' then
      match a.rest with
      | name :: rest => { a with machine := a.machine.setNamedOption name value, rest }
      | [] => { a with machine := a.machine.listOptions (!value) }
    else { a with machine := a.machine.setOption c value }) a

/-- Reads the options at the start of arguments; `n` bounds how many words there are. -/
def readOptionWords (atStart : Bool) : Nat → Arguments → Arguments
  | 0, a => a
  | n + 1, a =>
    if a.machine.isInterrupted then a
    else match a.rest with
      | ['-'] :: rest =>
        { a with
          machine := if atStart then a.machine else a.machine.withFrame fun f =>
            { f with options := f.options.filter fun c => c != 'x' && c != 'v' }
          rest }
      | ['-', '-'] :: rest => { a with rest, isApart := true }
      | ('-' :: letters) :: rest =>
        readOptionWords atStart n (readOptionLetters atStart true letters { a with rest })
      | ('+' :: letters) :: rest =>
        readOptionWords atStart n (readOptionLetters atStart false letters { a with rest })
      | _ => a

/-- Sets options and arguments, or lists the variables. -/
def setCommand (m : Machine) (args : List Octets) : Machine :=
  if args.isEmpty then m.listVariables [] fun v => v.value.isSome
  else
    let a := readOptionWords false (args.length + 1) { machine := m, rest := args }
    if a.machine.isInterrupted || (a.rest.isEmpty && !a.isApart) then a.machine
    else a.machine.withFrame fun f =>
      { f with arguments := a.rest, optionIndex := 1, optionPlace := none }

/-- The rights in a mask, in letters. -/
def maskInLetters (mask : Nat) : Octets :=
  let rights (digit : Nat) : Octets :=
    (if digit / 4 % 2 = 0 then ['r'] else []) ++ (if digit / 2 % 2 = 0 then ['w'] else [])
      ++ (if digit % 2 = 0 then ['x'] else [])
  "u=".toList ++ rights (mask / 64) ++ ",g=".toList ++ rights (mask / 8) ++ ",o=".toList
    ++ rights mask

/-- The mask that a mode in letters makes of another one; nothing if it is no mode. -/
def maskFrom? (mode : Octets) (mask : Nat) : Option Nat :=
  (Octets.splitAt ',' mode).foldl (fun state clause =>
    state.bind fun mask =>
      let who := clause.takeWhile "ugoa".toList.contains
      match clause.drop who.length with
      | op :: rights =>
        if !"+-=".toList.contains op || !rights.all "rwx".toList.contains then none
        else
          let everyone := who.isEmpty || who.contains 'a'
          let value := (if rights.contains 'r' then 4 else 0)
            + (if rights.contains 'w' then 2 else 0) + (if rights.contains 'x' then 1 else 0)
          let digit (letter : Char) (place : Nat) : Nat :=
            let allowed := 7 - mask / place % 8
            let allowed := if !(everyone || who.contains letter) then allowed
              else if op = '+' then allowed ||| value
              else if op = '-' then allowed &&& (7 - value)
              else value
            (7 - allowed) * place
          some (digit 'u' 64 + digit 'g' 8 + digit 'o' 1)
      | [] => none) (some mask)

/-- Sets which rights new files do not have, or tells it. -/
def setMask (m : Machine) (args : List Octets) : Machine :=
  m.withLetters "S" args fun options words =>
    match words with
    | [] =>
      if options.isEmpty then
        let digits := Nat.toDigits 8 m.frame.mask
        m.print (List.replicate (4 - digits.length) '0' ++ digits ++ ['\n'])
      else m.print (maskInLetters m.frame.mask ++ ['\n'])
    | word :: _ =>
      if (word.head?.map Char.isDigit).getD false then
        if word.all Octets.isOctal then
          m.withFrame fun f => { f with mask := Octets.digitsValue 8 word % 512 }
        else m.mistake ("Illegal number: ".toList ++ word)
      else match maskFrom? word m.frame.mask with
        | some mask => m.withFrame fun f => { f with mask }
        | none => m.mistake ("Illegal mode: ".toList ++ word)

/-! ### Names of commands -/

/-- The commands of the shell itself. -/
def builtinNames : List String :=
  specialBuiltins ++ ["[", "alias", "bg", "cd", "chdir", "command", "echo", "false", "fg",
    "getopts", "hash", "jobs", "kill", "printf", "pwd", "read", "test", "true", "type", "ulimit",
    "umask", "unalias", "wait"]

/-- The search path of the process. -/
def searchPath (m : Machine) : Octets := (m.get? "PATH").getD []

/-- The file of a program on a search path; nothing if there is none. -/
def programOn? (m : Machine) (searchPath name : Octets) : Option Octets :=
  (filesFor searchPath name).find? fun file =>
    match m.look file with
    | .ok (.file _ _) => true
    | _ => false

/-- Remembers the place of a program. -/
def remember (m : Machine) (name : Octets) : Machine :=
  if name.contains '/' || m.frame.hashed.contains name then m
  else m.withFrame fun f => { f with hashed := f.hashed ++ [name] }

/-- Says what a name stands for, at length or in short; the status tells whether it stands for
anything. -/
def describe (m : Machine) (atLength : Bool) (searchPath name : Octets) : Machine :=
  let say (short : Octets) (long : Octets) : Machine :=
    (m.print (if atLength then name ++ long ++ ['\n'] else short ++ ['\n'])).withStatus 0
  let s := String.ofList name
  if reservedWords.contains s then say name " is a shell keyword"
  else match m.frame.aliases.find? fun a => a.1 = name with
  | some (_, text) =>
    say ("alias ".toList ++ name ++ '=' :: singleQuoted text) (" is an alias for ".toList ++ text)
  | none =>
    if specialBuiltins.contains s then say name " is a special shell builtin"
    else if m.frame.functions.any fun f => f.1 = name then say name " is a shell function"
    else if builtinNames.contains s then say name " is a shell builtin"
    else match m.programOn? searchPath name with
      | some file =>
        let isKnown := m.frame.hashed.contains name
        (say file ((if isKnown then " is a tracked alias for ".toList else " is ".toList)
          ++ file)).remember name
      | none =>
        let m := if atLength then m.print (name ++ ": not found\n".toList) else m
        m.withStatus 127

/-- Says what names stand for. -/
def describeAll (m : Machine) (names : List Octets) : Machine :=
  let (m, status) := names.foldl (fun (m, status) name =>
    let m := m.describe true m.searchPath name
    (m, if m.frame.status = 0 then status else m.frame.status)) (m, 0)
  m.withStatus status

/-- Remembers the places of programs, forgets them, or tells them. -/
def hashCommand (m : Machine) (args : List Octets) : Machine :=
  m.withLetters "r" args fun options names =>
    if !options.isEmpty then m.withFrame fun f => { f with hashed := [] }
    else if names.isEmpty then
      m.print (m.frame.hashed.flatMap fun name =>
        (m.programOn? m.searchPath name).getD [] ++ ['\n'])
    else names.foldl (fun m name =>
      let isKnown := builtinNames.contains (String.ofList name)
        || m.frame.functions.any fun f => f.1 = name
      if isKnown then m
      else match m.programOn? m.searchPath name with
        | some _ => m.remember name
        | none => (m.warn (name ++ ": not found".toList)).withStatus 1) m

/-- Makes aliases, or tells them. -/
def setAliases (m : Machine) (args : List Octets) : Machine :=
  let shown (a : Octets × Octets) : Octets := a.1 ++ '=' :: singleQuoted a.2 ++ ['\n']
  match args with
  | [] => m.print ((m.frame.aliases.mergeSort fun a b => Octets.isOrdered a.1 b.1).flatMap shown)
  | args => args.foldl (fun m word =>
    let name := word.takeWhile (· != '=')
    if name.length = word.length || name.isEmpty then
      match m.frame.aliases.find? fun a => a.1 = word with
      | some a => m.print (shown a)
      | none => (m.complain ("alias: ".toList ++ word ++ " not found\n".toList)).withStatus 1
    else m.withFrame fun f => { f with
      aliases := (name, word.drop (name.length + 1)) :: f.aliases.filter fun a => a.1 != name }) m

/-- Removes aliases. -/
def removeAliases (m : Machine) (args : List Octets) : Machine :=
  m.withLetters "a" args fun options names =>
    if !options.isEmpty then m.withFrame fun f => { f with aliases := [] }
    else names.foldl (fun m name =>
      if m.frame.aliases.any fun a => a.1 = name then
        m.withFrame fun f => { f with aliases := f.aliases.filter fun a => a.1 != name }
      else (m.complain ("unalias: ".toList ++ name ++ " not found\n".toList)).withStatus 1) m

/-! ### The course of commands -/

/-- Leaves loops or goes on with their next round. -/
def leaveLoops (m : Machine) (goesOn : Bool) (args : List Octets) : Machine :=
  let levels : Except Octets Nat := match args with
    | word :: _ => (number word).bind fun n =>
      if n = 0 then .error ("Illegal number: ".toList ++ word) else .ok n
    | [] => .ok 1
  m.orMistake levels fun n =>
    let n := min n m.frame.loops
    if n = 0 then m else m.interrupt (if goesOn then .nextRound n else .breakLoop n)

/-- The background command that a word stands for; nothing if there is none. -/
def jobFor (m : Machine) (word : Octets) : Except Octets (Option Job) :=
  if word.head? = some '%' then
    match Job.named? m.frame.jobs word with
    | some j => .ok (some j)
    | none => .error ("No such job: ".toList ++ word)
  else (number word).map fun n => m.frame.jobs.find? fun j => j.number = n

/-- Lists commands in the background, with their numbers or only those if that is asked for. -/
def listJobs (m : Machine) (args : List Octets) : Machine :=
  m.withLetters "lp" args fun options words =>
    let line (j : Job) (mark : Char) : Octets :=
      match options.getLast? with
      | some ('p', _) => Octets.ofNat j.number ++ ['\n']
      | option => j.line option.isSome m.clock mark
    if words.isEmpty then m.tellJobs line m.frame.jobs
    else words.foldl (fun m word =>
      if m.isInterrupted then m
      else m.orMistake (m.jobFor word) fun j => m.tellJobs line j.toList) m

/-- Brings a command to the front; none can be, as there is no terminal. -/
def resume (m : Machine) (args : List Octets) : Machine :=
  let refuse : Machine := m.mistake "job (null) not created under job control"
  match args with
  | word :: _ => m.orMistake (m.jobFor word) fun _ => refuse
  | [] => if m.frame.jobs.isEmpty then m.mistake "No current job" else refuse

/-- A command of the shell that does no other commands. -/
def builtin? (name : Octets) (args : List Octets) : Option (Machine → Machine) :=
  match String.ofList name with
  | ":" => some id
  | "true" => some id
  | "false" => some (·.withStatus 1)
  | "echo" => some (·.print (Format.shellEcho args))
  | "printf" => some (·.shellPrintf args)
  | "test" => some (·.shellTest false args)
  | "[" => some (·.shellTest true args)
  | "kill" => some (·.shellKill args)
  | "trap" => some (·.setTraps args)
  | "cd" => some (·.changeDirectory args)
  | "chdir" => some (·.changeDirectory args)
  | "pwd" => some fun m => m.withLetters "LP" args fun _ _ => m.print (m.frame.directory ++ ['\n'])
  | "read" => some (·.readVariables args)
  | "export" => some (·.declareVariables false args)
  | "readonly" => some (·.declareVariables true args)
  | "local" => some (·.declareLocal args)
  | "unset" => some (·.unset args)
  | "shift" => some (·.shift args)
  | "getopts" => some (·.nextOption args)
  | "set" => some (·.setCommand args)
  | "umask" => some (·.setMask args)
  | "type" => some (·.describeAll args)
  | "hash" => some (·.hashCommand args)
  | "alias" => some (·.setAliases args)
  | "unalias" => some (·.removeAliases args)
  | "break" => some (·.leaveLoops false args)
  | "continue" => some (·.leaveLoops true args)
  | "jobs" => some (·.listJobs args)
  | "fg" => some (·.resume args)
  | "bg" => some (·.resume args)
  | "times" => some (·.print "0m0.000000s 0m0.000000s\n0m0.000000s 0m0.000000s\n")
  | "ulimit" => some (·.print "unlimited\n")
  | _ => none

end Pasteboard.Shell.Machine
