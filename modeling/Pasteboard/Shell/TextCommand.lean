import Pasteboard.Shell.Filter
import Pasteboard.Shell.Regex

/-!
# Native commands on texts

The native commands that read files or the standard input and print something about them. Each is a
change of the machine: it reads its arguments, goes through its files, says what is wrong with them,
and leaves its status.
-/

namespace Pasteboard.Shell.Machine

/-- Does something with each file, or with the standard input for none. A file that cannot be read
is complained about in its turn. -/
def withFiles (m : Machine) (files : List Octets)
    (refuse : Octets → Obstacle → Machine → Machine)
    (f : Option Octets → Flow → Machine → Machine)
    (drain : Machine → Flow × Machine := Machine.drain) : Machine :=
  if files.isEmpty then
    let (flow, m) := drain m
    f none flow m
  else files.foldl (fun m name =>
    if m.isInterrupted then m
    else if name = ['-'] || descriptorOf? name = some 0 then
      let (flow, m) := drain m
      f (some name) flow m
    else match m.readFile name with
      | .ok flow => f (some name) flow m
      | .error o => refuse name o m) m

/-- The complaint that names a file and what is wrong with it. -/
def refuseFile (name : Octets) (o : Obstacle) (m : Machine) : Machine :=
  m.fileComplain [] (namedFile name) o

/-- The complaint of commands that open a file before they read it. -/
def refuseOpening (name : Octets) (o : Obstacle) (m : Machine) : Machine :=
  match o with
  | .isDirectory => m.fileComplain "error reading ".toList (quotedName name) o
  | o =>
    m.nativeFail 1 ("cannot open ".toList ++ quotedName name ++ " for reading: ".toList
      ++ Octets.ofText o.reason)

/-- Something that has to come to an end before anything is printed. -/
def atEnd (flow : Flow) (m : Machine) (f : Octets → Machine) : Machine :=
  if flow.isEndless then m.interrupt .stuck else f flow.now

/-! ### Files as they are -/

/-- A character so that it can be seen. -/
def visible (tabs : Bool) (c : Char) : Octets :=
  let plain (n : Nat) : Octets :=
    if n = 127 then "^?" else if n < 32 then ['^', Char.ofNat (n + 64)] else [Char.ofNat n]
  if c = '\n' then [c]
  else if c = '\t' then (if tabs then "^I" else [c])
  else if c.toNat < 128 then plain c.toNat
  else "M-".toList ++ plain (c.toNat - 128)

/-- What `cat` makes of lines: the numbers so far, whether the last line was blank, and the text. -/
def catLines (g : Given) (start : Nat × Bool) (o : Octets) : (Nat × Bool) × Octets :=
  let shows := g.has 'A' || g.has 'v' || g.has 'e' || g.has 't'
  let tabs := g.has 'A' || g.has 'T' || g.has 't'
  let ends := g.has 'A' || g.has 'E' || g.has 'e'
  (Octets.lines o).foldl (fun (s, done) l =>
    let isBlank := l = ['\n']
    if g.has 's' && isBlank && s.2 then (s, done)
    else
      let numbered := (g.has 'n' && !g.has 'b') || (g.has 'b' && !isBlank)
      let number := if numbered then Octets.fill false 6 (Octets.ofNat (s.1 + 1)) ++ ['\t'] else []
      let bare := if l.getLast? = some '\n' then l.dropLast else l
      let text := bare.flatMap fun c =>
        if shows then visible tabs c else if tabs && c = '\t' then "^I".toList else [c]
      let stop := if l.getLast? = some '\n' then (if ends then ['$', '\n'] else ['\n']) else []
      ((if numbered then s.1 + 1 else s.1, isBlank), done ++ number ++ text ++ stop))
    (start, [])

/-- Prints files one after the other. -/
def cat (m : Machine) (args : List Octets) : Machine :=
  let table : OptionTable := {
    plain := "benstuvAET"
    long := [("number-nonblank", .nothing, 'b'), ("number", .nothing, 'n'),
      ("squeeze-blank", .nothing, 's'), ("show-nonprinting", .nothing, 'v'),
      ("show-ends", .nothing, 'E'), ("show-tabs", .nothing, 'T'), ("show-all", .nothing, 'A'),
      ("help", .nothing, '?'), ("version", .nothing, '!')] }
  m.withOptions table 1 args fun g m =>
    match m.target? 1 with
    | none => m.nativeFail 1 "standard output: Bad file descriptor"
    | some (.source _) => m.nativeFail 1 "write error: Bad file descriptor"
    | some _ =>
      let plain := !("benstvAET".toList.any g.has)
      let print (flow : Flow) (s : Nat × Bool) (m : Machine) : (Nat × Bool) × Machine :=
        if plain then (s, m.write 1 flow)
        else
          let (s, o) := catLines g s flow.now
          (s, m.write 1 { now := o, cycle := flow.cycle })
      let files := if g.operands.isEmpty then [['-']] else g.operands
      let (_, m) := files.foldl (fun (s, m) name =>
        if m.isInterrupted then (s, m)
        else if name = ['-'] || descriptorOf? name = some 0 then
          if m.canRead then
            let (flow, m) := m.drain
            print flow s m
          else (s, m.nativeFail 1 "-: Bad file descriptor")
        else match m.readFile name with
          | .ok flow => print flow s m
          | .error o => (s, refuseFile name o m)) ((0, false), m)
      m.closeOutput 1

/-- Prints files with the lines, or the characters of each line, in reverse. -/
def reverseText (m : Machine) (byLine : Bool) (args : List Octets) : Machine :=
  m.withOptions {} 1 args fun g m =>
    let refuse (name : Octets) (o : Obstacle) (m : Machine) : Machine :=
      if byLine then
        m.nativeFail 1 ("failed to open ".toList ++ quotedName name ++ " for reading: ".toList
          ++ Octets.ofText o.reason)
      else m.nativeFail 1 ("cannot open ".toList ++ name ++ ": ".toList ++ Octets.ofText o.reason)
    m.withFiles g.operands refuse fun _ flow m =>
      atEnd flow m fun o =>
        let ls := Octets.lines o
        if byLine then m.print ls.reverse.flatten
        else m.print (ls.flatMap fun l =>
          if l.getLast? = some '\n' then l.dropLast.reverse ++ ['\n'] else l.reverse)

/-! ### Beginnings, ends and counts -/

/-- The options of `head` and `tail`. -/
def extentTable : OptionTable where
  plain := "qvzfF"
  valued := "cns"
  long := [("bytes", .something, 'c'), ("lines", .something, 'n'), ("quiet", .nothing, 'q'),
    ("silent", .nothing, 'q'), ("verbose", .nothing, 'v'), ("zero-terminated", .nothing, 'z'),
    ("follow", .maybe, 'f'), ("help", .nothing, '?'), ("version", .nothing, '!')]

/-- An old-style first argument: a number of lines, maybe with letters of options. -/
def oldExtent (sign : Char) (args : List Octets) : List Octets :=
  match args with
  | (mark :: c :: more) :: rest =>
    let digits := (c :: more).takeWhile Char.isDigit
    if (mark = '-' || (sign = '+' && mark = '+')) && c.isDigit then
      let letters := (c :: more).drop digits.length
      let number := if mark = '+' then '+' :: digits else digits
      if letters.isEmpty then ('-' :: 'n' :: number) :: rest
      else if letters = ['c'] then ('-' :: 'c' :: number) :: rest
      else if letters.all fun c => "qvz".toList.contains c then
        ('-' :: 'n' :: number) :: ('-' :: letters) :: rest
      else args
    else args
  | args => args

/-- Prints the beginnings or ends of files. -/
def extract (m : Machine) (fromEnd : Bool) (args : List Octets) : Machine :=
  let sign := if fromEnd then '+' else '-'
  let badTrail : Option Octets := match args with
    | ('-' :: c :: more) :: _ =>
      if c.isDigit && !fromEnd then
        ((c :: more).dropWhile Char.isDigit).find? (fun c => !"bckmqvz".toList.contains c)
          |>.map fun c => [c]
      else none
    | _ => none
  match badTrail with
  | some c => m.usageFail 1 ("invalid trailing option -- ".toList ++ c)
  | none =>
  m.withOptions extentTable 1 (oldExtent sign args) fun g m =>
    let asked := g.options.filter fun o => o.1 = 'n' || o.1 = 'c'
    let extentOf (o : Char × Octets) : Except Octets Filter.Extent :=
      let inLines := o.1 = 'n'
      let (signed, digits) := match o.2 with
        | s :: rest =>
          if s = sign then (true, rest)
          else if s = '+' || s = '-' then (false, rest) else (false, o.2)
        | [] => (false, [])
      match Filter.count? digits with
      | some count => .ok { inLines, count, signed }
      | none => .error ((if inLines then "invalid number of lines: ".toList
          else "invalid number of bytes: ".toList) ++ quoted o.2)
    match asked.mapM extentOf with
    | .error message => m.nativeFail 1 message
    | .ok extents =>
      let e := extents.getLastD {}
      let titles := g.last? "qv" = some 'v' || (g.last? "qv" != some 'q' && 1 < g.operands.length)
      let print (name : Option Octets) (flow : Flow) (m : Machine) : Machine :=
        if fromEnd then atEnd flow m fun o =>
          let m := m.print (Filter.tail e o)
          if (g.has 'f' || g.has 'F') && name.isSome then m.interrupt .stuck else m
        else
          let o := Filter.head e flow
          let rest := if flow.isEndless then flow else { now := flow.now.drop o.length }
          let m := match name with
            | some n => if n = ['-'] then m.leave rest else m
            | none => m.leave rest
          m.print o
      let drain (m : Machine) : Flow × Machine :=
        if fromEnd || e.signed then m.drain else m.drainUpTo e.measure e.count
      let title (isFirst : Bool) (name : Octets) (m : Machine) : Machine :=
        if titles then
          m.print ((if isFirst then [] else ['\n']) ++ "==> ".toList
            ++ (if name = ['-'] then "standard input".toList else name) ++ " <==\n".toList)
        else m
      if g.operands.isEmpty then (m.withFiles [] refuseOpening print drain).closeOutput 1
      else
        let (_, m) := g.operands.foldl (fun (isFirst, m) name =>
          (match m.look name with
            | .ok (.file _ _) => false
            | _ => name != ['-'] && isFirst,
          m.withFiles [name] refuseOpening
            (fun n flow m => print n flow (title isFirst name m)) drain))
          (true, m)
        m.closeOutput 1

/-- Texts are in UTF-8 for commands that tell characters from octets. -/
def isUtf8 (m : Machine) : Bool :=
  let chosen := (["LC_ALL", "LC_CTYPE", "LANG"].filterMap fun n => m.get? n.toList).find? fun v =>
    !v.isEmpty
  match chosen with
  | some v => ["C.UTF-8", "C.utf8"].contains (String.ofList v)
  | none => false

/-- Counts lines, words and octets. -/
def countText (m : Machine) (args : List Octets) : Machine :=
  let table : OptionTable := {
    plain := "clLmw"
    long := [("bytes", .nothing, 'c'), ("chars", .nothing, 'm'), ("lines", .nothing, 'l'),
      ("words", .nothing, 'w'), ("max-line-length", .nothing, 'L'), ("help", .nothing, '?'),
      ("version", .nothing, '!')] }
  m.withOptions table 1 args fun g m =>
    let letters := Filter.countLetters g
    let stdin := match m.inputChannel? with
      | some k => if (m.channel k).isFile then some ((m.channel k).flow.now.length) else none
      | none => none
    let sizes : List (Option Nat) :=
      (if g.operands.isEmpty then [['-']] else g.operands).map fun name =>
        if name = ['-'] then stdin
        else match m.look name with
          | .ok (.file content _) => some content.length
          | .ok .directory => none
          | .error _ => some 0
    let width :=
      if sizes.length = 1 && letters.length = 1 then 1
      else
        let total := sizes.foldl (fun n s => n + s.getD 0) 0
        max (Octets.ofNat total).length (if sizes.contains none then 7 else 1)
    let inUtf8 := m.isUtf8
    let add (sums ns : List Nat) : List Nat :=
      (letters.zip (sums.zip ns)).map fun (c, a, b) => if c = 'L' then max a b else a + b
    let zeros : List Nat := letters.map fun _ => 0
    let files := if g.operands.isEmpty then [none] else g.operands.map some
    let (sums, m) := files.foldl (fun (sums, m) name =>
      if m.isInterrupted then (sums, m)
      else
        let read : Except Obstacle (Flow × Machine) :=
          match name with
          | none => .ok m.drain
          | some n => if n = ['-'] then .ok m.drain else (m.readFile n).map fun f => (f, m)
        match read with
        | .ok (flow, m) =>
          if flow.isEndless then (sums, m.interrupt .stuck)
          else
            let ns := Filter.counts letters inUtf8 flow.now
            (add sums ns, m.print (Filter.countLine width ns name))
        | .error o =>
          let m := refuseFile (name.getD []) o m
          (sums, if o = .isDirectory then m.print (Filter.countLine width zeros name) else m))
      (zeros, m)
    let m := if 1 < g.operands.length && !m.isInterrupted then
        m.print (Filter.countLine width sums (some "total".toList)) else m
    m.closeOutput 1

/-! ### Characters and lines -/

/-- Exchanges characters. -/
def exchange (m : Machine) (args : List Octets) : Machine :=
  let table : OptionTable := {
    plain := "cCdst"
    long := [("complement", .nothing, 'c'), ("delete", .nothing, 'd'),
      ("squeeze-repeats", .nothing, 's'), ("truncate-set1", .nothing, 't'),
      ("help", .nothing, '?'), ("version", .nothing, '!')]
    permutes := false }
  m.withOptions table 1 args fun g m =>
    let deletes := g.has 'd'
    let squeezes := g.has 's'
    let least := if deletes = squeezes then 2 else 1
    let most := if deletes && !squeezes then 1 else 2
    let help (first : Octets) (second : List Octets) (m : Machine) : Machine :=
      let m := m.nativeComplain first
      ((second.foldl (fun m l => m.complain (l ++ ['\n'])) m).pointToHelp).withStatus 1
    match g.operands with
    | [] => m.usageFail 1 "missing operand"
    | first :: rest =>
      if rest.length + 1 < least then
        help ("missing operand after ".toList ++ quoted first)
          [if deletes then "Two strings must be given when both deleting and squeezing repeats."
            else "Two strings must be given when translating."] m
      else match rest.drop (most - 1) with
        | extra :: _ =>
          help ("extra operand ".toList ++ quoted extra)
            (if rest.length = 1 then
              ["Only one string may be given when deleting without squeezing repeats."]
            else []) m
        | [] =>
          match Filter.Exchange.of g first rest.head? with
          | .error message => m.nativeFail 1 message
          | .ok x =>
            let (flow, m) := m.drain
            (m.write 1 (x.apply flow)).closeOutput 1

/-- Prints lines in order. -/
def sortText (m : Machine) (args : List Octets) : Machine :=
  let table : OptionTable := {
    plain := "bcCdfghiMmnRrsuVz"
    valued := "kotST"
    long := [("ignore-leading-blanks", .nothing, 'b'), ("check", .maybe, 'c'),
      ("ignore-case", .nothing, 'f'), ("numeric-sort", .nothing, 'n'), ("key", .something, 'k'),
      ("reverse", .nothing, 'r'), ("stable", .nothing, 's'), ("output", .something, 'o'),
      ("field-separator", .something, 't'), ("unique", .nothing, 'u'), ("help", .nothing, '?'),
      ("version", .nothing, '!')] }
  m.withOptions table 2 args fun g m =>
    let keys : Except Octets (List Filter.Key) :=
      (g.options.filter fun o => o.1 = 'k').mapM fun o =>
        match Filter.key? o.2 with
        | some k => .ok k
        | none =>
          if o.2.head? = some '0' then
            .error ("field number is zero: invalid field specification ".toList ++ quoted o.2)
          else .error
            ("invalid number at field start: invalid count at start of ".toList ++ quoted o.2)
    let separator := (g.value? 't').getD [' ']
    match keys with
    | .error message => m.nativeFail 2 message
    | .ok keys =>
      if separator.isEmpty then m.nativeFail 2 "empty tab"
      else if 1 < separator.length && separator != "\\0".toList then
        m.nativeFail 2 ("multi-character tab ".toList ++ quoted separator)
      else
      let files := if g.operands.isEmpty then [['-']] else g.operands
      let (texts, m) := files.foldl (fun (texts, m) name =>
        if name = ['-'] then
          let (flow, m) := m.drain
          (texts ++ [flow], m)
        else match m.readFile name with
          | .ok flow => (texts ++ [flow], m)
          | .error o =>
            let before := if o = .isDirectory then "read failed: "
              else if g.has 'c' || g.has 'C' then "open failed: " else "cannot read: "
            (texts, m.nativeFail 2 (before.toList ++ namedFile name ++ ": ".toList
              ++ Octets.ofText o.reason))) ([], m)
      if m.frame.status = 2 then m
      else if texts.any Flow.isEndless then m.interrupt .stuck
      else
        let ls := texts.flatMap fun f => Filter.bareLines f.now
        if g.has 'c' || g.has 'C' then
          let ordered := Filter.sorted g keys ls
          if ordered = ls then m
          else
            let pairs := (ls.zip ordered).zipIdx
            match pairs.find? fun p => p.1.1 != p.1.2 with
            | some (_, i) =>
              let rec firstDisorder (n : Nat) (ls : List Octets) : Nat × Octets :=
                match ls with
                | a :: b :: rest =>
                  if Filter.sorted g keys [a, b] = [a, b] then firstDisorder (n + 1) (b :: rest)
                  else (n + 1, b)
                | _ => (i + 1, [])
              let (n, l) := firstDisorder 1 ls
              if g.has 'C' then m.withStatus 1
              else m.nativeFail 1 (files.headD [] ++ ':' :: Octets.ofNat n ++ ": disorder: ".toList
                ++ l)
            | none => m
        else
          let o := Filter.unlines (Filter.sorted g keys ls)
          match g.value? 'o' with
          | none => (m.print o).closeOutput 2
          | some name =>
            match m.openOutput name false with
            | .ok (t, m) => m.writeTo (some t) { now := o }
            | .error ob => m.nativeFail 2 ("open failed: ".toList ++ namedFile name ++ ": ".toList
                ++ Octets.ofText ob.reason)

/-- Prints lines without repetitions. -/
def uniqueText (m : Machine) (args : List Octets) : Machine :=
  let table : OptionTable := {
    plain := "cdDiuz"
    valued := "fsw"
    long := [("count", .nothing, 'c'), ("repeated", .nothing, 'd'), ("ignore-case", .nothing, 'i'),
      ("unique", .nothing, 'u'), ("skip-fields", .something, 'f'),
      ("skip-chars", .something, 's'), ("help", .nothing, '?'), ("version", .nothing, '!')] }
  m.withOptions table 1 args fun g m =>
    match g.operands.drop 2 with
    | extra :: _ => m.usageFail 1 ("extra operand ".toList ++ quoted extra)
    | [] => m.withFiles (g.operands.take 1) refuseFile fun _ flow m =>
      atEnd flow m fun o => (m.print (Filter.unique g o)).closeOutput 1

/-- Prints parts of lines. -/
def cutText (m : Machine) (args : List Octets) : Machine :=
  let table : OptionTable := {
    plain := "nsz"
    valued := "bcdfO"
    long := [("bytes", .something, 'b'), ("characters", .something, 'c'),
      ("fields", .something, 'f'), ("delimiter", .something, 'd'),
      ("only-delimited", .nothing, 's'), ("output-delimiter", .something, 'O'),
      ("complement", .nothing, 'N'), ("help", .nothing, '?'), ("version", .nothing, '!')] }
  m.withOptions table 1 args fun g m =>
    let lists := g.options.filter fun o => o.1 = 'b' || o.1 = 'c' || o.1 = 'f'
    match lists with
    | [] => m.usageFail 1 "you must specify a list of bytes, characters, or fields"
    | _ :: _ :: _ => m.usageFail 1 "only one list may be specified"
    | [(letter, list)] =>
      let byField := letter = 'f'
      let delimiter := (g.value? 'd').getD ['\t']
      if 1 < delimiter.length then m.usageFail 1 "the delimiter must be a single character"
      else if g.has 'd' && !byField then
        m.usageFail 1 "an input delimiter may be specified only when operating on fields"
      else if g.has 's' && !byField then
        m.usageFail 1
          "suppressing non-delimited lines makes sense\n\tonly when operating on fields"
      else match Filter.ranges? (if byField then "field" else "byte") list with
        | .error message => m.usageFail 1 message
        | .ok ranges =>
          let mark := delimiter.headD (Char.ofNat 0)
          let joint := (g.value? 'O').getD (if byField then [mark] else [])
          m.withFiles g.operands refuseFile fun _ flow m =>
            atEnd flow m fun o =>
              let ls := (Filter.bareLines o).filterMap
                (Filter.cutLine ranges byField (g.has 's') mark joint)
              (m.print (Filter.unlines ls)).closeOutput 1

/-- Numbers the lines that are not blank. -/
def numberLines (m : Machine) (args : List Octets) : Machine :=
  m.withOptions { valued := "bw" } 1 args fun g m =>
    m.withFiles g.operands refuseFile fun _ flow m =>
      atEnd flow m fun o =>
        let (_, text) := (Octets.lines o).foldl (fun (n, done) l =>
          let bare := if l.getLast? = some '\n' then l.dropLast else l
          if bare.isEmpty && g.value? 'b' != some ['a'] then
            (n, done ++ List.replicate 7 ' ' ++ ['\n'])
          else
            (n + 1, done ++ Octets.fill false 6 (Octets.ofNat (n + 1)) ++ '\t' :: bare ++ ['\n']))
          (0, [])
        m.print text

/-- Prints numbers in a row. -/
def countUp (m : Machine) (args : List Octets) : Machine :=
  let isNumber (a : Octets) : Bool :=
    match a with
    | '-' :: c :: _ => c.isDigit || c = '.'
    | _ => false
  let options := args.takeWhile fun a => a.head? = some '-' && !isNumber a
  let rec given (args : List Octets) (sep format : Octets) (wide : Bool) :
      Except Octets (List Octets × Octets × Octets × Bool) :=
    match args with
    | ['-', '-'] :: rest => .ok (rest, sep, format, wide)
    | ['-', 'w'] :: rest => given rest sep format true
    | ['-', 's'] :: s :: rest => given rest s format wide
    | ['-', 'f'] :: f :: rest => given rest sep f wide
    | ('-' :: 's' :: s) :: rest => given rest s format wide
    | ('-' :: 'f' :: f) :: rest => given rest sep f wide
    | a :: rest =>
      if a.head? = some '-' && !isNumber a && a.length > 1 then
        .error ("invalid option -- ".toList ++ [Octets.apostrophe, a[1]?.getD '-',
          Octets.apostrophe])
      else .ok (a :: rest, sep, format, wide)
    | [] => .ok ([], sep, format, wide)
  match given args ['\n'] [] (options.contains ['-', 'w']) with
  | .error message => m.usageFail 1 message
  | .ok (operands, sep, format, wide) =>
    match operands with
    | [] => m.usageFail 1 "missing operand"
    | _ =>
      if 3 < operands.length then
        m.usageFail 1 ("extra operand ".toList ++ quoted (operands[3]?.getD []))
      else match operands.find? fun o => (Filter.decimal? o).isNone with
        | some o => m.usageFail 1 ("invalid floating point argument: ".toList ++ quoted o)
        | none =>
          let one : Int × Nat := (1, 0)
          let (first, step, last) := match operands.filterMap Filter.decimal? with
            | [last] => (one, one, last)
            | [first, last] => (first, one, last)
            | [first, step, last] => (first, step, last)
            | _ => (one, one, (0, 0))
          if step.1 = 0 then
            m.usageFail 1 ("invalid Zero increment value: ".toList ++ quoted (operands[1]?.getD []))
          else
            let ns := Filter.sequence first step last
            let ns := if wide then Filter.equallyWide ns else ns
            let ns := if format.isEmpty then ns else ns.map fun n =>
              (Format.printf .native format [n]).events.flatMap fun e =>
                if e.1 = 1 then e.2 else []
            if ns.isEmpty then m
            else (m.print (Octets.join sep ns ++ ['\n'])).closeOutput 1

/-! ### Lines that match -/

/-- Prints the lines that hold a match. -/
def grep (m : Machine) (args : List Octets) : Machine :=
  let table : OptionTable := {
    plain := "EFGPcHhiylLnoqrRsvwxaIUz"
    valued := "efmABC"
    long := [("extended-regexp", .nothing, 'E'), ("fixed-strings", .nothing, 'F'),
      ("basic-regexp", .nothing, 'G'), ("regexp", .something, 'e'), ("count", .nothing, 'c'),
      ("ignore-case", .nothing, 'i'), ("invert-match", .nothing, 'v'),
      ("line-number", .nothing, 'n'), ("only-matching", .nothing, 'o'), ("quiet", .nothing, 'q'),
      ("silent", .nothing, 'q'), ("word-regexp", .nothing, 'w'), ("line-regexp", .nothing, 'x'),
      ("files-with-matches", .nothing, 'l'), ("max-count", .something, 'm'),
      ("no-messages", .nothing, 's'), ("no-filename", .nothing, 'h'),
      ("with-filename", .nothing, 'H'), ("help", .nothing, '?'), ("version", .nothing, '!')] }
  let usage (m : Machine) : Machine :=
    ((m.complain ("Usage: ".toList ++ m.frame.name
      ++ " [OPTION]... PATTERNS [FILE]...\n".toList)).pointToHelp).withStatus 2
  match table.read args with
  | .error message => usage (m.nativeComplain message)
  | .ok g =>
    let asked := (g.options.filter fun o => o.1 = 'e').map Prod.snd
    match asked, g.operands with
    | [], [] => usage m
    | _, _ =>
      let (patterns, files) := if asked.isEmpty then (g.operands.take 1, g.operands.drop 1)
        else (asked, g.operands)
      let kind := g.last? "EFG"
      let style : Regex.Style := {
        extended := kind = some 'E'
        ignoresCase := g.has 'i' || g.has 'y' }
      let one (o : Octets) : Except Octets Regex :=
        if kind = some 'F' then .ok (Regex.ofText style o) else Regex.read style o
      match (patterns.flatMap (Octets.splitAt '\n')).mapM one with
      | .error message => m.nativeFail 2 message
      | .ok [] => usage m
      | .ok (r :: more) =>
        let r := more.foldl Regex.either r
        let r := if g.has 'x' then .behind .lineStart (.behind r .lineEnd)
          else if g.has 'w' then .behind (.edge true false) (.behind r (.edge false true))
          else r
        let most := ((g.value? 'm').bind Octets.toNat?)
        let named := g.has 'H' || (1 < files.length && !g.has 'h')
        let refuse (name : Octets) (o : Obstacle) (m : Machine) : Machine :=
          if g.has 's' then m.withStatus 2
          else m.nativeFail 2 (name ++ ": ".toList ++ Octets.ofText o.reason)
        let rec pieces (n place : Nat) (text : Array Char) : List Octets :=
          match n with
          | 0 => []
          | n + 1 =>
            match r.find? text place with
            | some (start, stop, _) =>
              if stop = start then
                if text.size ≤ stop then [] else pieces n (stop + 1) text
              else (text.extract start stop).toList :: pieces n stop text
            | none => []
        let scan (name : Option Octets) (flow : Flow) (m : Machine) : Machine :=
          if flow.isEndless && !g.has 'q' then m.interrupt .stuck
          else
            let o := if flow.isEndless then flow.take (flow.now.length + flow.cycle.length)
              else flow.now
            let ls := (Filter.bareLines o).zipIdx
            let chosen := ls.filter fun l => (r.find? l.1.toArray 0).isSome != g.has 'v'
            let chosen := match most with
              | some n => chosen.take n
              | none => chosen
            let label := if named then (name.getD "(standard input)".toList) ++ [':'] else []
            let m := if chosen.isEmpty then m
              else if m.frame.status = 2 then m else m.withStatus 0
            if g.has 'q' then m
            else if g.has 'l' then
              if chosen.isEmpty then m
              else m.print (name.getD "(standard input)".toList ++ ['\n'])
            else if g.has 'L' then
              if chosen.isEmpty then m.print (name.getD "(standard input)".toList ++ ['\n']) else m
            else if g.has 'c' then m.print (label ++ Octets.ofNat chosen.length ++ ['\n'])
            else m.print (chosen.flatMap fun (l, i) =>
              let front := label ++ (if g.has 'n' then Octets.ofNat (i + 1) ++ [':'] else [])
              if g.has 'o' then
                (pieces (l.length + 1) 0 l.toArray).flatMap fun p => front ++ p ++ ['\n']
              else front ++ l ++ ['\n'])
        let before := m.withStatus 1
        let m := before.withFiles files refuse scan
        m.closeOutput 2

/-! ### Octets as numbers -/

/-- Digits of a number, filled up with zeros. -/
def zeroFilled (base width n : Nat) : Octets :=
  let digits := Nat.toDigits base n
  List.replicate (width - digits.length) '0' ++ digits

/-- An octet as `od -c` shows it. -/
def dumpedChar (c : Char) : Octets :=
  let escapes : List (Nat × String) :=
    [(0, "\\0"), (7, "\\a"), (8, "\\b"), (9, "\\t"), (10, "\\n"), (11, "\\v"), (12, "\\f"),
     (13, "\\r")]
  match escapes.find? fun e => e.1 = c.toNat with
  | some (_, s) => s.toList
  | none => if Octets.isPrintable c then [c] else zeroFilled 8 3 c.toNat

/-- Prints octets as numbers. -/
def dump (m : Machine) (args : List Octets) : Machine :=
  let table : OptionTable := {
    plain := "abcdfilosvx"
    valued := "AjNtw"
    long := [("address-radix", .something, 'A'), ("format", .something, 't'),
      ("skip-bytes", .something, 'j'), ("read-bytes", .something, 'N'),
      ("output-duplicates", .nothing, 'v'), ("help", .nothing, '?'), ("version", .nothing, '!')] }
  m.withOptions table 1 args fun g m =>
    let format := if g.has 'c' then ['c'] else if g.has 'b' then "o1".toList
      else if g.has 'x' then "x2".toList else (g.value? 't').getD "o2".toList
    let radix := (g.value? 'A').getD ['o']
    let address (n : Nat) : Octets := match radix with
      | ['n'] => []
      | ['d'] => zeroFilled 10 7 n
      | ['x'] => zeroFilled 16 6 n
      | _ => zeroFilled 8 7 n
    let size := ((Octets.toNat? (format.drop 1)).getD (if format = ['c'] then 1 else 4))
    let numbers (base width : Nat) (o : Octets) : Octets :=
      let rec go (n : Nat) (o : Octets) : Octets :=
        match n with
        | 0 => []
        | n + 1 =>
          if o.isEmpty then []
          else
            let value := ((o.take size).reverse).foldl (fun v c => v * 256 + c.toNat) 0
            ' ' :: zeroFilled base width value ++ go n (o.drop size)
      go (o.length + 1) o
    let line (o : Octets) : Octets :=
      match format.head? with
      | some 'c' => o.flatMap fun c => Octets.fill false 4 (dumpedChar c)
      | some 'x' => numbers 16 (2 * size) o
      | some 'o' => numbers 8 (if size = 1 then 3 else if size = 2 then 6 else 11) o
      | some _ => numbers 10 (if size = 1 then 3 else 5) o
      | none => []
    let rec rows (n place : Nat) (before : Option Octets) (starred : Bool) (o : Octets) : Octets :=
      match n with
      | 0 => []
      | n + 1 =>
        if o.isEmpty then (if radix = ['n'] then [] else address place ++ ['\n'])
        else
          let row := o.take 16
          let isSame := before = some row && row.length = 16 && !g.has 'v'
          if isSame then
            (if starred then [] else ['*', '\n']) ++ rows n (place + 16) before true (o.drop 16)
          else
            address place ++ line row ++ '\n' :: rows n (place + row.length) (some row) false
              (o.drop 16)
    let (flows, m) := if g.operands.isEmpty then
        let (flow, m) := m.drain
        ([flow], m)
      else g.operands.foldl (fun (flows, m) name =>
        if name = ['-'] then
          let (flow, m) := m.drain
          (flows ++ [flow], m)
        else match m.readFile name with
          | .ok flow => (flows ++ [flow], m)
          | .error o => (flows, refuseFile name o m)) ([], m)
    if flows.isEmpty then m
    else
      let most := (g.value? 'N').bind Octets.toNat?
      let skip := ((g.value? 'j').bind Octets.toNat?).getD 0
      let flow := flows.foldl Flow.append {}
      if flow.isEndless && most.isNone then m.interrupt .stuck
      else
        let o := match most with
          | some n => (flow.take (skip + n)).drop skip
          | none => flow.now.drop skip
        m.print (rows (o.length + 2) skip none false o)

/-- The digits of base 64. -/
def base64Digits : Octets :=
  "ABCDEFGHIJKLMNOPQRSTUVWXYZabcdefghijklmnopqrstuvwxyz0123456789+/"

/-- Octets in base 64. -/
def toBase64 : Octets → Octets
  | [] => []
  | [a] =>
    let n := a.toNat * 16
    [base64Digits.getD (n / 64) '=', base64Digits.getD (n % 64) '=', '=', '=']
  | [a, b] =>
    let n := (a.toNat * 256 + b.toNat) * 4
    [base64Digits.getD (n / 4096) '=', base64Digits.getD (n / 64 % 64) '=',
      base64Digits.getD (n % 64) '=', '=']
  | a :: b :: c :: rest =>
    let n := (a.toNat * 256 + b.toNat) * 256 + c.toNat
    base64Digits.getD (n / 262144) '=' :: base64Digits.getD (n / 4096 % 64) '='
      :: base64Digits.getD (n / 64 % 64) '=' :: base64Digits.getD (n % 64) '=' :: toBase64 rest

/-- The octets of base 64, and whether all of it is right. -/
def ofBase64 : Octets → Octets × Bool
  | [] => ([], true)
  | a :: b :: c :: d :: rest =>
    let value? (x : Char) : Option Nat :=
      let i := base64Digits.idxOf x
      if i < 64 then some i else none
    match value? a, value? b, value? c, value? d with
    | some i, some j, some k, some l =>
      let v := ((i * 64 + j) * 64 + k) * 64 + l
      let (o, fine) := ofBase64 rest
      (Char.ofNat (v / 65536) :: Char.ofNat (v / 256 % 256) :: Char.ofNat (v % 256) :: o, fine)
    | some i, some j, some k, none =>
      let v := ((i * 64 + j) * 64 + k) / 4
      ([Char.ofNat (v / 256), Char.ofNat (v % 256)], d = '=' && rest.isEmpty)
    | some i, some j, none, _ =>
      ([Char.ofNat ((i * 64 + j) / 16)], c = '=' && d = '=' && rest.isEmpty)
    | _, _, _, _ => ([], false)
  | [a, b, c] =>
    let (i, j, k) := (base64Digits.idxOf a, base64Digits.idxOf b, base64Digits.idxOf c)
    let v := ((i * 64 + j) * 64 + k) / 4
    if 64 ≤ i || 64 ≤ j then ([], false)
    else if 64 ≤ k then ([Char.ofNat ((i * 64 + j) / 16)], false)
    else ([Char.ofNat (v / 256), Char.ofNat (v % 256)], false)
  | [a, b] =>
    let (i, j) := (base64Digits.idxOf a, base64Digits.idxOf b)
    if 64 ≤ i || 64 ≤ j then ([], false) else ([Char.ofNat ((i * 64 + j) / 16)], false)
  | [_] => ([], false)

/-- Lines of a width. -/
def wrapped (width : Nat) : Nat → Octets → Octets
  | 0, _ => []
  | n + 1, o =>
    if o.isEmpty then []
    else if width = 0 then o
    else o.take width ++ '\n' :: wrapped width n (o.drop width)

/-- Writes octets in base 64, or reads them. -/
def base64 (m : Machine) (args : List Octets) : Machine :=
  let table : OptionTable := {
    plain := "di"
    valued := "w"
    long := [("decode", .nothing, 'd'), ("ignore-garbage", .nothing, 'i'),
      ("wrap", .something, 'w'), ("help", .nothing, '?'), ("version", .nothing, '!')] }
  m.withOptions table 1 args fun g m =>
    m.withFiles (g.operands.take 1) refuseFile fun _ flow m =>
      atEnd flow m fun o =>
        if g.has 'd' then
          let o := o.filter fun c => c != '\n' && (!g.has 'i' || base64Digits.contains c || c = '=')
          let (text, fine) := ofBase64 o
          let m := m.print text
          if fine then m else m.nativeFail 1 "invalid input"
        else
          let width := ((g.value? 'w').bind Octets.toNat?).getD 76
          m.print (wrapped width (o.length * 2 + 1) (toBase64 o))

end Pasteboard.Shell.Machine
