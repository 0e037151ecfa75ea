import Pasteboard.Shell.Regex

/-!
# Scripts for lines

A script is a list of commands that are done for every line of a text, each with the lines that it
is for. This module reads scripts. A mistake is told together with how much of the script was left
at that point.
-/

namespace Pasteboard.Shell.LineScript

/-- A description of lines. -/
inductive Place
  | number (n : Nat)
  /-- From some line on, one out of so many. -/
  | every (first step : Nat)
  | last
  /-- Lines with a match; without an expression, the one that was used last. -/
  | holding (r : Option Regex)

/-- The end of a range of lines. -/
inductive RangeEnd
  | place (p : Place)
  /-- So many lines behind the start. -/
  | after (count : Nat)
  /-- The next line whose number is a multiple. -/
  | multipleOf (n : Nat)

/-- The lines that a command is for: all, those of a place, or ranges. -/
structure Selection where
  first : Option Place := none
  second : Option RangeEnd := none
  negated : Bool := false

/-- A part of what a match is replaced by. -/
inductive Fragment
  | text (o : Octets)
  /-- What a group has matched, or all of the match for zero. -/
  | group (number : Nat)
  /-- From here on letters change their case, by the letter of the escape. -/
  | letters (kind : Char)

/-- The replacement of matches. -/
structure Replacement where
  pattern : Option Regex
  parts : List Fragment
  /-- The first match that is replaced. -/
  start : Nat := 1
  /-- The matches behind it are, too. -/
  everywhere : Bool := false
  prints : Bool := false
  file : Option Octets := none

/-- A command of a script. -/
inductive Step
  | replace (r : Replacement)
  | exchange (old new : Octets)
  /-- A text that is put before or behind a line or in its place, by the letter of the command. -/
  | text (letter : Char) (o : Octets)
  /-- A command that is no more than its letter. -/
  | plain (letter : Char)
  | quit (letter : Char) (status : Nat)
  | file (letter : Char) (name : Octets)
  | label (name : Octets)
  | jump (letter : Char) (name : Octets)
  | opening
  | closing

/-- A script. -/
abbrev Script := Array (Selection × Step)

/-- What is read, or what is wrong, and how much was left then. -/
abbrev Checked := Except (Octets × Nat)

/-- A mistake that is met where something is left. -/
def mistake {α : Type} (message : String) (left : Octets) : Checked α :=
  .error (message.toList, left.length)

/-- Without the spaces and tabs in front. -/
def skipBlanks (o : Octets) : Octets := o.dropWhile fun c => c = ' ' || c = '\t'

/-- The rest of a class in brackets, with what is behind it. -/
def classRest : Octets → Octets × Octets
  | [] => ([], [])
  | '[' :: c :: rest =>
    if c = ':' || c = '.' || c = '=' then
      let name := rest.takeWhile (· != ']')
      let (more, after) := classRest (rest.drop (name.length + 1))
      ('[' :: c :: name ++ ']' :: more, after)
    else
      let (more, after) := classRest (c :: rest)
      ('[' :: more, after)
  | ']' :: rest => ([']'], rest)
  | c :: rest =>
    let (more, after) := classRest rest
    (c :: more, after)
termination_by o => o.length
decreasing_by all_goals simp_wf <;> omega

/-- The text up to a mark, in which a backslash takes the meaning from a mark. In a pattern, marks
in brackets do not count. -/
def upTo (mark : Char) (isPattern : Bool) : Nat → Octets → Option (Octets × Octets)
  | 0, _ => none
  | _, [] => none
  | _, '\n' :: _ => none
  | n + 1, '\\' :: c :: rest =>
    let kept := if c = 'n' && isPattern then ['\n']
      else if c = '\n' || (c = mark && (isPattern || c != '&')) then [c]
      else ['\\', c]
    (upTo mark isPattern n rest).map fun (o, rest) => (kept ++ o, rest)
  | n + 1, c :: rest =>
    if c = mark then some ([], rest)
    else if c = '[' && isPattern then
      let (start, rest) := match rest with
        | '^' :: ']' :: rest => (['^', ']'], rest)
        | '^' :: rest => (['^'], rest)
        | ']' :: rest => ([']'], rest)
        | rest => ([], rest)
      let (inside, rest) := classRest rest
      (upTo mark isPattern n rest).map fun (o, rest) => ('[' :: start ++ inside ++ o, rest)
    else (upTo mark isPattern n rest).map fun (o, rest) => (c :: o, rest)

/-- An expression; the empty one stands for the one used last. -/
def pattern (style : Regex.Style) (o left : Octets) : Checked (Option Regex) :=
  if o.isEmpty then .ok none
  else match Regex.read style o with
    | .ok r => .ok (some r)
    | .error message => .error (message, left.length)

/-- The number at the start, and what follows it. -/
def digits (o : Octets) : Nat × Octets :=
  let ds := o.takeWhile Char.isDigit
  (Octets.digitsValue 10 ds, o.drop ds.length)

/-- What is left where a text between marks has no end. -/
def endOfLine (o : Octets) : Octets := o.dropWhile (· != '\n')

/-- The place at the start, if there is one. -/
def place? (extended : Bool) (o : Octets) : Checked (Option Place × Octets) :=
  let holding (mark : Char) (rest : Octets) : Checked (Option Place × Octets) :=
    match upTo mark true rest.length rest with
    | none => mistake "unterminated address regex" (endOfLine rest)
    | some (o, rest) => do
      let (ignoresCase, rest) := match rest with
        | 'I' :: rest => (true, rest)
        | rest => (false, rest)
      let r ← pattern { extended, ignoresCase } o rest
      pure (some (.holding r), rest)
  match o with
  | '$' :: rest => .ok (some .last, rest)
  | '/' :: rest => holding '/' rest
  | '\\' :: mark :: rest => holding mark rest
  | c :: _ =>
    if !c.isDigit then .ok (none, o)
    else match digits o with
      | (n, '~' :: rest) =>
        let (step, rest) := digits rest
        .ok (some (if step = 0 then .number n else .every n step), rest)
      | (n, rest) => .ok (some (.number n), rest)
  | [] => .ok (none, [])

/-- The lines that a command is for. -/
def selection (extended : Bool) (o : Octets) : Checked (Selection × Octets) := do
  let (first, rest) ← place? extended o
  let rest := if first.isSome then skipBlanks rest else rest
  let (second, rest) ← match first, rest with
    | some _, ',' :: more =>
      match skipBlanks more with
      | '+' :: more =>
        let (n, rest) := digits more
        pure (some (RangeEnd.after n), rest)
      | '~' :: more =>
        let (n, rest) := digits more
        pure (some (RangeEnd.multipleOf n), rest)
      | more => do
        match ← place? extended more with
        | (some p, rest) => pure (some (RangeEnd.place p), rest)
        | (none, rest) => mistake "unexpected `,'" (rest.drop 1)
    | _, rest => pure (none, rest)
  match first, second with
  | some (.number 0), some (.place (.holding _)) => pure ()
  | some (.number 0), _ => mistake "invalid usage of line address 0" (rest.drop 1)
  | _, _ => pure ()
  match if first.isSome then skipBlanks rest else rest with
  | '!' :: rest =>
    match skipBlanks rest with
    | '!' :: rest => mistake "multiple `!'s" rest
    | rest => pure ({ first, second, negated := true }, rest)
  | rest => pure ({ first, second }, rest)

/-- The parts of a replacement. -/
def fragments : Octets → List Fragment
  | [] => []
  | '&' :: rest => .group 0 :: fragments rest
  | '\\' :: c :: rest =>
    (if c.isDigit then .group (c.toNat - 48)
      else match c with
        | 'n' => .text ['\n']
        | 't' => .text ['\t']
        | 'r' => .text ['\r']
        | 'U' => .letters 'U'
        | 'L' => .letters 'L'
        | 'u' => .letters 'u'
        | 'l' => .letters 'l'
        | 'E' => .letters 'E'
        | c => .text [c]) :: fragments rest
  | c :: rest => .text [c] :: fragments rest

/-- The greatest number of a group. -/
def highestGroup (ps : List Fragment) : Nat :=
  ps.foldl (fun n p => match p with
    | .group k => max n k
    | _ => n) 0

/-- Reads the letters behind a replacement; with whether case counts. -/
def replacementLetters : Nat → Replacement → Bool → Octets → Checked ((Replacement × Bool) × Octets)
  | 0, r, ignoresCase, o => .ok ((r, ignoresCase), o)
  | n + 1, r, ignoresCase, o =>
    match o with
    | [] => .ok ((r, ignoresCase), [])
    | c :: rest =>
      match c with
      | '\n' => .ok ((r, ignoresCase), rest)
      | ';' => .ok ((r, ignoresCase), rest)
      | '#' => .ok ((r, ignoresCase), o)
      | '\x7d' => .ok ((r, ignoresCase), o)
      | ' ' => replacementLetters n r ignoresCase rest
      | '\t' => replacementLetters n r ignoresCase rest
      | 'i' => replacementLetters n r true rest
      | 'I' => replacementLetters n r true rest
      | 'm' => replacementLetters n r ignoresCase rest
      | 'M' => replacementLetters n r ignoresCase rest
      | 'g' =>
        if r.everywhere then mistake "multiple `g' options to `s' command" rest
        else replacementLetters n { r with everywhere := true } ignoresCase rest
      | 'p' =>
        if r.prints then mistake "multiple `p' options to `s' command" rest
        else replacementLetters n { r with prints := true } ignoresCase rest
      | 'w' =>
        let name := (skipBlanks rest).takeWhile (· != '\n')
        if name.isEmpty then mistake "missing filename in r/R/w/W commands" []
        else .ok (({ r with file := some name }, ignoresCase), endOfLine rest)
      | c =>
        if c.isDigit then
          let (start, rest) := digits o
          if start = 0 then mistake "number option to `s' command may not be zero" rest
          else replacementLetters n { r with start } ignoresCase rest
        else mistake "unknown option to `s'" rest

/-- Reads a replacement, behind its letter. -/
def replacement (extended : Bool) (o : Octets) : Checked (Step × Octets) :=
  let unfinished : Checked (Step × Octets) := mistake "unterminated `s' command" (endOfLine o)
  match o with
  | [] => unfinished
  | mark :: rest =>
    match upTo mark true rest.length rest with
    | none => unfinished
    | some (old, rest) =>
      match upTo mark false rest.length rest with
      | none => unfinished
      | some (new, rest) => do
        let ps := fragments new
        let ((r, ignoresCase), rest) ←
          replacementLetters (rest.length + 1) { pattern := none, parts := ps } false rest
        let p ← pattern { extended, ignoresCase } old rest
        match p with
        | some q =>
          if q.groups < highestGroup ps then
            mistake (String.ofList ("invalid reference \\".toList ++ Octets.ofNat (highestGroup ps)
              ++ " on `s' command's RHS".toList)) rest
          else pure (.replace { r with pattern := p }, rest)
        | none => pure (.replace { r with pattern := p }, rest)

/-- The characters of a list for an exchange, without the backslashes before some. -/
def plainLetters : Octets → Octets
  | '\\' :: 'n' :: rest => '\n' :: plainLetters rest
  | '\\' :: 't' :: rest => '\t' :: plainLetters rest
  | '\\' :: '\\' :: rest => '\\' :: plainLetters rest
  | c :: rest => c :: plainLetters rest
  | [] => []

/-- The end of a command: there may be nothing but blanks up to it. -/
def ending {α : Type} (a : α) (o : Octets) : Checked (α × Octets) :=
  match skipBlanks o with
  | [] => .ok (a, [])
  | c :: rest =>
    if c = ';' || c = '\n' then .ok (a, rest)
    else if c = '#' || c = '\x7d' then .ok (a, c :: rest)
    else mistake "extra characters after command" rest

/-- A text up to the end of a line, which goes on behind a backslash at its end. -/
def textLines : Octets → Octets × Octets
  | '\\' :: c :: rest =>
    let (o, rest) := textLines rest
    (c :: o, rest)
  | ['\\'] => ([], [])
  | '\n' :: rest => (['\n'], rest)
  | c :: rest =>
    let (o, rest) := textLines rest
    (c :: o, rest)
  | [] => (['\n'], [])

/-- Reads a command, behind the lines that it is for. -/
def step (extended : Bool) (s : Selection) (o : Octets) : Checked (Step × Octets) :=
  match o with
  | [] => mistake "missing command" []
  | c :: rest =>
    if "=dDgGhHnNpPxlzF".toList.contains c then ending (.plain c) rest
    else match c with
      | '\x7b' => .ok (.opening, rest)
      | '\x7d' => if s.first.isSome then mistake "\x7d doesn't want any addresses" rest
        else .ok (.closing, rest)
      | 's' => replacement extended rest
      | 'y' =>
        let unfinished : Checked (Step × Octets) :=
          mistake "unterminated `y' command" (endOfLine rest)
        match rest with
        | [] => unfinished
        | mark :: rest =>
          match upTo mark false rest.length rest with
          | none => unfinished
          | some (old, rest) =>
            match upTo mark false rest.length rest with
            | none => unfinished
            | some (new, rest) =>
              let (old, new) := (plainLetters old, plainLetters new)
              if old.length != new.length then
                mistake "strings for `y' command are different lengths" rest
              else ending (.exchange old new) rest
      | ':' =>
        if s.first.isSome then mistake ": doesn't want any addresses" rest
        else
          let name := (skipBlanks rest).takeWhile fun c => !Octets.isSpace c && c != ';'
          if name.isEmpty then mistake "\":\" lacks a label" rest
          else ending (.label name) ((skipBlanks rest).drop name.length)
      | _ =>
        if c = 'b' || c = 't' || c = 'T' then
          let rest := skipBlanks rest
          let name := rest.takeWhile fun c => !Octets.isSpace c && c != ';' && c != '\x7d'
          ending (.jump c name) (rest.drop name.length)
        else if c = 'q' || c = 'Q' then
          let (status, rest) := digits (skipBlanks rest)
          ending (.quit c (status % 256)) rest
        else if c = 'r' || c = 'w' then
          let name := (skipBlanks rest).takeWhile (· != '\n')
          if name.isEmpty then mistake "missing filename in r/R/w/W commands" []
          else .ok (.file c name, endOfLine rest)
        else if c = 'a' || c = 'i' || c = 'c' then
          match skipBlanks rest with
          | [] => mistake "expected \\ after `a', `c' or `i'" []
          | '\\' :: rest =>
            let (o, rest) := match skipBlanks rest with
              | [] => ([], [])
              | '\n' :: rest => textLines rest
              | _ => textLines rest
            .ok (.text c o, rest)
          | rest =>
            let (o, rest) := textLines rest
            .ok (.text c o, rest)
        else mistake (String.ofList ("unknown command: `".toList ++ [c, Octets.apostrophe])) rest

/-- Reads commands up to the end; `depth` is the number of blocks that are open. -/
def steps (extended : Bool) : Nat → (depth : Nat) → Octets →
    Checked (List (Selection × Step))
  | 0, _, _ => .ok []
  | n + 1, depth, o =>
    match o.dropWhile fun c => Octets.isSpace c || c = ';' with
    | [] => if depth = 0 then .ok [] else .error ("unmatched `\x7b'".toList, 0)
    | '#' :: rest => steps extended n depth (endOfLine rest)
    | o => do
      let (s, rest) ← selection extended o
      let (c, rest) ← step extended s rest
      match c with
      | .opening => return (s, c) :: (← steps extended n (depth + 1) rest)
      | .closing =>
        if depth = 0 then mistake "unexpected `\x7d'" rest
        else
          let (_, rest) ← ending () rest
          return (s, c) :: (← steps extended n (depth - 1) rest)
      | c => return (s, c) :: (← steps extended n depth rest)

/-- The place of a label. -/
def labelAt? (s : Script) (name : Octets) : Option Nat :=
  s.findIdx? fun c => match c.2 with
    | .label other => other = name
    | _ => false

/-- A label that a script jumps to and does not have. -/
def missingLabel? (s : Script) : Option Octets :=
  s.toList.findSome? fun c => match c.2 with
    | .jump _ name => if name.isEmpty || (labelAt? s name).isSome then none else some name
    | _ => none

/-- Reads a script that is given in some pieces; a mistake is told with the number of the piece and
the place in it. With it comes the status of the mistake. -/
def read (extended : Bool) (pieces : List Octets) : Except (Octets × Nat) Script :=
  let text := Octets.join ['\n'] pieces
  match steps extended (text.length + 1) 0 text with
  | .ok s =>
    match missingLabel? s.toArray with
    | some name =>
      .error ("can't find label for jump to `".toList ++ name ++ [Octets.apostrophe], 4)
    | none => .ok s.toArray
  | .error (message, left) =>
    let place := text.length - left
    let rec find (number place : Nat) : List Octets → Nat × Nat
      | [] => (number, place)
      | [_] => (number, place)
      | o :: rest =>
        if place ≤ o.length then (number, place) else find (number + 1) (place - o.length - 1) rest
    let (number, place) := if message = "unmatched `\x7b'".toList then (pieces.length, 0)
      else find 1 place pieces
    .error ("-e expression #".toList ++ Octets.ofNat number ++ ", char ".toList
      ++ Octets.ofNat place ++ ": ".toList ++ message, 1)

end Pasteboard.Shell.LineScript
