import Pasteboard.Shell.Machine
import Pasteboard.Shell.Pattern

/-!
# From pieces to words

What a word becomes when it is expanded: pieces, which are put together to words. What came from a
parameter without quotes is cut at separators. Blanks among the separators count together, and with
one other separator among them; each other separator ends a word, even an empty one.
-/

namespace Pasteboard.Shell

/-- A piece of an expanded word. -/
inductive Piece
  /-- A text that is not cut. -/
  | fixed (text : Octets) (quoted : Bool)
  /-- Texts that are cut at separators, and apart from each other. -/
  | split (texts : List Octets)
  /-- The border between two words. -/
  | border

namespace Piece

/-- The pattern that pieces are when they make one word. -/
def pattern (ps : List Piece) : Pattern :=
  ps.flatMap fun p =>
    match p with
    | fixed text quoted => Pattern.of quoted text
    | split texts => Pattern.of false (Octets.join [' '] texts)
    | border => Pattern.of true [' ']

/-- The text that pieces are when they make one word. -/
def text (ps : List Piece) : Octets := Pattern.text (pattern ps)

/-- Words in the making. -/
structure Making where
  /-- The words that are finished, the last first. -/
  done : List Pattern := []
  /-- The characters of the word that is not finished, the last first. -/
  current : Pattern := []
  /-- There is such a word, even if it has no characters. -/
  started : Bool := false
  /-- Blanks have just ended a word, so that one other separator does not count. -/
  afterBlanks : Bool := false

namespace Making

/-- The word is finished. -/
def finish (w : Making) (afterBlanks : Bool) : Making :=
  { done := w.current.reverse :: w.done, afterBlanks }

/-- Characters behind the others. -/
def add (w : Making) (p : Pattern) : Making :=
  { w with current := p.reverse ++ w.current, started := true, afterBlanks := false }

/-- A blank that separates. -/
def blank (w : Making) : Making := if w.started then w.finish true else w

/-- A character of a text that is cut. -/
def step (separators : Octets) (w : Making) (c : Char) : Making :=
  if !separators.contains c then w.add [⟨c, false⟩]
  else if Octets.isBlank c then w.blank
  else if w.afterBlanks then { w with afterBlanks := false }
  else w.finish false

/-- A piece behind the others. -/
def place (separators : Octets) (w : Making) (p : Piece) : Making :=
  let w := { w with afterBlanks := false }
  match p with
  | .fixed text quoted => if text.isEmpty && !quoted then w else w.add (Pattern.of quoted text)
  | .border => { w.finish false with started := true }
  | .split texts =>
    (texts.foldl (fun (w, first) text =>
      let w := if first then w else w.blank
      (text.foldl (step separators) w, false)) (w, true)).1

end Making

/-- The words that pieces make. -/
def words (separators : Octets) (ps : List Piece) : List Pattern :=
  let w := ps.foldl (Making.place separators) {}
  (if w.started then w.current.reverse :: w.done else w.done).reverse

end Piece

/-- The words of a line for a number of names: the last name takes all that is left, without the
blanks at its end, and without a last separator if it is the only one. -/
def lineWords (separators : Octets) (count : Nat) (line : Pattern) : List Octets :=
  let isSeparator (p : PatternChar) : Bool := !p.quoted && separators.contains p.char
  let isBlank (p : PatternChar) : Bool := isSeparator p && Octets.isBlank p.char
  let trimmedEnd (rest : Pattern) : Octets :=
    let start (p : Pattern) : Pattern := (p.reverse.dropWhile isBlank).reverse
    let word := rest.takeWhile fun p => !isSeparator p
    let after := (rest.drop word.length).dropWhile isBlank
    match after with
    | [] => Pattern.text word
    | p :: more =>
      if isSeparator p && (more.dropWhile isBlank).isEmpty then Pattern.text word
      else Pattern.text (start rest)
  let rec go (n : Nat) (rest : Pattern) : List Octets :=
    match n with
    | 0 => []
    | 1 => [trimmedEnd rest]
    | n + 2 =>
      let word := rest.takeWhile fun p => !isSeparator p
      let after := rest.drop word.length
      let blanks := after.takeWhile isBlank
      let after := after.drop blanks.length
      let after := match after with
        | p :: more => if isSeparator p then more.dropWhile isBlank else after
        | [] => []
      Pattern.text word :: go (n + 1) after
  go count (line.dropWhile isBlank)

/-- The directory of a user of the system. -/
def homeOf? (user : Octets) : Option Octets :=
  match String.ofList user with
  | "root" => some "/root"
  | "daemon" => some "/usr/sbin"
  | "bin" => some "/bin"
  | "sys" => some "/dev"
  | "mail" => some "/var/mail"
  | "www-data" => some "/var/www"
  | "nobody" => some "/nonexistent"
  | _ => none

/-- A text that starts with a tilde: the directory that it stands for, and what follows. -/
def tilde? (m : Machine) (ends : Char → Bool) (isLast : Bool) (text : Octets) :
    Option (Octets × Octets) :=
  match text with
  | '~' :: rest =>
    let user := rest.takeWhile fun c => !(c = '/' || ends c)
    let after := rest.drop user.length
    if after.isEmpty && !isLast then none
    else
      (if user.isEmpty then m.get? "HOME" else homeOf? user).map fun home => (home, after)
  | _ => none

/-- The parts of a word whose tilde stands for a directory. -/
def withTilde (m : Machine) (w : Word) : Word :=
  match w with
  | .literal text false :: rest =>
    match tilde? m (fun _ => false) rest.isEmpty text with
    | some (home, after) => .literal home true :: .literal after false :: rest
    | none => w
  | w => w

/-- Cuts a text behind every colon. -/
def colonParts (o : Octets) : List Octets :=
  o.foldr (fun c parts =>
    match parts with
    | [] => [[c]]
    | part :: rest => if c = ':' then [c] :: part :: rest else (c :: part) :: rest) [[]]

/-- The parts of the value of an assignment, in which a tilde may come behind a colon too. -/
def withTildes (m : Machine) (isStart : Bool) : Word → Word
  | [] => []
  | .literal text false :: rest =>
    let pieces := colonParts text
    let count := pieces.length
    let replaced := (pieces.zipIdx).flatMap fun (piece, i) =>
      let mayStart := if i = 0 then isStart else true
      let isLast := rest.isEmpty || i + 1 < count
      match if mayStart then tilde? m (· = ':') isLast piece else none with
      | some (home, after) => [Part.literal home true, Part.literal after false]
      | none => [Part.literal piece false]
    replaced ++ withTildes m (text.getLast? = some ':') rest
  | part :: rest => part :: withTildes m false rest

/-! ### File names -/

namespace Machine

/-- The names in a directory that a pattern accepts. A name that starts with a point has to be asked
for by one. -/
def namesMatching (m : Machine) (directory : Octets) (p : Pattern) : List Octets :=
  let names := (m.disk.children (m.path directory)).map Octets.ofText
  let names := [['.'], ['.', '.']] ++ names
  names.filter fun name =>
    (name.head? != some '.' || (p.head?.map PatternChar.char) = some '.') && p.accepts name

/-- The paths that a pattern stands for, going on from `start` with the names in it. -/
def pathsMatching (m : Machine) (start : Octets) : List Pattern → List Octets
  | [] => [start]
  | p :: rest =>
    let isLast := rest.isEmpty
    let goOn (name : Octets) : List Octets :=
      let here := start ++ name
      if isLast then
        match m.look (if here.isEmpty then ['.'] else here) with
        | .ok _ => [here]
        | .error _ => []
      else m.pathsMatching (here ++ ['/']) rest
    if p.isEmpty then
      if isLast then (match m.look start with
        | .ok .directory => [start]
        | _ => [])
      else m.pathsMatching (start ++ ['/']) rest
    else if Pattern.hasMarks p then
      match m.look (if start.isEmpty then ['.'] else start) with
      | .ok .directory =>
        (m.namesMatching (if start.isEmpty then ['.'] else start) p).flatMap fun name =>
          if isLast then [start ++ name]
          else match m.look (start ++ name) with
            | .ok .directory => m.pathsMatching (start ++ name ++ ['/']) rest
            | _ => []
      | _ => []
    else goOn (Pattern.text p)

/-- Cuts a pattern at slashes. -/
def patternNames (p : Pattern) : List Pattern :=
  p.foldr (fun c parts =>
    if c.char = '/' then [] :: parts
    else match parts with
      | [] => [[c]]
      | part :: rest => (c :: part) :: rest) [[]]

/-- The words that a word stands for: the paths that match it, or itself if there are none. -/
def pathnames (m : Machine) (p : Pattern) : List Octets :=
  if m.hasOption 'f' || !Pattern.hasMarks p then [Pattern.text p]
  else
    let found := (m.pathsMatching [] (patternNames p)).mergeSort Octets.isOrdered
    if found.isEmpty then [Pattern.text p] else found

/-! ### Parameters -/

/-- The characters at which expanded words are cut. -/
def separators (m : Machine) : Octets := (m.get? "IFS").getD [' ', '\t', '\n']

/-- What stands between the arguments when they are put together. -/
def joint (m : Machine) : Octets :=
  match m.get? "IFS" with
  | some separators => separators.take 1
  | none => [' ']

/-- The value of a parameter. -/
def parameter? (m : Machine) (name : Octets) : Option Octets :=
  match name with
  | ['#'] => some (Octets.ofNat m.frame.arguments.length)
  | ['?'] => some (Octets.ofNat m.frame.status)
  | ['$'] => some (Octets.ofNat m.frame.shellNumber)
  | ['!'] => m.frame.lastJob.map Octets.ofNat
  | ['-'] => some m.frame.options
  | ['0'] => some m.frame.name
  | ['@'] => if m.frame.arguments.isEmpty then none else
      some (Octets.join m.joint m.frame.arguments)
  | ['*'] => if m.frame.arguments.isEmpty then none else
      some (Octets.join m.joint m.frame.arguments)
  | name =>
    match Octets.toNat? name with
    | some 0 => some m.frame.name
    | some n => m.frame.arguments[n - 1]?
    | none => m.get? name

/-- The pieces that the value of a parameter is. -/
def valuePieces (m : Machine) (name : Octets) (quoted isSplit : Bool) : List Piece :=
  let isArguments := name = ['@'] || name = ['*']
  if isArguments && isSplit && !quoted then
    if m.frame.arguments.isEmpty then [] else [.split m.frame.arguments]
  else if name = ['@'] && isSplit then
    (m.frame.arguments.map fun a => [Piece.fixed a true]).intersperse [.border] |>.flatten
  else
    let value := (m.parameter? name).getD []
    if quoted || !isSplit then [.fixed value quoted] else [.split [value]]

end Machine

end Pasteboard.Shell
