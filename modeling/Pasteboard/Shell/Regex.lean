import Pasteboard.Shell.Pattern

/-!
# Regular expressions

The patterns for lines, in their basic and extended form. A match is looked for from left to right;
repetitions take as much as they can, and of alternatives the one that leads furthest is taken.
-/

namespace Pasteboard.Shell

/-- A regular expression. -/
inductive Regex
  /-- One character of a kind. -/
  | one (accepts : Char → Bool)
  | lineStart
  | lineEnd
  /-- A place between a character of a word and one of none, or the start or end of a word. -/
  | edge (opens closes : Bool)
  | empty
  | behind (r s : Regex)
  | either (r s : Regex)
  | repeated (r : Regex) (least : Nat) (most : Option Nat)
  | group (number : Nat) (r : Regex)
  /-- What a group has matched. -/
  | again (number : Nat)

namespace Regex

/-- Where groups have matched: the number, the start and the end, the last first. -/
abbrev Groups := List (Nat × Nat × Nat)

/-- What a match has found: its end and its groups. -/
abbrev Found := Nat × Groups

/-- A character of a word. -/
def inWord (c : Char) : Bool := c.isAlphanum || c = '_'

/-- How many characters from a place on are of a kind. -/
def runLength (text : Array Char) (accepts : Char → Bool) (most : Option Nat) :
    Nat → (place count : Nat) → Nat
  | 0, _, count => count
  | n + 1, place, count =>
    if most = some count then count
    else match text[place]? with
      | some c => if accepts c then runLength text accepts most n (place + 1) (count + 1) else count
      | none => count

/-- The first match of the rest behind a number of characters between two bounds, the most first. -/
def longestFirst (k : Nat → Option Found) (place least : Nat) : Nat → Option Found
  | 0 => if least = 0 then k place else none
  | n + 1 =>
    if n + 1 < least then none
    else match k (place + n + 1) with
      | some r => some r
      | none => longestFirst k place least n

/-- The further one of two matches. -/
def further (a b : Option Found) : Option Found :=
  match a, b with
  | some x, some y => if x.1 < y.1 then some y else some x
  | some x, none => some x
  | none, b => b

/-- Whether the text from one place on is that from another place on, for a length. -/
def sameText (text : Array Char) (a b : Nat) (length : Nat) : Bool :=
  (List.range length).all fun i => (text[a + i]?).isSome && text[a + i]? = text[b + i]?

/-- Matches from a place on, and then what `k` does. -/
def matchFrom (text : Array Char) :
    Nat → Regex → Nat → Groups → (Nat → Groups → Option Found) → Option Found
  | 0, _, _, _, _ => none
  | n + 1, r, place, groups, k =>
    match r with
    | one accepts =>
      match text[place]? with
      | some c => if accepts c then k (place + 1) groups else none
      | none => none
    | lineStart => if place = 0 then k place groups else none
    | lineEnd => if place = text.size then k place groups else none
    | edge opens closes =>
      let before := place != 0 && ((text[place - 1]?).map inWord).getD false
      let after := ((text[place]?).map inWord).getD false
      if (opens && !before && after) || (closes && before && !after) then k place groups else none
    | empty => k place groups
    | behind r s =>
      matchFrom text n r place groups fun place groups => matchFrom text n s place groups k
    | either r s =>
      further (matchFrom text n r place groups k) (matchFrom text n s place groups k)
    | repeated r least most =>
      match r with
      | one accepts =>
        let count := runLength text accepts most (text.size + 1) place 0
        longestFirst (fun place => k place groups) place least count
      | r =>
        let stop : Unit → Option Found := fun _ => if least = 0 then k place groups else none
        if most = some 0 then stop ()
        else
          let once := matchFrom text n r place groups fun after groups =>
            if after = place && least = 0 then none
            else matchFrom text n (repeated r (least - 1) (most.map (· - 1))) after groups k
          match once with
          | some found => some found
          | none => stop ()
    | group number r =>
      matchFrom text n r place groups fun after groups => k after ((number, place, after) :: groups)
    | again number =>
      match groups.find? fun g => g.1 = number with
      | some (_, start, stop) =>
        if sameText text start place (stop - start) then k (place + (stop - start)) groups else none
      | none => none

/-- The first match from a place on: its start, its end and its groups. -/
def search (r : Regex) (text : Array Char) : Nat → Nat → Option (Nat × Found)
  | 0, _ => none
  | n + 1, place =>
    let found := matchFrom text (4 * text.size + 256) r place [] fun stop groups =>
      some (stop, groups)
    match found with
    | some found => some (place, found)
    | none => if text.size ≤ place then none else search r text n (place + 1)

/-- The first match in a text from a place on. -/
def find? (r : Regex) (text : Array Char) (place : Nat) : Option (Nat × Found) :=
  search r text (text.size + 1 - place) place

/-- The greatest number of a group of the expression. -/
def groups : Regex → Nat
  | behind r s => max r.groups s.groups
  | either r s => max r.groups s.groups
  | repeated r _ _ => r.groups
  | group number r => max number r.groups
  | _ => 0

/-! ### Reading -/

/-- How expressions are written. -/
structure Style where
  extended : Bool := false
  ignoresCase : Bool := false

/-- One character, in both cases if they do not count. -/
def char (s : Style) (c : Char) : Regex :=
  if s.ignoresCase then .one fun d => d.toLower = c.toLower else .one fun d => d = c

/-- What is wrong with the members of a class up to its closing bracket: a name that no class has,
or a range that ends before it starts. The first bracket is a member. -/
def memberFault? : Nat → (first : Bool) → Octets → Option Octets
  | 0, _, _ => none
  | _ + 1, _, [] => none
  | n + 1, first, '[' :: ':' :: rest =>
    let name := rest.takeWhile fun c => c != ':'
    match rest.drop name.length with
    | ':' :: ']' :: rest =>
      if (classMember? (String.ofList name)).isSome then memberFault? n false rest
      else some "Invalid character class name".toList
    | _ => memberFault? n first (':' :: rest)
  | n + 1, first, low :: rest =>
    if !first && low = ']' then none
    else match rest with
      | '-' :: high :: after =>
        if high = ']' then none
        else if high < low then some "Invalid range end".toList
        else memberFault? n false after
      | rest => memberFault? n false rest

/-- What is wrong with a class, behind its opening bracket. A name between colons needs brackets of
its own. -/
def classFault? (o : Octets) : Option Octets :=
  let members := if o.head? = some '^' then o.drop 1 else o
  let inside := members.takeWhile fun c => c != ']'
  if members.head? = some ':' && inside.length != 1 && inside.getLast? = some ':'
      && inside.length != 2 && members.length != inside.length then
    some "character class syntax is [[:space:]], not [:space:]".toList
  else memberFault? (o.length + 1) true members

/-- A class in brackets, behind the opening one, and what follows it; a complaint if it is wrong. -/
def bracket (s : Style) (o : Octets) : Except Octets (Regex × Octets) :=
  let (negated, members) := match o with
    | '^' :: rest => (true, rest)
    | o => (false, o)
  let p := Pattern.of false members
  let accepts (c : Char) : Bool :=
    match readClass? c (p.length + 1) true false p with
    | some (found, _) => found
    | none => false
  match classFault? o, readClass? ' ' (p.length + 1) true false p with
  | some fault, _ => .error fault
  | none, none =>
    .error (if members.isEmpty then "Invalid regular expression".toList
      else "Unmatched [, [^, [:, [., or [=".toList)
  | none, some (_, rest) =>
    let member (c : Char) : Bool :=
      if s.ignoresCase then accepts c.toLower || accepts c.toUpper else accepts c
    .ok (.one fun c => member c != negated, Pattern.text rest)

/-- The signs of an expression. -/
inductive Sign
  | atom (r : Regex)
  | opening
  | closing
  | bar
  | star
  | plus
  | query
  | brace
  | caret
  | dollar
  | back (number : Nat)

/-- The next sign, and what follows it; a complaint if there is none. -/
def sign (s : Style) (o : Octets) : Except Octets (Option (Sign × Octets)) :=
  match o with
  | [] => .ok none
  | '\\' :: [] => .error "Trailing backslash"
  | '\\' :: c :: rest =>
    let special (t : Sign) : Sign := if s.extended then .atom (char s c) else t
    .ok (some (match c with
      | '(' => special .opening
      | ')' => special .closing
      | '|' => special .bar
      | '+' => special .plus
      | '?' => special .query
      | '\x7b' => special .brace
      | 'w' => .atom (.one inWord)
      | 'W' => .atom (.one fun c => !inWord c)
      | 's' => .atom (.one Octets.isSpace)
      | 'S' => .atom (.one fun c => !Octets.isSpace c)
      | 'b' => .atom (.edge true true)
      | '<' => .atom (.edge true false)
      | '>' => .atom (.edge false true)
      | 'n' => .atom (.one fun c => c = '\n')
      | 't' => .atom (.one fun c => c = '\t')
      | c =>
        if c.isDigit && c != '0' then .back (c.toNat - 48) else .atom (char s c), rest))
  | '[' :: rest =>
    (bracket s rest).map fun (r, rest) => some (.atom r, rest)
  | c :: rest =>
    let special (t : Sign) : Sign := if s.extended then t else .atom (char s c)
    .ok (some (match c with
      | '.' => .atom (.one fun _ => true)
      | '*' => .star
      | '^' => .caret
      | '$' => .dollar
      | '(' => special .opening
      | ')' => special .closing
      | '|' => special .bar
      | '+' => special .plus
      | '?' => special .query
      | '\x7b' => special .brace
      | c => .atom (char s c), rest))

/-- The bounds of a repetition, behind the opening brace, and what follows them. -/
def bounds? (s : Style) (o : Octets) : Option ((Nat × Option Nat) × Octets) :=
  let low := o.takeWhile Char.isDigit
  let rest := o.drop low.length
  let (most, rest) : Option Nat × Octets := match rest with
    | ',' :: more =>
      let high := more.takeWhile Char.isDigit
      (Octets.toNat? high, more.drop high.length)
    | rest => (Octets.toNat? low, rest)
  let least := Octets.digitsValue 10 low
  match s.extended, rest with
  | true, '\x7d' :: rest => some ((least, most), rest)
  | false, '\\' :: '\x7d' :: rest => some ((least, most), rest)
  | _, _ => none

/-- The most often that an expression may be repeated by number. -/
def mostRepeated : Nat := 32767

/-- What is wrong with the bounds of a repetition. -/
def boundsFault? (least : Nat) (most : Option Nat) : Option Octets :=
  match most with
  | some most =>
    if most < least then some "Invalid content of \\\x7b\\\x7d".toList
    else if mostRepeated < most then some "Regular expression too big".toList
    else none
  | none => if mostRepeated < least then some "Regular expression too big".toList else none

/-- What is wrong with what is behind an opening brace and does not bound a repetition. -/
def braceFault (o : Octets) : Octets :=
  let inside := o.dropWhile fun c => c.isDigit || c = ','
  if inside.isEmpty then "Unmatched \\\x7b".toList else "Invalid content of \\\x7b\\\x7d".toList

/-- What is being read: the expression so far, the last item of it, and the groups. -/
structure Progress where
  before : Regex := .empty
  last : Option Regex := none
  groups : Nat := 0

namespace Progress

/-- All that has been read. -/
def whole (p : Progress) : Regex :=
  match p.last with
  | some r => .behind p.before r
  | none => p.before

/-- One more item. -/
def add (p : Progress) (r : Regex) : Progress := { p with before := p.whole, last := some r }

/-- The last item repeated. -/
def again (p : Progress) (least : Nat) (most : Option Nat) : Option Progress :=
  p.last.map fun r => { p with last := some (.repeated r least most) }

end Progress

/-- A dollar stands for the end of a line here. -/
def isEndMark (s : Style) (rest : Octets) : Bool :=
  s.extended || rest.isEmpty || "\\)".toList.isPrefixOf rest || "\\|".toList.isPrefixOf rest

/-- Reads alternatives up to a closing bracket, or to the end; gives the number of groups so far and
what follows. -/
def readFrom (s : Style) : Nat → (depth : Nat) → Progress → Octets →
    Except Octets (Regex × Nat × Octets)
  | 0, _, p, o => .ok (p.whole, p.groups, o)
  | n + 1, depth, p, o => do
    match ← sign s o with
    | none => if depth = 0 then pure (p.whole, p.groups, []) else .error "Unmatched ( or \\("
    | some (t, rest) =>
      let literal (c : Char) : Except Octets (Regex × Nat × Octets) :=
        readFrom s n depth (p.add (char s c)) rest
      let mistake (message : String) : Except Octets (Regex × Nat × Octets) :=
        .error message.toList
      let starts := p.last.isNone
      let repeats (c : Char) (least : Nat) (most : Option Nat) :
          Except Octets (Regex × Nat × Octets) :=
        match p.again least most with
        | some p => readFrom s n depth p rest
        | none => if s.extended then readFrom s n depth p rest else literal c
      match t with
      | .atom r => readFrom s n depth (p.add r) rest
      | .star => repeats '*' 0 none
      | .plus => repeats '+' 1 none
      | .query => repeats '?' 0 (some 1)
      | .brace =>
        match bounds? s rest, p.last with
        | some ((least, most), rest), some r =>
          match boundsFault? least most with
          | some fault => .error fault
          | none => readFrom s n depth { p with last := some (.repeated r least most) } rest
        | none, _ => if s.extended then literal '\x7b' else .error (braceFault rest)
        | some _, none =>
          if s.extended then literal '\x7b' else mistake "Invalid preceding regular expression"
      | .caret =>
        if s.extended || starts then
          readFrom s n depth { p with before := .behind p.whole .lineStart, last := none } rest
        else literal '^'
      | .dollar =>
        if isEndMark s rest then readFrom s n depth (p.add .lineEnd) rest else literal '$'
      | .bar =>
        let (r, groups, rest) ← readFrom s n depth { groups := p.groups } rest
        pure (.either p.whole r, groups, rest)
      | .opening =>
        let number := p.groups + 1
        let (r, groups, rest) ← readFrom s n (depth + 1) { groups := number } rest
        readFrom s n depth ({ p with groups }.add (.group number r)) rest
      | .closing =>
        if depth = 0 then
          if s.extended then literal ')' else mistake "Unmatched ) or \\)"
        else pure (p.whole, p.groups, rest)
      | .back number =>
        if p.groups < number then mistake "Invalid back reference"
        else readFrom s n depth (p.add (.again number)) rest

/-- Reads a regular expression. -/
def read (s : Style) (o : Octets) : Except Octets Regex :=
  (readFrom s (o.length + 1) 0 {} o).map Prod.fst

/-- An expression for a text as it is. -/
def ofText (s : Style) (o : Octets) : Regex :=
  o.foldr (fun c r => .behind (char s c) r) .empty

end Regex

end Pasteboard.Shell
