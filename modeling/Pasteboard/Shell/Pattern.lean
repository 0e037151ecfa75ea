import Pasteboard.Shell.Octets

/-!
# Patterns

The patterns of a shell: a star stands for any characters, a question mark for one, and brackets for
one of the characters or classes in them. A quoted character stands for itself.
-/

namespace Pasteboard.Shell

/-- A character of a pattern; a quoted one stands for itself. -/
structure PatternChar where
  char : Char
  quoted : Bool
deriving DecidableEq

/-- A pattern. -/
abbrev Pattern := List PatternChar

/-- The octets of a text as a pattern. -/
def Pattern.of (quoted : Bool) (o : Octets) : Pattern := o.map fun c => ⟨c, quoted⟩

/-- The text that a pattern is written with. -/
def Pattern.text (p : Pattern) : Octets := p.map PatternChar.char

namespace PatternChar

/-- The character is not quoted and has this meaning. -/
def isMark (p : PatternChar) (c : Char) : Bool := !p.quoted && p.char = c

end PatternChar

/-- The members of a named class of characters. -/
def classMember? (name : String) : Option (Char → Bool) :=
  let isPunctuation (c : Char) : Bool :=
    Octets.isPrintable c && !c.isAlphanum && c != ' '
  match name with
  | "alnum" => some Char.isAlphanum
  | "alpha" => some Char.isAlpha
  | "blank" => some fun c => c = ' ' || c = '\t'
  | "cntrl" => some fun c => decide (c.toNat < 32) || c.toNat = 127
  | "digit" => some Char.isDigit
  | "graph" => some fun c => Octets.isPrintable c && c != ' '
  | "lower" => some Char.isLower
  | "print" => some Octets.isPrintable
  | "punct" => some isPunctuation
  | "space" => some Octets.isSpace
  | "upper" => some Char.isUpper
  | "xdigit" => some Octets.isHex
  | _ => none

/-- The class that a pattern names behind a bracket and a colon, and what follows it. -/
def namedClass? (p : Pattern) : Option ((Char → Bool) × Pattern) :=
  match p with
  | colon :: rest =>
    if !colon.isMark ':' then none
    else
      let name := rest.takeWhile fun c => c.char != ':'
      match classMember? (String.ofList (Pattern.text name)), rest.drop name.length with
      | some member, _ :: bracket :: rest =>
        if bracket.isMark ']' then some (member, rest) else none
      | _, _ => none
  | [] => none

/-- Reads the members of a class up to its closing bracket: whether one of them is `c`, and what
follows the class; nothing if it is not closed. The first bracket is a member. -/
def readClass? (c : Char) : Nat → (first found : Bool) → Pattern → Option (Bool × Pattern)
  | 0, _, _, _ => none
  | _ + 1, _, _, [] => none
  | n + 1, first, found, low :: rest =>
    if !first && low.isMark ']' then some (found, rest)
    else
      let single : Option (Bool × Pattern) :=
        match rest with
        | dash :: high :: after =>
          if dash.isMark '-' && !high.isMark ']' then
            let inside := decide (low.char.toNat ≤ c.toNat ∧ c.toNat ≤ high.char.toNat)
            readClass? c n false (found || inside) after
          else readClass? c n false (found || low.char = c) rest
        | _ => readClass? c n false (found || low.char = c) rest
      if low.isMark '[' then
        match namedClass? rest with
        | some (member, after) => readClass? c n false (found || member c) after
        | none => single
      else single

/-- A class at the start of a pattern, behind its opening bracket: whether it accepts a character,
and what follows it. -/
def acceptsClass? (p : Pattern) (c : Char) : Option (Bool × Pattern) :=
  match p with
  | mark :: rest =>
    if mark.isMark '!' || mark.isMark '^' then
      (readClass? c (rest.length + 1) true false rest).map fun (found, rest) => (!found, rest)
    else readClass? c (p.length + 1) true false p
  | [] => none

/-- Whether a pattern matches all of a text; the fuel bounds the steps. -/
def isMatch : Nat → Pattern → Octets → Bool
  | 0, _, _ => false
  | _ + 1, [], o => o.isEmpty
  | n + 1, p :: rest, o =>
    if p.isMark '*' then
      isMatch n rest o || (match o with
        | [] => false
        | _ :: o => isMatch n (p :: rest) o)
    else match o with
      | [] => false
      | c :: o =>
        if p.isMark '?' then isMatch n rest o
        else if p.isMark '[' then
          match acceptsClass? rest c with
          | some (accepted, rest) => accepted && isMatch n rest o
          | none => c = '[' && isMatch n rest o
        else p.char = c && isMatch n rest o

/-- Whether a pattern matches all of a text. -/
def Pattern.accepts (p : Pattern) (o : Octets) : Bool := isMatch (p.length + o.length + 1) p o

/-- A pattern has a character with a meaning of its own. -/
def Pattern.hasMarks (p : Pattern) : Bool :=
  p.any fun c => c.isMark '*' || c.isMark '?' || c.isMark '['

/-- Cuts the shortest or longest match of a pattern off one end of a text. -/
def Pattern.cut (p : Pattern) (fromEnd longest : Bool) (o : Octets) : Octets :=
  let sizes := List.range (o.length + 1)
  let sizes := if longest then sizes.reverse else sizes
  let isCut (n : Nat) : Bool := p.accepts (if fromEnd then o.drop (o.length - n) else o.take n)
  match sizes.find? isCut with
  | some n => if fromEnd then o.take (o.length - n) else o.drop n
  | none => o

end Pasteboard.Shell
