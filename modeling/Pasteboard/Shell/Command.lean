import Pasteboard.Shell.Octets

/-!
# Shell commands

The commands of a shell as data. A word is made of parts that are expanded when the command is done.
The text of a here-document follows the command that it belongs to, so a redirection names its
document by a number, and the documents are kept apart.
-/

namespace Pasteboard.Shell

/-- What stands in for the value of a parameter. -/
inductive Fallback
  /-- The word, if there is no value. -/
  | word
  /-- The word, which becomes the value, if there is none. -/
  | assigned
  /-- The end of the shell, with the word as the complaint, if there is no value. -/
  | complaint
  /-- The word, if there is a value. -/
  | replacement
deriving DecidableEq

/-- How a file is opened by a redirection. -/
inductive Opening
  | reading
  | writing
  /-- Writing, even if a file that is there is not to be overwritten. -/
  | overwriting
  | adding
  | both
deriving DecidableEq

mutual

/-- A part of a word. -/
inductive Part
  | literal (text : Octets) (quoted : Bool)
  | parameter (name : Octets) (use : Use) (quoted : Bool)
  /-- What a command prints. -/
  | output (command : Command) (quoted : Bool)
  | arithmetic (source : List Part) (quoted : Bool)

/-- What is done with the value of a parameter. -/
inductive Use
  | value
  | length
  | instead (fallback : Fallback) (emptyCounts : Bool) (word : List Part)
  /-- Cut what a pattern matches off the front or the end. -/
  | cut (fromEnd longest : Bool) (pattern : List Part)
  /-- There is no such use. -/
  | faulty (word : List Part)

/-- A redirection of a descriptor. -/
inductive Redirection
  | file (descriptor : Nat) (opening : Opening) (name : List Part)
  | duplicate (descriptor : Nat) (source : List Part)
  | document (descriptor : Nat) (number : Nat)

/-- A command; `line` is where it starts. -/
inductive Command
  | nothing
  | simple (line : Nat) (assignments : List (Octets × List Part)) (words : List (List Part))
      (redirections : List Redirection)
  | pipeline (parts : List Command)
  | negated (c : Command)
  | both (c d : Command)
  | either (c d : Command)
  | sequence (c d : Command)
  | background (line : Nat) (c : Command) (redirections : List Redirection)
  | subshell (line : Nat) (c : Command) (redirections : List Redirection)
  | redirected (line : Nat) (c : Command) (redirections : List Redirection)
  | choose (condition yes no : Command)
  | loop (untilTrue : Bool) (condition body : Command)
  | each (line : Nat) (name : Octets) (words : List (List Part)) (body : Command)
  | select (line : Nat) (subject : List Part) (clauses : List (List (List Part) × Command))
  | function (name : Octets) (body : Command)

end

/-- A word. -/
abbrev Word := List Part

instance : Inhabited Part := ⟨.literal [] false⟩

instance : Inhabited Command := ⟨.nothing⟩

namespace Word

/-- The text of a word that has no quotes and no expansions. -/
def plain? (w : Word) : Option Octets :=
  match w with
  | [.literal text false] => some text
  | _ => none

/-- The text of a word with its quotes taken away. -/
def text (w : Word) : Octets :=
  w.flatMap fun part =>
    match part with
    | .literal text _ => text
    | _ => []

/-- A character in front of the parts of a word. -/
def addLiteral (text : Octets) (quoted : Bool) (w : Word) : Word :=
  match w with
  | .literal more q :: rest =>
    if q = quoted then .literal (text ++ more) quoted :: rest else .literal text quoted :: w
  | w => .literal text quoted :: w

/-- A word whose literal parts are put together as far as they are alike. -/
def compact (w : Word) : Word :=
  w.foldr (fun part w =>
    match part with
    | .literal text quoted => addLiteral text quoted w
    | part => part :: w) []

/-- The name and the value of a word that is an assignment. -/
def assignment? (w : Word) : Option (Octets × Word) :=
  match w with
  | .literal text false :: rest =>
    let name := text.takeWhile (· != '=')
    match text.drop name.length with
    | _ :: value =>
      if Octets.isName name then
        some (name, if value.isEmpty then rest else .literal value false :: rest)
      else none
    | [] => none
  | _ => none

end Word

end Pasteboard.Shell
