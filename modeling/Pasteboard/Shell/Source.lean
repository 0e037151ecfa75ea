import Pasteboard.Shell.Command

/-!
# Sources and tokens

What a reader of commands works on: the characters that are left, the line it is in, and a token
that was read too early and is held back. A backslash at the end of a line joins it with the next
one almost everywhere, so `peek` drops such pairs before it looks.

A here-document is wanted from the moment its redirection is read, and read at the end of the line.
-/

namespace Pasteboard.Shell

/-- What a redirection does. -/
inductive Operator
  | file (opening : Opening)
  | duplicate
  | document (stripsTabs : Bool)
deriving DecidableEq

/-- The words that have a meaning of their own where a command may start. -/
def reservedWords : List String :=
  ["!", "case", "do", "done", "elif", "else", "esac", "fi", "for", "if", "in", "then", "until",
   "while", "\x7b", "\x7d"]

/-- A token of the language. -/
inductive Token
  | endOfInput
  | newline
  | semicolon
  | ampersand
  | conjunction
  | disjunction
  | bar
  | opening
  | closing
  | endOfClause
  | redirection (descriptor : Nat) (operator : Operator)
  | word (w : Word)
  | reserved (word : String)

/-- The commands of a shell that matter most: no function has their names, and a mistake in one of
them ends the shell. -/
def specialBuiltins : List String :=
  [".", ":", "break", "continue", "eval", "exec", "exit", "export", "local", "readonly", "return",
   "set", "shift", "times", "trap", "unset"]

namespace Token

/-- A word in quotation marks. -/
def marked (s : String) : Octets := '"' :: s.toList ++ ['"']

/-- What complaints call a token. -/
def name : Token → Octets
  | endOfInput => "end of file"
  | newline => "newline"
  | semicolon => marked ";"
  | ampersand => marked "&"
  | conjunction => marked "&&"
  | disjunction => marked "||"
  | bar => marked "|"
  | opening => marked "("
  | closing => marked ")"
  | endOfClause => marked ";;"
  | redirection _ _ => "redirection"
  | word _ => "word"
  | reserved w => marked w

/-- The token ends a list of commands inside another command. -/
def endsList : Token → Bool
  | endOfInput => true
  | closing => true
  | endOfClause => true
  | reserved w =>
    ["do", "done", "elif", "else", "esac", "fi", "then", "\x7d"].contains w
  | _ => false

/-- The token is this reserved word. -/
def isReserved (t : Token) (word : String) : Bool :=
  match t with
  | reserved w => w = word
  | _ => false

end Token

/-- Which readings of the next token are looked for. -/
structure Check where
  /-- Line ends before the token do not count. -/
  newlines : Bool := false
  keywords : Bool := false
  aliases : Bool := false

namespace Check

/-- Where a command starts. -/
def command : Check := { keywords := true, aliases := true }

/-- Where a command starts, maybe on a later line. -/
def later : Check := { newlines := true, keywords := true, aliases := true }

end Check

/-- A here-document that is still to be read. -/
structure WantedDocument where
  number : Nat
  mark : Octets
  stripsTabs : Bool
  /-- Nothing in the document is expanded. -/
  isLiteral : Bool

/-- What a reader works on. -/
structure Source where
  rest : Octets
  line : Nat := 1
  held : Option Token := none
  last : Token := .newline
  wanted : List WantedDocument := []
  /-- The documents that were read, by number. -/
  documents : List (Nat × Word) := []
  nextDocument : Nat := 0
  aliases : List (Octets × Octets) := []
  /-- The aliases that are being replaced, each until no more than some characters are left. -/
  busy : List (Octets × Nat) := []

/-- What is wrong with a source, and in which line. -/
structure Complaint where
  line : Nat
  message : Octets

/-- A reader of commands. -/
abbrev Reading := StateT Source (Except Complaint)

namespace Reading

/-- The source does not keep to the grammar. -/
def fail {α : Type} (message : Octets) : Reading α := do
  throw ⟨(← get).line, "Syntax error: ".toList ++ message⟩

/-- The last token should not be there. -/
def unexpected {α : Type} : Reading α := do
  fail ((← get).last.name ++ " unexpected".toList)

/-- The last token should be another one. -/
def expected {α : Type} (t : Token) : Reading α := do
  fail ((← get).last.name ++ " unexpected (expecting ".toList ++ t.name ++ [')'])

/-- Drops the ends of lines that are joined with the next ones. -/
def dropJoined : Octets → Nat → Octets × Nat
  | '\\' :: '\n' :: rest, line => dropJoined rest (line + 1)
  | o, line => (o, line)

/-- The next character, which stays. -/
def peek : Reading (Option Char) := do
  modify fun s =>
    let (rest, line) := dropJoined s.rest s.line
    { s with rest, line }
  pure (← get).rest.head?

/-- Goes on behind the next character. -/
def advance : Reading Unit :=
  modify fun s =>
    match s.rest with
    | '\n' :: rest => { s with rest, line := s.line + 1 }
    | _ :: rest => { s with rest }
    | [] => s

/-- Goes on behind the next character if it is this one. -/
def accept (c : Char) : Reading Bool := do
  if (← peek) = some c then
    advance
    pure true
  else pure false

/-- Takes the characters at the front that are of a kind. -/
def takeRun (p : Char → Bool) : Reading Octets := do
  let run := (← get).rest.takeWhile p
  modify fun s => { s with rest := s.rest.drop run.length, line := s.line + run.count '\n' }
  pure run

/-- Holds the last token back, to be read again. -/
def holdBack : Reading Unit := modify fun s => { s with held := some s.last }

/-- Remembers a token as the last one. -/
def finish (t : Token) : Reading Token := do
  modify fun s => { s with last := t }
  pure t

/-- Drops blanks and comments. -/
def skipBlanks : Nat → Reading Unit
  | 0 => pure ()
  | n + 1 => do
    match ← peek with
    | some ' ' | some '\t' =>
      advance
      skipBlanks n
    | some '#' =>
      let _ ← takeRun (· != '\n')
      pure ()
    | _ => pure ()

/-- The redirection that starts with this sign, which has been read. -/
def redirection (descriptor : Option Nat) (sign : Char) : Reading Token := do
  if sign = '>' then
    let kind : Operator ←
      if ← accept '>' then pure (.file .adding)
      else if ← accept '|' then pure (.file .overwriting)
      else if ← accept '&' then pure .duplicate
      else pure (.file .writing)
    pure (.redirection (descriptor.getD 1) kind)
  else
    let kind : Operator ←
      if ← accept '<' then do
        let stripsTabs ← accept '-'
        pure (.document stripsTabs)
      else if ← accept '&' then pure .duplicate
      else if ← accept '>' then pure (.file .both)
      else pure (.file .reading)
    pure (.redirection (descriptor.getD 0) kind)

/-- A token of one or two signs, if the next character starts one. -/
def sign? : Reading (Option Token) := do
  let either (second : Char) (long short : Token) : Reading (Option Token) := do
    advance
    if ← accept second then pure (some long) else pure (some short)
  let single (t : Token) : Reading (Option Token) := do
    advance
    pure (some t)
  match ← peek with
  | none => pure (some .endOfInput)
  | some c =>
    match c with
    | '\n' => single .newline
    | '&' => either '&' .conjunction .ampersand
    | '|' => either '|' .disjunction .bar
    | ';' => either ';' .endOfClause .semicolon
    | '(' => single .opening
    | ')' => single .closing
    | '<' | '>' =>
      advance
      some <$> redirection none c
    | c =>
      match (← get).rest with
      | _ :: s :: _ =>
        if c.isDigit && (s = '<' || s = '>') then
          advance
          advance
          some <$> redirection (some (c.toNat - 48)) s
        else pure none
      | _ => pure none

/-- Puts the replacement of an alias in front of what is left, unless the alias is being replaced
already. -/
def replaceAlias (name : Octets) : Reading Bool := do
  let s ← get
  let length := s.rest.length
  match s.aliases.find? fun a => a.1 = name with
  | some (_, text) =>
    if s.busy.any fun b => b.1 = name && decide (b.2 < length) then pure false
    else
      set { s with
        rest := text ++ s.rest
        busy := (name, length) :: s.busy.filter fun b => decide (b.2 < length) }
      pure true
  | none => pure false

/-- Takes the lines of a here-document up to the one that is its mark. Gives the document and what
follows it. Where lines are joined, the end of one is no start of another. -/
def takeDocument (w : WantedDocument) : Nat → (joined : Bool) → (done : Octets) → Octets →
    Octets × Octets
  | 0, _, done, o => (done, o)
  | _ + 1, _, done, [] => (done, [])
  | n + 1, joined, done, c :: o =>
    let line := (c :: o).takeWhile (· != '\n')
    let rest := (c :: o).drop line.length
    let line := if w.stripsTabs && !joined then line.dropWhile (· = '\t') else line
    if line = w.mark && !joined then (done, rest.drop 1)
    else
      let goesOn := !w.isLiteral && (line.reverse.takeWhile (· = '\\')).length % 2 = 1
      takeDocument w n goesOn (done ++ line ++ rest.take 1) (rest.drop 1)

/-- Takes the text of a substitution in the older style, in which a backslash protects the mark,
dollars and itself, and quotation marks where they count; nothing if it has no end. -/
def takeBackquoted? (quoted : Bool) : Octets → Option (Octets × Octets)
  | [] => none
  | '\\' :: '\n' :: rest => takeBackquoted? quoted rest
  | ['\\'] => none
  | '\\' :: c :: rest =>
    let isProtected := c = '\\' || c = '$' || c = Octets.backquote || (quoted && c = '"')
    (takeBackquoted? quoted rest).map fun (text, after) =>
      (if isProtected then c :: text else '\\' :: c :: text, after)
  | c :: rest =>
    if c = Octets.backquote then some ([], rest)
    else (takeBackquoted? quoted rest).map fun (text, after) => (c :: text, after)

end Reading

end Pasteboard.Shell
