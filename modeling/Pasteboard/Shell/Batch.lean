import Pasteboard.Shell.Options

/-!
# Batches

How `xargs` makes commands of its input: the input is cut into words or lines, and each batch of
them goes behind the words of a command, or each line in place of a mark in them.
-/

namespace Pasteboard.Shell.Batch

/-- The options of the command. -/
def table : OptionTable where
  plain := "0rtpxo"
  valued := "ndILPsaE"
  long := [("null", .nothing, '0'), ("no-run-if-empty", .nothing, 'r'),
    ("max-args", .something, 'n'), ("delimiter", .something, 'd'), ("replace", .maybe, 'I'),
    ("max-lines", .maybe, 'L'), ("max-procs", .something, 'P'), ("verbose", .nothing, 't'),
    ("help", .nothing, '?'), ("version", .nothing, '!')]
  permutes := false

/-- The words of an input: blanks part them, quotes and backslashes protect; nothing if a quote is
not closed. `current` is the word that has begun, in reverse, and `done` are those before it. -/
def words? : Nat → (current : Option Octets) → Octets → (done : List Octets) →
    Option (List Octets)
  | 0, _, _, done => some done.reverse
  | n + 1, current, o, done =>
    let finished : List Octets := match current with
      | some w => w.reverse :: done
      | none => done
    match o with
    | [] => some finished.reverse
    | c :: rest =>
      if Octets.isBlank c then words? n none rest finished
      else if c = '\\' then
        match rest with
        | d :: rest => words? n (some (d :: current.getD [])) rest done
        | [] => words? n current [] done
      else if c = '"' || c = Octets.apostrophe then
        let inside := rest.takeWhile fun d => d != c && d != '\n'
        match rest.drop inside.length with
        | d :: after =>
          if d = c then words? n (some (inside.reverse ++ current.getD [])) after done else none
        | [] => none
      else words? n (some (c :: current.getD [])) rest done

/-- A text with another one in place of every mark. -/
def replace (mark new : Octets) : Nat → Octets → Octets
  | 0, o => o
  | _ + 1, [] => []
  | n + 1, c :: rest =>
    if !mark.isEmpty && mark.isPrefixOf (c :: rest) then
      new ++ replace mark new n ((c :: rest).drop mark.length)
    else c :: replace mark new n rest

/-- Parts of some size. -/
def cut (size : Nat) : Nat → List Octets → List (List Octets)
  | 0, _ => []
  | n + 1, ws => if ws.isEmpty then [] else ws.take size :: cut size n (ws.drop size)

/-- The character that parts the words, if one is given. -/
def delimiter? (g : Given) : Option Char :=
  if g.has '0' then some (Char.ofNat 0)
  else (g.value? 'd').bind fun d =>
    if d = "\\n".toList then some '\n'
    else if d = "\\0".toList then some (Char.ofNat 0)
    else d.head?

/-- The lines of an input without blanks in front; those without anything do not count. -/
def bareLines (o : Octets) : List Octets :=
  (Octets.lines o).filterMap fun l =>
    let l := (if l.getLast? = some '\n' then l.dropLast else l).dropWhile fun c =>
      c = ' ' || c = '\t'
    if l.isEmpty then none else some l

/-- What is wrong with a number that an option gives. -/
def fault? (g : Given) : Option Octets :=
  (g.options.filter fun o => o.1 = 'n' || o.1 = 'L').findSome? fun (letter, value) =>
    let option := " for -".toList ++ letter :: " option".toList
    match Octets.toNat? value with
    | none => some ("invalid number \"".toList ++ value ++ '"' :: option)
    | some 0 => some ("value 0".toList ++ option ++ " should be >= 1".toList)
    | some _ => none

/-- The commands that an input makes; nothing if a quote in it is not closed. -/
def commands? (g : Given) (o : Octets) : Option (List (List Octets)) :=
  let command : List Octets := if g.operands.isEmpty then ["echo".toList] else g.operands
  let words : Option (List Octets) := match delimiter? g, g.value? 'I' with
    | some d, _ =>
      let parts := Octets.splitAt d o
      some (if parts.getLast? = some [] then parts.dropLast else parts)
    | none, some _ => some (bareLines o)
    | none, none => words? (o.length + 1) none o []
  words.map fun words =>
    match g.value? 'I' with
    | some mark =>
      let mark := if mark.isEmpty then "\x7b\x7d".toList else mark
      words.map fun w => command.map fun a => replace mark w (a.length + 1) a
    | none =>
      let size := ((g.value? 'n').bind Octets.toNat?).getD (words.length + 1)
      if words.isEmpty then if g.has 'r' then [] else [command]
      else (cut size words.length words).map (command ++ ·)

end Pasteboard.Shell.Batch
