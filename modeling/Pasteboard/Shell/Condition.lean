import Pasteboard.Shell.Machine

/-!
# Conditions

What `test` decides: properties of texts, numbers and files, joined by and, or and not. A condition
of few words is told by their number, so that texts which look like operators can be compared.

A place is the rest of the words from there on. The shell's own command and the native one read
conditions in ways that differ in what they take for mistakes.
-/

namespace Pasteboard.Shell.Condition

/-- The kinds of words. -/
inductive Kind
  | unary
  | binary
  | negation
  | conjunction
  | disjunction
  | opening
  | closing
  | operand
  | missing
deriving DecidableEq

/-- The operators with one operand. -/
def unaryOperators : List String :=
  ["-r", "-w", "-x", "-e", "-f", "-d", "-c", "-b", "-p", "-u", "-g", "-k", "-s", "-t", "-z", "-n",
   "-h", "-L", "-O", "-G", "-S"]

/-- The operators between two operands. -/
def binaryOperators : List String :=
  ["=", "!=", "<", ">", "-eq", "-ne", "-ge", "-gt", "-le", "-lt", "-nt", "-ot", "-ef"]

/-- What a word is by itself. -/
def kindOf (word : Octets) : Kind :=
  let s := String.ofList word
  if unaryOperators.contains s then .unary
  else if binaryOperators.contains s then .binary
  else match s with
    | "!" => .negation
    | "-a" => .conjunction
    | "-o" => .disjunction
    | "(" => .opening
    | ")" => .closing
    | _ => .operand

/-- The device files. -/
def devices : List String := ["/dev/null", "/dev/zero", "/dev/full", "/dev/tty"]

/-- A file operator holds for a file name. -/
def fileTest (m : Machine) (letter : Char) (name : Octets) : Bool :=
  if devices.contains (String.ofList name) then "ecrw".toList.contains letter
  else match m.look name with
    | .ok (.file content executable) =>
      match letter with
      | 'e' | 'f' | 'O' | 'G' => true
      | 'r' => !m.isDenied (.read (m.path name))
      | 'w' => !m.isDenied (.append (m.path name))
      | 's' => !content.isEmpty
      | 'x' => executable
      | _ => false
    | .ok .directory =>
      match letter with
      | 'e' | 'd' | 'r' | 'x' | 's' | 'O' | 'G' => true
      | 'w' => !m.isDenied (.create ((m.path name).child "x"))
      | _ => false
    | .error _ => false

/-- An integer, or a complaint. -/
def integer (o : Octets) : Except Octets Int :=
  match Octets.toInt? o with
  | some i => .ok i
  | none => .error ("Illegal number: ".toList ++ o)

/-- What an operator with one operand decides. -/
def unary (m : Machine) (op operand : Octets) : Except Octets Bool :=
  match op with
  | ['-', 'n'] => .ok !operand.isEmpty
  | ['-', 'z'] => .ok operand.isEmpty
  | ['-', 't'] => do
    let _ ← integer operand
    pure false
  | [_, letter] => .ok (fileTest m letter operand)
  | _ => .ok false

/-- What an operator between two operands decides. -/
def binary (m : Machine) (number : Octets → Except Octets Int) (a op b : Octets) :
    Except Octets Bool :=
  let numbers (f : Int → Int → Bool) : Except Octets Bool := do pure (f (← number a) (← number b))
  match String.ofList op with
  | "=" | "==" => .ok (decide (a = b))
  | "!=" => .ok (decide (a ≠ b))
  | "<" => .ok (!Octets.isOrdered b a)
  | ">" => .ok (!Octets.isOrdered a b)
  | "-eq" => numbers fun i j => decide (i = j)
  | "-ne" => numbers fun i j => decide (i ≠ j)
  | "-lt" => numbers fun i j => decide (i < j)
  | "-le" => numbers fun i j => decide (i ≤ j)
  | "-gt" => numbers fun i j => decide (i > j)
  | "-ge" => numbers fun i j => decide (i ≥ j)
  | "-ef" => .ok (fileTest m 'e' a && fileTest m 'e' b && decide (m.path a = m.path b))
  | _ => .ok false

/-! ### The command of the shell -/

/-- The kind of the word at a place. An operator that nothing follows is an operand. -/
def lex (place : List Octets) : Kind :=
  match place with
  | [] => .missing
  | word :: rest =>
    let kind := kindOf word
    let isOperand := match rest with
      | [] => true
      | [_] => false
      | second :: _ => kindOf second = .binary
    if (kind = .unary && isOperand) || (kind = .opening && rest.isEmpty) then .operand
    else kind

/-- The complaint about a word. -/
def complaint (word message : Octets) : Octets :=
  if word.isEmpty then message else word ++ ": ".toList ++ message

/-- A condition that is being decided: the value so far, and the last place that was looked at. -/
abbrev Step := Except Octets (Bool × List Octets)

mutual

/-- Conditions joined by or. -/
def disjunction (m : Machine) (n : Nat) (kind : Kind) (place : List Octets) : Step :=
  match n with
  | 0 => .ok (false, place)
  | n + 1 => do
    let (a, place) ← conjunction m n kind place
    if lex (place.drop 1) = .disjunction then
      let place := place.drop 2
      let (b, place) ← disjunction m n (lex place) place
      pure (a || b, place)
    else pure (a, place)

/-- Conditions joined by and. -/
def conjunction (m : Machine) (n : Nat) (kind : Kind) (place : List Octets) : Step :=
  match n with
  | 0 => .ok (false, place)
  | n + 1 => do
    let (a, place) ← negation m n kind place
    if lex (place.drop 1) = .conjunction then
      let place := place.drop 2
      let (b, place) ← conjunction m n (lex place) place
      pure (a && b, place)
    else pure (a, place)

/-- A condition that may be negated. -/
def negation (m : Machine) (n : Nat) (kind : Kind) (place : List Octets) : Step :=
  match n with
  | 0 => .ok (false, place)
  | n + 1 => do
    if kind = .negation then
      let next := lex (place.drop 1)
      let (a, place) ← negation m n next (if next = .missing then place else place.drop 1)
      pure (!a, place)
    else primary m n kind place

/-- A single condition. -/
def primary (m : Machine) (n : Nat) (kind : Kind) (place : List Octets) : Step :=
  match n with
  | 0 => .ok (false, place)
  | n + 1 => do
    let word := place.headD []
    if kind = .missing then pure (false, place)
    else if kind = .opening then
      let place := place.drop 1
      if lex place = .closing then pure (false, place)
      else
        let (a, place) ← disjunction m n (lex place) place
        let place := place.drop 1
        if lex place = .closing then pure (a, place)
        else .error "closing paren expected"
    else if kind = .unary then
      match place.drop 1 with
      | [] => .error (complaint word "argument expected")
      | operand :: rest => do pure (← unary m word operand, operand :: rest)
    else if lex (place.drop 1) = .binary then
      match place with
      | a :: op :: b :: rest => do pure (← binary m integer a op b, b :: rest)
      | _ :: op :: _ => .error (complaint op "argument expected")
      | _ => pure (false, place)
    else pure (!word.isEmpty, place)

end

/-- Decides the words of a condition; `kind` is that of the first word. -/
def whole (m : Machine) (kind : Kind) (words : List Octets) : Except Octets Bool := do
  let (a, place) ← disjunction m (4 * words.length + 8) kind words
  match place with
  | word :: _ :: _ => .error (complaint word "unexpected operator")
  | _ => pure a

/-- What the shell's own command decides. Three or four words may be negated or in brackets as a
whole; `n` bounds the negations. -/
def decidedWithin (m : Machine) : Nat → List Octets → Except Octets Bool
  | 0, _ => .ok false
  | n + 1, words =>
    let isBinary : Bool := match words with
      | [_, op, _] => kindOf op = .binary
      | _ => false
    if words.isEmpty then .ok false
    else if isBinary then whole m .operand words
    else if words.length = 3 || words.length = 4 then
      if words.head? = some ['('] && words.getLast? = some [')'] then
        let inner := words.tail.dropLast
        whole m (lex inner) inner
      else if words.head? = some ['!'] then (decidedWithin m n words.tail).map (!·)
      else whole m (lex words) words
    else whole m (lex words) words

/-- What the shell's own command decides. -/
def decided (m : Machine) (words : List Octets) : Except Octets Bool := decidedWithin m 3 words

/-! ### The native command -/

/-- A word in quotation marks. -/
def marked (o : Octets) : Octets := Octets.apostrophe :: o ++ [Octets.apostrophe]

/-- An integer, or the complaint of the native command. -/
def nativeInteger (o : Octets) : Except Octets Int :=
  match Octets.readInteger? false o with
  | some (i, rest) =>
    if rest.all Octets.isBlank then .ok i else .error ("invalid integer ".toList ++ marked o)
  | none => .error ("invalid integer ".toList ++ marked o)

/-- A word is an operator of the native command between two operands. -/
def isNativeBinary (o : Octets) : Bool :=
  ["=", "==", "!=", "<", ">", "-eq", "-ne", "-ge", "-gt", "-le", "-lt", "-nt", "-ot",
    "-ef"].contains (String.ofList o)

/-- A word is an operator of the native command with one operand. -/
def isNativeUnary (o : Octets) : Bool :=
  unaryOperators.contains (String.ofList o) || o = "-N".toList

mutual

/-- Conditions joined by or. -/
def nativeOr (m : Machine) (n : Nat) (words : List Octets) : Step :=
  match n with
  | 0 => .ok (false, words)
  | n + 1 => do
    let (a, rest) ← nativeAnd m n words
    match rest with
    | ['-', 'o'] :: rest => do
      let (b, rest) ← nativeOr m n rest
      pure (a || b, rest)
    | rest => pure (a, rest)

/-- Conditions joined by and. -/
def nativeAnd (m : Machine) (n : Nat) (words : List Octets) : Step :=
  match n with
  | 0 => .ok (false, words)
  | n + 1 => do
    let (a, rest) ← nativeTerm m n words
    match rest with
    | ['-', 'a'] :: rest => do
      let (b, rest) ← nativeAnd m n rest
      pure (a && b, rest)
    | rest => pure (a, rest)

/-- A single condition. -/
def nativeTerm (m : Machine) (n : Nat) (words : List Octets) : Step :=
  match n with
  | 0 => .ok (false, words)
  | n + 1 => do
    match words with
    | [] => .error "missing argument"
    | ['!'] :: rest =>
      if rest.isEmpty then .error ("missing argument after ".toList ++ marked ['!'])
      else do
        let (a, rest) ← nativeTerm m n rest
        pure (!a, rest)
    | ['('] :: rest => do
      if rest.isEmpty then .error ("missing argument after ".toList ++ marked ['('])
      else
        let (a, rest) ← nativeOr m n rest
        match rest with
        | [')'] :: rest => pure (a, rest)
        | [] => .error (marked [')'] ++ " expected".toList)
        | other :: _ =>
          .error (marked [')'] ++ " expected, found ".toList ++ other)
    | a :: op :: b :: rest =>
      if isNativeBinary op then do pure (← binary m nativeInteger a op b, rest)
      else if isNativeUnary a then do pure (← unary m a op, b :: rest)
      else pure (!a.isEmpty, op :: b :: rest)
    | [a, b] =>
      if isNativeUnary a then do pure (← unary m a b, [])
      else if a.head? = some '-' && a.length = 2 then
        .error (marked a ++ ": unary operator expected".toList)
      else pure (!a.isEmpty, [b])
    | [a] => pure (!a.isEmpty, [])

end

/-- What the native command decides. -/
def nativelyDecided (m : Machine) : List Octets → Except Octets Bool
  | [] => .ok false
  | [a] => .ok !a.isEmpty
  | [a, b] =>
    if a = ['!'] then .ok b.isEmpty
    else if isNativeUnary a then unary m a b
    else if a.head? = some '-' && a.length = 2 then
      .error (marked a ++ ": unary operator expected".toList)
    else .error ("missing argument after ".toList ++ marked b)
  | [a, op, b] =>
    if isNativeBinary op then binary m nativeInteger a op b
    else if a = ['!'] then (nativelyDecided m [op, b]).map (!·)
    else if a = ['('] && b = [')'] then .ok !op.isEmpty
    else if op = ['-', 'a'] then .ok (!a.isEmpty && !b.isEmpty)
    else if op = ['-', 'o'] then .ok (!a.isEmpty || !b.isEmpty)
    else .error (marked op ++ ": binary operator expected".toList)
  | words => do
    let (a, rest) ← nativeOr m (4 * words.length + 8) words
    match rest with
    | [] => pure a
    | word :: _ => .error ("extra argument ".toList ++ marked word)

end Pasteboard.Shell.Condition
