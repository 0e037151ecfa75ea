import Pasteboard.Binary64.Numeral
import Pasteboard.Charset.Codec
import Pasteboard.Value

/-!
# Reading JSON

A document is UTF-8 text that holds one value between blanks. Beside the standard's grammar the
words `NaN`, `Infinity` and `-Infinity` are numbers; half of a surrogate pair is refused, in an
escape as in the octets; at most `nestingLimit` containers with something in them may stand inside
each other; and the whole part of a number may have at most `integerLimit` digits.

Each step takes text from the front and gives back the rest. The fuel of the recursive readers is
the length of the text, which every step shortens.
-/

namespace Pasteboard.Json

/-- How many containers that are not empty may stand inside each other. -/
def nestingLimit : Nat := 200

/-- How many digits the whole part of a number may have. -/
def integerLimit : Nat := 4300

/-- The blanks of JSON: space, tab, line feed and carriage return. -/
def isBlank (c : CodePoint) : Bool :=
  c.val == 0x20 || c.val == 0x9 || c.val == 0xA || c.val == 0xD

/-- The text without the blanks at its front. -/
def skipBlanks (t : Text) : Text := t.dropWhile isBlank

/-- The rest of a text behind a word, if the text starts with it. -/
def dropWord? (word : String) (t : Text) : Option Text :=
  let w := Text.ofString word
  if w.isPrefixOf t then some (t.drop w.length) else none

/-- The rest of a text behind a code point, if the text starts with it. -/
def dropMark? (mark : Char) : Text → Option Text
  | [] => none
  | c :: rest => if c = CodePoint.ofChar mark then some rest else none

/-- The value of a hexadecimal digit in either case. -/
def hexDigit? (c : CodePoint) : Option Nat :=
  if 48 ≤ c.val ∧ c.val ≤ 57 then some (c.val - 48)
  else if 97 ≤ c.val ∧ c.val ≤ 102 then some (c.val - 87)
  else if 65 ≤ c.val ∧ c.val ≤ 70 then some (c.val - 55)
  else none

/-- The unit that four hexadecimal digits write. -/
def readUnit? : Text → Option (Nat × Text)
  | a :: b :: c :: d :: rest => do
    let a ← hexDigit? a
    let b ← hexDigit? b
    let c ← hexDigit? c
    let d ← hexDigit? d
    some (((a * 16 + b) * 16 + c) * 16 + d, rest)
  | _ => none

/-- The code point of an escape by number, and how long the number is: a unit, or two units that are
a surrogate pair. -/
def readNumberEscape? (t : Text) : Option (CodePoint × Nat) := do
  let (high, rest) ← readUnit? t
  if 0xDC00 ≤ high ∧ high ≤ 0xDFFF then none
  else if 0xD800 ≤ high ∧ high ≤ 0xDBFF then do
    let rest ← dropMark? '\\' rest
    let rest ← dropMark? 'u' rest
    let (low, _) ← readUnit? rest
    if 0xDC00 ≤ low ∧ low ≤ 0xDFFF then do
      let c ← CodePoint.ofNat? (0x10000 + (high - 0xD800) * 1024 + (low - 0xDC00))
      some (c, 10)
    else none
  else do
    let c ← CodePoint.ofNat? high
    some (c, 4)

/-- The letters of the short escapes, with what they stand for. -/
def shortEscapes : List (Char × Nat) :=
  [('"', 0x22), ('\\', 0x5C), ('/', 0x2F), ('b', 0x8), ('f', 0xC), ('n', 0xA), ('r', 0xD),
   ('t', 0x9)]

/-- The code point that an escape stands for, and how long the escape is behind its backslash. -/
def readEscape? : Text → Option (CodePoint × Nat)
  | [] => none
  | c :: rest =>
    if c = CodePoint.ofChar 'u' then
      (readNumberEscape? rest).map fun (point, size) => (point, size + 1)
    else do
      let (_, n) ← shortEscapes.find? fun e => decide (CodePoint.ofChar e.1 = c)
      let point ← CodePoint.ofNat? n
      some (point, 1)

/-- Reads a string to its closing mark; `done` is what has been read, in reverse, and the next
`skip` code points belong to an escape that has been read. -/
def readStringFrom? (done : Text) : Nat → Text → Option (Text × Text)
  | _, [] => none
  | skip + 1, _ :: rest => readStringFrom? done skip rest
  | 0, c :: rest =>
    if c = CodePoint.ofChar '"' then some (done.reverse, rest)
    else if c = CodePoint.ofChar '\\' then
      match readEscape? rest with
      | some (point, size) => readStringFrom? (point :: done) size rest
      | none => none
    else if c.val < 0x20 then none
    else readStringFrom? (c :: done) 0 rest

/-- Reads a string behind its opening mark. -/
def readString? (t : Text) : Option (Text × Text) := readStringFrom? [] 0 t

/-- The digits of a fraction behind its point, of which there must be one. -/
def readFraction? (t : Text) : Option (Text × Text) :=
  match dropMark? '.' t with
  | none => some ([], t)
  | some rest =>
    let (digits, rest) := rest.span CodePoint.isDigit
    if digits.isEmpty then none else some (digits, rest)

/-- An exponent, if one follows: a sign or none, and digits of which there must be one. -/
def readExponent? (t : Text) : Option (Option Int × Text) :=
  match (dropMark? 'e' t).orElse fun _ => dropMark? 'E' t with
  | none => some (none, t)
  | some rest =>
    let (negative, rest) := Numeral.takeSign rest
    let (digits, rest) := rest.span CodePoint.isDigit
    if digits.isEmpty then none
    else
      let n : Int := digitsValue digits
      some (some (if negative then -n else n), rest)

/-- Reads a number behind its sign: digits that do not start with a zero unless it is the only one,
a fraction and an exponent. Without these two it is an integer. -/
def readUnsigned? (negative : Bool) (t : Text) : Option (Value × Text) := do
  let (whole, rest) := t.span CodePoint.isDigit
  if whole.isEmpty || (whole.length > 1 && whole.head? == some (CodePoint.ofChar '0')) then none
  else if whole.length > integerLimit then none
  else do
    let (fraction, rest) ← readFraction? rest
    let (exponent?, rest) ← readExponent? rest
    if fraction.isEmpty && exponent?.isNone then
      let n : Int := digitsValue whole
      some (.int (if negative then -n else n), rest)
    else
      let numeral : Numeral := ⟨negative, whole, fraction, exponent?.getD 0⟩
      some (.float numeral.value, rest)

/-- Reads a number. -/
def readNumber? (t : Text) : Option (Value × Text) :=
  match dropMark? '-' t with
  | some rest =>
    match dropWord? "Infinity" rest with
    | some rest => some (.float (.infinite true), rest)
    | none => readUnsigned? true rest
  | none => readUnsigned? false t

/-- Reads one of the words that are values. -/
def readWord? (t : Text) : Option (Value × Text) :=
  let words : List (String × Value) :=
    [("true", .bool true), ("false", .bool false), ("null", .null), ("NaN", .float .nan),
     ("Infinity", .float (.infinite false))]
  words.findSome? fun (word, value) => (dropWord? word t).map fun rest => (value, rest)

/-- Reads what holds no other value: a string, a number or a word. -/
def readScalar? (t : Text) : Option (Value × Text) :=
  match dropMark? '"' t with
  | some rest => (readString? rest).map fun (s, rest) => (.text s, rest)
  | none => (readWord? t).orElse fun _ => readNumber? t

/-- Reads a name and the colon behind it. -/
def readName? (t : Text) : Option (Text × Text) := do
  let rest ← dropMark? '"' t
  let (name, rest) ← readString? rest
  let rest ← dropMark? ':' (skipBlanks rest)
  some (name, skipBlanks rest)

mutual

/-- Reads a value; `room` more containers with something in them may stand inside each other. -/
def readValue? (fuel room : Nat) (t : Text) : Option (Value × Text) :=
  match fuel with
  | 0 => none
  | fuel + 1 =>
    match dropMark? '[' t with
    | some rest =>
      let rest := skipBlanks rest
      match dropMark? ']' rest, room with
      | some rest, _ => some (.list [], rest)
      | none, 0 => none
      | none, room + 1 => readItems? fuel room [] rest
    | none =>
      match dropMark? '{' t with
      | some rest =>
        let rest := skipBlanks rest
        match dropMark? '}' rest, room with
        | some rest, _ => some (.object [], rest)
        | none, 0 => none
        | none, room + 1 => readMembers? fuel room [] rest
      | none => readScalar? t

/-- Reads the items of a list to its end; `done` has those before, in reverse. -/
def readItems? (fuel room : Nat) (done : List Value) (t : Text) : Option (Value × Text) :=
  match fuel with
  | 0 => none
  | fuel + 1 =>
    match readValue? fuel room t with
    | none => none
    | some (value, rest) =>
      let rest := skipBlanks rest
      match dropMark? ',' rest with
      | some rest => readItems? fuel room (value :: done) (skipBlanks rest)
      | none => (dropMark? ']' rest).map fun rest => (.list (value :: done).reverse, rest)

/-- Reads the members of an object to its end; `done` has those before, in reverse. -/
def readMembers? (fuel room : Nat) (done : Fields) (t : Text) : Option (Value × Text) :=
  match fuel with
  | 0 => none
  | fuel + 1 =>
    match readName? t with
    | none => none
    | some (name, rest) =>
      match readValue? fuel room rest with
      | none => none
      | some (value, rest) =>
        let rest := skipBlanks rest
        match dropMark? ',' rest with
        | some rest => readMembers? fuel room ((name, value) :: done) (skipBlanks rest)
        | none =>
          (dropMark? '}' rest).map fun rest => (.object ((name, value) :: done).reverse, rest)

end

/-- The value that a text writes between blanks. -/
def readText? (t : Text) : Option Value :=
  match readValue? (t.length + 1) nestingLimit (skipBlanks t) with
  | some (value, rest) => if (skipBlanks rest).isEmpty then some value else none
  | none => none

/-- The value that a document holds. -/
def read? (document : Bytes) : Option Value :=
  match Charset.utf8.decode document with
  | .ok t => readText? t
  | .error _ => none

end Pasteboard.Json
