import Pasteboard.Charset.Codec

/-!
# Octets as characters

A shell works on octets and its language is written in ASCII, so here each octet is the character
with its number. Numerals are read in the usual way of the system: blanks and a sign may come first,
and the number ends at the first character that is no digit of its base.
-/

namespace Pasteboard.Shell

/-- Octets, each as the character with its number. -/
abbrev Octets := List Char

namespace Octets

/-- The octets of a string of ASCII. -/
def ofString (s : String) : Octets := s.toList

instance : Coe String Octets := ⟨ofString⟩

/-- Octets as characters. -/
def ofBytes (b : Bytes) : Octets := b.map fun x => Char.ofNat x.toNat

/-- Characters as octets. -/
def toBytes (o : Octets) : Bytes := o.map fun c => UInt8.ofNat c.toNat

/-- The octets of a text in UTF-8; a surrogate from `0xDC80` on stands for one octet. -/
def ofText (t : Text) : Octets :=
  ofBytes (t.flatMap fun c =>
    match Charset.utf8.encodePoint c with
    | some b => b
    | none => [UInt8.ofNat (c.val % 256)])

/-- The text of octets in UTF-8; an octet that is none stands for itself as a surrogate. -/
def toText (o : Octets) : Text := Charset.utf8.decodeReplacing (toBytes o)

/-- A natural number in decimal digits. -/
def ofNat (n : Nat) : Octets := Nat.toDigits 10 n

/-- An integer in decimal digits. -/
def ofInt (i : Int) : Octets := if i < 0 then '-' :: ofNat i.natAbs else ofNat i.natAbs

/-! ### Kinds of characters -/

/-- A space, a tab or a line feed. -/
def isBlank (c : Char) : Bool := c = ' ' || c = '\t' || c = '\n'

/-- White space of ASCII. -/
def isSpace (c : Char) : Bool := c = ' ' || decide (9 ≤ c.toNat ∧ c.toNat ≤ 13)

/-- A character that may start the name of a variable. -/
def startsName (c : Char) : Bool := c.isAlpha || c = '_'

/-- A character that may be in the name of a variable. -/
def inName (c : Char) : Bool := startsName c || c.isDigit

/-- The name of a variable. -/
def isName (o : Octets) : Bool :=
  match o with
  | c :: rest => startsName c && rest.all inName
  | [] => false

/-- An octal digit. -/
def isOctal (c : Char) : Bool := decide (48 ≤ c.toNat ∧ c.toNat ≤ 55)

/-- A hexadecimal digit. -/
def isHex (c : Char) : Bool :=
  c.isDigit || decide (97 ≤ c.toNat ∧ c.toNat ≤ 102) || decide (65 ≤ c.toNat ∧ c.toNat ≤ 70)

/-- A printable character of ASCII. -/
def isPrintable (c : Char) : Bool := decide (32 ≤ c.toNat ∧ c.toNat ≤ 126)

/-- The apostrophe. -/
def apostrophe : Char := Char.ofNat 39

/-- The mark around substitutions in the older style. -/
def backquote : Char := Char.ofNat 96

/-! ### Numerals -/

/-- The number that digits of a base denote. -/
def digitsValue (base : Nat) (o : Octets) : Nat :=
  o.foldl (fun n c =>
    let d := if c.isDigit then c.toNat - 48 else if c.toNat < 97 then c.toNat - 55 else c.toNat - 87
    n * base + d) 0

/-- The natural number in decimal digits. -/
def toNat? (o : Octets) : Option Nat :=
  if !o.isEmpty && o.all Char.isDigit then some (digitsValue 10 o) else none

/-- The number that unsigned digits at the start denote, and what follows them. In a free base `0x`
starts a hexadecimal number and `0` an octal one. -/
def readDigits? (freeBase : Bool) (o : Octets) : Option (Nat × Octets) :=
  let inBase (base : Nat) (p : Char → Bool) (o : Octets) : Option (Nat × Octets) :=
    let digits := o.takeWhile p
    if digits.isEmpty then none else some (digitsValue base digits, o.drop digits.length)
  match o with
  | '0' :: x :: rest =>
    if freeBase && (x = 'x' || x = 'X') then
      match inBase 16 isHex rest with
      | some r => some r
      | none => some (0, x :: rest)
    else if freeBase then inBase 8 isOctal o
    else inBase 10 Char.isDigit o
  | o => inBase 10 Char.isDigit o

/-- The integer at the start, behind blanks and with a sign, and what follows it. -/
def readInteger? (freeBase : Bool) (o : Octets) : Option (Int × Octets) :=
  match o.dropWhile isSpace with
  | '-' :: rest => (readDigits? freeBase rest).map fun (n, rest) => (-(n : Int), rest)
  | '+' :: rest => (readDigits? freeBase rest).map fun (n, rest) => ((n : Int), rest)
  | o => (readDigits? freeBase o).map fun (n, rest) => ((n : Int), rest)

/-- The greatest integer of 64 bits. -/
def greatest : Int := 9223372036854775807

/-- The least integer of 64 bits. -/
def least : Int := -9223372036854775808

/-- An integer cut to 64 bits. -/
def wrapped (i : Int) : Int := (i - least) % 18446744073709551616 + least

/-- The next integer of 64 bits. -/
def clamped (i : Int) : Int := max least (min greatest i)

/-- The integer of 64 bits in decimal digits, with blanks around it. -/
def toInt? (o : Octets) : Option Int :=
  match readInteger? false o with
  | some (i, rest) => if rest.all isSpace && clamped i = i then some i else none
  | none => none

/-! ### Parts -/

/-- Cuts at every character `mark`. -/
def splitAt (mark : Char) (o : Octets) : List Octets :=
  o.foldr (fun c parts =>
    if c = mark then [] :: parts
    else match parts with
      | [] => [[c]]
      | part :: rest => (c :: part) :: rest) [[]]

/-- The lines, each with the line feed that ends it; the last one may have none. -/
def lines (o : Octets) : List Octets :=
  (o.foldr (fun c ls =>
    if c = '\n' then [c] :: ls
    else match ls with
      | [] => [[c]]
      | l :: rest => if l.isEmpty then [c] :: rest else (c :: l) :: rest) [[]]).filter (!·.isEmpty)

/-- The parts in a row, with `separator` between each two. -/
def join (separator : Octets) : List Octets → Octets
  | [] => []
  | [o] => o
  | o :: p :: rest => o ++ separator ++ join separator (p :: rest)

/-- Without the line feeds at the end. -/
def withoutLineEnds (o : Octets) : Octets := (o.reverse.dropWhile (· = '\n')).reverse

/-- Octets come no later than others in the order of their numbers. -/
def isOrdered : Octets → Octets → Bool
  | [], _ => true
  | _ :: _, [] => false
  | c :: o, d :: p => if c = d then isOrdered o p else decide (c.toNat < d.toNat)

/-- A text filled up to a width, at its end if it is to stand on the left. -/
def fill (left : Bool) (width : Nat) (o : Octets) : Octets :=
  let missing := List.replicate (width - o.length) ' '
  if left then o ++ missing else missing ++ o

end Octets

end Pasteboard.Shell
