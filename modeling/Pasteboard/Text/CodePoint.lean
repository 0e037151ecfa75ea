/-!
# Text as code points

Clipboard text comes from programs that do not all agree on what text is, so `Text` is a list of
Unicode code points in which a lone half of a surrogate pair may stand. A `String` holds scalar
values only and embeds into it; `Text.ofString` is that embedding and is used for fixed wording.
-/

namespace Pasteboard

/-- A Unicode code point: a number below `0x110000`, surrogates included. -/
structure CodePoint where
  val : Nat
  val_lt : val < 0x110000
deriving DecidableEq

namespace CodePoint

theorem ext_val {c d : CodePoint} (h : c.val = d.val) : c = d := by
  cases c; cases d; simp_all

/-- The code point of a character. -/
def ofChar (c : Char) : CodePoint :=
  ⟨c.toNat, by
    have h := c.valid
    simp only [UInt32.isValidChar, Nat.isValidChar] at h
    simp only [Char.toNat]
    omega⟩

instance : Coe Char CodePoint := ⟨ofChar⟩

instance : Inhabited CodePoint := ⟨⟨0, by decide⟩⟩

/-- The code point with number `n`, if there is one. -/
def ofNat? (n : Nat) : Option CodePoint :=
  if h : n < 0x110000 then some ⟨n, h⟩ else none

/-- The code point with the number of a byte. -/
def ofByte (b : UInt8) : CodePoint :=
  ⟨b.toNat, Nat.lt_of_lt_of_le b.toNat_lt (by decide)⟩

/-- U+FFFD, which stands for input that is no text. -/
def replacement : CodePoint := ⟨0xFFFD, by decide⟩

/-- One half of a surrogate pair, which is no character on its own. -/
def isSurrogate (c : CodePoint) : Bool := decide (0xD800 ≤ c.val ∧ c.val ≤ 0xDFFF)

/-- A decimal digit of ASCII; no other digits count in numerals. -/
def isDigit (c : CodePoint) : Bool := decide (48 ≤ c.val ∧ c.val ≤ 57)

/-- The letter in lower case if it is an ASCII letter, else the code point itself. -/
def toLowerAscii (c : CodePoint) : CodePoint :=
  if h : 65 ≤ c.val ∧ c.val ≤ 90 then ⟨c.val + 32, by omega⟩ else c

theorem val_ofChar (c : Char) : (ofChar c).val = c.toNat := rfl

/-- A character is never half of a pair. -/
theorem isSurrogate_ofChar (c : Char) : (ofChar c).isSurrogate = false := by
  have h := c.valid
  simp only [UInt32.isValidChar, Nat.isValidChar] at h
  have hv : (ofChar c).val = c.val.toNat := rfl
  rw [isSurrogate, decide_eq_false_iff_not, hv]
  omega

theorem val_ofByte (b : UInt8) : (ofByte b).val = b.toNat := rfl

end CodePoint

/-- A sequence of code points, in which surrogates may stand alone. -/
abbrev Text := List CodePoint

/-- A sequence of octets. -/
abbrev Bytes := List UInt8

namespace Text

/-- The text of a string of characters. -/
def ofString (s : String) : Text := s.toList.map CodePoint.ofChar

instance : Coe String Text := ⟨ofString⟩

/-- The decimal numeral of a natural number. -/
def ofNat (n : Nat) : Text := (Nat.toDigits 10 n).map CodePoint.ofChar

/-- The decimal numeral of an integer, with a minus sign if it is negative. -/
def ofInt (i : Int) : Text :=
  if i < 0 then CodePoint.ofChar '-' :: ofNat i.natAbs else ofNat i.natAbs

/-- The hexadecimal numeral of a number in lower case, filled up with zeros to `width` digits. -/
def hex (width n : Nat) : Text :=
  let digits := (Nat.toDigits 16 n).map CodePoint.ofChar
  List.replicate (width - digits.length) (CodePoint.ofChar '0') ++ digits

/-- The texts in a row, with `separator` between each two. -/
def join (separator : Text) : List Text → Text
  | [] => []
  | [t] => t
  | t :: u :: rest => t ++ separator ++ join separator (u :: rest)

/-- Cuts a text at every code point `mark`; what is between two marks is a part, empty or not. -/
def splitAt (mark : CodePoint) (t : Text) : List Text :=
  t.foldr (fun c parts =>
    if c = mark then [] :: parts
    else match parts with
      | [] => [[c]]
      | part :: rest => (c :: part) :: rest) [[]]

/-- Whether the text starts with `start`. -/
def startsWith (t start : Text) : Bool := start.isPrefixOf t

/-- Whether the text ends with `ending`. -/
def endsWith (t ending : Text) : Bool := ending.isSuffixOf t

/-- The text without its blanks at both ends, a blank being what `blank` accepts. -/
def trim (blank : CodePoint → Bool) (t : Text) : Text :=
  ((t.dropWhile blank).reverse.dropWhile blank).reverse

/-- The text with every ASCII letter in lower case. -/
def toLowerAscii (t : Text) : Text := t.map CodePoint.toLowerAscii

/-- The text holds half of a surrogate pair. -/
def hasSurrogate (t : Text) : Bool := t.any CodePoint.isSurrogate

@[simp] theorem ofString_empty : ofString "" = [] := rfl

/-- Fixed wording holds no surrogates. -/
theorem hasSurrogate_ofString (s : String) : hasSurrogate (ofString s) = false := by
  simp only [hasSurrogate, ofString, List.any_map, List.any_eq_false, Function.comp]
  intro c _
  exact Bool.eq_false_iff.1 (CodePoint.isSurrogate_ofChar c)

end Text

end Pasteboard
