import Pasteboard.Json.Reader

/-!
# The grammar of documents

What a document may look like is said here by relations between a text, what is written at its
front, and the text that comes behind: `SpellsNumber`, `SpellsString` and `SpellsScalar` for what
holds no other value, and `Spells` for values of any kind. `Holds` is the relation between a whole
document and its value. The limits of the reader are part of the grammar: half of a surrogate pair
cannot be written, the whole part of a number has at most `integerLimit` digits, and a value may
hold others only as far as there is room.
-/

namespace Pasteboard

/-! ### Characters -/

theorem CodePoint.isDigit_ofChar (c : Char) : (CodePoint.ofChar c).isDigit = c.isDigit := by
  rw [isDigit, val_ofChar, Char.isDigit, Char.toNat]
  simp only [ge_iff_le, UInt32.le_iff_toNat_le]
  rw [Bool.decide_and]
  rfl

theorem CodePoint.ofChar_inj {c d : Char} (h : CodePoint.ofChar c = CodePoint.ofChar d) :
    c = d := by
  have hv : c.toNat = d.toNat := congrArg CodePoint.val h
  exact Char.toNat_inj.1 hv

namespace Json

/-! ### Numbers -/

/-- A row of digits, of which there is at least one. -/
structure IsDigits (t : Text) : Prop where
  ne_nil : t ≠ []
  isDigit : ∀ c ∈ t, c.isDigit = true

/-- Digits that may stand in front of a point: only a lone zero starts with a zero. -/
structure IsWholePart (t : Text) : Prop extends IsDigits t where
  single : t.head? = some (CodePoint.ofChar '0') → t.length = 1
  length_le : t.length ≤ integerLimit

/-- The integer that a sign and digits write. -/
def signed (negative : Bool) (digits : Text) : Int :=
  if negative then -(digitsValue digits : Int) else digitsValue digits

/-- A fraction may come first: a point and digits. -/
inductive SpellsFraction : Text → Text → Text → Prop
  | none (rest : Text) : SpellsFraction rest [] rest
  | digits {digits : Text} (h : IsDigits digits) (rest : Text) :
    SpellsFraction (CodePoint.ofChar '.' :: (digits ++ rest)) digits rest

/-- A sign may come first; the sign is minus or it is not. -/
inductive SpellsSign : Text → Bool → Text → Prop
  | none (rest : Text) : SpellsSign rest false rest
  | plus (rest : Text) : SpellsSign (CodePoint.ofChar '+' :: rest) false rest
  | minus (rest : Text) : SpellsSign (CodePoint.ofChar '-' :: rest) true rest

/-- An exponent may come first: an `e` in either case, a sign or none, and digits. -/
inductive SpellsExponent : Text → Option Int → Text → Prop
  | none (rest : Text) : SpellsExponent rest none rest
  | digits {mark : CodePoint} (hmark : mark = CodePoint.ofChar 'e' ∨ mark = CodePoint.ofChar 'E')
    {t digits rest : Text} {negative : Bool} (hsign : SpellsSign t negative (digits ++ rest))
    (hdigits : IsDigits digits) :
    SpellsExponent (mark :: t) (some (signed negative digits)) rest

/-- The value of a number: an integer if it has neither a fraction nor an exponent. -/
def numberOf (negative : Bool) (whole fraction : Text) (exponent? : Option Int) : Value :=
  if fraction.isEmpty && exponent?.isNone then .int (signed negative whole)
  else .float (Numeral.value ⟨negative, whole, fraction, exponent?.getD 0⟩)

/-- The text starts with a number behind its sign. -/
inductive SpellsUnsigned (negative : Bool) : Text → Value → Text → Prop
  | mk {whole t fraction t' rest : Text} {exponent? : Option Int} (hwhole : IsWholePart whole)
    (hfraction : SpellsFraction t fraction t') (hexponent : SpellsExponent t' exponent? rest) :
    SpellsUnsigned negative (whole ++ t) (numberOf negative whole fraction exponent?) rest

/-- The text starts with a number. -/
inductive SpellsNumber : Text → Value → Text → Prop
  | unsigned {t rest : Text} {v : Value} (h : SpellsUnsigned false t v rest) : SpellsNumber t v rest
  | minus {t rest : Text} {v : Value} (h : SpellsUnsigned true t v rest) :
    SpellsNumber (CodePoint.ofChar '-' :: t) v rest

/-! ### Strings -/

/-- The text starts with four hexadecimal digits. -/
inductive SpellsUnit : Text → Nat → Text → Prop
  | mk {a b c d : CodePoint} {i j k l : Nat} (ha : hexDigit? a = some i) (hb : hexDigit? b = some j)
    (hc : hexDigit? c = some k) (hd : hexDigit? d = some l) (rest : Text) :
    SpellsUnit (a :: b :: c :: d :: rest) (((i * 16 + j) * 16 + k) * 16 + l) rest

/-- The text starts with an escape behind its backslash: a letter, or the number of a code point,
which is written as a surrogate pair if it has more than four digits. -/
inductive SpellsEscape : Text → CodePoint → Text → Prop
  | letter {letter : Char} {c : CodePoint} (h : (letter, c.val) ∈ shortEscapes) (rest : Text) :
    SpellsEscape (CodePoint.ofChar letter :: rest) c rest
  | unit {t rest : Text} {c : CodePoint} (h : SpellsUnit t c.val rest)
    (hsurrogate : c.isSurrogate = false) : SpellsEscape (CodePoint.ofChar 'u' :: t) c rest
  | pair {t t' rest : Text} {high low : Nat} {c : CodePoint}
    (hhigh : SpellsUnit t high (CodePoint.ofChar '\\' :: CodePoint.ofChar 'u' :: t'))
    (hlow : SpellsUnit t' low rest) (high_range : 0xD800 ≤ high ∧ high ≤ 0xDBFF)
    (low_range : 0xDC00 ≤ low ∧ low ≤ 0xDFFF)
    (hc : c.val = 0x10000 + (high - 0xD800) * 1024 + (low - 0xDC00)) :
    SpellsEscape (CodePoint.ofChar 'u' :: t) c rest

/-- The text starts with a string behind its opening mark. -/
inductive SpellsString : Text → Text → Text → Prop
  | close (rest : Text) : SpellsString (CodePoint.ofChar '"' :: rest) [] rest
  | point {t s rest : Text} {c : CodePoint} (hquote : c ≠ CodePoint.ofChar '"')
    (hback : c ≠ CodePoint.ofChar '\\') (hcontrol : 0x20 ≤ c.val) (h : SpellsString t s rest) :
    SpellsString (c :: t) (c :: s) rest
  | escape {t t' s rest : Text} {c : CodePoint} (hescape : SpellsEscape t c t')
    (h : SpellsString t' s rest) : SpellsString (CodePoint.ofChar '\\' :: t) (c :: s) rest

/-! ### Values -/

/-- The words that are values. -/
def words : List (String × Value) :=
  [("true", .bool true), ("false", .bool false), ("null", .null), ("NaN", .float .nan),
   ("Infinity", .float (.infinite false))]

/-- The text starts with what holds no other value. -/
inductive SpellsScalar : Text → Value → Text → Prop
  | word {word : String} {v : Value} (h : (word, v) ∈ words) (rest : Text) :
    SpellsScalar (Text.ofString word ++ rest) v rest
  | negativeInfinity (rest : Text) :
    SpellsScalar (CodePoint.ofChar '-' :: (Text.ofString "Infinity" ++ rest))
      (.float (.infinite true)) rest
  | number {t rest : Text} {v : Value} (h : SpellsNumber t v rest) : SpellsScalar t v rest
  | string {t s rest : Text} (h : SpellsString t s rest) :
    SpellsScalar (CodePoint.ofChar '"' :: t) (.text s) rest

/-- Blanks may come first. -/
def Blanks (t rest : Text) : Prop :=
  ∃ blanks : Text, (∀ c ∈ blanks, isBlank c = true) ∧ t = blanks ++ rest

/-- The text starts with a name and a colon, with blanks before and behind each of them. -/
inductive SpellsName : Text → Text → Text → Prop
  | mk {t t₁ t₂ t₃ rest name : Text} (hfirst : Blanks t (CodePoint.ofChar '"' :: t₁))
    (hname : SpellsString t₁ name t₂) (hsecond : Blanks t₂ (CodePoint.ofChar ':' :: t₃))
    (hthird : Blanks t₃ rest) : SpellsName t name rest

/-- A value, or what stands behind the opening bracket of a list or an object that is not empty. -/
inductive Piece
  | value (v : Value)
  | items (vs : List Value)
  | members (fields : Fields)

/-- The text starts with the piece, in which at most as many containers with something in them stand
inside each other as there is room for. -/
inductive Spells : Nat → Text → Piece → Text → Prop
  | scalar {room : Nat} {t rest : Text} {v : Value} (h : SpellsScalar t v rest) :
    Spells room t (.value v) rest
  | emptyList {room : Nat} {t rest : Text} (h : Blanks t (CodePoint.ofChar ']' :: rest)) :
    Spells room (CodePoint.ofChar '[' :: t) (.value (.list [])) rest
  | list {room : Nat} {t rest : Text} {items : List Value} (h : Spells room t (.items items) rest) :
    Spells (room + 1) (CodePoint.ofChar '[' :: t) (.value (.list items)) rest
  | emptyObject {room : Nat} {t rest : Text} (h : Blanks t (CodePoint.ofChar '\x7d' :: rest)) :
    Spells room (CodePoint.ofChar '\x7b' :: t) (.value (.object [])) rest
  | object {room : Nat} {t rest : Text} {members : Fields}
    (h : Spells room t (.members members) rest) :
    Spells (room + 1) (CodePoint.ofChar '\x7b' :: t) (.value (.object members)) rest
  | lastItem {room : Nat} {t t₁ t₂ rest : Text} {v : Value} (hfirst : Blanks t t₁)
    (hvalue : Spells room t₁ (.value v) t₂) (hlast : Blanks t₂ (CodePoint.ofChar ']' :: rest)) :
    Spells room t (.items [v]) rest
  | item {room : Nat} {t t₁ t₂ t₃ rest : Text} {v : Value} {items : List Value}
    (hfirst : Blanks t t₁) (hvalue : Spells room t₁ (.value v) t₂)
    (hnext : Blanks t₂ (CodePoint.ofChar ',' :: t₃)) (hitems : Spells room t₃ (.items items) rest) :
    Spells room t (.items (v :: items)) rest
  | lastMember {room : Nat} {t t₁ t₂ rest name : Text} {v : Value} (hname : SpellsName t name t₁)
    (hvalue : Spells room t₁ (.value v) t₂) (hlast : Blanks t₂ (CodePoint.ofChar '\x7d' :: rest)) :
    Spells room t (.members [(name, v)]) rest
  | member {room : Nat} {t t₁ t₂ t₃ rest name : Text} {v : Value} {members : Fields}
    (hname : SpellsName t name t₁) (hvalue : Spells room t₁ (.value v) t₂)
    (hnext : Blanks t₂ (CodePoint.ofChar ',' :: t₃))
    (hmembers : Spells room t₃ (.members members) rest) :
    Spells room t (.members ((name, v) :: members)) rest

/-- The text is a document that holds the value: there is nothing else in it but blanks. -/
def Holds (t : Text) (v : Value) : Prop :=
  ∃ t₁ t₂, Blanks t t₁ ∧ Spells nestingLimit t₁ (.value v) t₂ ∧ Blanks t₂ []

end Json

end Pasteboard
