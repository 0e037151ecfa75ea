import Pasteboard.Binary64.Numeral
import Pasteboard.Charset.Codec
import Pasteboard.Fault
import Pasteboard.Value

/-!
# Reading fields

A reader takes a value of any kind and either gives what the value stands for or the one fault that
it has. Readers are lax: words stand for truth values, numerals for numbers and octets for text.
`Fields.readOr` applies a reader to one field of an object, whatever the other fields are.
-/

namespace Pasteboard

/-- The text that a value is: a text without surrogates, or octets that are UTF-8; `none` for a
value that is neither. Octets that are no text give the fault `ifBroken`. -/
def Value.asText? (ifBroken : FaultKind) : Value → Except FaultKind (Option Text)
  | text t => if t.hasSurrogate then .error .notUnicode else .ok (some t)
  | bytes b =>
    match Charset.utf8.decode b with
    | .ok t => .ok (some t)
    | .error _ => .error ifBroken
  | _ => .ok none

/-- The words for no and for yes. -/
def boolWords : List String × List String :=
  (["0", "off", "f", "false", "n", "no"], ["1", "on", "t", "true", "y", "yes"])

/-- The truth value of a word, in any case of its letters. -/
def boolOfWord (t : Text) : Except FaultKind Bool :=
  let word := t.toLowerAscii
  if boolWords.1.any fun w => decide (Text.ofString w = word) then .ok false
  else if boolWords.2.any fun w => decide (Text.ofString w = word) then .ok true
  else .error .badBool

/-- The truth value of an integer: zero or one, as other integers of 64 bits are none. -/
def boolOfInt (i : Int) : Except FaultKind Bool :=
  if i = 0 then .ok false else if i = 1 then .ok true else .error .badBool

/-- The integers of 64 bits are those from the negative of this one on and below it. -/
def wordBound : Int := 9223372036854775808

/-- The truth value of a number: a whole number inside the range of 64 bits counts as an integer. -/
def boolOfNumber (x : Binary64) : Except FaultKind Bool :=
  match x.toInt? with
  | some i => if -wordBound < i ∧ i < wordBound then boolOfInt i else .error .notBool
  | none => .error .notBool

/-- The truth value that a value stands for. -/
def Value.readBool (v : Value) : Except FaultKind Bool := do
  match ← v.asText? .badBool with
  | some t => boolOfWord t
  | none =>
    match v with
    | bool b => .ok b
    | int i => if -wordBound ≤ i ∧ i < wordBound then boolOfInt i else .error .notBool
    | float x => boolOfNumber x
    | _ => .error .notBool

/-- The number that a value stands for. -/
def Value.readNumber (v : Value) : Except FaultKind Binary64 := do
  match ← v.asText? .badNumeral with
  | some t =>
    match readNumber? t with
    | some x => .ok x
    | none => .error .badNumeral
  | none =>
    match v with
    | bool b => .ok (Binary64.ofInt (if b then 1 else 0))
    | float x => .ok x
    | int i =>
      match Binary64.ofInt? i with
      | some x => .ok x
      | none => .error .notNumber
    | _ => .error .notNumber

/-- Reads one field: its default if it is absent, else what its reader makes of the value. -/
def Fields.readOr {α : Type} (fields : Fields) (name : Text) (default : α)
    (read : Value → Except FaultKind α) : Except Fault α :=
  match fields.get? name with
  | none => .ok default
  | some v => (read v).mapError fun kind => ⟨name, kind⟩

/-- The fault of a field that was refused, or nothing. -/
def Field.faultOf {α : Type} : Except Fault α → List Fault
  | .ok _ => []
  | .error fault => [fault]

end Pasteboard
