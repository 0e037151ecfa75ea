import Pasteboard.Binary64.Layout
import Pasteboard.Binary64.Nearest
import Pasteboard.Text.Quoted

/-!
# Values

What a caller, a settings document or a clipboard hands over before anything is known of it. Fields
of an object keep their order, and of two fields with one name the later one counts. Values of the
kinds that a document can hold are told in full. Of an object of any other kind nothing is known but
its kind and how it shows itself; it is no number, no text and no collection.
-/

namespace Pasteboard

/-- A value of any kind. -/
inductive Value
  | null
  | bool (b : Bool)
  | int (i : Int)
  | float (x : Binary64)
  | text (t : Text)
  | bytes (b : Bytes)
  | list (items : List Value)
  | object (fields : List (Text × Value))
  | foreign (kind shown : Text)

instance : Inhabited Value := ⟨.null⟩

/-- The fields of an object, in order. -/
abbrev Fields := List (Text × Value)

/-- The value of a field: the last one with that name. -/
def Fields.get? (fields : Fields) (name : Text) : Option Value :=
  (fields.reverse.find? fun f => decide (f.1 = name)).map Prod.snd

namespace Value

/-- The name of a value's kind, as messages give it. -/
def kindName : Value → Text
  | null => "NoneType"
  | bool _ => "bool"
  | int _ => "int"
  | float _ => "float"
  | text _ => "str"
  | bytes _ => "bytes"
  | list _ => "list"
  | object _ => "dict"
  | foreign kind _ => kind

/-! ### Being the same -/

mutual

/-- The values are the same, their kinds included. -/
def same : Value → Value → Bool
  | .null, .null => true
  | .bool a, .bool b => decide (a = b)
  | .int i, .int j => decide (i = j)
  | .float x, .float y => decide (x = y)
  | .text t, .text u => decide (t = u)
  | .bytes b, .bytes c => decide (b = c)
  | .list vs, .list ws => sameItems vs ws
  | .object fs, .object gs => sameFields fs gs
  | .foreign k s, .foreign l t => decide (k = l ∧ s = t)
  | _, _ => false

@[inherit_doc same]
def sameItems : List Value → List Value → Bool
  | [], [] => true
  | v :: vs, w :: ws => same v w && sameItems vs ws
  | _, _ => false

@[inherit_doc same]
def sameFields : List (Text × Value) → List (Text × Value) → Bool
  | [], [] => true
  | (m, v) :: fs, (n, w) :: gs => decide (m = n) && same v w && sameFields fs gs
  | _, _ => false

end

mutual

theorem same_iff : ∀ v w : Value, same v w = true ↔ v = w
  | .null, w | .bool _, w | .int _, w | .float _, w | .text _, w | .bytes _, w
  | .foreign _ _, w => by
    cases w <;> simp [same]
  | .list vs, w => by cases w <;> simp [same, sameItems_iff vs]
  | .object fs, w => by cases w <;> simp [same, sameFields_iff fs]

theorem sameItems_iff : ∀ vs ws : List Value, sameItems vs ws = true ↔ vs = ws
  | [], ws => by cases ws <;> simp [sameItems]
  | v :: vs, ws => by cases ws <;> simp [sameItems, same_iff v, sameItems_iff vs]

theorem sameFields_iff : ∀ fs gs : List (Text × Value), sameFields fs gs = true ↔ fs = gs
  | [], gs => by cases gs <;> simp [sameFields]
  | (n, v) :: fs, gs => by
    cases gs <;> simp [sameFields, same_iff v, sameFields_iff fs, Prod.ext_iff]

end

instance : DecidableEq Value := fun v w => decidable_of_iff _ (same_iff v w)

/-! ### Being equal -/

/-- The integer that a truth value or an integer counts as. -/
def integer? : Value → Option Int
  | bool b => some (if b then 1 else 0)
  | int i => some i
  | _ => none

/-- The number that a value counts as; an integer that no number is close to counts as none. -/
def number? : Value → Option Binary64
  | float x => some x
  | v => v.integer?.bind Binary64.ofInt?

mutual

/-- The values are equal: numbers are compared by what they are worth, whatever their kinds, and
objects whatever the order of their fields. -/
def agrees : Value → Value → Bool
  | .list vs, .list ws => agreesItems vs ws
  | .object fs, .object gs => decide (fs.length = gs.length) && agreesFields fs gs
  | .float x, .float y => x.sameNumber y
  | .float x, w => w.integer?.isSome && decide (x.toInt? = w.integer?)
  | v, .float y => v.integer?.isSome && decide (y.toInt? = v.integer?)
  | v, w => if v.integer?.isSome then decide (v.integer? = w.integer?) else same v w

@[inherit_doc agrees]
def agreesItems : List Value → List Value → Bool
  | [], [] => true
  | v :: vs, w :: ws => agrees v w && agreesItems vs ws
  | _, _ => false

@[inherit_doc agrees]
def agreesFields : List (Text × Value) → List (Text × Value) → Bool
  | [], _ => true
  | (n, v) :: fs, gs =>
    (match Fields.get? gs n with
      | some w => agrees v w
      | none => false) && agreesFields fs gs

end

/-! ### Being shown -/

/-- Octets between marks, with escapes for what is no printable character of ASCII. -/
def quotedBytes (b : Bytes) : Text :=
  let mark := Text.quoteMark (b.map CodePoint.ofByte)
  let point (c : CodePoint) : Text :=
    if c.val < 0x7F then Text.quotePoint mark c else Text.escapeNumber c
  "b" ++ (mark :: (b.map CodePoint.ofByte).flatMap point ++ [mark])

mutual

/-- A value as it is shown inside of something else. -/
def quoted : Value → Text
  | .null => "None"
  | .bool b => if b then "True" else "False"
  | .int i => Text.ofInt i
  | .float x => x.display
  | .text t => t.quoted
  | .bytes b => quotedBytes b
  | .list vs => "[" ++ Text.join ", " (quotedItems vs) ++ "]"
  | .object fs => "\x7b" ++ Text.join ", " (quotedFields fs) ++ "\x7d"
  | .foreign _ shown => shown

@[inherit_doc quoted]
def quotedItems : List Value → List Text
  | [] => []
  | v :: vs => quoted v :: quotedItems vs

@[inherit_doc quoted]
def quotedFields : List (Text × Value) → List Text
  | [] => []
  | (n, v) :: fs => (n.quoted ++ ": " ++ quoted v) :: quotedFields fs

end

/-- A value as it is shown alone; text has no marks then. -/
def shown : Value → Text
  | text t => t
  | v => v.quoted

/-- Whether a value counts as true. -/
def counts : Value → Bool
  | null => false
  | bool b => b
  | int i => decide (i ≠ 0)
  | float x => !x.sameNumber .zero
  | text t => !t.isEmpty
  | bytes b => !b.isEmpty
  | list vs => !vs.isEmpty
  | object fs => !fs.isEmpty
  | foreign _ _ => true

end Value

end Pasteboard
