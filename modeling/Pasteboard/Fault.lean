import Pasteboard.Text.CodePoint

/-!
# Field faults

Why a field of a record does not accept a value. A record that refuses a value lists one fault for
each bad field, in the order of its fields.
-/

namespace Pasteboard

/-- Why a field does not accept a value. -/
inductive FaultKind
  /-- Not the name of a backend. -/
  | notBackend
  /-- Text with half of a surrogate pair, or octets that are no text. -/
  | notUnicode
  /-- Nothing that could be a number. -/
  | notNumber
  /-- Text that is no numeral. -/
  | badNumeral
  /-- A number that is not above zero. -/
  | notPositive
  /-- A number above sixty, or none at all. -/
  | aboveLimit
  /-- Nothing that could be a truth value. -/
  | notBool
  /-- Text or a whole number that is no truth value. -/
  | badBool
  /-- No text. -/
  | notText
  /-- Something where nothing may be. -/
  | notNone
  /-- No value for a field that needs one. -/
  | missing
  /-- An attempt to change a record that does not change. -/
  | frozen
deriving DecidableEq

/-- The word that identifies a kind of fault. -/
def FaultKind.tag : FaultKind → String
  | notBackend => "enum"
  | notUnicode => "string_unicode"
  | notNumber => "float_type"
  | badNumeral => "float_parsing"
  | notPositive => "greater_than"
  | aboveLimit => "less_than_equal"
  | notBool => "bool_type"
  | badBool => "bool_parsing"
  | notText => "string_type"
  | notNone => "none_required"
  | missing => "missing"
  | frozen => "frozen_instance"

/-- The sentence that explains a kind of fault. -/
def FaultKind.message : FaultKind → String
  | notBackend => "Input should be 'auto', 'pbcopy', 'wl-clipboard', 'xclip' or 'windows'"
  | notUnicode => "Input should be a valid string, unable to parse raw data as a unicode string"
  | notNumber => "Input should be a valid number"
  | badNumeral => "Input should be a valid number, unable to parse string as a number"
  | notPositive => "Input should be greater than 0"
  | aboveLimit => "Input should be less than or equal to 60"
  | notBool => "Input should be a valid boolean"
  | badBool => "Input should be a valid boolean, unable to interpret input"
  | notText => "Input should be a valid string"
  | notNone => "Input should be None"
  | missing => "Field required"
  | frozen => "Instance is frozen"

/-- A fault of one field. -/
structure Fault where
  field : Text
  kind : FaultKind
deriving DecidableEq

/-- The first line about a record that was refused: how many faults, and of which record. -/
def Fault.summary (record : Text) (faults : List Fault) : Text :=
  Text.ofNat faults.length
    ++ (if faults.length = 1 then " validation error for " else " validation errors for ")
    ++ record

end Pasteboard
