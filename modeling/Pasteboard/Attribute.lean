import Pasteboard.Failure
import Pasteboard.Value

/-!
# Attributes

What a name stands for when it is to be set on a record. A visible name is a field or none, and the
record decides what becomes of it. The other names start with an underscore and are beside the
fields: some of them can be set and nobody looks at them, some can be set and count when records are
compared, and the rest cannot be set, for a reason of their own.
-/

namespace Pasteboard

/-- What a name stands for on a record. -/
inductive Attribute
  /-- A name that everyone may see. -/
  | visible (name : Text)
  /-- A name beside the fields. -/
  | hidden
  /-- A name beside the fields that counts when records are compared. -/
  | compared
  /-- A name that belongs to all records of a kind together. -/
  | common (name : Text)
  /-- A name whose value is worked out. -/
  | computed (name : Text)
  /-- The list of those who refer to the record; `family` is what keeps it. -/
  | references (name family : Text)
  /-- What the record is an instance of. -/
  | kind (name : Text)
  /-- The table of the record's fields. -/
  | table (name : Text)
deriving DecidableEq

namespace Attribute

/-- The names that all records of a kind have together. -/
def commonNames : List Text :=
  ["__class_vars__", "__private_attributes__", "__signature__", "__pydantic_complete__",
   "__pydantic_core_schema__", "__pydantic_custom_init__", "__pydantic_decorators__",
   "__pydantic_generic_metadata__", "__pydantic_parent_namespace__", "__pydantic_post_init__",
   "__pydantic_root_model__", "__pydantic_serializer__", "__pydantic_validator__",
   "__pydantic_fields__", "__pydantic_setattr_handlers__", "__pydantic_computed_fields__"]

/-- What a name stands for on a record that `family` keeps the references to. -/
def ofName (family name : Text) : Attribute :=
  if !name.startsWith "_" then visible name
  else if name = "__pydantic_extra__" ∨ name = "__pydantic_private__" then compared
  else if commonNames.contains name then common name
  else if name = "__class__" then kind name
  else if name = "__dict__" then table name
  else if name = "__weakref__" then references name family
  else if name = "__fields_set__" then computed name
  else hidden

/-- Why a name that is not visible cannot be set to a value on a record of the kind `record`;
nothing if it can. The table of the fields can be set to another one. -/
def refusal? (record : Text) (given : Value) : Attribute → Option Failure
  | common name => some (.badAttribute (name.quoted ++ " is a ClassVar of `" ++ record
      ++ "` and cannot be set on an instance. If you want to set a value on the class, use `"
      ++ record ++ "." ++ name ++ " = value`."))
  | computed name => some (.badAttribute ("property " ++ name.quoted ++ " of " ++ record.quoted
      ++ " object has no setter"))
  | references name family => some (.badAttribute ("attribute " ++ name.quoted ++ " of "
      ++ family.quoted ++ " objects is not writable"))
  | kind name => some (.badCall (name ++ " must be set to a class, not " ++ given.kindName.quoted
      ++ " object"))
  | table name =>
    match given with
    | .object _ => none
    | _ => some (.badCall (name ++ " must be set to a dictionary, not a " ++ given.kindName.quoted))
  | visible _ | hidden | compared => none

end Attribute

end Pasteboard
