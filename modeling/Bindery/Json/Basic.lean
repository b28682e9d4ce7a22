/-!
JSON values. An object keeps its fields in the order they were written, repeated names included, so
that a reader of records can tell a repeated field from a single one. Numbers are either integers or
other literals: `-0` and everything with a fraction or an exponent is kept as text, because no
record of this library has such a field.

A string literal may escape half of a surrogate pair without the other half. Such a literal is
well-formed, so a value that nobody asks for may hold it, but it denotes no text.
-/

namespace Bindery

/-- A JSON value. -/
inductive Json where
  | null
  | bool (b : Bool)
  /-- An integer literal without fraction and exponent, other than `-0`. -/
  | int (i : Int)
  /-- Any other number literal, by its text. -/
  | real (literal : String)
  | str (s : String)
  | arr (items : List Json)
  | obj (fields : List (String × Json))
  /-- A string with half of a surrogate pair alone, or an object with such a name. -/
  | unpaired
deriving Inhabited, Repr, BEq

namespace Json

/-- The value of the first field called `name`, if this is an object that has one. -/
def field? (name : String) : Json → Option Json
  | .obj fields => fields.lookup name
  | _ => none

end Json

end Bindery
