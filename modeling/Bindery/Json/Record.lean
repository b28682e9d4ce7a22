import Bindery.Json.Basic
/-!
Records in JSON. A record has a fixed sequence of fields. It is written as an object, and it is read
from an object (in any order, other fields ignored, none of its own twice) or from an array of its
fields in their order, of which the last ones may be missing. What a missing field means is for each
field to say: it is an error (`required`), it has a value of its own (`orElse`), or it is absent
(`optional`).
-/

namespace Bindery.Json

/-- A reader of values of type `α`. -/
abbrev Decoder (α : Type) := Json → Option α

namespace Decoder

def string : Decoder String
  | .str s => some s
  | _ => none

def bool : Decoder Bool
  | .bool b => some b
  | _ => none

/-- An integer that fits into 64 bits with a sign. -/
def int64 : Decoder Int64
  | .int i =>
    if -0x8000000000000000 ≤ i && i < 0x8000000000000000 then some (Int64.ofInt i) else none
  | _ => none

def list {α : Type} (item : Decoder α) : Decoder (List α)
  | .arr items => items.mapM item
  | _ => none

/-- `null` stands for an absent value. -/
def nullable {α : Type} (value : Decoder α) : Decoder (Option α)
  | .null => some none
  | v => (value v).map some

/-- One of finitely many names: the name as a string, or as the only field of an object, where it
has no value. -/
def name {α : Type} (ofName? : String → Option α) : Decoder α
  | .str s => ofName? s
  | .obj [(s, .null)] => ofName? s
  | _ => none

end Decoder

/-- The fields of a record that were written, each of them once. -/
abbrev Record := List (String × Json)

namespace Record

/-- The fields called `names` of a value that is an object or an array. -/
def ofJson? (names : List String) : Json → Option Record
  | .obj fields =>
    let own := fields.filter fun f => names.contains f.1
    if (own.map (·.1)).eraseDups.length = own.length then some own else none
  | .arr items => if items.length ≤ names.length then some (names.zip items) else none
  | _ => none

/-- A field that must be there. -/
def required {α : Type} (r : Record) (name : String) (value : Decoder α) : Option α :=
  (r.lookup name).bind value

/-- A field that stands for `missing` when it is not there. -/
def orElse {α : Type} (r : Record) (name : String) (missing : α) (value : Decoder α) : Option α :=
  match r.lookup name with
  | none => some missing
  | some v => value v

/-- A field that may be absent or `null`. -/
def optional {α : Type} (r : Record) (name : String) (value : Decoder α) : Option (Option α) :=
  r.orElse name none (.nullable value)

end Record

/-! ### Writing records -/

/-- An object of the fields that are given. -/
def record (fields : List (Option (String × Json))) : Json := .obj (fields.filterMap id)

/-- A field that is always written. -/
def always (name : String) (value : Json) : Option (String × Json) := some (name, value)

/-- A text field that is left out when it is empty. -/
def textUnlessEmpty (name text : String) : Option (String × Json) :=
  if text = "" then none else some (name, .str text)

/-- A list field that is left out when it is empty. -/
def listUnlessEmpty (name : String) (items : List Json) : Option (String × Json) :=
  if items.isEmpty then none else some (name, .arr items)

/-- A field that is left out when it is absent. -/
def ifPresent {α : Type} (name : String) (write : α → Json) (value : Option α) :
    Option (String × Json) :=
  value.map fun v => (name, write v)

/-- An absent value is `null`. -/
def orNull {α : Type} (write : α → Json) : Option α → Json
  | none => .null
  | some v => write v

end Bindery.Json
