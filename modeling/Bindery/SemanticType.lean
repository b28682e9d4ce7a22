import Bindery.Text.Blank
import Bindery.Json.Record
/-!
Semantic types: what a parameter, a result, a property or an alias stands for, before any C type is
chosen for it. Each has a label, and `parse?` reads labels back, with blanks around the label and
around the name that follows `enum:` or `struct:` ignored.
-/

namespace Bindery

/-- What a value stands for. -/
inductive SemanticType where
  | void
  | bool
  | int8
  | int16
  | int32
  | int64
  | uint8
  | uint16
  | uint32
  | uint64
  | float
  | double
  | string
  | handle
  | pointer
  /-- A registered enum, by name. -/
  | enum (name : String)
  /-- A registered struct, by name; such values are passed by pointer. -/
  | struct (name : String)
deriving DecidableEq, Inhabited, Repr

namespace SemanticType

/-- The label of a semantic type that refers to no registered type. -/
def simpleLabel? : SemanticType → Option String
  | .void => some "void"
  | .bool => some "bool"
  | .int8 => some "i8"
  | .int16 => some "i16"
  | .int32 => some "i32"
  | .int64 => some "i64"
  | .uint8 => some "u8"
  | .uint16 => some "u16"
  | .uint32 => some "u32"
  | .uint64 => some "u64"
  | .float => some "f32"
  | .double => some "f64"
  | .string => some "string"
  | .handle => some "handle"
  | .pointer => some "pointer"
  | .enum _ => none
  | .struct _ => none

/-- The label of a semantic type. -/
def label : SemanticType → String
  | .enum name => "enum:" ++ name
  | .struct name => "struct:" ++ name
  | t => t.simpleLabel?.getD ""

/-- A semantic type in diagnostics. -/
def display (t : SemanticType) : String :=
  match t.simpleLabel? with
  | some label => label
  | none => t.label

instance : ToString SemanticType := ⟨display⟩

/-- The semantic types that refer to no registered type. -/
def simple : List SemanticType :=
  [.void, .bool, .int8, .int16, .int32, .int64, .uint8, .uint16, .uint32, .uint64, .float, .double,
    .string, .handle, .pointer]

def isVoid (t : SemanticType) : Bool := t = .void

def isSignedInt (t : SemanticType) : Bool :=
  t = .int8 || t = .int16 || t = .int32 || t = .int64

def isUnsignedInt (t : SemanticType) : Bool :=
  t = .uint8 || t = .uint16 || t = .uint32 || t = .uint64

def isFloat (t : SemanticType) : Bool := t = .float || t = .double

/-- The name of the registered type that a semantic type refers to. -/
def referencedType? : SemanticType → Option String
  | .enum name => some name
  | .struct name => some name
  | _ => none

/-- What follows `start` in `cs`, if `cs` begins with it. -/
def afterStart? (start cs : List Char) : Option (List Char) :=
  if start.isPrefixOf cs then some (cs.drop start.length) else none

/-- A name with the blanks around it dropped, if anything is left. -/
def name? (cs : List Char) : Option String :=
  let name := Text.trimChars cs
  if name.isEmpty then none else some (String.ofList name)

/-- The semantic type that a label without blanks around it stands for. -/
def ofLabel? (cs : List Char) : Option SemanticType :=
  match afterStart? "enum:".toList cs with
  | some rest => (name? rest).map .enum
  | none =>
    match afterStart? "struct:".toList cs with
    | some rest => (name? rest).map .struct
    | none => simple.find? fun t => t.label.toList = cs

/-- The semantic type that a text stands for. -/
def parse? (text : String) : Option SemanticType := ofLabel? (Text.trimChars text.toList)

/-- A text that is the label of no semantic type, without the blanks around it. -/
structure UnknownLabel where
  label : String
deriving DecidableEq, Repr

def UnknownLabel.message (e : UnknownLabel) : String :=
  "unknown semantic type: '" ++ e.label ++ "'"

/-- The semantic type that a text stands for, or the label that was not recognised. -/
def parse (text : String) : Except UnknownLabel SemanticType :=
  match parse? text with
  | some t => .ok t
  | none => .error ⟨Text.trim text⟩

/-- In JSON a semantic type is its label. -/
def toJson (t : SemanticType) : Json := .str t.label

/-- A semantic type from its label in JSON. -/
def ofJson? : Json.Decoder SemanticType := fun j => (Json.Decoder.string j).bind parse?

end SemanticType

end Bindery
