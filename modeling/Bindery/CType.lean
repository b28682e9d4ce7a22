import Bindery.BindingError
import Bindery.Partition
import Bindery.TypeMap
/-!
C types for semantic types. The table is fixed; the registered types are needed only to see that
`enum:X` and `struct:X` refer to an enum and a struct. Beside the table stand the C expressions that
pack an argument into a bridge value and take a result out of one.
-/

namespace Bindery

/-- The C types of semantic types, in view of the registered types. -/
structure CTypes where
  types : TypeMap
  /-- The C type of handles. -/
  handleType : String

namespace CTypes

/-- The C type of handles that the runtime header declares. -/
def runtimeHandle : String := "DomBind_Handle*"

/-- C types with the handles of the runtime header. -/
def ofTypes (types : TypeMap) : CTypes := ⟨types, runtimeHandle⟩

/-- Whether a type of this name and kind is registered. -/
def isRegistered (c : CTypes) (name : String) (kind : EntryKind) : Bool :=
  match c.types.get? name with
  | some t => t.kind = kind
  | none => false

/-- How a semantic type is spelled in C. -/
def spelling? (c : CTypes) : SemanticType → Option String
  | .void => some "void"
  | .bool => some "uint8_t"
  | .int8 => some "int8_t"
  | .int16 => some "int16_t"
  | .int32 => some "int32_t"
  | .int64 => some "int64_t"
  | .uint8 => some "uint8_t"
  | .uint16 => some "uint16_t"
  | .uint32 => some "uint32_t"
  | .uint64 => some "uint64_t"
  | .float => some "float"
  | .double => some "double"
  | .string => some "const char*"
  | .handle => some c.handleType
  | .pointer => some "void*"
  | .enum name => if c.isRegistered name .enum then some "int32_t" else none
  | .struct name => if c.isRegistered name .struct then some ("const " ++ name ++ "*") else none

/-- How a semantic type that has values is spelled in C; `void` has none. -/
def valueSpelling? (c : CTypes) (t : SemanticType) : Option String :=
  if t.isVoid then none else c.spelling? t

/-- The module of the registered type that a struct reference names. -/
def structModule? (c : CTypes) : SemanticType → Option String
  | .struct name => (c.types.get? name).map (·.module)
  | _ => none

end CTypes

namespace CType

/-- Whether a C text names an integer type of fixed width. The unsigned names contain the signed
ones. -/
def usesFixedWidth (text : String) : Bool :=
  ["int8_t", "int16_t", "int32_t", "int64_t"].any (Text.contains text)

/-- The expression that packs an argument into a bridge value. -/
def pack (t : SemanticType) (expr : String) : String :=
  match t with
  | .bool => "DomBind_Bool(" ++ expr ++ ")"
  | .int8 | .int16 | .int32 | .int64 | .enum _ => "DomBind_Int((int64_t)" ++ expr ++ ")"
  | .uint8 | .uint16 | .uint32 | .uint64 => "DomBind_UInt((uint64_t)" ++ expr ++ ")"
  | .float | .double => "DomBind_Float((double)" ++ expr ++ ")"
  | .string => "DomBind_String(" ++ expr ++ ")"
  | .void | .handle | .pointer | .struct _ => "DomBind_Pointer((const void*)" ++ expr ++ ")"

/-- The expression that takes a result of the given C type out of the bridge value `result`. -/
def unpack (t : SemanticType) (cType : String) : String :=
  match t with
  | .bool => "(uint8_t)(result.as.i != 0)"
  | .int8 | .int16 | .int32 | .int64 | .enum _ => "(" ++ cType ++ ")result.as.i"
  | .uint8 | .uint16 | .uint32 | .uint64 => "(" ++ cType ++ ")result.as.u"
  | .float | .double => "(" ++ cType ++ ")result.as.f"
  | .string => "result.as.s"
  | .void | .handle | .pointer | .struct _ => "(" ++ cType ++ ")result.as.p"

/-- What a body returns when its call cannot reach an object; nothing for `void`. -/
def fallback? : SemanticType → Option String
  | .void => none
  | .float | .double => some "0.0"
  | .string | .handle | .pointer | .struct _ => some "NULL"
  | _ => some "0"

/-- The constant of an enumerator, if it fits into 32 bits with a sign. -/
def constant (owner : String) (e : Enumerator) : Except BindingError Int :=
  let value := e.value.toInt
  if -0x80000000 ≤ value ∧ value < 0x80000000 then .ok value
  else .error (.unmappableType owner e.name (.constant value))

/-- The constants of an enum that fit, and an error for each other one. -/
def constants (t : TypeEntry) : List (String × Int) × List BindingError :=
  partition <| t.enumerators.map fun e => (constant t.name e).map fun value => (e.name, value)

end CType

end Bindery
