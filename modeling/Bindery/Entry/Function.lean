import Bindery.Callable
import Bindery.SemanticType
/-!
Functions of a registered type. Parameter names and parameter types are two lists: a name may be
missing, and a parameter without a name is called `arg` followed by its position.
-/

namespace Bindery

open Json (always textUnlessEmpty listUnlessEmpty ifPresent)

/-- A function of a registered type. -/
structure FunctionEntry where
  name : String
  /-- The native signature, for information only. -/
  nativeSignature : String := ""
  /-- The types of the parameters, the receiver not included. -/
  paramTypes : List SemanticType := []
  paramNames : List String := []
  returnType : SemanticType := .void
  /-- The C symbol, where it is stated. -/
  symbol? : Option String := none
  /-- The C prototype, where it is stated. -/
  prototype? : Option String := none
  doc : String := ""
  /-- Whether the function is called without an object. -/
  isStatic : Bool := false
  /-- Functions that are not exported are registered but never generated. -/
  exported : Bool := true
  /-- The subject kind, where it differs from that of the type. -/
  subjectKind? : Option String := none
  callable? : Option Callable := none
deriving DecidableEq, Repr

namespace FunctionEntry

/-- The name of a parameter that has none of its own. -/
def defaultParamName (i : Nat) : String := "arg" ++ toString i

/-- The parameter names, with default names up to position `n`. -/
def padNames (names : List String) (n : Nat) : List String :=
  names ++ (List.range' names.length (n - names.length)).map defaultParamName

/-- Add a parameter with a name. Parameters before it that have no name get the default one, so
that names and types stay aligned. -/
def withParam (f : FunctionEntry) (name : String) (type : SemanticType) : FunctionEntry :=
  { f with
    paramTypes := f.paramTypes ++ [type]
    paramNames := padNames f.paramNames f.paramTypes.length ++ [name] }

/-- Set the parameter types and forget the names. -/
def withParams (f : FunctionEntry) (types : List SemanticType) : FunctionEntry :=
  { f with paramTypes := types, paramNames := [] }

/-- The name of the parameter at a position. -/
def paramName (f : FunctionEntry) (i : Nat) : String :=
  match f.paramNames[i]? with
  | none => defaultParamName i
  | some "" => defaultParamName i
  | some name => name

/-- Whether a generator may bind the function: it is exported, and it can be called or its prototype
is stated. -/
def isBindable (f : FunctionEntry) : Bool :=
  f.exported && (f.callable?.isSome || f.prototype?.isSome)

/-- The function without what is attached to it. -/
def erase (f : FunctionEntry) : FunctionEntry := { f with callable? := none }

/-- Whether two functions have the same metadata. -/
def sameMetadata (f g : FunctionEntry) : Bool := f.erase = g.erase

/-- Attach the callable of `other` where there is none yet. -/
def fillFrom (f other : FunctionEntry) : FunctionEntry :=
  { f with callable? := f.callable?.or other.callable? }

/-- The names of the fields in JSON, in their order. -/
def fieldNames : List String :=
  ["name", "cpp_signature", "param_types", "param_names", "return_type", "c_name", "c_signature",
    "doc", "is_static", "exported", "subject_kind"]

/-- The metadata of a function in JSON. -/
def toJson (f : FunctionEntry) : Json :=
  .record [
    always "name" (.str f.name),
    textUnlessEmpty "cpp_signature" f.nativeSignature,
    always "param_types" (.arr (f.paramTypes.map (·.toJson))),
    listUnlessEmpty "param_names" (f.paramNames.map .str),
    always "return_type" f.returnType.toJson,
    ifPresent "c_name" .str f.symbol?,
    ifPresent "c_signature" .str f.prototype?,
    textUnlessEmpty "doc" f.doc,
    always "is_static" (.bool f.isStatic),
    always "exported" (.bool f.exported),
    ifPresent "subject_kind" .str f.subjectKind?]

/-- A function, with nothing attached, from its metadata in JSON. -/
def ofJson? : Json.Decoder FunctionEntry := fun j => do
  let r ← Json.Record.ofJson? fieldNames j
  return {
    name := ← r.required "name" .string
    nativeSignature := ← r.orElse "cpp_signature" "" .string
    paramTypes := ← r.orElse "param_types" [] (.list SemanticType.ofJson?)
    paramNames := ← r.orElse "param_names" [] (.list .string)
    returnType := ← r.orElse "return_type" .void SemanticType.ofJson?
    symbol? := ← r.optional "c_name" .string
    prototype? := ← r.optional "c_signature" .string
    doc := ← r.orElse "doc" "" .string
    isStatic := ← r.orElse "is_static" false .bool
    exported := ← r.orElse "exported" true .bool
    subjectKind? := ← r.optional "subject_kind" .string }

end FunctionEntry

end Bindery
