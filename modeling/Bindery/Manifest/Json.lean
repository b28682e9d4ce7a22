import Bindery.Json.Printer
import Bindery.Json.Reader
import Bindery.Manifest.Basic
/-!
Manifests in JSON. Every field is always written, an absent handle parameter as `null`, and a manifest
that is read must have every field except that one.
-/

namespace Bindery

open Json (always)

namespace TypeBinding

/-- The names of the fields in JSON, in their order. -/
def fieldNames : List String :=
  ["type", "native_type", "kind", "module", "subject_kind", "dispatch_family", "uses_handle",
    "owns_method_table", "has_functions", "functions"]

def toJson (t : TypeBinding) : Json :=
  .record [
    always "type" (.str t.name),
    always "native_type" (.str t.nativeType),
    always "kind" t.kind.toJson,
    always "module" (.str t.module),
    always "subject_kind" (.str t.subjectKind),
    always "dispatch_family" t.family.toJson,
    always "uses_handle" (.bool t.usesHandle),
    always "owns_method_table" (.bool t.ownsMethodTable),
    always "has_functions" (.bool t.hasFunctions),
    always "functions" (.arr (t.functions.map .str))]

def ofJson? : Json.Decoder TypeBinding := fun j => do
  let r ← Json.Record.ofJson? fieldNames j
  return {
    name := ← r.required "type" .string
    nativeType := ← r.required "native_type" .string
    kind := ← r.required "kind" EntryKind.ofJson?
    module := ← r.required "module" .string
    subjectKind := ← r.required "subject_kind" .string
    family := ← r.required "dispatch_family" DispatchFamily.ofJson?
    usesHandle := ← r.required "uses_handle" .bool
    ownsMethodTable := ← r.required "owns_method_table" .bool
    hasFunctions := ← r.required "has_functions" .bool
    functions := ← r.required "functions" (.list .string) }

end TypeBinding

namespace FunctionBinding

/-- The names of the fields in JSON, in their order. -/
def fieldNames : List String :=
  ["name", "c_name", "c_signature", "explicit_signature", "owner", "module", "subject_kind",
    "dispatch_family", "is_static", "handle_param", "params", "return_type", "return_c_type", "doc"]

def toJson (f : FunctionBinding) : Json :=
  .record [
    always "name" (.str f.name),
    always "c_name" (.str f.symbol),
    always "c_signature" (.str f.signature),
    always "explicit_signature" (.bool f.isStated),
    always "owner" (.str f.owner),
    always "module" (.str f.module),
    always "subject_kind" (.str f.subjectKind),
    always "dispatch_family" f.family.toJson,
    always "is_static" (.bool f.isStatic),
    always "handle_param" (.orNull .str f.handleParam?),
    always "params" (.arr (f.params.map (·.toJson))),
    always "return_type" f.returnType.toJson,
    always "return_c_type" (.str f.returnCType),
    always "doc" (.str f.doc)]

def ofJson? : Json.Decoder FunctionBinding := fun j => do
  let r ← Json.Record.ofJson? fieldNames j
  return {
    name := ← r.required "name" .string
    symbol := ← r.required "c_name" .string
    signature := ← r.required "c_signature" .string
    isStated := ← r.required "explicit_signature" .bool
    owner := ← r.required "owner" .string
    module := ← r.required "module" .string
    subjectKind := ← r.required "subject_kind" .string
    family := ← r.required "dispatch_family" DispatchFamily.ofJson?
    isStatic := ← r.required "is_static" .bool
    handleParam? := ← r.optional "handle_param" .string
    params := ← r.required "params" (.list CParam.ofJson?)
    returnType := ← r.required "return_type" SemanticType.ofJson?
    returnCType := ← r.required "return_c_type" .string
    doc := ← r.required "doc" .string }

end FunctionBinding

namespace Manifest

/-- The names of the fields in JSON, in their order. -/
def fieldNames : List String := ["subject_kinds", "types", "functions"]

def toJson (m : Manifest) : Json :=
  .record [
    always "subject_kinds" (.arr (m.subjectKinds.map (·.toJson))),
    always "types" (.arr (m.types.map (·.toJson))),
    always "functions" (.arr (m.functions.map (·.toJson)))]

def ofJson? : Json.Decoder Manifest := fun j => do
  let r ← Json.Record.ofJson? fieldNames j
  return {
    subjectKinds := ← r.required "subject_kinds" (.list SubjectKind.ofJson?)
    types := ← r.required "types" (.list TypeBinding.ofJson?)
    functions := ← r.required "functions" (.list FunctionBinding.ofJson?) }

/-- The text of a manifest; an indentation of zero gives the compact form. -/
def render (m : Manifest) (indent : Nat) : String := m.toJson.render (.ofIndent indent)

/-- The manifest that a text stands for. -/
def read? (text : String) : Option Manifest := (Json.read? text).bind ofJson?

end Manifest

end Bindery
