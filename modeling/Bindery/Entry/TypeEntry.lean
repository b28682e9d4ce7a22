import Bindery.Entry.Function
import Bindery.Entry.Property
/-!
Registered types. An entry has a name, a kind that decides in which part of a module it is generated,
and members in the order they were registered. `upsertFunction` and `upsertProperty` replace a member
of the same name in place; `absorb` takes over the members of another entry and keeps its own
metadata where both have a member of one name.
-/

namespace Bindery

open Json (always textUnlessEmpty listUnlessEmpty ifPresent)

/-- What a registered type is generated as. -/
inductive EntryKind where
  | enum
  | struct
  | object
  | global
  | function
  | alias
deriving DecidableEq, Repr

namespace EntryKind

/-- The kinds in their order. -/
def all : List EntryKind := [.enum, .struct, .object, .global, .function, .alias]

def name : EntryKind → String
  | .enum => "Enum"
  | .struct => "Struct"
  | .object => "Object"
  | .global => "Global"
  | .function => "Function"
  | .alias => "Alias"

instance : ToString EntryKind := ⟨name⟩

/-- The position of a kind among all kinds. -/
def rank (k : EntryKind) : Nat := all.idxOf k

/-- The kind called `name`. -/
def ofName? (name : String) : Option EntryKind := all.find? fun k => k.name = name

def toJson (k : EntryKind) : Json := .str k.name

def ofJson? : Json.Decoder EntryKind := .name ofName?

end EntryKind

/-- A named constant of an enum. -/
structure Enumerator where
  name : String
  value : Int64
deriving DecidableEq, Repr

namespace Enumerator

def toJson (e : Enumerator) : Json :=
  .record [always "name" (.str e.name), always "value" (.int e.value.toInt)]

def ofJson? : Json.Decoder Enumerator := fun j => do
  let r ← Json.Record.ofJson? ["name", "value"] j
  return { name := ← r.required "name" .string, value := ← r.required "value" .int64 }

end Enumerator

/-- A registered type. -/
structure TypeEntry where
  name : String
  /-- The native type, for information only. -/
  nativeType : String := ""
  kind : EntryKind
  /-- The module the type belongs to; empty for the type's own name in lower case. -/
  fileStem : String := ""
  /-- The subject kind, where it is stated. -/
  subjectKind? : Option String := none
  /-- The base types, for information only. -/
  baseTypes : List String := []
  properties : List PropertyEntry := []
  functions : List FunctionEntry := []
  enumerators : List Enumerator := []
  /-- What an alias stands for. -/
  target? : Option SemanticType := none
  doc : String := ""
  /-- One line about the module. -/
  moduleBrief? : Option String := none
  /-- Whether the line about the module was stated rather than inferred. -/
  briefIsExplicit : Bool := false
deriving DecidableEq, Repr

namespace TypeEntry

/-- An entry without members, whose native type is its name. -/
def ofName (name : String) (kind : EntryKind) : TypeEntry :=
  { name := name, nativeType := name, kind := kind }

/-- The entry that stands in for a type whose members arrive before it. -/
def shell (name : String) : TypeEntry := ofName name .object

/-! ### Members -/

/-- Put `a` in place of the first element with its key, or at the end when there is none. -/
def upsertBy {α : Type} (key : α → String) (a : α) : List α → List α
  | [] => [a]
  | b :: bs => if key b = key a then a :: bs else b :: upsertBy key a bs

/-- Complete the first element with the key of `a` from `a`, or put `a` at the end when there is
none. -/
def fillBy {α : Type} (key : α → String) (fill : α → α → α) (bs : List α) (a : α) : List α :=
  match bs with
  | [] => [a]
  | b :: bs => if key b = key a then fill b a :: bs else b :: fillBy key fill bs a

/-- Insert a function, in place of one with the same name. -/
def upsertFunction (t : TypeEntry) (f : FunctionEntry) : TypeEntry :=
  { t with functions := upsertBy (·.name) f t.functions }

/-- Insert a property, in place of one with the same name. -/
def upsertProperty (t : TypeEntry) (p : PropertyEntry) : TypeEntry :=
  { t with properties := upsertBy (·.name) p t.properties }

/-- The first function called `name`. -/
def function? (t : TypeEntry) (name : String) : Option FunctionEntry :=
  t.functions.find? fun f => f.name = name

/-- The first property called `name`. -/
def property? (t : TypeEntry) (name : String) : Option PropertyEntry :=
  t.properties.find? fun p => p.name = name

/-- Take over the members of another entry. A member that both have keeps its metadata here, and is
given what is attached to it there where nothing is attached to it here. -/
def absorb (t other : TypeEntry) : TypeEntry :=
  { t with
    functions := other.functions.foldl (fillBy (·.name) .fillFrom) t.functions
    properties := other.properties.foldl (fillBy (·.name) .fillFrom) t.properties }

/-! ### Queries -/

/-- The character in lower case if it is an ASCII letter. -/
def lowerAscii (c : Char) : Char :=
  if 'A' ≤ c && c ≤ 'Z' then Char.ofNat (c.toNat + 32) else c

/-- The module the type is generated into. -/
def module (t : TypeEntry) : String :=
  if t.fileStem = "" then String.ofList (t.name.toList.map lowerAscii) else t.fileStem

/-- The exported functions, in their order. -/
def exportedFunctions (t : TypeEntry) : List FunctionEntry := t.functions.filter (·.exported)

/-- The line about the module, if it was stated. -/
def explicitBrief? (t : TypeEntry) : Option String :=
  if t.briefIsExplicit then t.moduleBrief? else none

/-- The line about the module, if it was inferred. -/
def inferredBrief? (t : TypeEntry) : Option String :=
  if t.briefIsExplicit then none else t.moduleBrief?

/-- The type without what is attached to its members. -/
def erase (t : TypeEntry) : TypeEntry :=
  { t with functions := t.functions.map (·.erase), properties := t.properties.map (·.erase) }

/-- Whether two types have the same metadata. -/
def sameMetadata (t u : TypeEntry) : Bool := t.erase = u.erase

/-! ### JSON -/

/-- The names of the fields in JSON, in their order. -/
def fieldNames : List String :=
  ["name", "native_type", "kind", "file_stem", "subject_kind", "base_types", "properties",
    "functions", "enum_values", "alias_of", "doc", "module_brief", "brief_is_explicit"]

/-- The metadata of a type in JSON. -/
def toJson (t : TypeEntry) : Json :=
  .record [
    always "name" (.str t.name),
    textUnlessEmpty "native_type" t.nativeType,
    always "kind" t.kind.toJson,
    textUnlessEmpty "file_stem" t.fileStem,
    ifPresent "subject_kind" .str t.subjectKind?,
    listUnlessEmpty "base_types" (t.baseTypes.map .str),
    listUnlessEmpty "properties" (t.properties.map (·.toJson)),
    listUnlessEmpty "functions" (t.functions.map (·.toJson)),
    listUnlessEmpty "enum_values" (t.enumerators.map (·.toJson)),
    ifPresent "alias_of" SemanticType.toJson t.target?,
    textUnlessEmpty "doc" t.doc,
    ifPresent "module_brief" .str t.moduleBrief?,
    always "brief_is_explicit" (.bool t.briefIsExplicit)]

/-- A type, with nothing attached to its members, from its metadata in JSON. -/
def ofJson? : Json.Decoder TypeEntry := fun j => do
  let r ← Json.Record.ofJson? fieldNames j
  return {
    name := ← r.required "name" .string
    nativeType := ← r.orElse "native_type" "" .string
    kind := ← r.required "kind" EntryKind.ofJson?
    fileStem := ← r.orElse "file_stem" "" .string
    subjectKind? := ← r.optional "subject_kind" .string
    baseTypes := ← r.orElse "base_types" [] (.list .string)
    properties := ← r.orElse "properties" [] (.list PropertyEntry.ofJson?)
    functions := ← r.orElse "functions" [] (.list FunctionEntry.ofJson?)
    enumerators := ← r.orElse "enum_values" [] (.list Enumerator.ofJson?)
    target? := ← r.optional "alias_of" SemanticType.ofJson?
    doc := ← r.orElse "doc" "" .string
    moduleBrief? := ← r.optional "module_brief" .string
    briefIsExplicit := ← r.orElse "brief_is_explicit" false .bool }

end TypeEntry

end Bindery
