import Bindery.Header.ModuleHeader
import Bindery.Manifest.Build
import Bindery.Module
/-!
Making the header of a module. Only the types that the manifest lists are declared. A constant that
does not fit is left out of its enum, a struct with a field that has no C type is left opaque, an
alias without a C type is left out, and each of these is reported.
-/

namespace Bindery

/-- What the header of a module is made from. -/
structure HeaderInput where
  module : Module
  manifest : Manifest
  /-- The functions of the module that have a body. -/
  functions : List FunctionBinding
  ctypes : CTypes
  /-- The file of the runtime header. -/
  runtimeHeader : String

namespace HeaderInput

/-- The types among some that the manifest lists. -/
def listed (i : HeaderInput) (ts : List TypeEntry) : List TypeEntry :=
  ts.filter fun t => (i.manifest.type? t.name).isSome

def enums (i : HeaderInput) : List TypeEntry := i.listed i.module.enums

def structs (i : HeaderInput) : List TypeEntry := i.listed i.module.structs

def aliases (i : HeaderInput) : List TypeEntry := i.listed i.module.aliases

/-! ### Declarations -/

/-- An enum has the constants that fit. -/
def enumDecl (t : TypeEntry) : EnumDecl := ⟨t.name, t.doc, (CType.constants t).1⟩

/-- The fields of a struct that have a C type, and an error for each other one. -/
def fields (c : CTypes) (t : TypeEntry) : List (String × String) × List BindingError :=
  partition <| t.properties.map fun p =>
    match c.valueSpelling? p.type with
    | some cType => .ok (cType, p.name)
    | none => .error (.unmappableType t.name p.name (.type p.type))

/-- A struct has its fields only if all of them have a C type. -/
def structDecl (c : CTypes) (t : TypeEntry) : StructDecl :=
  ⟨t.name, t.doc, if (fields c t).2.isEmpty then (fields c t).1 else []⟩

/-- The C type that an alias stands for. -/
def aliasSpelling? (c : CTypes) (t : TypeEntry) : Option String := t.target?.bind c.valueSpelling?

def aliasDecl (c : CTypes) (t : TypeEntry) : AliasDecl := ⟨t.name, t.doc, aliasSpelling? c t⟩

/-- The error about an alias without a C type. -/
def aliasErrors (c : CTypes) (t : TypeEntry) : List BindingError :=
  match aliasSpelling? c t with
  | some _ => []
  | none =>
    [.unmappableType t.name t.name <|
      match t.target? with
      | some target => .type target
      | none => .noTarget]

/-- The note about a subject that the manifest lists. -/
def subjectNote? (m : Manifest) (t : TypeEntry) : Option SubjectNote :=
  (m.type? t.name).map fun b => ⟨t.name, t.kind, b.family, t.doc⟩

/-! ### Includes -/

/-- Whether the C type of a semantic type is an integer of fixed width. -/
def isFixedWidth (c : CTypes) (t : SemanticType) : Bool :=
  match c.valueSpelling? t with
  | some cType => CType.usesFixedWidth cType
  | none => false

/-- Whether anything in a module spells an integer type of fixed width: an enum does, and a field, an
alias or a function may. -/
def needsStdint (m : Module) (functions : List FunctionBinding) (c : CTypes) : Bool :=
  !m.enums.isEmpty ||
    (m.structs.flatMap (·.properties)).any (fun p => isFixedWidth c p.type) ||
    (m.aliases.filterMap (·.target?)).any (isFixedWidth c) ||
    functions.any fun f => CType.usesFixedWidth f.signature

/-- Whether a struct or an alias spells the handle type. -/
def usesHandle (i : HeaderInput) : Bool :=
  (i.structs.flatMap (·.properties)).any (fun p => p.type = .handle) ||
    i.aliases.any fun t => t.target? = some .handle

/-- The semantic types of what the header declares. -/
def mentioned (i : HeaderInput) : List SemanticType :=
  (i.structs.flatMap (·.properties)).map (·.type) ++ i.aliases.filterMap (·.target?) ++
    i.functions.flatMap fun f => f.params.map (·.type) ++ [f.returnType]

/-- The other modules whose structs the header refers to, in ascending order. -/
def referencedModules (i : HeaderInput) : List String :=
  ((i.mentioned.filterMap i.ctypes.structModule?).filter (· ≠ i.module.name)).eraseDups.mergeSort
    fun a b => a ≤ b

def includes (i : HeaderInput) : List Include :=
  (if needsStdint i.module i.functions i.ctypes then [.stdint] else []) ++
    (if !i.functions.isEmpty || i.usesHandle then [.runtime i.runtimeHeader] else []) ++
    i.referencedModules.map .module

/-! ### The header -/

/-- The header of the module. -/
def header (i : HeaderInput) : ModuleHeader where
  name := i.module.name
  brief? := i.module.brief?
  includes := i.includes
  enums := i.enums.map enumDecl
  structs := i.structs.map (structDecl i.ctypes)
  aliases := i.aliases.map (aliasDecl i.ctypes)
  subjects := i.module.subjects.filterMap (subjectNote? i.manifest)
  functions := i.functions.map fun f => ⟨f.doc, f.signature⟩

/-- What was left out of the header: constants, then fields, then aliases. -/
def errors (i : HeaderInput) : List BindingError :=
  i.enums.flatMap (fun t => (CType.constants t).2) ++
    i.structs.flatMap (fun t => (fields i.ctypes t).2) ++
    i.aliases.flatMap (aliasErrors i.ctypes)

end HeaderInput

end Bindery
