import Bindery.CType
import Bindery.Manifest.Basic
import Bindery.Partition
/-!
Making a manifest from registered types. Each type contributes its own binding, the bindings of its
exported functions, and the reasons why something could not be bound. Then the functions of all types
are put in order, and of those with one symbol the first is kept. Types are in order of module and
name, functions in order of module and symbol, so the manifest does not depend on the order of
registration.
-/

namespace Bindery.Manifest

/-- A manifest, and why something was left out of it. -/
structure Built where
  manifest : Manifest
  errors : List BindingError
deriving DecidableEq, Repr

/-- Whether nothing was left out. -/
def Built.isClean (b : Built) : Bool := b.errors.isEmpty

/-- The order of pairs of names: by the first, then by the second. -/
def pairLe (a b : String × String) : Bool := a.1 < b.1 || (a.1 = b.1 && a.2 ≤ b.2)

/-! ### One function -/

/-- The kind of a function: the one it states, or that of its type. -/
def functionKind (catalog : Catalog) (owner : TypeEntry) (ownerKind : SubjectKind)
    (f : FunctionEntry) : Except BindingError SubjectKind :=
  match f.subjectKind? with
  | none => .ok ownerKind
  | some name =>
    match catalog.get? name with
    | some kind => .ok kind
    | none => .error (.unknownFunctionSubjectKind owner.name f.name name)

/-- The C symbol of a function: the one it states, or its name after that of its type. -/
def symbolOf (owner : TypeEntry) (f : FunctionEntry) : String :=
  f.symbol?.getD (owner.name ++ "_" ++ f.name)

/-- The C type of the result of a function. -/
def returnSpelling (ctypes : CTypes) (owner : TypeEntry) (f : FunctionEntry) :
    Except BindingError String :=
  match ctypes.spelling? f.returnType with
  | some c => .ok c
  | none => .error (.unmappableType owner.name f.name (.type f.returnType))

/-- The C parameters of a function from position `i` on. -/
def paramsFrom (ctypes : CTypes) (owner : TypeEntry) (f : FunctionEntry) (i : Nat) :
    List SemanticType → Except BindingError (List CParam)
  | [] => .ok []
  | t :: ts =>
    match ctypes.valueSpelling? t with
    | none => .error (.unmappableType owner.name f.name (.type t))
    | some c => (paramsFrom ctypes owner f (i + 1) ts).map (⟨f.paramName i, c, t⟩ :: ·)

/-- The C parameters of a function. -/
def params (ctypes : CTypes) (owner : TypeEntry) (f : FunctionEntry) :
    Except BindingError (List CParam) :=
  paramsFrom ctypes owner f 0 f.paramTypes

/-- The name of the handle parameter in derived prototypes. -/
def selfParam : String := "self"

/-- The part of a binding that depends on whether the prototype is stated. -/
structure Shape where
  signature : String
  isStated : Bool
  handleParam? : Option String
  params : List CParam

/-- The shape of a function whose prototype is derived. -/
def derivedShape (returnCType symbol : String) (takesHandle : Bool) (params : List CParam) :
    Shape where
  signature :=
    Prototype.derive returnCType symbol
      (if takesHandle then some (CTypes.runtimeHandle, selfParam) else none) params
  isStated := false
  handleParam? := if takesHandle then some selfParam else none
  params := params

/-- The shape of a function whose prototype is stated: its parameter names take the place of those
that the function declares, after the handle's. -/
def statedShape (stated symbol : String) (takesHandle : Bool) (params : List CParam) :
    Except Prototype.Fault Shape :=
  match Prototype.parameters stated symbol with
  | .error fault => .error fault
  | .ok names =>
    let expected := params.length + if takesHandle then 1 else 0
    if names.length ≠ expected then .error (.parameterCount expected names.length)
    else
      let own := if takesHandle then names.drop 1 else names
      .ok {
        signature := Prototype.normalize stated
        isStated := true
        handleParam? := if takesHandle then names.head? else none
        params := params.zipWith (fun p name => { p with name := name }) own }

/-- The shape of a function. -/
def shapeOf (owner : TypeEntry) (f : FunctionEntry) (returnCType : String) (takesHandle : Bool)
    (params : List CParam) : Except BindingError Shape :=
  match f.prototype? with
  | none => .ok (derivedShape returnCType (symbolOf owner f) takesHandle params)
  | some stated =>
    (statedShape stated (symbolOf owner f) takesHandle params).mapError
      (.malformedSignature owner.name f.name stated)

/-- Bind a function. Its kind is looked up first, then whether it can be bound at all, then its C
types, the result before the parameters, and last its prototype. -/
def bindFunction (catalog : Catalog) (ctypes : CTypes) (owner : TypeEntry) (ownerKind : SubjectKind)
    (f : FunctionEntry) : Except BindingError FunctionBinding := do
  let kind ← functionKind catalog owner ownerKind f
  if !f.isBindable then throw (.missingCallable owner.name f.name)
  let returnCType ← returnSpelling ctypes owner f
  let cParams ← params ctypes owner f
  let shape ← shapeOf owner f returnCType (kind.usesHandle && !f.isStatic) cParams
  return {
    name := f.name
    symbol := symbolOf owner f
    signature := shape.signature
    isStated := shape.isStated
    owner := owner.name
    module := owner.module
    subjectKind := kind.name
    family := kind.family
    isStatic := f.isStatic
    handleParam? := shape.handleParam?
    params := shape.params
    returnType := f.returnType
    returnCType
    doc := f.doc }

/-! ### One type -/

/-- What one type contributes. -/
structure Contribution where
  type? : Option TypeBinding := none
  functions : List FunctionBinding := []
  errors : List BindingError := []

/-- The functions of a type that are to be bound, by name. An enum has none. -/
def candidates (t : TypeEntry) : List FunctionEntry :=
  if t.kind = .enum then []
  else t.exportedFunctions.mergeSort fun f g => f.name ≤ g.name

/-- The binding of a type of a known kind, before it is known which functions it owns. -/
def bindType (t : TypeEntry) (kind : SubjectKind) : TypeBinding where
  name := t.name
  nativeType := t.nativeType
  kind := t.kind
  module := t.module
  subjectKind := kind.name
  family := kind.family
  usesHandle := kind.usesHandle
  ownsMethodTable := kind.ownsMethodTable
  hasFunctions := false
  functions := []

/-- What a type contributes. A type whose kind is unknown contributes that error alone. -/
def contribution (catalog : Catalog) (ctypes : CTypes) (t : TypeEntry) : Contribution :=
  match catalog.resolve? t.subjectKind? with
  | none => { errors := [.unknownSubjectKind t.name (t.subjectKind?.getD "")] }
  | some kind =>
    let (functions, errors) := partition ((candidates t).map (bindFunction catalog ctypes t kind))
    { type? := some (bindType t kind), functions, errors }

/-! ### All types -/

/-- The types in order of module and name. -/
def sortedTypes (types : TypeMap) : List TypeEntry :=
  types.entries.mergeSort fun t u => pairLe (t.module, t.name) (u.module, u.name)

/-- What the types contribute, in their order. -/
def contributions (types : TypeMap) (catalog : Catalog) : List Contribution :=
  (sortedTypes types).map (contribution catalog (.ofTypes types))

/-- The functions in order of module and symbol. -/
def sortFunctions (fs : List FunctionBinding) : List FunctionBinding :=
  fs.mergeSort fun f g => pairLe (f.module, f.symbol) (g.module, g.symbol)

/-- The first function of each symbol, and an error for each further one. `seen` holds the symbols
met so far and their owners. -/
def dedup (seen : List (String × String)) :
    List FunctionBinding → List FunctionBinding × List BindingError
  | [] => ([], [])
  | f :: fs =>
    match seen.lookup f.symbol with
    | some keptOwner =>
      let (kept, errors) := dedup seen fs
      (kept, .duplicateSymbol f.symbol keptOwner f.owner :: errors)
    | none =>
      let (kept, errors) := dedup ((f.symbol, f.owner) :: seen) fs
      (f :: kept, errors)

/-- A type with the symbols of the functions it owns. -/
def attachSymbols (functions : List FunctionBinding) (t : TypeBinding) : TypeBinding :=
  let own := ((functions.filter fun f => f.owner = t.name).map (·.symbol)).mergeSort
    fun a b => a ≤ b
  { t with functions := own, hasFunctions := !own.isEmpty }

/-- The manifest of the types, and why something was left out of it. -/
def build (types : TypeMap) (catalog : Catalog) : Built :=
  let parts := contributions types catalog
  let (functions, duplicates) := dedup [] (sortFunctions (parts.flatMap (·.functions)))
  let whole : Manifest := {
    subjectKinds := catalog.kinds
    types := (parts.filterMap (·.type?)).map (attachSymbols functions)
    functions }
  { manifest := whole.retain fun _ => true, errors := parts.flatMap (·.errors) ++ duplicates }

end Bindery.Manifest
