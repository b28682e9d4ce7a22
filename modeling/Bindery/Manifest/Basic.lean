import Bindery.Prototype
import Bindery.SubjectKind
import Bindery.TypeMap
/-!
Manifests: everything that one run binds. A manifest lists the subject kinds in use, the types with
the symbols of their functions, and the functions with their C prototypes. `retain` drops functions
and keeps the three lists in agreement.
-/

namespace Bindery

/-- A type that is bound. -/
structure TypeBinding where
  name : String
  nativeType : String
  kind : EntryKind
  module : String
  subjectKind : String
  family : DispatchFamily
  usesHandle : Bool
  ownsMethodTable : Bool
  hasFunctions : Bool
  /-- The symbols of the type's functions. -/
  functions : List String
deriving DecidableEq, Repr

/-- A function that is bound. -/
structure FunctionBinding where
  name : String
  /-- The C symbol. -/
  symbol : String
  /-- The C prototype. -/
  signature : String
  /-- Whether the prototype was stated rather than derived. -/
  isStated : Bool
  /-- The type that the function belongs to. -/
  owner : String
  module : String
  subjectKind : String
  family : DispatchFamily
  isStatic : Bool
  /-- The name of the handle parameter of a function that acts on an object. -/
  handleParam? : Option String
  params : List CParam
  returnType : SemanticType
  returnCType : String
  doc : String
deriving DecidableEq, Repr

/-- Everything that one run binds. -/
structure Manifest where
  /-- The kinds that a type or a function refers to. -/
  subjectKinds : List SubjectKind := []
  types : List TypeBinding := []
  functions : List FunctionBinding := []
deriving DecidableEq, Repr, Inhabited

namespace Manifest

/-- The type called `name`. -/
def type? (m : Manifest) (name : String) : Option TypeBinding := m.types.find? fun t => t.name = name

/-- The function with the given C symbol. -/
def function? (m : Manifest) (symbol : String) : Option FunctionBinding :=
  m.functions.find? fun f => f.symbol = symbol

/-- The subject kind called `name`. -/
def subjectKind? (m : Manifest) (name : String) : Option SubjectKind :=
  m.subjectKinds.find? fun k => k.name = name

/-- The functions of a module. -/
def functionsOf (m : Manifest) (module : String) : List FunctionBinding :=
  m.functions.filter fun f => f.module = module

/-- The names of the kinds that the types and functions refer to. -/
def usedKinds (types : List TypeBinding) (functions : List FunctionBinding) : List String :=
  types.map (·.subjectKind) ++ functions.map (·.subjectKind)

/-- Keep only the functions on which `keep` holds, the symbols of those functions, and the kinds that
are still referred to. No type is dropped. -/
def retain (m : Manifest) (keep : FunctionBinding → Bool) : Manifest :=
  let functions := m.functions.filter keep
  let symbols := functions.map (·.symbol)
  let types := m.types.map fun t =>
    let own := t.functions.filter symbols.contains
    { t with functions := own, hasFunctions := !own.isEmpty }
  let used := usedKinds types functions
  { subjectKinds := m.subjectKinds.filter fun k => used.contains k.name, types, functions }

/-- Drop the types on which `keep` does not hold. -/
def retainTypes (m : Manifest) (keep : TypeBinding → Bool) : Manifest :=
  { m with types := m.types.filter keep }

end Manifest

/-- The registered type that a binding was made from. -/
def TypeBinding.source? (t : TypeBinding) (types : TypeMap) : Option TypeEntry := types.get? t.name

/-- The registered type that owns a bound function. -/
def FunctionBinding.ownerType? (f : FunctionBinding) (types : TypeMap) : Option TypeEntry :=
  types.get? f.owner

/-- The registered function that a binding was made from. -/
def FunctionBinding.source? (f : FunctionBinding) (types : TypeMap) : Option FunctionEntry :=
  (f.ownerType? types).bind fun t => t.function? f.name

end Bindery
