import Bindery.Generate.Plan
import Bindery.Header.ModuleHeader
import Bindery.Manifest.Build
/-!
The legacy header: one header for all types, with a declaration of each type, the constants of enums,
and the prototypes of functions in order of their symbols. Handles are plain pointers in it, subject
kinds play no part, and stated prototypes are taken as they are.
-/

namespace Bindery.Legacy

/-- A prototype and the symbol it declares. -/
structure Prototype where
  symbol : String
  text : String
deriving DecidableEq, Repr

/-- The C types of the legacy header. -/
def ctypes (types : TypeMap) : CTypes := ⟨types, "void*"⟩

/-- The receiver of a function that acts on an object. -/
def receiver? (owner : TypeEntry) (f : FunctionEntry) : Option (String × String) :=
  if owner.kind = .object && !f.isStatic then some (owner.name ++ "*", Manifest.selfParam) else none

/-- The prototype of a function: the one it states, or the one that its C types give. -/
def prototype (c : CTypes) (owner : TypeEntry) (f : FunctionEntry) :
    Except BindingError Prototype := do
  if !f.isBindable then throw (.missingCallable owner.name f.name)
  let symbol := Manifest.symbolOf owner f
  match f.prototype? with
  | some stated => return ⟨symbol, Bindery.Prototype.normalize stated⟩
  | none =>
    let returnCType ← Manifest.returnSpelling c owner f
    let params ← Manifest.params c owner f
    return ⟨symbol, Bindery.Prototype.derive returnCType symbol (receiver? owner f) params⟩

/-- The declaration of a type in the legacy header. -/
inductive Declaration where
  | enum (name : String) (constants : List (String × Int))
  | struct (name : String)
deriving DecidableEq, Repr

def Declaration.lines : Declaration → List String
  | .enum name constants =>
    ("typedef int32_t " ++ name ++ ";") :: constants.map fun (constant, value) =>
      "#define " ++ name ++ "_" ++ constant ++ " ((int32_t)" ++ toString value ++ ")"
  | .struct name => ["typedef struct " ++ name ++ " " ++ name ++ ";"]

/-- The declaration of a type; an alias has none. -/
def declaration? (t : TypeEntry) : Option Declaration :=
  match t.kind with
  | .alias => none
  | .enum => some (.enum t.name (CType.constants t).1)
  | _ => some (.struct t.name)

/-- The constants that do not fit. -/
def declarationErrors (t : TypeEntry) : List BindingError :=
  if t.kind = .enum then (CType.constants t).2 else []

end Legacy

/-- What the legacy header declares. -/
structure LegacyHeader where
  fileName : String
  declarations : List Legacy.Declaration
  prototypes : List Legacy.Prototype
deriving DecidableEq, Repr

namespace LegacyHeader

/-- The file of the legacy header unless another is asked for. -/
def defaultFile : String := "dombind_legacy.h"

/-- The prototypes of all exported functions, and why the others have none. -/
def outcomes (types : TypeMap) : List Legacy.Prototype × List BindingError :=
  partition <| types.sorted.flatMap fun t =>
    t.exportedFunctions.map (Legacy.prototype (Legacy.ctypes types) t)

/-- The legacy header of the types. -/
def ofTypes (fileName : String) (types : TypeMap) : LegacyHeader where
  fileName
  declarations := types.sorted.filterMap Legacy.declaration?
  prototypes := (outcomes types).1.mergeSort fun p q => p.symbol ≤ q.symbol

/-- What was left out of the legacy header: functions, then constants. -/
def errors (types : TypeMap) : List BindingError :=
  (outcomes types).2 ++ types.sorted.flatMap Legacy.declarationErrors

/-- Whether a prototype spells the handle type of the runtime header. -/
def spellsHandle (h : LegacyHeader) : Bool :=
  h.prototypes.any fun p => Text.contains p.text "DomBind_Handle"

/-- The lines of the header. -/
def lines (h : LegacyHeader) : List String :=
  [Header.banner, ""] ++ Header.openGuard h.fileName ++ ["", "#include <stdint.h>", ""] ++
    Header.openLinkage ++ [""] ++
    (if h.spellsHandle then Header.handleDeclaration ++ [""] else []) ++
    h.declarations.flatMap (·.lines) ++
    (if h.prototypes.isEmpty then [] else "" :: h.prototypes.map fun p => p.text ++ ";") ++ [""] ++
    Header.closeLinkage ++ ["", Header.closeGuard h.fileName]

/-- The text of the header. -/
def text (h : LegacyHeader) : String := Text.ofLines h.lines

/-- The name of the generator. -/
def generatorName : String := "c-legacy"

/-- The plan that puts the legacy header of the types into a directory. -/
def plan (fileName : String) (types : TypeMap) (directory : Path) : Plan where
  generator := generatorName
  directories := [directory]
  outputs := [⟨directory.join fileName, (ofTypes fileName types).text⟩]
  errors := errors types

end LegacyHeader

end Bindery
