import Bindery.Generate.Plan
import Bindery.Header.Input
import Bindery.Header.RuntimeHeader
import Bindery.Manifest.Json
import Bindery.Source.Emit
/-!
The C API generator. It plans, for each module, a header and, if any function of it has a body, a
source file, and after them the runtime header and the manifest. A function without a body is dropped
from the manifest; a module whose header would take the place of another file of the run is left out
altogether, and so is its part of the manifest.
-/

namespace Bindery

/-- Names and forms of generated files. -/
structure Options where
  sourceExtension : String := "c"
  manifestFile : String := "bindings_manifest.json"
  /-- The indentation of the manifest; zero for the compact form. -/
  manifestIndent : Nat := 2
  runtimeHeader : String := "dombind_runtime.h"
deriving DecidableEq, Repr, Inhabited

/-- Where headers and sources go. -/
structure OutputDirs where
  header : Path
  source : Path
deriving DecidableEq, Repr

/-- The C API generator. -/
structure CApi where
  dirs? : Option OutputDirs := none
  options : Options := {}
  catalog : Catalog := .builtin
  emitters : Emitters := []

namespace CApi

/-- The name of the generator. -/
def name : String := "capi"

/-! ### Configuration -/

/-- Declare a subject kind. -/
def declareKind (g : CApi) (k : SubjectKind) : Except CatalogError CApi :=
  (g.catalog.declare k).map fun catalog => { g with catalog }

/-- Declare subject kinds in order, up to the first that is refused. -/
def declareKinds (g : CApi) (ks : List SubjectKind) : Except CatalogError CApi :=
  ks.foldlM declareKind g

/-- Register the emitter for a subject kind, in place of an earlier one. The kind must be known and
of the custom family. -/
def registerEmitter (g : CApi) (kind : String) (emitter : Emitter) : Except CatalogError CApi :=
  match g.catalog.get? kind with
  | none => .error (.unknownSubjectKind kind)
  | some k =>
    if k.family = .custom then
      .ok { g with emitters := (kind, emitter) :: g.emitters.filter fun e => e.1 ≠ kind }
    else .error (.notCustomKind kind k.family)

/-- Whether an emitter is registered for a subject kind. -/
def hasEmitter (g : CApi) (kind : String) : Bool := (g.emitters.lookup kind).isSome

/-- Set where headers and sources go. -/
def withDirs (g : CApi) (header source : Path) : CApi := { g with dirs? := some ⟨header, source⟩ }

/-! ### One module -/

/-- What one module adds to a run. -/
structure ModulePart where
  outputs : List Output := []
  errors : List BindingError := []
  /-- The symbols of functions that have no body. -/
  dropped : List String := []
deriving DecidableEq, Repr

/-- Whether the header of a module would take the place of another file of the run. -/
def isReserved (g : CApi) (module : String) : Bool :=
  ModuleHeader.fileOf module = g.options.runtimeHeader ||
    ModuleHeader.fileOf module = g.options.manifestFile

/-- The functions of a module with their bodies, or why they have none. -/
def bodies (g : CApi) (types : TypeMap) (manifest : Manifest) (m : Module) :
    List (FunctionBinding × Except BindingError String) :=
  if m.hasFunctions then
    (manifest.functionsOf m.name).filterMap fun f =>
      (manifest.type? f.owner).map fun subject => (f, Source.emit g.emitters types m subject f)
  else []

/-- Whether the manifest lists any type of a module. -/
def isListed (manifest : Manifest) (m : Module) : Bool :=
  m.types.any fun t => (manifest.type? t.name).isSome

/-- The functions that have a body, with it. -/
def emitted (outcomes : List (FunctionBinding × Except BindingError String)) :
    List (FunctionBinding × String) :=
  outcomes.filterMap fun (f, outcome) =>
    match outcome with
    | .ok body => some (f, body)
    | .error _ => none

/-- The functions that have no body, with the reason. -/
def skipped (outcomes : List (FunctionBinding × Except BindingError String)) :
    List (FunctionBinding × BindingError) :=
  outcomes.filterMap fun (f, outcome) =>
    match outcome with
    | .ok _ => none
    | .error e => some (f, e)

/-- What the header of a module is made from. -/
def headerInput (g : CApi) (snapshot : TypeMap) (manifest : Manifest) (m : Module)
    (functions : List FunctionBinding) : HeaderInput where
  module := m
  manifest
  functions
  ctypes := .ofTypes snapshot
  runtimeHeader := g.options.runtimeHeader

/-- The file of the source of a module. -/
def sourceFile (g : CApi) (module : String) : String := module ++ "." ++ g.options.sourceExtension

/-- What a module adds to a run. -/
def modulePart (g : CApi) (dirs : OutputDirs) (types snapshot : TypeMap) (manifest : Manifest)
    (m : Module) : ModulePart :=
  if g.isReserved m.name then
    { errors := [.reservedModuleName m.name (ModuleHeader.fileOf m.name)] }
  else
    let outcomes := g.bodies types manifest m
    let functions := emitted outcomes
    let missing := skipped outcomes
    let input := g.headerInput snapshot manifest m (functions.map (·.1))
    if !isListed manifest m then
      { errors := missing.map (·.2), dropped := missing.map (·.1.symbol) }
    else {
      outputs :=
        ⟨dirs.header.join (ModuleHeader.fileOf m.name), input.header.text⟩ ::
          if functions.isEmpty then []
          else [⟨dirs.source.join (g.sourceFile m.name), Source.text m.name (functions.map (·.2))⟩]
      errors := missing.map (·.2) ++ input.errors
      dropped := missing.map (·.1.symbol) }

/-! ### The whole run -/

/-- The manifest without the functions that have no body and without reserved modules. -/
def prune (manifest : Manifest) (dropped reserved : List String) : Manifest :=
  (manifest.retainTypes fun t => !reserved.contains t.module).retain fun f =>
    !dropped.contains f.symbol && !reserved.contains f.module

/-- The file that holds a manifest. -/
def manifestOutput (g : CApi) (dirs : OutputDirs) (manifest : Manifest) : Output :=
  ⟨dirs.header.join g.options.manifestFile, manifest.render g.options.manifestIndent ++ "\n"⟩

/-- The file that holds the runtime header. -/
def runtimeOutput (g : CApi) (dirs : OutputDirs) : Output :=
  ⟨dirs.header.join g.options.runtimeHeader, Header.runtimeText g.options.runtimeHeader⟩

/-- What each module of the types adds to a run. -/
def moduleParts (g : CApi) (dirs : OutputDirs) (types snapshot : TypeMap) (manifest : Manifest) :
    List ModulePart :=
  types.modules.map (g.modulePart dirs types snapshot manifest)

/-- The names of the modules that are left out because of their names. -/
def reservedModules (g : CApi) (types : TypeMap) : List String :=
  types.moduleNames.filter g.isReserved

/-- The manifest that a run writes. -/
def finalManifest (g : CApi) (dirs : OutputDirs) (types snapshot : TypeMap) : Manifest :=
  let manifest := (Manifest.build types g.catalog).manifest
  prune manifest ((g.moduleParts dirs types snapshot manifest).flatMap (·.dropped))
    (g.reservedModules types)

/-- The plan for the bindings of `types`; what they refer to is looked up in `snapshot`. -/
def planIn (g : CApi) (dirs : OutputDirs) (types snapshot : TypeMap) : Plan :=
  let built := Manifest.build types g.catalog
  let parts := g.moduleParts dirs types snapshot built.manifest
  { generator := name
    directories := [dirs.header, dirs.source]
    outputs := parts.flatMap (·.outputs) ++
      [g.runtimeOutput dirs, g.manifestOutput dirs (g.finalManifest dirs types snapshot)]
    errors := built.errors ++ parts.flatMap (·.errors) }

/-- The plan for the bindings of `types`, once it is known where files go. -/
def plan (g : CApi) (types snapshot : TypeMap) : Except GenerationError Plan :=
  match g.dirs? with
  | none => .error .outputDirsNotConfigured
  | some dirs => .ok (g.planIn dirs types snapshot)

/-- Generate the bindings of `types`. -/
def generate (g : CApi) (types snapshot : TypeMap) (files : FileStore) :
    Except GenerationError Report × FileStore :=
  match g.plan types snapshot with
  | .error e => (.error e, files)
  | .ok plan => plan.execute files

/-- Write a manifest where a run would write its own, and note in a report what became of it. -/
def writeManifest (g : CApi) (manifest : Manifest) (report : Report) (files : FileStore) :
    Except GenerationError Report × FileStore :=
  match g.dirs? with
  | none => (.error .outputDirsNotConfigured, files)
  | some dirs => Plan.writeOutputs report files [g.manifestOutput dirs manifest]

end CApi

end Bindery
