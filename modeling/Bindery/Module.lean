import Bindery.TypeMap
/-!
Modules: the types that share a header and a source file. Each type belongs to the module of its file
stem, and within it to the bucket of its kind. A module takes its line of description from the first
of its types, by name, that states one, or else from the first that has an inferred one.
-/

namespace Bindery

/-- The types of one module, by kind. -/
structure Module where
  name : String
  brief? : Option String := none
  /-- Whether the description was stated rather than inferred. -/
  briefIsExplicit : Bool := false
  enums : List TypeEntry := []
  structs : List TypeEntry := []
  objects : List TypeEntry := []
  globals : List TypeEntry := []
  functions : List TypeEntry := []
  aliases : List TypeEntry := []
deriving DecidableEq, Repr

namespace Module

/-- The types that functions act on: objects, globals and groups of functions. -/
def subjects (m : Module) : List TypeEntry := m.objects ++ m.globals ++ m.functions

/-- The types that are not enums. -/
def nonEnums (m : Module) : List TypeEntry := m.structs ++ m.aliases ++ m.subjects

/-- All types, bucket by bucket. -/
def types (m : Module) : List TypeEntry := m.enums ++ m.nonEnums

def size (m : Module) : Nat := m.types.length

def isEmpty (m : Module) : Bool := m.types.isEmpty

/-- Whether a type that is not an enum has an exported function. -/
def hasFunctions (m : Module) : Bool := m.nonEnums.any fun t => !t.exportedFunctions.isEmpty

/-- Take over the description of a type: a stated one, unless there is one already, and an inferred
one only while there is none at all. -/
def mergeBrief (m : Module) (t : TypeEntry) : Module :=
  if m.briefIsExplicit then m
  else match t.explicitBrief? with
    | some brief => { m with brief? := some brief, briefIsExplicit := true }
    | none => { m with brief? := m.brief?.or t.inferredBrief? }

/-- Put a type into its bucket. -/
def addToBucket (m : Module) (t : TypeEntry) : Module :=
  match t.kind with
  | .enum => { m with enums := m.enums ++ [t] }
  | .struct => { m with structs := m.structs ++ [t] }
  | .object => { m with objects := m.objects ++ [t] }
  | .global => { m with globals := m.globals ++ [t] }
  | .function => { m with functions := m.functions ++ [t] }
  | .alias => { m with aliases := m.aliases ++ [t] }

/-- Add a type. -/
def add (m : Module) (t : TypeEntry) : Module := (m.mergeBrief t).addToBucket t

/-- The module called `name` of some types in order of their names. -/
def ofTypes (name : String) (ts : List TypeEntry) : Module := ts.foldl add { name := name }

end Module

/-- The names of the modules of the types, in ascending order. -/
def TypeMap.moduleNames (m : TypeMap) : List String :=
  (m.entries.map (·.module)).eraseDups.mergeSort fun a b => a ≤ b

/-- The modules of the types, in ascending order of their names. -/
def TypeMap.modules (m : TypeMap) : List Module :=
  let sorted := m.sorted
  m.moduleNames.map fun name => Module.ofTypes name (sorted.filter fun t => t.module = name)

end Bindery
