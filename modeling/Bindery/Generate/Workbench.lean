import Bindery.Generate.CApi
import Bindery.Generate.Summary
import Bindery.Header.Legacy
import Bindery.Registry.Basic
/-!
A registry together with the generators that run on its types. All generators of a run see the types
as they were when the run began, and are given one directory to write below.
-/

namespace Bindery

/-- Plans files below a directory for the types of a registry. -/
structure Generator where
  name : String
  plan : TypeMap → Path → Except GenerationError Plan

namespace Generator

/-- The C API generator, with headers in `include` and sources in `src`. -/
def cApi (g : CApi) : Generator where
  name := CApi.name
  plan types directory :=
    (g.withDirs (directory.join "include") (directory.join "src")).plan types types

/-- The generator of the legacy header in the given file. -/
def legacy (fileName : String) : Generator where
  name := LegacyHeader.generatorName
  plan types directory := .ok (LegacyHeader.plan fileName types directory)

/-- The job of a generator for some types and a directory. -/
def job (types : TypeMap) (directory : Path) (g : Generator) : Job :=
  ⟨g.name, g.plan types directory⟩

end Generator

/-- A registry and its generators. -/
structure Workbench where
  registry : Registry := .empty
  generators : List Generator := []

namespace Workbench

/-- Add a generator after the others. -/
def addGenerator (w : Workbench) (g : Generator) : Workbench :=
  { w with generators := w.generators ++ [g] }

/-- Run every generator on the types as they are now. -/
def generate (w : Workbench) (directory : Path) (files : FileStore) : Summary × FileStore :=
  Job.runAll (w.generators.map (Generator.job w.registry.snapshot directory)) files

/-- The counts of a workbench in one line. -/
def describe (w : Workbench) : String :=
  "DataRegistry \x7b types: \"<" ++ toString w.registry.size ++ " types>\", shells: " ++
    toString w.registry.shells.length ++ ", generators: \"<" ++ toString w.generators.length ++
    " generators>\" \x7d"

end Workbench

end Bindery
