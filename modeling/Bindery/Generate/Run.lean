import Bindery.Document
import Bindery.Generate.CApi
import Bindery.Generate.Summary
import Bindery.Header.Legacy
/-!
One run over a document: the C API with the subject kinds of the document, and after it the legacy
header if it is wanted. Both see the same types.
-/

namespace Bindery

/-- Where and how to generate. -/
structure RunConfig where
  headerDir : Path
  sourceDir : Path
  /-- The directory of the legacy header, if it is wanted. -/
  legacyDir? : Option Path := none
  options : Options := {}
deriving DecidableEq, Repr

namespace RunConfig

/-- The C API generator of a run, with the subject kinds of a document. -/
def cApi (c : RunConfig) (d : Document) : Except CatalogError CApi :=
  (({ options := c.options } : CApi).declareKinds d.subjectKinds).map fun g =>
    g.withDirs c.headerDir c.sourceDir

/-- The jobs of a run: the C API, then the legacy header if it is wanted. -/
def jobs (c : RunConfig) (g : CApi) (types : TypeMap) : List Job :=
  ⟨CApi.name, g.plan types types⟩ ::
    match c.legacyDir? with
    | none => []
    | some dir =>
      [⟨LegacyHeader.generatorName, .ok (LegacyHeader.plan LegacyHeader.defaultFile types dir)⟩]

/-- Generate the bindings of a registry. -/
def run (c : RunConfig) (g : CApi) (r : Registry) (files : FileStore) : Summary × FileStore :=
  Job.runAll (c.jobs g r.snapshot) files

end RunConfig

end Bindery
