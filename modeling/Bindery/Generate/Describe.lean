import Bindery.Generate.CApi
import Bindery.Text.Quoted
/-!
Descriptions for diagnostics: all that a C API generator is configured with, in one line, with the
fields of every record named and all texts quoted.
-/

namespace Bindery.CApi

/-- A path in descriptions. -/
def describePath (p : Path) : String := Text.quote p.text

/-- The output directories in descriptions. -/
def describeDirs : Option OutputDirs → String
  | none => "None"
  | some d => "Some(OutputDirs \x7b header: " ++ describePath d.header ++ ", source: " ++
      describePath d.source ++ " \x7d)"

/-- A subject kind in descriptions. -/
def describeKind (k : SubjectKind) : String :=
  Text.quote k.name ++ ": SubjectKindDescriptor \x7b name: " ++ Text.quote k.name ++
    ", dispatch_family: " ++ k.family.name ++ ", uses_handle: " ++ toString k.usesHandle ++
    ", owns_method_table: " ++ toString k.ownsMethodTable ++ " \x7d"

/-- The generator with all that it is configured with, in one line. -/
def describe (g : CApi) : String :=
  "CapiBindGenerator \x7b dirs: " ++ describeDirs g.dirs? ++
    ", options: CapiOptions \x7b source_extension: " ++ Text.quote g.options.sourceExtension ++
    ", manifest_file: " ++ Text.quote g.options.manifestFile ++ ", manifest_indent: " ++
    toString g.options.manifestIndent ++ ", runtime_header: " ++
    Text.quote g.options.runtimeHeader ++ " \x7d, catalog: SubjectKindCatalog \x7b kinds: \x7b" ++
    String.intercalate ", " (g.catalog.kinds.map describeKind) ++ "\x7d \x7d, custom_emitters: [" ++
    String.intercalate ", "
      (((g.emitters.map (·.1)).mergeSort fun a b => a ≤ b).map Text.quote) ++ "] \x7d"

end Bindery.CApi
