import Bindery.Proofs.Generate.Outputs
import Bindery.Proofs.Header.Mirrors
/-!
Agreement of what a run writes. Headers and sources are made before it is known which functions the
manifest is left with; still the prototypes of a header, the bodies of a source and the functions of
the manifest are the same functions in the same order. What the manifest has lost against the one
that the run started from is reported.
-/

namespace Bindery.CApi

/-- The lines of a header about its functions: under the title each prototype is on a line of its own,
with a comment in front if there is anything to say about the function. -/
def prototypeLines (fs : List FunctionBinding) : List String :=
  if fs = [] then []
  else ["", "/* ---- Functions ---- */", ""] ++ fs.flatMap fun f =>
    (if f.doc = "" then [] else ["/* " ++ Text.comment f.doc ++ " */"]) ++ [f.signature ++ ";"]

/-- A header that declares some functions has their prototypes in its last part. -/
theorem functionLines_eq {h : ModuleHeader} {fs : List FunctionBinding}
    (hfunctions : h.functions = fs.map fun f => ⟨f.doc, f.signature⟩) :
    h.functionLines = prototypeLines fs := by
  have htitle : Text.commentLine ("---- " ++ "Functions" ++ " ----") = "/* ---- Functions ---- */" := by
    decide
  rw [ModuleHeader.functionLines, hfunctions, prototypeLines, ModuleHeader.sectionLines, htitle,
    List.flatMap_map]
  simp only [List.isEmpty_map, List.isEmpty_iff, FunctionDecl.lines, Text.commentLine]

/-- The text of a source: it names its module and includes the header of the module, and then has the
bodies one after the other, each after an empty line. -/
def sourceText (module : String) (bodies : List String) : String :=
  "/* Generated by dombind. Do not edit. */\n/* Module: " ++ module ++ " */\n\n#include \"" ++ module ++
    ".h\"\n" ++ String.join (bodies.map fun body => "\n" ++ body)

theorem text_eq_sourceText (module : String) (bodies : List String) :
    Source.text module bodies = sourceText module bodies := by
  have hopening : Text.ofLines [Header.banner, "/* Module: " ++ module ++ " */", "",
        "#include \"" ++ module ++ ".h\""] =
      "/* Generated by dombind. Do not edit. */\n/* Module: " ++ module ++ " */\n\n#include \"" ++
        module ++ ".h\"\n" := by
    rw [← String.toList_inj]
    simp [Text.ofLines, Header.banner]
  rw [Source.text, hopening]
  rfl

/-- Whether the header of a module is among the files of a run, and not some other file there. -/
def ProducesHeader (g : CApi) (dirs : OutputDirs) (types : TypeMap) (report : Report) (m : Module) :
    Prop :=
  m ∈ types.modules ∧ g.isReserved m.name = false ∧ headerPath dirs m ∈ report.files

/-- The headers, the sources and the manifest that a run has written agree. -/
structure OutputsAgree (g : CApi) (dirs : OutputDirs) (types : TypeMap) (report : Report)
    (files : FileStore) (written : Manifest) : Prop where
  manifest_text : files.read? (dirs.header.join g.options.manifestFile) =
    some (written.render g.options.manifestIndent ++ "\n")
  /-- What a header says of functions are the prototypes of those of the manifest, in their order. It
  comes after what the header says of types and subjects. -/
  header_text : ∀ m, ProducesHeader g dirs types report m →
    let header := g.headerOf types types m
    files.read? (headerPath dirs m) = some (Text.ofLines (header.opening ++ header.enumLines ++
      header.structLines ++ header.aliasLines ++ header.subjectLines ++
      prototypeLines (written.functionsOf m.name) ++ header.closing))
  /-- The functions of a header are those of the manifest, with its prototypes. -/
  prototypes : ∀ m, ProducesHeader g dirs types report m →
    (g.headerOf types types m).functions =
      (written.functionsOf m.name).map fun f => ⟨f.doc, f.signature⟩
  source_produced : ∀ m ∈ types.modules,
    g.sourcePath dirs m ∈ report.files ↔ written.functionsOf m.name ≠ []
  /-- The bodies that follow one another in a source are those of the functions of the manifest, in
  their order. -/
  source_text : ∀ m ∈ types.modules, written.functionsOf m.name ≠ [] →
    ∃ texts, files.read? (g.sourcePath dirs m) = some (sourceText m.name texts) ∧
      List.Forall₂ (fun f text => ∃ subject, (g.built types).type? f.owner = some subject ∧
        Source.emit g.emitters types m subject f = .ok text) (written.functionsOf m.name) texts
  types_declared : ∀ t ∈ written.types,
    ∃ m, ProducesHeader g dirs types report m ∧ m.name = t.module
  functions_declared : ∀ f ∈ written.functions,
    ∃ m, ProducesHeader g dirs types report m ∧ m.name = f.module
  /-- A function that the manifest has lost is reported by its symbol, or its module is. -/
  missing_reported : ∀ f ∈ (g.built types).functions, f ∉ written.functions →
    (.noCustomEmitter f.subjectKind f.symbol ∈ report.errors ∨ .emitterFailed f.symbol ∈ report.errors) ∨
      .reservedModuleName f.module (ModuleHeader.fileOf f.module) ∈ report.errors

section

variable {g : CApi} {dirs : OutputDirs} {types snapshot : TypeMap} {m : Module} {f : FunctionBinding}

/-- The definitions of a module are its functions that are left, each with what was emitted for it. -/
theorem emit_definitions (hm : m ∈ types.modules) :
    List.Forall₂ (fun f text => ∃ subject, (g.built types).type? f.owner = some subject ∧
        Source.emit g.emitters types m subject f = .ok text)
      ((g.definitions types m).map (·.1)) ((g.definitions types m).map (·.2)) := by
  rw [List.forall₂_map_left_iff, List.forall₂_map_right_iff, List.forall₂_same]
  rintro ⟨f, text⟩ hmem
  exact ((mem_bodies hm).1 (mem_emitted.1 hmem)).2

/-- A module that functions are left in has definitions and a header. -/
theorem functionsOf_ne_nil_iff (hm : m ∈ types.modules) :
    (g.finalManifest dirs types snapshot).functionsOf m.name ≠ [] ↔
      g.HasHeader types m ∧ g.definitions types m ≠ [] := by
  cases hr : g.isReserved m.name with
  | true =>
    rw [functionsOf_of_reserved hm hr]
    simp [HasHeader, hr]
  | false =>
    rw [functionsOf_finalManifest hm hr, Ne, List.map_eq_nil_iff]
    refine ⟨fun hd => ⟨⟨hr, ?_⟩, hd⟩, fun h => h.2⟩
    obtain ⟨⟨f, text⟩, hmem⟩ := List.exists_mem_of_ne_nil _ hd
    exact isListed_of_mem hm ((mem_bodies hm).1 (mem_emitted.1 hmem)).1

/-- A function that a run does not keep is reported by its symbol, or its module is. -/
theorem missing_reported (hf : f ∈ (g.built types).functions)
    (hmissing : f ∉ (g.finalManifest dirs types snapshot).functions) :
    (.noCustomEmitter f.subjectKind f.symbol ∈ (g.planIn dirs types snapshot).errors ∨
      .emitterFailed f.symbol ∈ (g.planIn dirs types snapshot).errors) ∨
      .reservedModuleName f.module (ModuleHeader.fileOf f.module) ∈
        (g.planIn dirs types snapshot).errors := by
  have hpart {m : Module} {e : BindingError} (hm : m ∈ types.modules)
      (he : e ∈ (g.modulePart dirs types snapshot (g.built types) m).errors) :
      e ∈ (g.planIn dirs types snapshot).errors :=
    List.mem_append_right _ (List.mem_flatMap.2 ⟨_, List.mem_map_of_mem hm, he⟩)
  obtain ⟨-, -, -, -, -, -, subject, hsubject⟩ := owner_of_built hf
  obtain ⟨m, hm, hmodule⟩ := exists_module_of_built hf
  have hmem : f ∈ (g.built types).functionsOf m.name := mem_functionsOf.2 ⟨hf, hmodule.symm⟩
  cases hr : g.isReserved m.name with
  | true =>
    refine .inr (hpart hm ?_)
    rw [modulePart_of_reserved hr, ← (mem_functionsOf.1 hmem).2]
    exact List.mem_cons_self
  | false =>
    cases hout : Source.emit g.emitters types m subject f with
    | ok text =>
      have hkeeps := keeps_eq dirs snapshot hm hr ((mem_bodies hm).2 ⟨hmem, subject, hsubject, hout⟩)
      exact absurd (List.mem_filter.2 ⟨hf, hkeeps⟩) hmissing
    | error e =>
      have he := hpart hm (mem_errors_modulePart hr ((mem_bodies hm).2 ⟨hmem, subject, hsubject, hout⟩))
      rcases emit_error hout with rfl | rfl
      · exact .inl (.inl he)
      · exact .inl (.inr he)

/-- Outputs agree once the plan of a run is carried out. -/
theorem outputsAgree_of_execute (husual : g.options.Usual)
    (hstems : ∀ t ∈ types.entries, '/' ∉ t.module.toList) {files files' : FileStore} {report : Report}
    (hexec : (g.planIn dirs types types).execute files = (.ok report, files')) :
    OutputsAgree g dirs types report files' (g.finalManifest dirs types types) := by
  obtain ⟨herrors, hfiles⟩ := Plan.report_of_execute hexec
  have hread : ∀ o ∈ (g.planIn dirs types types).outputs, files'.read? o.path = some o.text :=
    Plan.read?_of_execute (isPlaced_of_mem_outputs husual hstems) (fileNames_nodup husual hstems)
      hexec
  have hproduced {m : Module} :
      ProducesHeader g dirs types report m ↔ m ∈ types.modules ∧ g.HasHeader types m := by
    refine and_congr_right fun hm => ?_
    rw [hfiles.mem_iff]
    constructor
    · rintro ⟨hr, hpath⟩
      exact (headerPath_mem husual hstems hm hr).1 hpath
    · intro hh
      exact ⟨hh.1, (headerPath_mem husual hstems hm hh.1).2 hh⟩
  have hprototypes {m : Module} (hm : m ∈ types.modules) (hh : g.HasHeader types m) :
      (g.headerOf types types m).functions =
        ((g.finalManifest dirs types types).functionsOf m.name).map fun f => ⟨f.doc, f.signature⟩ := by
    rw [functionsOf_finalManifest hm hh.1]
    rfl
  have hdeclared {b : TypeBinding} (hb : b ∈ (g.built types).types)
      (hr : g.isReserved b.module = false) :
      ∃ m, ProducesHeader g dirs types report m ∧ m.name = b.module := by
    obtain ⟨t, ht, -, htmodule⟩ := source_of_built hb
    obtain ⟨m, hm, hname⟩ := TypeMap.exists_module ht
    have e : m.name = b.module := hname.trans htmodule
    exact ⟨m, hproduced.2 ⟨hm, by rwa [e], (isListed_iff hm).2 ⟨b, hb, e.symm⟩⟩, e⟩
  constructor
  case manifest_text =>
    have h := hread _ manifestOutput_mem
    dsimp only [manifestOutput] at h
    exact h
  case header_text =>
    intro m hm
    obtain ⟨hm, hh⟩ := hproduced.1 hm
    have h := hread _ (headerOutput_mem hm hh)
    dsimp only [headerOutput] at h
    have hlines := functionLines_eq (hprototypes hm hh)
    rw [h, ModuleHeader.text, ModuleHeader.lines_eq, hlines]
  case prototypes =>
    intro m hm
    obtain ⟨hm, hh⟩ := hproduced.1 hm
    exact hprototypes hm hh
  case source_produced =>
    intro m hm
    rw [hfiles.mem_iff, sourcePath_mem husual hstems hm, functionsOf_ne_nil_iff hm]
  case source_text =>
    intro m hm hne
    obtain ⟨hh, hd⟩ := (functionsOf_ne_nil_iff hm).1 hne
    refine ⟨(g.definitions types m).map (·.2), ?_, ?_⟩
    · have h := hread _ (sourceOutput_mem hm hh hd)
      dsimp only [sourceOutput] at h
      rw [h, text_eq_sourceText]
    · rw [functionsOf_finalManifest hm hh.1]
      exact emit_definitions hm
  case types_declared =>
    intro t ht
    obtain ⟨hr, b, hb, hmodule⟩ := exists_type_finalManifest.1 ⟨t, ht, rfl⟩
    rw [← hmodule] at hr ⊢
    exact hdeclared hb hr
  case functions_declared =>
    intro f hf
    have hbuilt := (List.mem_filter.1 (functions_finalManifest ▸ hf)).1
    obtain ⟨m, hm, hmodule⟩ := exists_module_of_built hbuilt
    have hne : (g.finalManifest dirs types types).functionsOf m.name ≠ [] :=
      List.ne_nil_of_mem (mem_functionsOf.2 ⟨hf, hmodule.symm⟩)
    exact ⟨m, hproduced.2 ⟨hm, ((functionsOf_ne_nil_iff hm).1 hne).1⟩, hmodule⟩
  case missing_reported =>
    intro f hf hmissing
    rw [herrors]
    exact missing_reported hf hmissing

end

/-- What a run writes agrees, whatever the types, the catalog, the emitters and the files are, as long
as the run completes. -/
theorem outputs_agree (dirs : OutputDirs) (catalog : Catalog) (emitters : Emitters) (types : TypeMap)
    (hstems : ∀ t ∈ types.entries, '/' ∉ t.module.toList) (files files' : FileStore) (report : Report)
    (hrun : ({ dirs? := some dirs, catalog, emitters } : CApi).generate types types files =
      (.ok report, files')) :
    OutputsAgree { dirs? := some dirs, catalog, emitters } dirs types report files'
      (({ dirs? := some dirs, catalog, emitters } : CApi).finalManifest dirs types types) :=
  outputsAgree_of_execute Options.usual_default hstems (execute_of_generate rfl hrun)

/-- One object with one function. -/
def widget : TypeMap where
  entries := [{
    name := "Widget", kind := .object, functions := [{ name := "show", callable? := some .host }] }]
  nodup := by decide

/-- Headers go to a directory that is named from the root, and sources to one that stands beside the
working directory. -/
def widgetDirs : OutputDirs := ⟨.ofText "/tmp/include", .ofText "../src"⟩

/-- A machine on which the program runs in the directory `/work`. -/
def workplace : FileStore :=
  { machine := { workingDirectory := ["work"] } : FileStore }.set ["work"] .directory

theorem outputs_agree_widget :
    ∃ report files,
      ({ dirs? := some widgetDirs } : CApi).generate widget widget workplace = (.ok report, files) ∧
      report.written.map Path.text = ["/tmp/include/widget.h", "../src/widget.c",
        "/tmp/include/dombind_runtime.h", "/tmp/include/bindings_manifest.json"] ∧
      OutputsAgree { dirs? := some widgetDirs } widgetDirs widget report files
        (({ dirs? := some widgetDirs } : CApi).finalManifest widgetDirs widget widget) := by
  have hwritten :
      ((({ dirs? := some widgetDirs } : CApi).generate widget widget workplace).1.toOption.map
        fun report => report.written.map Path.text) =
      some ["/tmp/include/widget.h", "../src/widget.c", "/tmp/include/dombind_runtime.h",
        "/tmp/include/bindings_manifest.json"] := by decide +kernel
  obtain ⟨report, files, hrun, hwritten⟩ := exists_report_of_map hwritten
  exact ⟨report, files, hrun, hwritten, outputs_agree _ .builtin [] widget (by decide) _ _ _ hrun⟩

end Bindery.CApi
