import Bindery.Command.Basic
import Bindery.Proofs.Document.Reading
import Bindery.Proofs.Generate.Interruption
/-!
The two commands on one document. `manifest` prints what is bound, and `generate` writes the manifest
of what it has files for. The command line registers no emitter and leaves the names of the files as
they are, so what is missing from the written manifest are the functions of the custom family and the
module whose header would take the place of the runtime header, and nothing else.
-/

namespace Bindery

/-! ### What a run without emitters writes -/

/-- The module whose header would have the name of the runtime header. -/
def runtimeModule : String := "dombind_runtime"

/-- What is left of a manifest without the functions of the custom family and without the module with
the name of the runtime header: types keep the symbols of the functions that are left, and a kind is
left if a type or a function that is left is of it. -/
def Manifest.written (m : Manifest) : Manifest :=
  let functions := m.functions.filter fun f => f.family ≠ .custom && f.module ≠ runtimeModule
  let types := (m.types.filter fun t => t.module ≠ runtimeModule).map fun t =>
    let own := t.functions.filter fun symbol => functions.any fun f => f.symbol = symbol
    { t with functions := own, hasFunctions := !own.isEmpty }
  { subjectKinds := m.subjectKinds.filter fun k =>
      types.any (fun t => t.subjectKind = k.name) || functions.any fun f => f.subjectKind = k.name
    types
    functions }

namespace Manifest

/-- What `retain` leaves, told by the functions and types rather than by lists of their names. -/
theorem retain_eq (m : Manifest) (keep : FunctionBinding → Bool) :
    m.retain keep =
      let functions := m.functions.filter keep
      let types := m.types.map fun t =>
        let own := t.functions.filter fun symbol => functions.any fun f => f.symbol = symbol
        { t with functions := own, hasFunctions := !own.isEmpty }
      { subjectKinds := m.subjectKinds.filter fun k =>
          types.any (fun t => t.subjectKind = k.name) || functions.any fun f => f.subjectKind = k.name
        types
        functions } := by
  have hsymbols (fs : List FunctionBinding) :
      (fs.map (·.symbol)).contains = fun symbol => fs.any fun f => f.symbol = symbol := by
    funext symbol
    rw [Bool.eq_iff_iff, List.contains_iff_mem, List.any_eq_true, List.mem_map]
    simp only [decide_eq_true_iff]
  have hused (ts : List TypeBinding) (fs : List FunctionBinding) (name : String) :
      (usedKinds ts fs).contains name =
        (ts.any (fun t => t.subjectKind = name) || fs.any fun f => f.subjectKind = name) := by
    rw [Bool.eq_iff_iff, List.contains_iff_mem, mem_usedKinds, Bool.or_eq_true, List.any_eq_true,
      List.any_eq_true]
    simp only [decide_eq_true_iff]
  rw [retain]
  simp only [hsymbols, hused]

/-- A consistent manifest in which nothing is to be left out is left as it is. -/
theorem written_eq_self {catalog : Catalog} {m : Manifest} (h : Consistent catalog m)
    (hfamily : ∀ f ∈ m.functions, f.family ≠ .custom)
    (hmodule : ∀ t ∈ m.types, t.module ≠ runtimeModule) : m.written = m := by
  have hfunctions : (m.functions.filter fun f => f.family ≠ .custom && f.module ≠ runtimeModule) =
      m.functions := by
    refine List.filter_eq_self.2 fun f hf => ?_
    obtain ⟨t, hone, e⟩ := h.owner_listed f hf
    have ht : t ∈ m.types := (List.mem_filter.1 (hone ▸ List.mem_cons_self)).1
    simp [hfamily f hf, ← e, hmodule t ht]
  have htypes : (m.types.filter fun t => t.module ≠ runtimeModule) = m.types :=
    List.filter_eq_self.2 fun t ht => decide_eq_true (hmodule t ht)
  have hown : ∀ t ∈ m.types,
      (t.functions.filter fun symbol => m.functions.any fun f => f.symbol = symbol) = t.functions := by
    intro t ht
    refine List.filter_eq_self.2 fun symbol hsymbol => ?_
    obtain ⟨f, hf, -, e⟩ := (h.mem_symbols t ht symbol).1 hsymbol
    exact List.any_eq_true.2 ⟨f, hf, decide_eq_true e⟩
  have hmap : (m.types.map fun t =>
      let own := t.functions.filter fun symbol => m.functions.any fun f => f.symbol = symbol
      { t with functions := own, hasFunctions := !own.isEmpty }) = m.types := by
    refine (List.map_congr_left fun t ht => ?_).trans (List.map_id _)
    have hhas : t.hasFunctions = !t.functions.isEmpty := by
      rw [Bool.eq_iff_iff, h.hasFunctions_iff t ht]
      simp
    dsimp only
    rw [hown t ht, ← hhas]
    rfl
  have hkinds : (m.subjectKinds.filter fun k =>
      m.types.any (fun t => t.subjectKind = k.name) || m.functions.any fun f => f.subjectKind = k.name) =
        m.subjectKinds := by
    refine List.filter_eq_self.2 fun k hk => ?_
    simpa using ((h.mem_kinds k).1 hk).2
  rw [written]
  simp only [hfunctions, htypes, hmap, hkinds]

end Manifest

namespace CApi

variable {g : CApi} {dirs : OutputDirs} {types snapshot : TypeMap} {m : Module} {f : FunctionBinding}

/-- With the default names of files the module of the runtime header is the only reserved one. -/
theorem isReserved_iff (hruntime : g.options.runtimeHeader = "dombind_runtime.h")
    (hmanifest : g.options.manifestFile = "bindings_manifest.json") {module : String} :
    g.isReserved module = true ↔ module = runtimeModule := by
  have hname : "dombind_runtime.h" = ModuleHeader.fileOf runtimeModule := by decide
  have hheader : ModuleHeader.fileOf module = "dombind_runtime.h" ↔ module = runtimeModule := by
    rw [hname]
    exact String.append_left_inj ".h"
  have hjson : ModuleHeader.fileOf module ≠ "bindings_manifest.json" := by
    intro e
    have hlast := header_ends module
    rw [e] at hlast
    revert hlast
    decide
  rw [isReserved, hruntime, hmanifest, Bool.or_eq_true, decide_eq_true_iff, decide_eq_true_iff,
    hheader, or_iff_left hjson]

/-- Without emitters the functions of the custom family have no body, and all others have one. -/
theorem emit_isOk {subject : TypeBinding} :
    (Source.emit [] types m subject f).isOk = decide (f.family ≠ .custom) := by
  rw [Source.emit, Definition.ofBinding?]
  cases f.family <;> rfl

/-- The functions that a run without emitters keeps. -/
theorem keeps_of_no_emitters (hemitters : g.emitters = [])
    (hreserved : ∀ module, g.isReserved module = true ↔ module = runtimeModule)
    (hf : f ∈ (g.built types).functions) :
    g.keeps dirs types snapshot f = (f.family ≠ .custom && f.module ≠ runtimeModule) := by
  obtain ⟨-, -, -, -, -, -, subject, hsubject⟩ := owner_of_built hf
  obtain ⟨m, hm, hmodule⟩ := exists_module_of_built hf
  by_cases hr : f.module = runtimeModule
  · have hmem : f.module ∈ g.reservedModules types := by
      rw [mem_reservedModules, hreserved, ← TypeMap.names_modules, ← hmodule]
      exact ⟨List.mem_map_of_mem hm, hmodule.trans hr⟩
    rw [keeps, List.contains_iff_mem.2 hmem, hr]
    simp
  · have hfree : g.isReserved m.name = false := by
      rw [← Bool.not_eq_true, hreserved, hmodule]
      exact hr
    have hbody := (mem_bodies hm).2 ⟨mem_functionsOf.2 ⟨hf, hmodule.symm⟩, subject, hsubject, rfl⟩
    rw [keeps_eq dirs snapshot hm hfree hbody, hemitters, emit_isOk]
    simp [hr]

/-- The manifest that a run without emitters writes. -/
theorem finalManifest_of_no_emitters (hemitters : g.emitters = [])
    (hreserved : ∀ module, g.isReserved module = true ↔ module = runtimeModule) :
    g.finalManifest dirs types snapshot = (g.built types).written := by
  have hfunctions : (g.built types).functions.filter (g.keeps dirs types snapshot) =
      (g.built types).functions.filter fun f => f.family ≠ .custom && f.module ≠ runtimeModule :=
    List.filter_congr fun f hf => keeps_of_no_emitters hemitters hreserved hf
  have htypes : ((g.built types).types.filter fun t => !(g.reservedModules types).contains t.module) =
      (g.built types).types.filter fun t => t.module ≠ runtimeModule := by
    refine List.filter_congr fun b hb => ?_
    obtain ⟨t, ht, -, hmodule⟩ := source_of_built hb
    have hmem : b.module ∈ g.reservedModules types ↔ b.module = runtimeModule := by
      rw [mem_reservedModules, hreserved]
      exact and_iff_right (TypeMap.mem_moduleNames.2 ⟨t, ht, hmodule⟩)
    rw [Bool.eq_iff_iff, Bool.not_eq_true', ← Bool.not_eq_true, List.contains_iff_mem, hmem,
      decide_eq_true_iff]
  have hfinal : g.finalManifest dirs types snapshot =
      ((g.built types).retainTypes fun t => !(g.reservedModules types).contains t.module).retain
        (g.keeps dirs types snapshot) := rfl
  rw [hfinal, Manifest.retainTypes, Manifest.retain_eq]
  simp only [hfunctions, htypes]
  rfl

/-- Declarations change nothing but the catalog. -/
theorem declareKinds_eq : ∀ (ks : List SubjectKind) (g : CApi),
    g.declareKinds ks = (g.catalog.declareAll ks).map fun catalog => { g with catalog }
  | [], _ => rfl
  | k :: ks, g => by
    rw [declareKinds, Catalog.declareAll, List.foldlM_cons, List.foldlM_cons, declareKind]
    cases g.catalog.declare k with
    | error e => rfl
    | ok catalog => exact declareKinds_eq ks { g with catalog }

end CApi

/-! ### The two commands -/

namespace RunConfig

/-- The generator of a run with the subject kinds of a catalog. It has no emitters. -/
def generator (c : RunConfig) (catalog : Catalog) : CApi :=
  { dirs? := some ⟨c.headerDir, c.sourceDir⟩, options := c.options, catalog }

theorem cApi_eq (c : RunConfig) (d : Document) : c.cApi d = d.catalog.map c.generator := by
  rw [cApi, CApi.declareKinds_eq, Document.catalog]
  cases Catalog.builtin.declareAll d.subjectKinds <;> rfl

variable {c : RunConfig} {g : CApi} {types : TypeMap} {files : FileStore}

/-- The C API is run first. -/
theorem runAll_jobs (c : RunConfig) (g : CApi) (types : TypeMap) (files : FileStore) :
    Job.runAll (c.jobs g types) files =
      match c.legacyDir? with
      | none => (⟨[(CApi.name, (g.generate types types files).1)]⟩, (g.generate types types files).2)
      | some dir =>
        let legacy := (LegacyHeader.plan LegacyHeader.defaultFile types dir).execute
          (g.generate types types files).2
        (⟨[(CApi.name, (g.generate types types files).1), (LegacyHeader.generatorName, legacy.1)]⟩,
          legacy.2) := by
  have hgenerate : (Job.carryOut FileStore.operations ⟨CApi.name, g.plan types types⟩ files) =
      g.generate types types files := Job.carryOut_eq _ _
  rw [jobs, ← hgenerate]
  cases c.legacyDir? <;> rfl

theorem outcome_mem_runAll (c : RunConfig) (g : CApi) (types : TypeMap) (files : FileStore) :
    (CApi.name, (g.generate types types files).1) ∈
      (Job.runAll (c.jobs g types) files).1.outcomes := by
  rw [runAll_jobs]
  cases c.legacyDir? <;> exact List.mem_cons_self

end RunConfig

/-- If every generator succeeded, so did each of them. -/
theorem Summary.ok_of_succeeded {s : Summary} (h : s.succeeded = true) {name : String}
    {outcome : Except GenerationError Report} (hmem : (name, outcome) ∈ s.outcomes) :
    ∃ report, outcome = .ok report := by
  cases outcome with
  | ok report => exact ⟨report, rfl⟩
  | error e =>
    have hfailure : (name, e) ∈ s.failures := List.mem_filterMap.2 ⟨_, hmem, rfl⟩
    rw [List.isEmpty_iff.1 h] at hfailure
    cases hfailure

namespace Command

variable {args args' : List String} {metadata : String} {config : RunConfig} {deny : Bool}
  {files : FileStore}

/-- The name of the file with the manifest. -/
def manifestFile : String := "bindings_manifest.json"

theorem isFileName_manifestFile : IsFileName manifestFile :=
  ⟨by decide, by decide, by decide, by decide⟩

theorem isFileName_legacy : IsFileName LegacyHeader.defaultFile :=
  ⟨by decide, by decide, by decide, by decide⟩

/-- A command line leaves the names of the manifest and of the runtime header as they are. -/
theorem names_of_parse (h : parse args = .ok (.generate metadata config deny)) :
    config.options.manifestFile = manifestFile ∧
      config.options.runtimeHeader = "dombind_runtime.h" := by
  rw [parse] at h
  split at h
  · cases h
  · obtain ⟨given, -, h⟩ := bind_eq_ok h
    obtain ⟨_, -, h⟩ := bind_eq_ok h
    obtain ⟨_, -, h⟩ := bind_eq_ok h
    obtain ⟨_, -, h⟩ := bind_eq_ok h
    cases h
    exact ⟨rfl, rfl⟩
  · obtain ⟨given, -, h⟩ := bind_eq_ok h
    obtain ⟨_, -, h⟩ := bind_eq_ok h
    cases h
  · cases h
  · cases h

/-- Whether the C API completes when a command is carried out, whatever else is reported. -/
def Completes (c : Command) (files : FileStore) : Prop :=
  ∃ jobs deny report, c.prepare (files.read? (.ofText c.metadata)) = .ok (.run jobs deny) ∧
    (CApi.name, .ok report) ∈ (Job.runAll jobs files).1.outcomes

/-- What a command has prepared is what is carried out. -/
theorem evaluate_of_run {command : Command} {jobs : List Job} (hparse : parse args = .ok command)
    (hprepare : command.prepare (files.read? (.ofText command.metadata)) = .ok (.run jobs deny)) :
    evaluate args files = (finishRun (Job.runAll jobs files).1 deny, (Job.runAll jobs files).2) := by
  rw [evaluate_eq, hparse]
  dsimp only
  rw [hprepare]

theorem evaluate_of_print {command : Command} {built : Manifest.Built} {indent : Nat}
    (hparse : parse args = .ok command)
    (hprepare : command.prepare (files.read? (.ofText command.metadata)) = .ok (.print built indent)) :
    evaluate args files = (finishPrint built indent, files) := by
  rw [evaluate_eq, hparse]
  dsimp only
  rw [hprepare]

theorem evaluate_of_refused {command : Command} {refusal : Refusal}
    (hparse : parse args = .ok command)
    (hprepare : command.prepare (files.read? (.ofText command.metadata)) = .error refusal) :
    evaluate args files = (finishRefused refusal, files) := by
  rw [evaluate_eq, hparse]
  dsimp only
  rw [hprepare]

theorem succeeded_of_exitCode {summary : Summary} (h : (finishRun summary deny).exitCode = 0) :
    summary.succeeded = true := by
  rw [finishRun] at h
  by_contra hfailed
  simp [hfailed] at h

/-- What the text of a document comes to: the types of its registry, and its catalog. -/
def Loads (text? : Option String) (types : TypeMap) (catalog : Catalog) : Prop :=
  ∃ document registry, text?.bind Document.read? = some document ∧
    document.registry = .ok registry ∧ registry.snapshot = types ∧ document.catalog = .ok catalog

theorem loads_unique {text? : Option String} {types types' : TypeMap} {catalog catalog' : Catalog}
    (h : Loads text? types catalog) (h' : Loads text? types' catalog') :
    types = types' ∧ catalog = catalog' := by
  obtain ⟨document, registry, hdocument, hregistry, rfl, hcatalog⟩ := h
  obtain ⟨document', registry', hdocument', hregistry', rfl, hcatalog'⟩ := h'
  obtain rfl := Option.some.inj (hdocument.symm.trans hdocument')
  obtain rfl := Except.ok.inj (hregistry.symm.trans hregistry')
  exact ⟨rfl, Except.ok.inj (hcatalog.symm.trans hcatalog')⟩

theorem eq_ok_of_mapError {ε ε' α : Type} {x : Except ε α} {f : ε → ε'} {a : α}
    (h : x.mapError f = .ok a) : x = .ok a := by
  cases x with
  | error e => cases h
  | ok b =>
    cases h
    rfl

/-- What `generate` prepares is a run over the types of the document with its catalog. -/
theorem prepare_generate {text? : Option String} {task : Task}
    (h : (Command.generate metadata config deny).prepare text? = .ok task) :
    ∃ types catalog, Loads text? types catalog ∧
      task = .run (config.jobs (config.generator catalog) types) deny := by
  rw [prepare] at h
  split at h
  · cases h
  · rename_i document hdocument
    obtain ⟨registry, hregistry, h⟩ := bind_eq_ok h
    obtain ⟨g, hg, h⟩ := bind_eq_ok h
    have hcApi := eq_ok_of_mapError hg
    rw [RunConfig.cApi_eq] at hcApi
    cases hcatalog : document.catalog with
    | error e =>
      rw [hcatalog] at hcApi
      cases hcApi
    | ok catalog =>
      rw [hcatalog] at hcApi
      cases hcApi
      cases h
      exact ⟨registry.snapshot, catalog,
        ⟨document, registry, hdocument, eq_ok_of_mapError hregistry, rfl, hcatalog⟩, rfl⟩

/-- The bindings of a document that can be read are generated. -/
theorem prepare_of_loads {text? : Option String} {types : TypeMap} {catalog : Catalog}
    (h : Loads text? types catalog) :
    (Command.generate metadata config deny).prepare text? =
      .ok (.run (config.jobs (config.generator catalog) types) deny) := by
  obtain ⟨document, registry, hdocument, hregistry, rfl, hcatalog⟩ := h
  rw [prepare, hdocument]
  dsimp only
  rw [hregistry, RunConfig.cApi_eq, hcatalog]
  rfl

/-- What `manifest` prepares is the manifest of the types of the document with its catalog. -/
theorem prepare_manifest {text? : Option String} {types : TypeMap} {catalog : Catalog} {indent : Nat}
    (h : Loads text? types catalog) :
    (Command.manifest metadata indent).prepare text? =
      .ok (.print (Manifest.build types catalog) indent) := by
  obtain ⟨document, registry, hdocument, hregistry, rfl, hcatalog⟩ := h
  rw [prepare, hdocument]
  dsimp only
  rw [hregistry, hcatalog]
  rfl

/-- The C API of a run completes if and only if its generator does, and the legacy header leaves the
manifest alone. -/
theorem manifest_of_runAll {g : CApi} {types : TypeMap} {report : Report}
    (h : (CApi.name, .ok report) ∈ (Job.runAll (config.jobs g types) files).1.outcomes) :
    ∃ files', g.generate types types files = (.ok report, files') ∧
      ∀ (d : Path) (text : String), files'.read? (d.join manifestFile) = some text →
        (Job.runAll (config.jobs g types) files).2.read? (d.join manifestFile) = some text := by
  rw [RunConfig.runAll_jobs] at h ⊢
  rcases hrun : g.generate types types files with ⟨outcome, files'⟩
  rw [hrun] at h
  cases hlegacy : config.legacyDir? with
  | none =>
    rw [hlegacy] at h
    obtain rfl : .ok report = outcome := by simpa using h
    exact ⟨files', rfl, fun _ _ => id⟩
  | some dir =>
    rw [hlegacy] at h
    have hother : CApi.name ≠ LegacyHeader.generatorName := by decide
    obtain rfl : .ok report = outcome := by simpa [hother] using h
    refine ⟨files', rfl, fun d text hread => ?_⟩
    have hplaced : ∀ o ∈ (LegacyHeader.plan LegacyHeader.defaultFile types dir).outputs, o.IsPlaced := by
      intro o ho
      obtain rfl := List.mem_singleton.1 ho
      exact Output.isPlaced_join dir isFileName_legacy _
    have hfresh : manifestFile ∉
        (LegacyHeader.plan LegacyHeader.defaultFile types dir).outputs.map Output.fileName := by
      rw [LegacyHeader.plan, List.map_singleton, Output.fileName_join dir isFileName_legacy]
      decide
    exact Plan.read?_execute isFileName_manifestFile hplaced hfresh hread

/-- A run that ends without failure has completed the C API. -/
theorem completes_of_exitCode (hparse : parse args = .ok (.generate metadata config deny))
    (h : (evaluate args files).1.exitCode = 0) :
    (Command.generate metadata config deny).Completes files := by
  cases hprepare : (Command.generate metadata config deny).prepare (files.read? (.ofText metadata)) with
  | error refusal =>
    rw [evaluate_of_refused hparse hprepare] at h
    cases h
  | ok task =>
    obtain ⟨types, catalog, -, rfl⟩ := prepare_generate hprepare
    rw [evaluate_of_run hparse hprepare] at h
    have hmem := RunConfig.outcome_mem_runAll config (config.generator catalog) types files
    obtain ⟨report, hok⟩ := Summary.ok_of_succeeded (succeeded_of_exitCode h) hmem
    exact ⟨_, deny, report, hprepare, hok ▸ hmem⟩

/-- The manifest that `generate` writes is the one that `manifest` prints, but for the functions of the
custom family and the module of the runtime header. -/
theorem commands_agree (hgenerate : parse args = .ok (.generate metadata config deny))
    (hmanifest : parse args' = .ok (.manifest metadata config.options.manifestIndent))
    (hcompletes : (Command.generate metadata config deny).Completes files) :
    ∃ types catalog, Loads (files.read? (.ofText metadata)) types catalog ∧
      let manifest := (Manifest.build types catalog).manifest
      let written? := (evaluate args files).2.read? (config.headerDir.join "bindings_manifest.json")
      let printed := evaluate args' files
      printed.1.exitCode = 0 ∧ printed.2 = files ∧
        printed.1.stdout = manifest.render config.options.manifestIndent ++ "\n" ∧
        written? = some (manifest.written.render config.options.manifestIndent ++ "\n") ∧
        ((∀ f ∈ manifest.functions, f.family ≠ .custom) →
          (∀ t ∈ manifest.types, t.module ≠ runtimeModule) → written? = some printed.1.stdout) := by
  obtain ⟨jobs, deny', report, hprepare, hcompletes⟩ := hcompletes
  obtain ⟨types, catalog, hloads, htask⟩ := prepare_generate hprepare
  cases htask
  obtain ⟨hjson, hruntime⟩ := names_of_parse hgenerate
  obtain ⟨files', hrun, hkept⟩ := manifest_of_runAll hcompletes
  have hfinal : (config.generator catalog).finalManifest ⟨config.headerDir, config.sourceDir⟩ types
      types = (Manifest.build types catalog).manifest.written :=
    CApi.finalManifest_of_no_emitters rfl fun _ => CApi.isReserved_iff hruntime hjson
  have hname : IsFileName (config.generator catalog).options.manifestFile := by
    rw [RunConfig.generator, hjson]
    exact isFileName_manifestFile
  have hread := CApi.read?_manifest rfl hname hrun
  rw [hfinal, RunConfig.generator, hjson] at hread
  have hwritten := hkept config.headerDir _ hread
  refine ⟨types, catalog, hloads, ?_⟩
  dsimp only
  rw [evaluate_of_run hgenerate hprepare, evaluate_of_print hmanifest (prepare_manifest hloads)]
  refine ⟨rfl, rfl, rfl, hwritten, fun hfamily hmodule => ?_⟩
  rw [Manifest.written_eq_self Manifest.consistent_build hfamily hmodule] at hwritten
  exact hwritten

/-- A document with one function, which is of the custom family. -/
def remote : Document where
  subjectKinds := [.custom "Remote"]
  types := [{
    name := "Widget", kind := .object
    functions := [{ name := "sync", subjectKind? := some "Remote" }] }]

def remoteFiles : FileStore := FileStore.empty.set ["meta.json"] (.file remote.render)

def generateRemote : List String :=
  ["generate", "--metadata", "meta.json", "--header-dir", "include", "--source-dir", "src",
    "--manifest-indent", "0"]

def printRemote : List String := ["manifest", "--metadata", "meta.json", "--indent", "0"]

def remoteConfig : RunConfig where
  headerDir := .ofText "include"
  sourceDir := .ofText "src"
  options := { manifestIndent := 0 }

theorem commands_agree_remote :
    ∃ manifest : Manifest, manifest.functions.map (·.symbol) = ["Widget_sync"] ∧
      manifest.written.functions = [] ∧ (evaluate generateRemote remoteFiles).1.exitCode = 0 ∧
      (evaluate printRemote remoteFiles).1.stdout = manifest.render 0 ++ "\n" ∧
      (evaluate generateRemote remoteFiles).2.read? (.ofText "include/bindings_manifest.json") =
        some (manifest.written.render 0 ++ "\n") := by
  have hgenerate : parse generateRemote = .ok (.generate "meta.json" remoteConfig false) := rfl
  have hprint : parse printRemote =
      .ok (.manifest "meta.json" remoteConfig.options.manifestIndent) := rfl
  have hdocument : (remoteFiles.read? (.ofText "meta.json")).bind Document.read? = some remote := by
    have htext : remoteFiles.read? (.ofText "meta.json") = some remote.render := rfl
    rw [htext, Option.bind_some, Document.read?_render (by decide)]
    rfl
  have hcomputed :
      (match remote.registry, remote.catalog with
        | .ok registry, .ok catalog =>
          let types := registry.snapshot
          let manifest := (Manifest.build types catalog).manifest
          let run := Job.runAll (remoteConfig.jobs (remoteConfig.generator catalog) types) remoteFiles
          some ((finishRun run.1 false).exitCode, manifest.functions.map (·.symbol),
            manifest.written.functions)
        | _, _ => none) = some (0, ["Widget_sync"], []) := by decide +kernel
  cases hregistry : remote.registry with
  | error e =>
    rw [hregistry] at hcomputed
    cases hcomputed
  | ok registry =>
    cases hcatalog : remote.catalog with
    | error e =>
      rw [hregistry, hcatalog] at hcomputed
      cases hcomputed
    | ok catalog =>
      rw [hregistry, hcatalog] at hcomputed
      obtain ⟨hexit, hmanifest⟩ := Prod.mk.inj (Option.some.inj hcomputed)
      obtain ⟨hsymbols, hwritten⟩ := Prod.mk.inj hmanifest
      have hloads : Loads (remoteFiles.read? (.ofText "meta.json")) registry.snapshot catalog :=
        ⟨remote, registry, hdocument, hregistry, rfl, hcatalog⟩
      have hcode : (evaluate generateRemote remoteFiles).1.exitCode = 0 := by
        rw [evaluate_of_run hgenerate (prepare_of_loads hloads)]
        exact hexit
      obtain ⟨types, catalog', hloads', -, -, hprinted, hread, -⟩ :=
        commands_agree hgenerate hprint (completes_of_exitCode hgenerate hcode)
      obtain ⟨rfl, rfl⟩ := loads_unique hloads hloads'
      exact ⟨_, hsymbols, hwritten, hcode, hprinted, hread⟩

end Command

end Bindery
