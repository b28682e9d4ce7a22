import Bindery.Proofs.Generate.Execute
import Bindery.Proofs.Generate.Pruning
/-!
The files of a run. A module that is neither reserved nor unlisted adds its header, and its source if
any function of it has a body; the runtime header and the manifest come last. With the usual options
headers, sources and the manifest end in different letters, and a header that would have the name of
one of the last two files is that of a reserved module. So no two files have the same name.
-/

namespace Bindery

/-- Options by which the files of a run are told apart: sources end in `.c` or `.cpp`, the runtime
header in `.h`, and the manifest in `.json`. -/
structure Options.Usual (o : Options) : Prop where
  extension : o.sourceExtension = "c" ∨ o.sourceExtension = "cpp"
  runtimeHeader : ∃ stem, '/' ∉ stem.toList ∧ o.runtimeHeader = stem ++ ".h"
  manifestFile : ∃ stem, '/' ∉ stem.toList ∧ o.manifestFile = stem ++ ".json"

theorem Options.usual_default : Options.Usual {} where
  extension := .inl rfl
  runtimeHeader := ⟨"dombind_runtime", by decide, rfl⟩
  manifestFile := ⟨"bindings_manifest", by decide, rfl⟩

namespace CApi

variable {g : CApi} {dirs : OutputDirs} {types snapshot : TypeMap} {m : Module}

/-- The functions of a module that have a body, with it. -/
def definitions (g : CApi) (types : TypeMap) (m : Module) : List (FunctionBinding × String) :=
  emitted (g.bodies types (g.built types) m)

/-- The header of a module in a run. -/
def headerOf (g : CApi) (types snapshot : TypeMap) (m : Module) : ModuleHeader :=
  (g.headerInput snapshot (g.built types) m ((g.definitions types m).map (·.1))).header

def headerPath (dirs : OutputDirs) (m : Module) : Path := dirs.header.join (ModuleHeader.fileOf m.name)

def sourcePath (g : CApi) (dirs : OutputDirs) (m : Module) : Path :=
  dirs.source.join (g.sourceFile m.name)

def headerOutput (g : CApi) (dirs : OutputDirs) (types snapshot : TypeMap) (m : Module) : Output :=
  ⟨headerPath dirs m, (g.headerOf types snapshot m).text⟩

def sourceOutput (g : CApi) (dirs : OutputDirs) (types : TypeMap) (m : Module) : Output :=
  ⟨g.sourcePath dirs m, Source.text m.name ((g.definitions types m).map (·.2))⟩

/-- Whether a run makes a header for a module: its name is free and a type of it is listed. -/
def HasHeader (g : CApi) (types : TypeMap) (m : Module) : Prop :=
  g.isReserved m.name = false ∧ isListed (g.built types) m = true

instance : Decidable (g.HasHeader types m) := inferInstanceAs (Decidable (_ ∧ _))

/-- What a module adds to the files of a run. -/
theorem outputs_modulePart :
    (g.modulePart dirs types snapshot (g.built types) m).outputs =
      if g.HasHeader types m then
        g.headerOutput dirs types snapshot m ::
          if g.definitions types m = [] then [] else [g.sourceOutput dirs types m]
      else [] := by
  rw [modulePart]
  cases hr : g.isReserved m.name with
  | true => simp [HasHeader, hr]
  | false =>
    cases hl : isListed (g.built types) m with
    | false => simp [HasHeader, hl]
    | true =>
      have hh : g.HasHeader types m := ⟨hr, hl⟩
      simp only [hh, if_true, Bool.false_eq_true, if_false, Bool.not_true, List.isEmpty_iff]
      rfl

/-- The first file of a module is its header, made of the lines of the header. -/
theorem head?_outputs_modulePart (hh : g.HasHeader types m) :
    (g.modulePart dirs types snapshot (g.built types) m).outputs.head? =
      some ⟨headerPath dirs m, Text.ofLines (g.headerOf types snapshot m).lines⟩ := by
  rw [outputs_modulePart, if_pos hh]
  rfl

theorem outputs_planIn :
    (g.planIn dirs types snapshot).outputs =
      types.modules.flatMap (fun m => (g.modulePart dirs types snapshot (g.built types) m).outputs) ++
        [g.runtimeOutput dirs, g.manifestOutput dirs (g.finalManifest dirs types snapshot)] := by
  simp [planIn, moduleParts, List.flatMap_map, built]

/-- A file of a run is a header, a source, or one of the last two. -/
theorem mem_outputs {o : Output} :
    o ∈ (g.planIn dirs types snapshot).outputs ↔
      (∃ m ∈ types.modules, g.HasHeader types m ∧
        (o = g.headerOutput dirs types snapshot m ∨
          g.definitions types m ≠ [] ∧ o = g.sourceOutput dirs types m)) ∨
      o = g.runtimeOutput dirs ∨ o = g.manifestOutput dirs (g.finalManifest dirs types snapshot) := by
  rw [outputs_planIn, List.mem_append, List.mem_flatMap, List.mem_pair]
  refine or_congr (exists_congr fun m => and_congr_right fun _ => ?_) .rfl
  rw [outputs_modulePart]
  by_cases hh : g.HasHeader types m
  · by_cases hd : g.definitions types m = [] <;> simp [hh, hd]
  · simp [hh]

theorem headerOutput_mem (hm : m ∈ types.modules) (hh : g.HasHeader types m) :
    g.headerOutput dirs types snapshot m ∈ (g.planIn dirs types snapshot).outputs := by
  rw [mem_outputs]
  exact .inl ⟨m, hm, hh, .inl rfl⟩

theorem sourceOutput_mem (hm : m ∈ types.modules) (hh : g.HasHeader types m)
    (hd : g.definitions types m ≠ []) :
    g.sourceOutput dirs types m ∈ (g.planIn dirs types snapshot).outputs := by
  rw [mem_outputs]
  exact .inl ⟨m, hm, hh, .inr ⟨hd, rfl⟩⟩

theorem manifestOutput_mem :
    g.manifestOutput dirs (g.finalManifest dirs types snapshot) ∈
      (g.planIn dirs types snapshot).outputs := by
  rw [mem_outputs]
  exact .inr (.inr rfl)

theorem plan_eq (hdirs : g.dirs? = some dirs) (types snapshot : TypeMap) :
    g.plan types snapshot = .ok (g.planIn dirs types snapshot) := by
  rw [plan, hdirs]

theorem generate_eq_execute (hdirs : g.dirs? = some dirs) (types snapshot : TypeMap)
    (files : FileStore) :
    g.generate types snapshot files = (g.planIn dirs types snapshot).execute files := by
  rw [generate, plan_eq hdirs]

/-- A run that completes has carried out its plan. -/
theorem execute_of_generate {files files' : FileStore} {report : Report} (hdirs : g.dirs? = some dirs)
    (hrun : g.generate types snapshot files = (.ok report, files')) :
    (g.planIn dirs types snapshot).execute files = (.ok report, files') := by
  rwa [generate_eq_execute hdirs] at hrun

/-- The last file of a run is the manifest. -/
theorem read?_manifest {files files' : FileStore} {report : Report} (hdirs : g.dirs? = some dirs)
    (hname : IsFileName g.options.manifestFile)
    (hrun : g.generate types snapshot files = (.ok report, files')) :
    files'.read? (dirs.header.join g.options.manifestFile) =
      some (g.manifestOutput dirs (g.finalManifest dirs types snapshot)).text := by
  obtain ⟨s₁, -, hw⟩ := Plan.execute_ok (execute_of_generate hdirs hrun)
  rw [outputs_planIn, List.append_cons] at hw
  have hplaced : (g.manifestOutput dirs (g.finalManifest dirs types snapshot)).IsPlaced :=
    Output.isPlaced_join dirs.header hname _
  have hread := Plan.read?_writeOutputs_last hplaced hw
  exact hread

/-- A run whose report is told about completes, and what is told is so. -/
theorem exists_report_of_map {α : Type} {f : Report → α} {a : α} {files : FileStore}
    (h : (g.generate types snapshot files).1.toOption.map f = some a) :
    ∃ report files', g.generate types snapshot files = (.ok report, files') ∧ f report = a := by
  rcases hrun : g.generate types snapshot files with ⟨_ | report, files'⟩
  · rw [hrun] at h
    cases h
  · rw [hrun] at h
    exact ⟨report, files', rfl, Option.some.inj h⟩

/-- A run that does not fail completes with a report. -/
theorem exists_report {files : FileStore}
    (h : (g.generate types snapshot files).1.toOption.isSome = true) :
    ∃ report files', g.generate types snapshot files = (.ok report, files') := by
  obtain ⟨report, hreport⟩ := Option.isSome_iff_exists.1 h
  obtain ⟨report, files', hrun, -⟩ := exists_report_of_map (congrArg (Option.map id) hreport)
  exact ⟨report, files', hrun⟩

/-! ### Names -/

theorem getLast?_append {stem suffix : String} {c : Char} (h : suffix.toList.getLast? = some c) :
    (stem ++ suffix).toList.getLast? = some c := by
  rw [String.toList_append, List.getLast?_append, h]
  rfl

/-- A name that ends in a suffix is one of a file, if the suffix does not end as a segment that stays
or goes up does, or as the name of the null device. -/
theorem isFileName_append {stem suffix : String} {c : Char} (hstem : '/' ∉ stem.toList)
    (hsuffix : '/' ∉ suffix.toList) (hlast : suffix.toList.getLast? = some c) (hdot : c ≠ '.')
    (hl : c ≠ 'l') : IsFileName (stem ++ suffix) := by
  have hne {name : String} (hname : name.toList.getLast? ≠ some c) : stem ++ suffix ≠ name := by
    rintro rfl
    exact hname (getLast?_append hlast)
  constructor
  · simp [hstem, hsuffix]
  · simp only [Path.isIdle, Bool.or_eq_false_iff, decide_eq_false_iff_not]
    exact ⟨hne (by simp), hne (by simpa using hdot.symm)⟩
  · exact hne (by simpa using hdot.symm)
  · exact hne (by simpa using hl.symm)

theorem isFileName_header {stem : String} (h : '/' ∉ stem.toList) :
    IsFileName (ModuleHeader.fileOf stem) :=
  isFileName_append h (by decide) rfl (by decide) (by decide)

theorem header_ends (stem : String) : (ModuleHeader.fileOf stem).toList.getLast? = some 'h' :=
  getLast?_append rfl

/-- A header of a run has neither the name of the runtime header nor that of the manifest. -/
theorem header_ne_last (hr : g.isReserved m.name = false) :
    ModuleHeader.fileOf m.name ≠ g.options.runtimeHeader ∧
      ModuleHeader.fileOf m.name ≠ g.options.manifestFile := by
  simpa [isReserved] using hr

/-- Two modules whose names are the same before a suffix are the same. -/
theorem eq_of_name_append {m' : Module} {suffix : String} (hm : m ∈ types.modules)
    (hm' : m' ∈ types.modules) (h : m.name ++ suffix = m'.name ++ suffix) : m = m' :=
  List.inj_on_of_nodup_map TypeMap.modules_names_nodup hm hm' ((String.append_left_inj _).1 h)

theorem sourceFile_eq (g : CApi) (stem : String) :
    g.sourceFile stem = stem ++ ("." ++ g.options.sourceExtension) := String.append_assoc

section Usual

variable (husual : g.options.Usual)
include husual

theorem isFileName_source {stem : String} (h : '/' ∉ stem.toList) : IsFileName (g.sourceFile stem) := by
  rw [sourceFile_eq]
  rcases husual.extension with e | e <;> rw [e]
  · exact isFileName_append h (by decide) rfl (by decide) (by decide)
  · exact isFileName_append h (by decide) rfl (by decide) (by decide)

theorem isFileName_runtime : IsFileName g.options.runtimeHeader := by
  obtain ⟨stem, hstem, e⟩ := husual.runtimeHeader
  rw [e]
  exact isFileName_append hstem (by decide) rfl (by decide) (by decide)

theorem isFileName_manifest : IsFileName g.options.manifestFile := by
  obtain ⟨stem, hstem, e⟩ := husual.manifestFile
  rw [e]
  exact isFileName_append hstem (by decide) rfl (by decide) (by decide)

/-- A source has not the name of any other file. -/
theorem source_ne (stem : String) {name : String}
    (h : name.toList.getLast? = some 'h' ∨ name.toList.getLast? = some 'n') :
    g.sourceFile stem ≠ name := by
  rintro rfl
  rw [sourceFile_eq] at h
  rcases husual.extension with e | e <;> rw [e, getLast?_append rfl] at h <;> revert h <;> decide

theorem runtime_ends : g.options.runtimeHeader.toList.getLast? = some 'h' := by
  obtain ⟨stem, -, e⟩ := husual.runtimeHeader
  rw [e]
  exact getLast?_append rfl

theorem manifest_ends : g.options.manifestFile.toList.getLast? = some 'n' := by
  obtain ⟨stem, -, e⟩ := husual.manifestFile
  rw [e]
  exact getLast?_append rfl

theorem runtime_ne_manifest : g.options.runtimeHeader ≠ g.options.manifestFile := by
  intro e
  have h := runtime_ends husual
  rw [e, manifest_ends husual] at h
  cases h

variable (hstems : ∀ t ∈ types.entries, '/' ∉ t.module.toList)
include hstems

omit husual in
theorem noSlash_of_mem_modules (hm : m ∈ types.modules) : '/' ∉ m.name.toList := by
  have hname : m.name ∈ types.modules.map (·.name) := List.mem_map_of_mem hm
  rw [TypeMap.names_modules] at hname
  obtain ⟨t, ht, e⟩ := TypeMap.mem_moduleNames.1 hname
  exact e ▸ hstems t ht

/-- Every file of a run is a file of one of the two directories. -/
theorem isPlaced_of_mem_outputs : ∀ o ∈ (g.planIn dirs types snapshot).outputs, o.IsPlaced := by
  intro o ho
  rcases mem_outputs.1 ho with ⟨m, hm, -, rfl | ⟨-, rfl⟩⟩ | rfl | rfl
  · exact Output.isPlaced_join _ (isFileName_header (noSlash_of_mem_modules hstems hm)) _
  · exact Output.isPlaced_join _ (isFileName_source husual (noSlash_of_mem_modules hstems hm)) _
  · exact Output.isPlaced_join _ (isFileName_runtime husual) _
  · exact Output.isPlaced_join _ (isFileName_manifest husual) _

omit husual in
theorem fileName_headerOutput (hm : m ∈ types.modules) :
    (g.headerOutput dirs types snapshot m).fileName = ModuleHeader.fileOf m.name :=
  Output.fileName_join _ (isFileName_header (noSlash_of_mem_modules hstems hm)) _

theorem fileName_sourceOutput (hm : m ∈ types.modules) :
    (g.sourceOutput dirs types m).fileName = g.sourceFile m.name :=
  Output.fileName_join _ (isFileName_source husual (noSlash_of_mem_modules hstems hm)) _

omit hstems in
theorem fileName_runtimeOutput : (g.runtimeOutput dirs).fileName = g.options.runtimeHeader :=
  Output.fileName_join _ (isFileName_runtime husual) _

omit hstems in
theorem fileName_manifestOutput (manifest : Manifest) :
    (g.manifestOutput dirs manifest).fileName = g.options.manifestFile :=
  Output.fileName_join _ (isFileName_manifest husual) _

/-- What the name of a file of a run says about it. -/
theorem fileName_cases {o : Output} (ho : o ∈ (g.planIn dirs types snapshot).outputs) :
    (∃ m ∈ types.modules, g.HasHeader types m ∧ (o.fileName = ModuleHeader.fileOf m.name ∨
      g.definitions types m ≠ [] ∧ o.fileName = g.sourceFile m.name)) ∨
      o.fileName = g.options.runtimeHeader ∨ o.fileName = g.options.manifestFile := by
  rcases mem_outputs.1 ho with ⟨m, hm, hh, rfl | ⟨hd, rfl⟩⟩ | rfl | rfl
  · exact .inl ⟨m, hm, hh, .inl (fileName_headerOutput hstems hm)⟩
  · exact .inl ⟨m, hm, hh, .inr ⟨hd, fileName_sourceOutput husual hstems hm⟩⟩
  · exact .inr (.inl (fileName_runtimeOutput husual))
  · exact .inr (.inr (fileName_manifestOutput husual _))

/-- The names of the files that a module adds to a run. -/
theorem fileNames_modulePart (hm : m ∈ types.modules) :
    (g.modulePart dirs types snapshot (g.built types) m).outputs.map Output.fileName =
      if g.HasHeader types m then
        ModuleHeader.fileOf m.name ::
          if g.definitions types m = [] then [] else [g.sourceFile m.name]
      else [] := by
  rw [outputs_modulePart]
  split
  · split <;> simp [fileName_headerOutput hstems hm, fileName_sourceOutput husual hstems hm]
  · rfl

theorem mem_fileNames_modulePart (hm : m ∈ types.modules) {name : String}
    (h : name ∈ (g.modulePart dirs types snapshot (g.built types) m).outputs.map Output.fileName) :
    g.isReserved m.name = false ∧ (name = ModuleHeader.fileOf m.name ∨ name = g.sourceFile m.name) := by
  rw [fileNames_modulePart husual hstems hm] at h
  split at h
  · rename_i hh
    refine ⟨hh.1, ?_⟩
    split at h <;> simp_all
  · cases h

/-- No two files of a run have the same name. -/
theorem fileNames_nodup : ((g.planIn dirs types snapshot).outputs.map Output.fileName).Nodup := by
  rw [outputs_planIn, List.map_append, List.map_flatMap, List.nodup_append]
  refine ⟨List.nodup_flatMap.2 ⟨?_, ?_⟩, ?_, ?_⟩
  · intro m hm
    have hne := source_ne husual m.name (.inl (header_ends m.name))
    rw [fileNames_modulePart husual hstems hm]
    split
    · split <;> simp [hne.symm]
    · exact .nil
  · refine (List.pairwise_map.1 TypeMap.modules_names_nodup).imp_of_mem ?_
    intro m m' hm hm' hne name h h'
    obtain ⟨-, h⟩ := mem_fileNames_modulePart husual hstems hm h
    obtain ⟨-, h'⟩ := mem_fileNames_modulePart husual hstems hm' h'
    have hmodules : m ≠ m' := fun e => hne (congrArg Module.name e)
    rcases h with rfl | rfl <;> rcases h' with h' | h'
    · exact hmodules (eq_of_name_append hm hm' h')
    · exact source_ne husual m'.name (.inl (header_ends m.name)) h'.symm
    · exact source_ne husual m.name (.inl (header_ends m'.name)) h'
    · rw [sourceFile_eq, sourceFile_eq] at h'
      exact hmodules (eq_of_name_append hm hm' h')
  · simp [fileName_runtimeOutput husual, fileName_manifestOutput husual, runtime_ne_manifest husual]
  · intro name hname last hlast
    obtain ⟨m, hm, hname⟩ := List.mem_flatMap.1 hname
    obtain ⟨hr, hname⟩ := mem_fileNames_modulePart husual hstems hm hname
    simp only [List.map_cons, List.map_nil, fileName_runtimeOutput husual,
      fileName_manifestOutput husual, List.mem_pair] at hlast
    rcases hname with rfl | rfl <;> rcases hlast with rfl | rfl
    · exact (header_ne_last hr).1
    · exact (header_ne_last hr).2
    · exact source_ne husual m.name (.inl (runtime_ends husual))
    · exact source_ne husual m.name (.inr (manifest_ends husual))

/-- The path of a header leads to a file of the run only if it is the module's own. -/
theorem headerPath_mem (hm : m ∈ types.modules) (hr : g.isReserved m.name = false) :
    headerPath dirs m ∈ (g.planIn dirs types snapshot).outputs.map (·.path) ↔ g.HasHeader types m := by
  rw [List.mem_map]
  constructor
  · rintro ⟨o, ho, hpath⟩
    have hname : o.fileName = ModuleHeader.fileOf m.name := by
      rw [Output.fileName, hpath]
      exact Output.fileName_join _ (isFileName_header (noSlash_of_mem_modules hstems hm)) o.text
    rcases fileName_cases husual hstems ho with ⟨m', hm', hh, h | ⟨-, h⟩⟩ | h | h <;> rw [hname] at h
    · exact eq_of_name_append hm hm' h ▸ hh
    · exact absurd h.symm (source_ne husual m'.name (.inl (header_ends m.name)))
    · exact absurd h (header_ne_last hr).1
    · exact absurd h (header_ne_last hr).2
  · intro hh
    exact ⟨_, headerOutput_mem hm hh, rfl⟩

/-- The path of a source leads to a file of the run only if it is the module's own. -/
theorem sourcePath_mem (hm : m ∈ types.modules) :
    g.sourcePath dirs m ∈ (g.planIn dirs types snapshot).outputs.map (·.path) ↔
      g.HasHeader types m ∧ g.definitions types m ≠ [] := by
  rw [List.mem_map]
  constructor
  · rintro ⟨o, ho, hpath⟩
    have hname : o.fileName = g.sourceFile m.name := by
      rw [Output.fileName, hpath]
      exact Output.fileName_join _ (isFileName_source husual (noSlash_of_mem_modules hstems hm)) o.text
    rcases fileName_cases husual hstems ho with ⟨m', hm', hh, h | ⟨hd, h⟩⟩ | h | h <;> rw [hname] at h
    · exact absurd h (source_ne husual m.name (.inl (header_ends m'.name)))
    · rw [sourceFile_eq, sourceFile_eq] at h
      exact eq_of_name_append hm hm' h ▸ ⟨hh, hd⟩
    · exact absurd h (source_ne husual m.name (.inl (runtime_ends husual)))
    · exact absurd h (source_ne husual m.name (.inr (manifest_ends husual)))
  · rintro ⟨hh, hd⟩
    exact ⟨_, sourceOutput_mem hm hh hd, rfl⟩

end Usual

end CApi

end Bindery
