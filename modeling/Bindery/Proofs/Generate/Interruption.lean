import Bindery.Proofs.Generate.Rerun
/-!
Runs that fail. The files of a run are written in a fixed order. When one of them cannot be written,
those in front of it were carried out as a plan of their own, and neither the file nor any behind it
was touched. The manifest is the last file of all, so it is brought up to date only when all that it
describes is there. When a directory cannot be made, no file is written at all.
-/

namespace Bindery

namespace Plan

/-- What it means that writing stopped after the files `done` of a plan and before the files `rest`. -/
structure Stopped (done rest : List Output) (files files' : FileStore) : Prop where
  /-- The files in front hold their texts. -/
  written : ∀ o ∈ done, ∃ place, files'.target o.path = .file place o.text
  /-- A file of the rest that there was is there with its text. -/
  kept : ∀ o ∈ rest, ∀ text, files.read? o.path = some text → files'.read? o.path = some text
  /-- Where the path of a file of the rest leads to one, there was that file already. -/
  untouched : ∀ o ∈ rest, ∀ place text,
    files'.target o.path = .file place text → files.textAt? place = some text
  /-- No other file has changed, and no other file is new. -/
  others : ∀ place, (∀ o ∈ done, files'.target o.path ≠ .file place o.text) →
    files'.textAt? place = files.textAt? place
  directories : files.KeepsDirectories files'

variable {p : Plan} {files files' : FileStore} {report : Report} {done rest : List Output}

theorem execute_eq_error {e : GenerationError} (h : p.execute files = (.error e, files')) :
    (∃ path, e = .createDir path) ∨ ∃ path, e = .writeFile path := by
  rw [execute_eq] at h
  split at h
  · rename_i hmake
    cases h
    obtain ⟨path, -, he⟩ := makeDirectories_eq_error hmake
    exact .inl ⟨path, he⟩
  · obtain ⟨_, failed, _, _, -, he, -⟩ := writeOutputs_eq_error h
    exact .inr ⟨failed.path, he⟩

/-- A plan that could not be carried out because of a file was carried out up to it. -/
theorem execute_eq_writeFile {path : Path}
    (h : p.execute files = (.error (.writeFile path), files')) :
    ∃ done failed rest report, p.outputs = done ++ failed :: rest ∧ failed.path = path ∧
      ({ p with outputs := done } : Plan).execute files = (.ok report, files') := by
  rw [execute_eq] at h
  split at h
  · rename_i e s hmake
    cases h
    obtain ⟨_, -, he⟩ := makeDirectories_eq_error hmake
    cases he
  · rename_i s hmake
    obtain ⟨done, failed, rest, report, houtputs, he, hdone⟩ := writeOutputs_eq_error h
    cases he
    refine ⟨done, failed, rest, report, houtputs, rfl, ?_⟩
    rw [execute_eq, hmake]
    exact hdone

/-- A plan that could not be carried out because of a directory changed no file. -/
theorem execute_eq_createDir {path : Path}
    (h : p.execute files = (.error (.createDir path), files')) :
    path ∈ p.directories ∧ files.AddsDirectories files' := by
  have hadds := addsDirectories_makeDirectories p.directories files
  rw [execute_eq] at h
  split at h
  · rename_i e s hmake
    rw [hmake] at hadds
    cases h
    obtain ⟨_, hpath, he⟩ := makeDirectories_eq_error hmake
    cases he
    exact ⟨hpath, hadds⟩
  · obtain ⟨_, _, _, _, -, he, -⟩ := writeOutputs_eq_error h
    cases he

/-- The first directory that cannot be made is reported. -/
theorem execute_of_unmade {before after : List Path} {path : Path} {s : FileStore}
    (hdirectories : p.directories = before ++ path :: after)
    (hbefore : makeDirectories files before = (.ok (), s)) (h : (s.makeDirectory path).1 = false) :
    ∃ files', p.execute files = (.error (.createDir path), files') := by
  rcases hpath : s.makeDirectory path with ⟨made, s'⟩
  rw [hpath] at h
  obtain rfl : made = false := h
  refine ⟨s', ?_⟩
  rw [execute_eq, hdirectories, makeDirectories_of_unmade hbefore hpath]

/-- A plan leaves a file of another name alone, also when it cannot be carried out. -/
theorem read?_execute {d : Path} {name text : String} (hname : IsFileName name)
    (hplaced : ∀ o ∈ p.outputs, o.IsPlaced) (hfresh : name ∉ p.outputs.map Output.fileName)
    (hread : files.read? (d.join name) = some text) :
    (p.execute files).2.read? (d.join name) = some text := by
  have hadds := addsDirectories_makeDirectories p.directories files
  rw [execute_eq]
  split
  · rename_i hmake
    rw [hmake] at hadds
    exact hadds.read?_join hname hread
  · rename_i hmake
    rw [hmake] at hadds
    rw [read?_writeOutputs_snd hname _ _ _ hplaced hfresh]
    exact hadds.read?_join hname hread

/-- If the files `done` are carried out as a plan of their own, files with other names are untouched. -/
theorem stopped (hplaced : ∀ o ∈ done ++ rest, o.IsPlaced)
    (hnodup : ((done ++ rest).map Output.fileName).Nodup)
    (h : ({ p with outputs := done } : Plan).execute files = (.ok report, files')) :
    Stopped done rest files files' := by
  rw [List.map_append, List.nodup_append] at hnodup
  obtain ⟨hnodup, -, hapart⟩ := hnodup
  have hplacedDone : ∀ o ∈ done, o.IsPlaced := fun o ho => hplaced o (List.mem_append_left _ ho)
  have hcarried := carriedOut (p := { p with outputs := done }) hplacedDone hnodup h
  -- The last name of a place tells whether a file of the rest or one in front is there.
  have hrest : ∀ o ∈ rest, ∀ (s : FileStore) (d : Path) (place : Place), o.path = d.join o.fileName →
      s.slot? d o.fileName = some place → files'.textAt? place = files.textAt? place := by
    intro o ho s d place hpath hslot
    refine hcarried.others place fun o' ho' htarget => ?_
    obtain ⟨parent, rfl⟩ := FileStore.slot?_eq_some hslot
    have hlast := getLast?_of_target (hplacedDone o' ho') htarget
    rw [List.getLast?_concat] at hlast
    exact hapart _ (List.mem_map_of_mem ho') _ (List.mem_map_of_mem ho) (Option.some.inj hlast).symm
  refine ⟨hcarried.contents, ?kept, ?untouched, hcarried.others, hcarried.directories⟩
  case kept =>
    intro o ho text hread
    obtain ⟨hname, d, hpath⟩ := hplaced o (List.mem_append_right _ ho)
    rw [hpath, FileStore.read?_join _ d hname] at hread ⊢
    obtain ⟨place, hslot, htext⟩ := Option.bind_eq_some_iff.1 hread
    rw [hcarried.directories.slot? hslot, Option.bind_some,
      hrest o ho files d place hpath hslot, htext]
  case untouched =>
    intro o ho place text htarget
    obtain ⟨hname, d, hpath⟩ := hplaced o (List.mem_append_right _ ho)
    rw [hpath] at htarget
    have hslot := FileStore.slot?_of_target hname htarget
    rw [← hrest o ho files' d place hpath hslot, FileStore.textAt?_of_target hname htarget]

end Plan

namespace CApi

variable {g : CApi} {dirs : OutputDirs} {types snapshot : TypeMap} {files files' : FileStore}

theorem modules_ascending : (types.modules.map (·.name)).Pairwise (· < ·) := by
  rw [TypeMap.names_modules]
  exact TypeMap.moduleNames_ascending

/-- A type of the manifest that a run writes has its header among the files of the run. -/
theorem header_of_type {b : TypeBinding} (hb : b ∈ (g.finalManifest dirs types snapshot).types) :
    ∃ m ∈ types.modules, m.name = b.module ∧ g.HasHeader types m := by
  obtain ⟨hr, b', hb', hmodule⟩ := exists_type_finalManifest.1 ⟨b, hb, rfl⟩
  obtain ⟨t, ht, -, htmodule⟩ := source_of_built hb'
  obtain ⟨m, hm, hname⟩ := TypeMap.exists_module ht
  have e : m.name = b.module := by rw [hname, htmodule, hmodule]
  exact ⟨m, hm, e, by rwa [e], (isListed_iff hm).2 ⟨b', hb', hmodule.trans e.symm⟩⟩

/-- A function of the manifest that a run writes has its header and its source among the files of the
run. -/
theorem source_of_function {f : FunctionBinding}
    (hf : f ∈ (g.finalManifest dirs types snapshot).functions) :
    ∃ m ∈ types.modules, m.name = f.module ∧ g.HasHeader types m ∧ g.definitions types m ≠ [] := by
  have hbuilt := (List.mem_filter.1 (functions_finalManifest ▸ hf)).1
  obtain ⟨m, hm, hmodule⟩ := exists_module_of_built hbuilt
  have hne : (g.finalManifest dirs types snapshot).functionsOf m.name ≠ [] :=
    List.ne_nil_of_mem (mem_functionsOf.2 ⟨hf, hmodule.symm⟩)
  exact ⟨m, hm, hmodule, (functionsOf_ne_nil_iff hm).1 hne⟩

/-- Wherever a run stops, the manifest is not written. -/
theorem manifestOutput_mem_rest {done rest : List Output} {failed : Output}
    (h : (g.planIn dirs types snapshot).outputs = done ++ failed :: rest) :
    g.manifestOutput dirs (g.finalManifest dirs types snapshot) ∈ failed :: rest := by
  have hlast := congrArg List.getLast? h
  rw [outputs_planIn, List.getLast?_append_of_ne_nil _ (by simp),
    List.getLast?_append_of_ne_nil _ (by simp)] at hlast
  exact List.mem_of_getLast? hlast.symm

section Failing

variable (husual : g.options.Usual) (hstems : ∀ t ∈ types.entries, '/' ∉ t.module.toList)
  (hdirs : g.dirs? = some dirs)
include husual hstems hdirs

/-- A run that stops at a file has carried out the files in front of it and nothing else. -/
theorem stopped_of_writeFile {path : Path}
    (h : g.generate types snapshot files = (.error (.writeFile path), files')) :
    ∃ done failed rest, (g.planIn dirs types snapshot).outputs = done ++ failed :: rest ∧
      failed.path = path ∧ Plan.Stopped done (failed :: rest) files files' := by
  rw [generate_eq_execute hdirs] at h
  obtain ⟨done, failed, rest, report, houtputs, hpath, hdone⟩ := Plan.execute_eq_writeFile h
  have hplaced : ∀ o ∈ (g.planIn dirs types snapshot).outputs, o.IsPlaced :=
    isPlaced_of_mem_outputs husual hstems
  have hnodup : ((g.planIn dirs types snapshot).outputs.map Output.fileName).Nodup :=
    fileNames_nodup husual hstems
  rw [houtputs] at hplaced hnodup
  exact ⟨done, failed, rest, houtputs, hpath, Plan.stopped hplaced hnodup hdone⟩

/-- A run that fails leaves the manifest as it was. -/
theorem manifest_of_error {e : GenerationError} {place : Place} {text : String}
    (h : g.generate types snapshot files = (.error e, files'))
    (htarget : files'.target (dirs.header.join g.options.manifestFile) = .file place text) :
    files.textAt? place = some text := by
  rcases Plan.execute_eq_error (generate_eq_execute hdirs types snapshot files ▸ h) with
    ⟨path, rfl⟩ | ⟨path, rfl⟩
  · obtain ⟨-, hadds⟩ :=
      Plan.execute_eq_createDir (generate_eq_execute hdirs types snapshot files ▸ h)
    rw [← hadds.textAt?_eq, FileStore.textAt?_of_target (isFileName_manifest husual) htarget]
  · obtain ⟨done, failed, rest, houtputs, -, hstopped⟩ := stopped_of_writeFile husual hstems hdirs h
    exact hstopped.untouched _ (manifestOutput_mem_rest houtputs) place text htarget

end Failing

/-- What a run leaves behind when it fails. -/
structure FailsCleanly (g : CApi) (dirs : OutputDirs) (types snapshot : TypeMap)
    (files : FileStore) : Prop where
  /-- The modules come in ascending order. -/
  ascending : (types.modules.map (·.name)).Pairwise (· < ·)
  /-- The files are, for each module that is not skipped, its header and its source if it has bodies,
  and then the runtime header and the manifest. -/
  sequence : (g.planIn dirs types snapshot).outputs =
    types.modules.flatMap (fun m =>
      if g.HasHeader types m then
        g.headerOutput dirs types snapshot m ::
          if g.definitions types m = [] then [] else [g.sourceOutput dirs types m]
      else []) ++
    [g.runtimeOutput dirs, g.manifestOutput dirs (g.finalManifest dirs types snapshot)]
  /-- A file that cannot be written stops the run in front of it. -/
  stops : ∀ path files', g.generate types snapshot files = (.error (.writeFile path), files') →
    ∃ done failed rest, (g.planIn dirs types snapshot).outputs = done ++ failed :: rest ∧
      failed.path = path ∧ Plan.Stopped done (failed :: rest) files files'
  /-- If there is no directory for headers or for sources, the run says so. -/
  headers : (files.makeDirectory dirs.header).1 = false →
    ∃ files', g.generate types snapshot files = (.error (.createDir dirs.header), files')
  sources : ∀ s, files.makeDirectory dirs.header = (true, s) →
    (s.makeDirectory dirs.source).1 = false →
      ∃ files', g.generate types snapshot files = (.error (.createDir dirs.source), files')
  /-- A run that says so has made directories at most. -/
  directories : ∀ path files', g.generate types snapshot files = (.error (.createDir path), files') →
    (path = dirs.header ∨ path = dirs.source) ∧ files.AddsDirectories files'
  /-- If the manifest is new or has changed, the run has completed and all its files are there. -/
  manifest : ∀ outcome files' place text, g.generate types snapshot files = (outcome, files') →
    files'.target (dirs.header.join g.options.manifestFile) = .file place text →
      files.textAt? place ≠ some text →
        (∃ report, outcome = .ok report) ∧
          ∀ o ∈ (g.planIn dirs types snapshot).outputs, files'.read? o.path = some o.text
  /-- Among them are the headers of the types and the headers and sources of the functions that the
  manifest lists. -/
  describes_types : ∀ b ∈ (g.finalManifest dirs types snapshot).types,
    ∃ m ∈ types.modules, m.name = b.module ∧
      g.headerOutput dirs types snapshot m ∈ (g.planIn dirs types snapshot).outputs
  describes_functions : ∀ f ∈ (g.finalManifest dirs types snapshot).functions,
    ∃ m ∈ types.modules, m.name = f.module ∧
      g.headerOutput dirs types snapshot m ∈ (g.planIn dirs types snapshot).outputs ∧
      g.sourceOutput dirs types m ∈ (g.planIn dirs types snapshot).outputs

/-- A run that fails leaves a prefix of its files behind, each of them complete. -/
theorem fails_cleanly (husual : g.options.Usual)
    (hstems : ∀ t ∈ types.entries, '/' ∉ t.module.toList) (hdirs : g.dirs? = some dirs)
    (snapshot : TypeMap) (files : FileStore) : FailsCleanly g dirs types snapshot files := by
  have hgenerate := generate_eq_execute hdirs types snapshot files
  constructor
  case ascending => exact modules_ascending
  case sequence =>
    rw [outputs_planIn]
    exact congrArg (· ++ _) (List.flatMap_congr fun m _ => outputs_modulePart)
  case stops =>
    intro path files' h
    exact stopped_of_writeFile husual hstems hdirs h
  case headers =>
    intro h
    rw [hgenerate]
    exact Plan.execute_of_unmade rfl (Plan.makeDirectories_nil files) h
  case sources =>
    intro s hheader h
    rw [hgenerate]
    have hbefore : Plan.makeDirectories files [dirs.header] = (.ok (), s) := by
      rw [Plan.makeDirectories_cons, hheader]
      exact Plan.makeDirectories_nil s
    exact Plan.execute_of_unmade rfl hbefore h
  case directories =>
    intro path files' h
    obtain ⟨hpath, hadds⟩ := Plan.execute_eq_createDir (hgenerate ▸ h)
    exact ⟨by simpa [planIn] using hpath, hadds⟩
  case manifest =>
    intro outcome files' place text h htarget hnew
    cases outcome with
    | ok report =>
      exact ⟨⟨report, rfl⟩, Plan.read?_of_execute (isPlaced_of_mem_outputs husual hstems)
        (fileNames_nodup husual hstems) (hgenerate ▸ h)⟩
    | error e => exact absurd (manifest_of_error husual hstems hdirs h htarget) hnew
  case describes_types =>
    intro b hb
    obtain ⟨m, hm, hname, hh⟩ := header_of_type hb
    exact ⟨m, hm, hname, headerOutput_mem hm hh⟩
  case describes_functions =>
    intro f hf
    obtain ⟨m, hm, hname, hh, hd⟩ := source_of_function hf
    exact ⟨m, hm, hname, headerOutput_mem hm hh, sourceOutput_mem hm hh hd⟩

/-- A machine with a manifest that is out of date, and with room for one more directory and one more
file. -/
def fullMachine : FileStore :=
  let files := ((workplace.set ["tmp"] .directory).set ["tmp", "include"] .directory).set
    ["tmp", "include", "bindings_manifest.json"] (.file "old")
  { files with machine := { files.machine with refuses := fun nodes _ _ => 6 ≤ nodes.length } }

theorem fails_cleanly_widget :
    ∃ files' done failed rest,
      ({ dirs? := some widgetDirs } : CApi).generate widget widget fullMachine =
        (.error (.writeFile (.ofText "../src/widget.c")), files') ∧
      (({ dirs? := some widgetDirs } : CApi).planIn widgetDirs widget widget).outputs =
        done ++ failed :: rest ∧
      failed.path = .ofText "../src/widget.c" ∧
      Plan.Stopped done (failed :: rest) fullMachine files' ∧
      files'.read? (.ofText "/tmp/include/bindings_manifest.json") = some "old" := by
  have hfails :
      (({ dirs? := some widgetDirs } : CApi).generate widget widget fullMachine).1 =
        .error (.writeFile (.ofText "../src/widget.c")) := by decide +kernel
  rcases hrun : ({ dirs? := some widgetDirs } : CApi).generate widget widget fullMachine with
    ⟨outcome, files'⟩
  rw [hrun] at hfails
  cases hfails
  obtain ⟨done, failed, rest, houtputs, hpath, hstopped⟩ :=
    (fails_cleanly Options.usual_default (by decide) rfl widget fullMachine).stops _ files' hrun
  have hpathManifest : widgetDirs.header.join "bindings_manifest.json" =
      .ofText "/tmp/include/bindings_manifest.json" := by decide
  have hold : fullMachine.read? (widgetDirs.header.join "bindings_manifest.json") =
      some "old" := by decide
  exact ⟨files', done, failed, rest, rfl, houtputs, hpath, hstopped,
    hpathManifest ▸ hstopped.kept _ (manifestOutput_mem_rest houtputs) "old" hold⟩

end CApi

end Bindery
