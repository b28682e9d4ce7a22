import Bindery.Proofs.Files.Directories
import Bindery.Proofs.Generate.Agreement
/-!
Running again. A run writes exactly the files that did not hold their texts at the places its paths
lead to once the directories are there, and changes no other file. So what is there afterwards does not
depend on what was there before, and a second run finds every directory and every text and changes
nothing.
-/

namespace Bindery

/-- What it means that a plan was carried out in `files`, which led to `files'` and to a report. -/
structure Plan.CarriedOut (p : Plan) (files files' : FileStore) (report : Report) : Prop where
  /-- Each file of the plan holds its text. -/
  contents : ∀ o ∈ p.outputs, ∃ place, files'.target o.path = .file place o.text
  /-- No two files of the plan are at one place. -/
  apart : ∀ o ∈ p.outputs, ∀ o' ∈ p.outputs, ∀ place,
    files'.target o.path = .file place o.text → files'.target o'.path = .file place o'.text → o = o'
  /-- The files of the report are those of the plan, each of them once. -/
  files_perm : report.files.Perm (p.outputs.map (·.path))
  files_nodup : report.files.Nodup
  /-- A file was written if there was none at its place or one with another text. -/
  written : ∀ o ∈ p.outputs, ∀ place, files'.target o.path = .file place o.text →
    (o.path ∈ report.written ↔ files.textAt? place ≠ some o.text)
  unchanged : ∀ o ∈ p.outputs, ∀ place, files'.target o.path = .file place o.text →
    (o.path ∈ report.unchanged ↔ files.textAt? place = some o.text)
  /-- Where the path of a file led to one before, that was the file at its place. -/
  before : ∀ o ∈ p.outputs, ∀ place text, files'.target o.path = .file place o.text →
    files.read? o.path = some text → files.textAt? place = some text
  /-- No other file has changed, and no other file is new. -/
  others : ∀ place, (∀ o ∈ p.outputs, files'.target o.path ≠ .file place o.text) →
    files'.textAt? place = files.textAt? place
  directories : files.KeepsDirectories files'
  errors : report.errors = p.errors

namespace Plan

variable {p : Plan} {files files' : FileStore} {report : Report} {o : Output} {place : Place}

theorem paths_nodup (h : (p.outputs.map Output.fileName).Nodup) :
    (p.outputs.map (·.path)).Nodup := by
  have hmap : p.outputs.map Output.fileName =
      (p.outputs.map (·.path)).map fun path => path.segments.getLast?.getD "" := by
    rw [List.map_map]
    rfl
  rw [hmap] at h
  exact h.of_map _

theorem path_mem_filter (hpaths : (p.outputs.map (·.path)).Nodup) (ho : o ∈ p.outputs)
    {keep : Output → Bool} :
    o.path ∈ (p.outputs.filter keep).map (·.path) ↔ keep o = true := by
  rw [List.mem_map]
  constructor
  · rintro ⟨o', ho', hpath⟩
    obtain ⟨hmem, hkeep⟩ := List.mem_filter.1 ho'
    rwa [← List.inj_on_of_nodup_map hpaths hmem ho hpath]
  · intro hkeep
    exact ⟨o, List.mem_filter.2 ⟨ho, hkeep⟩, rfl⟩

/-- The name of a file is the last name of its place. -/
theorem getLast?_of_target {s : FileStore} (ho : o.IsPlaced)
    (h : s.target o.path = .file place o.text) : place.getLast? = some o.fileName := by
  obtain ⟨hname, d, hpath⟩ := ho
  obtain ⟨parent, rfl⟩ := FileStore.slot?_eq_some (FileStore.slot?_of_target hname (hpath ▸ h))
  exact List.getLast?_concat

/-- What carrying out a plan whose files have different names comes to. -/
theorem carriedOut (hplaced : ∀ o ∈ p.outputs, o.IsPlaced)
    (hnodup : (p.outputs.map Output.fileName).Nodup) (h : p.execute files = (.ok report, files')) :
    p.CarriedOut files files' report := by
  obtain ⟨s, hmake, hw⟩ := execute_ok h
  obtain ⟨herrors, hperm⟩ := report_of_execute h
  obtain ⟨hwritten, hunchanged⟩ := written_writeOutputs hplaced hnodup hw
  have hadds := makeDirectories_adds hmake
  have hdirs := sameDirectories_writeOutputs hplaced hw
  have hkeeps := hadds.toKeepsDirectories.trans hdirs.keeps
  have hreads := read?_of_writeOutputs hplaced hnodup hw
  have hpaths := paths_nodup hnodup
  -- The slots are those of the store with the directories, in which no file has changed yet.
  have hbefore : ∀ o ∈ p.outputs, ∀ place, files'.target o.path = .file place o.text →
      s.read? o.path = files.textAt? place := by
    intro o ho place htarget
    obtain ⟨hname, d, hpath⟩ := hplaced o ho
    have hslot := FileStore.slot?_of_target hname (hpath ▸ htarget)
    rw [hdirs.slot?_eq] at hslot
    rw [hpath, FileStore.read?_join s d hname, hslot]
    exact hadds.textAt?_eq place
  constructor
  case contents =>
    intro o ho
    obtain ⟨hname, d, hpath⟩ := hplaced o ho
    obtain ⟨place, -, htarget⟩ := FileStore.target_of_read? hname (hpath ▸ hreads o ho)
    exact ⟨place, hpath ▸ htarget⟩
  case apart =>
    intro o ho o' ho' place h h'
    have hlast := getLast?_of_target (hplaced o ho) h
    rw [getLast?_of_target (hplaced o' ho') h'] at hlast
    exact List.inj_on_of_nodup_map hnodup ho ho' (Option.some.inj hlast).symm
  case files_perm => exact hperm
  case files_nodup => exact hperm.nodup_iff.2 hpaths
  case written =>
    intro o ho place htarget
    rw [hwritten, ← hbefore o ho place htarget, List.nil_append, path_mem_filter hpaths ho]
    exact decide_eq_true_iff
  case unchanged =>
    intro o ho place htarget
    rw [hunchanged, ← hbefore o ho place htarget, List.nil_append, path_mem_filter hpaths ho]
    exact decide_eq_true_iff
  case before =>
    intro o ho place text htarget hread
    obtain ⟨hname, d, hpath⟩ := hplaced o ho
    rw [hpath, FileStore.read?_join files d hname, Option.bind_eq_some_iff] at hread
    obtain ⟨slot, hslot, htext⟩ := hread
    have hslot' := FileStore.slot?_of_target hname (hpath ▸ htarget)
    rw [hkeeps.slot? hslot] at hslot'
    cases hslot'
    exact htext
  case others =>
    intro place hother
    have hslots : ∀ o ∈ p.outputs, ∀ d : Path, o.path = d.join o.fileName →
        s.slot? d o.fileName ≠ some place := by
      intro o ho d hpath hslot
      obtain ⟨hname, -⟩ := hplaced o ho
      obtain ⟨slot, hslot', htarget⟩ := FileStore.target_of_read? hname (hpath ▸ hreads o ho)
      rw [hdirs.slot?_eq, hslot] at hslot'
      cases hslot'
      exact hother o ho (hpath ▸ htarget)
    rw [← hadds.textAt?_eq, FileStore.textAt?, FileStore.textAt?, get?_writeOutputs hplaced hslots hw]
  case directories => exact hkeeps
  case errors => exact herrors

/-- A plan for one file leaves a file alone that there was, unless its path leads to the same place. -/
theorem read?_execute_single {o' : Output} (hp : p.outputs = [o']) (ho' : o'.IsPlaced)
    (h : p.execute files = (.ok report, files')) (ho : o.IsPlaced)
    (hread : files.read? o.path = some o.text) :
    files'.read? o.path =
      if files'.target o.path = files'.target o'.path then some o'.text else some o.text := by
  obtain ⟨s₁, hmake, hw⟩ := execute_ok h
  rw [hp] at hw
  obtain ⟨outcome, s₂, hw, hok, hnil⟩ := writeOutputs_cons hw
  cases hnil
  obtain ⟨hname, d, hpath⟩ := ho
  obtain ⟨hname', d', hpath'⟩ := ho'
  rw [hpath] at hread ⊢
  rw [hpath'] at hw ⊢
  exact FileStore.read?_write_join hname' hname hw hok ((makeDirectories_adds hmake).read?_join hname hread)

/-- Carried out where the directories of an earlier time are still there, a plan writes nothing if and
only if all its files hold their texts already. -/
theorem execute_idle_iff {files₁ : FileStore} (hplaced : ∀ o ∈ p.outputs, o.IsPlaced)
    (hnodup : (p.outputs.map Output.fileName).Nodup) (h : p.execute files = (.ok report, files'))
    (hkeeps : files'.KeepsDirectories files₁) :
    (∃ report₁ files₂, p.execute files₁ = (.ok report₁, files₂) ∧ report₁.written = []) ↔
      ∀ o ∈ p.outputs, files₁.read? o.path = some o.text := by
  obtain ⟨s, hmake, hw⟩ := execute_ok h
  have hmake₁ := makeDirectories_again hmake
    ((sameDirectories_writeOutputs hplaced hw).keeps.trans hkeeps)
  rw [execute_eq, hmake₁]
  dsimp only
  constructor
  · rintro ⟨report₁, files₂, hw₁, hidle⟩ o ho
    have hwritten := (written_writeOutputs hplaced hnodup hw₁).1
    rw [hidle, List.nil_append, eq_comm, List.map_eq_nil_iff, List.filter_eq_nil_iff] at hwritten
    simpa using hwritten o ho
  · intro hreads
    exact ⟨_, _, writeOutputs_again _ hreads, rfl⟩

/-- Where its directories are still there and its files hold their texts, a plan that was carried out
can be carried out again, and then nothing is left to do. -/
theorem execute_kept {files₁ : FileStore} (hplaced : ∀ o ∈ p.outputs, o.IsPlaced)
    (h : p.execute files = (.ok report, files')) (hkeeps : files'.KeepsDirectories files₁)
    (hreads : ∀ o ∈ p.outputs, files₁.read? o.path = some o.text) :
    p.execute files₁ =
      (.ok { report with written := [], unchanged := p.outputs.map (·.path) }, files₁) := by
  obtain ⟨s, hmake, hw⟩ := execute_ok h
  obtain ⟨hgenerator, herrors, -⟩ := writeOutputs_report hw
  rw [execute_eq,
    makeDirectories_again hmake ((sameDirectories_writeOutputs hplaced hw).keeps.trans hkeeps)]
  dsimp only
  rw [writeOutputs_again _ hreads, hgenerator, herrors]
  rfl

/-- So it can right after it was carried out. -/
theorem execute_again (hplaced : ∀ o ∈ p.outputs, o.IsPlaced)
    (hnodup : (p.outputs.map Output.fileName).Nodup) (h : p.execute files = (.ok report, files')) :
    p.execute files' =
      (.ok { report with written := [], unchanged := p.outputs.map (·.path) }, files') :=
  execute_kept hplaced h ⟨rfl, fun _ h => h⟩ (read?_of_execute hplaced hnodup h)

end Plan

namespace CApi

variable {g : CApi} {dirs dirs₁ : OutputDirs} {types snapshot : TypeMap}

/-! ### Where files go -/

theorem planIn_withDirs (dirs₁ : OutputDirs) :
    ({ g with dirs? := some dirs₁ } : CApi).planIn dirs types snapshot =
      g.planIn dirs types snapshot := rfl

/-- What a module reports and what it drops do not depend on where files go. -/
theorem modulePart_dirs (dirs dirs₁ : OutputDirs) (manifest : Manifest) (m : Module) :
    (g.modulePart dirs₁ types snapshot manifest m).errors =
        (g.modulePart dirs types snapshot manifest m).errors ∧
      (g.modulePart dirs₁ types snapshot manifest m).dropped =
        (g.modulePart dirs types snapshot manifest m).dropped := by
  simp only [modulePart]
  split
  · exact ⟨rfl, rfl⟩
  · split <;> exact ⟨rfl, rfl⟩

theorem errors_dirs (dirs dirs₁ : OutputDirs) :
    (g.planIn dirs₁ types snapshot).errors = (g.planIn dirs types snapshot).errors := by
  simp only [planIn, moduleParts, List.flatMap_map]
  rw [List.flatMap_congr fun m _ => (modulePart_dirs dirs dirs₁ _ m).1]

theorem finalManifest_dirs (dirs dirs₁ : OutputDirs) :
    g.finalManifest dirs₁ types snapshot = g.finalManifest dirs types snapshot := by
  simp only [finalManifest, moduleParts, List.flatMap_map]
  rw [List.flatMap_congr fun m _ => (modulePart_dirs dirs dirs₁ _ m).2]

/-- The names and the texts of the files of a run do not depend on where they go. -/
theorem outputs_dirs (husual : g.options.Usual)
    (hstems : ∀ t ∈ types.entries, '/' ∉ t.module.toList) (dirs dirs₁ : OutputDirs) :
    (g.planIn dirs₁ types snapshot).outputs.map (fun o => (o.fileName, o.text)) =
      (g.planIn dirs types snapshot).outputs.map fun o => (o.fileName, o.text) := by
  have hmodules : ∀ m ∈ types.modules,
      (g.modulePart dirs₁ types snapshot (g.built types) m).outputs.map (fun o => (o.fileName, o.text)) =
        (g.modulePart dirs types snapshot (g.built types) m).outputs.map
          fun o => (o.fileName, o.text) := by
    intro m hm
    rw [outputs_modulePart, outputs_modulePart]
    split
    · split
      · simp only [List.map_cons, List.map_nil, fileName_headerOutput hstems hm]
        rfl
      · simp only [List.map_cons, List.map_nil, fileName_headerOutput hstems hm,
          fileName_sourceOutput husual hstems hm]
        rfl
    · rfl
  rw [outputs_planIn, outputs_planIn, List.map_append, List.map_append, List.map_flatMap,
    List.map_flatMap, List.flatMap_congr hmodules, finalManifest_dirs dirs dirs₁]
  simp only [List.map_cons, List.map_nil, fileName_runtimeOutput husual,
    fileName_manifestOutput husual]
  rfl

/-! ### The whole run -/

/-- What a run of the generator in `files` comes to, which led to `files'` and to a report. -/
structure Reproducible (g : CApi) (dirs : OutputDirs) (types snapshot : TypeMap)
    (files files' : FileStore) (report : Report) : Prop
    extends (g.planIn dirs types snapshot).CarriedOut files files' report where
  runtime : files'.read? (dirs.header.join g.options.runtimeHeader) =
    some (Header.runtimeText g.options.runtimeHeader)
  manifest : files'.read? (dirs.header.join g.options.manifestFile) =
    some ((g.finalManifest dirs types snapshot).render g.options.manifestIndent ++ "\n")
  /-- Whatever files were there before, and wherever headers and sources go, the files of the run have
  the same names and texts and the errors are the same. -/
  determined : ∀ (dirs₁ : OutputDirs) (other other' : FileStore) (report₁ : Report),
    ({ g with dirs? := some dirs₁ } : CApi).generate types snapshot other = (.ok report₁, other') →
      (g.planIn dirs₁ types snapshot).outputs.map (fun o => (o.fileName, o.text)) =
        (g.planIn dirs types snapshot).outputs.map (fun o => (o.fileName, o.text)) ∧
      (∀ o ∈ (g.planIn dirs₁ types snapshot).outputs, other'.read? o.path = some o.text) ∧
      report₁.errors = report.errors
  /-- In one place the files of the run read the same. -/
  independent : ∀ (other other' : FileStore) (report₁ : Report),
    g.generate types snapshot other = (.ok report₁, other') →
      report₁.files.Perm report.files ∧ ∀ path ∈ report.files, other'.read? path = files'.read? path
  /-- Running again changes nothing. -/
  again : ∃ report₁, g.generate types snapshot files' = (.ok report₁, files') ∧
    report₁.written = [] ∧ report₁.unchanged.Perm report.files ∧ report₁.errors = report.errors

/-- A run that completes can be reproduced. -/
theorem reproducible (husual : g.options.Usual)
    (hstems : ∀ t ∈ types.entries, '/' ∉ t.module.toList) (hdirs : g.dirs? = some dirs)
    {files files' : FileStore} {report : Report}
    (hrun : g.generate types snapshot files = (.ok report, files')) :
    Reproducible g dirs types snapshot files files' report := by
  have hplaced (dirs : OutputDirs) : ∀ o ∈ (g.planIn dirs types snapshot).outputs, o.IsPlaced :=
    isPlaced_of_mem_outputs husual hstems
  have hnodup (dirs : OutputDirs) :
      ((g.planIn dirs types snapshot).outputs.map Output.fileName).Nodup :=
    fileNames_nodup husual hstems
  have hexec := execute_of_generate hdirs hrun
  have hcarried := Plan.carriedOut (hplaced dirs) (hnodup dirs) hexec
  have hreads := Plan.read?_of_execute (hplaced dirs) (hnodup dirs) hexec
  have hruntime := hreads (g.runtimeOutput dirs) (mem_outputs.2 (.inr (.inl rfl)))
  simp only [runtimeOutput] at hruntime
  refine {
    toCarriedOut := hcarried
    runtime := hruntime
    manifest := hreads (g.manifestOutput dirs (g.finalManifest dirs types snapshot))
      manifestOutput_mem
    determined := fun dirs₁ other other' report₁ h => ?determined
    independent := fun other other' report₁ h => ?independent
    again := ?again }
  case determined =>
    have hexec₁ := execute_of_generate rfl h
    rw [planIn_withDirs] at hexec₁
    refine ⟨outputs_dirs husual hstems dirs dirs₁,
      Plan.read?_of_execute (hplaced dirs₁) (hnodup dirs₁) hexec₁, ?_⟩
    rw [(Plan.report_of_execute hexec₁).1, hcarried.errors, errors_dirs dirs dirs₁]
  case independent =>
    have hexec₁ := execute_of_generate hdirs h
    have hreads₁ := Plan.read?_of_execute (hplaced dirs) (hnodup dirs) hexec₁
    refine ⟨(Plan.report_of_execute hexec₁).2.trans hcarried.files_perm.symm, fun path hpath => ?_⟩
    obtain ⟨o, ho, rfl⟩ := List.mem_map.1 (hcarried.files_perm.mem_iff.1 hpath)
    rw [hreads₁ o ho, hreads o ho]
  case again =>
    have hagain := Plan.execute_again (hplaced dirs) (hnodup dirs) hexec
    rw [generate, plan, hdirs]
    exact ⟨_, hagain, rfl, hcarried.files_perm.symm, rfl⟩

/-- A directory with a header that is out of date and a file of someone else. -/
def usedDirectory : FileStore :=
  (((workplace.set ["tmp"] .directory).set ["tmp", "include"] .directory).set
    ["tmp", "include", "widget.h"] (.file "old")).set ["tmp", "include", "notes.txt"] (.file "keep")

theorem reproducible_widget :
    ∃ report files,
      ({ dirs? := some widgetDirs } : CApi).generate widget widget usedDirectory = (.ok report, files) ∧
      report.written.map Path.text = ["/tmp/include/widget.h", "../src/widget.c",
        "/tmp/include/dombind_runtime.h", "/tmp/include/bindings_manifest.json"] ∧
      Reproducible { dirs? := some widgetDirs } widgetDirs widget widget usedDirectory files report := by
  have hwritten :
      ((({ dirs? := some widgetDirs } : CApi).generate widget widget usedDirectory).1.toOption.map
        fun report => report.written.map Path.text) =
      some ["/tmp/include/widget.h", "../src/widget.c", "/tmp/include/dombind_runtime.h",
        "/tmp/include/bindings_manifest.json"] := by decide +kernel
  obtain ⟨report, files, hrun, hwritten⟩ := exists_report_of_map hwritten
  exact ⟨report, files, hrun, hwritten, reproducible Options.usual_default (by decide) rfl hrun⟩

end CApi

end Bindery
