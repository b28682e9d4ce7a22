import Bindery.Proofs.Command.Agreement
/-!
A whole run: the C API and after it the legacy header. No two files of the C API have the same name, so
only the legacy header can take the place of another file: of the header of the module that has the
legacy header's name, where the two directories are one. Then the module's header is lost, and a second
run writes both again; otherwise every reported file holds what was rendered for it, and a second run
writes nothing.
-/

namespace Bindery

/-- Options with the default names of files; sources may also have the extension of C++. -/
structure Options.HasDefaultNames (o : Options) : Prop where
  extension : o.sourceExtension = "c" ∨ o.sourceExtension = "cpp"
  runtimeHeader : o.runtimeHeader = "dombind_runtime.h"
  manifestFile : o.manifestFile = "bindings_manifest.json"

theorem Options.HasDefaultNames.usual {o : Options} (h : o.HasDefaultNames) : o.Usual where
  extension := h.extension
  runtimeHeader := h.runtimeHeader ▸ usual_default.runtimeHeader
  manifestFile := h.manifestFile ▸ usual_default.manifestFile

/-- Whether a job has completed, and at the end each file of its report holds the text that the job
rendered for it. -/
def Job.Holds (files : FileStore) (j : Job) (outcome : String × Except GenerationError Report) : Prop :=
  ∃ plan report, j.plan = .ok plan ∧ outcome = (j.name, .ok report) ∧
    report.files.Perm (plan.outputs.map (·.path)) ∧
    ∀ o ∈ plan.outputs, files.read? o.path = some o.text

theorem Job.holds_iff {plan : Plan} {report : Report} {name : String} {files files₁ files' : FileStore}
    (h : plan.execute files = (.ok report, files₁)) :
    Job.Holds files' ⟨name, .ok plan⟩ (name, .ok report) ↔
      ∀ o ∈ plan.outputs, files'.read? o.path = some o.text := by
  constructor
  · rintro ⟨_, _, hplan, -, -, hreads⟩
    cases hplan
    exact hreads
  · exact fun hreads => ⟨plan, report, rfl, rfl, (Plan.report_of_execute h).2, hreads⟩

/-- The header of a module is not the legacy header: its second line names the module. -/
theorem ModuleHeader.text_ne_legacy (h : ModuleHeader) (l : LegacyHeader) : h.text ≠ l.text := by
  intro e
  rw [ModuleHeader.text, LegacyHeader.text, ModuleHeader.lines, LegacyHeader.lines] at e
  simp only [List.append_assoc, List.cons_append, List.nil_append] at e
  have hchars := congrArg String.toList e
  simp [Text.ofLines, ModuleHeader.titleLine, Text.commentLine] at hchars

namespace RunConfig

variable {c : RunConfig} {g : CApi} {types : TypeMap} {files files₁ files' : FileStore}

/-- Where the C API goes. -/
def dirs (c : RunConfig) : OutputDirs := ⟨c.headerDir, c.sourceDir⟩

/-- Whether the legacy header is at the place of the header of a module that has its name. -/
def Displaces (c : RunConfig) (g : CApi) (types : TypeMap) (files : FileStore) : Prop :=
  ∃ dir, c.legacyDir? = some dir ∧
    files.target (c.headerDir.join LegacyHeader.defaultFile) =
      files.target (dir.join LegacyHeader.defaultFile) ∧
    ∃ m ∈ types.modules, g.HasHeader types m ∧
      ModuleHeader.fileOf m.name = LegacyHeader.defaultFile

/-- The legacy header of some types in a directory. -/
def legacyOutput (types : TypeMap) (dir : Path) : Output :=
  ⟨dir.join LegacyHeader.defaultFile, (LegacyHeader.ofTypes LegacyHeader.defaultFile types).text⟩

theorem isPlaced_legacyOutput (types : TypeMap) (dir : Path) : (legacyOutput types dir).IsPlaced :=
  Output.isPlaced_join _ Command.isFileName_legacy _

theorem isPlaced_of_mem_legacyPlan {dir : Path} :
    ∀ o ∈ (LegacyHeader.plan LegacyHeader.defaultFile types dir).outputs, o.IsPlaced :=
  fun _ ho => List.mem_singleton.1 ho ▸ isPlaced_legacyOutput types dir

theorem legacyPlan_nodup {dir : Path} :
    ((LegacyHeader.plan LegacyHeader.defaultFile types dir).outputs.map Output.fileName).Nodup :=
  List.nodup_singleton _

/-- What a run has done in which every generator completed. -/
theorem executed_of_run {summary : Summary} (hdirs : g.dirs? = some c.dirs)
    (hrun : Job.runAll (c.jobs g types) files = (summary, files')) (hok : summary.succeeded = true) :
    ∃ report files₁,
      (g.planIn c.dirs types types).execute files = (.ok report, files₁) ∧
      ((c.legacyDir? = none ∧ summary.outcomes = [(CApi.name, .ok report)] ∧ files' = files₁) ∨
        ∃ dir report', c.legacyDir? = some dir ∧
          summary.outcomes = [(CApi.name, .ok report), (LegacyHeader.generatorName, .ok report')] ∧
          (LegacyHeader.plan LegacyHeader.defaultFile types dir).execute files₁ =
            (.ok report', files')) := by
  rw [runAll_jobs, CApi.generate_eq_execute hdirs] at hrun
  rcases hexec : (g.planIn c.dirs types types).execute files with ⟨outcome, files₁⟩
  rw [hexec] at hrun
  cases hdir : c.legacyDir? with
  | none =>
    rw [hdir] at hrun
    cases hrun
    obtain ⟨report, rfl⟩ := Summary.ok_of_succeeded hok List.mem_cons_self
    exact ⟨report, files₁, rfl, .inl ⟨rfl, rfl, rfl⟩⟩
  | some dir =>
    rw [hdir] at hrun
    cases hrun
    obtain ⟨report, rfl⟩ := Summary.ok_of_succeeded hok List.mem_cons_self
    obtain ⟨report', hreport'⟩ := Summary.ok_of_succeeded hok (List.mem_cons_of_mem _ List.mem_cons_self)
    exact ⟨report, files₁, rfl, .inr ⟨dir, report', rfl, by rw [← hreport'], Prod.ext hreport' rfl⟩⟩

/-! ### The legacy header after the C API -/

section LegacyAfter

variable {dir : Path} {report report' : Report} {o : Output} (hnames : g.options.HasDefaultNames)
  (hstems : ∀ t ∈ types.entries, '/' ∉ t.module.toList)
  (hfirst : (g.planIn c.dirs types types).execute files = (.ok report, files₁))
  (hsecond : (LegacyHeader.plan LegacyHeader.defaultFile types dir).execute files₁ =
    (.ok report', files'))
include hsecond

theorem read?_legacyOutput :
    files'.read? (legacyOutput types dir).path = some (legacyOutput types dir).text :=
  Plan.read?_of_execute isPlaced_of_mem_legacyPlan legacyPlan_nodup hsecond _ List.mem_cons_self

include hnames hstems hfirst

/-- The legacy header replaces a file only where their paths lead to one place. -/
theorem read?_after_legacy (ho : o ∈ (g.planIn c.dirs types types).outputs) :
    files'.read? o.path =
      if files'.target o.path = files'.target (legacyOutput types dir).path then
        some (legacyOutput types dir).text
      else some o.text := by
  have hplaced : ∀ o ∈ (g.planIn c.dirs types types).outputs, o.IsPlaced :=
    CApi.isPlaced_of_mem_outputs hnames.usual hstems
  refine Plan.read?_execute_single rfl (isPlaced_legacyOutput types dir) hsecond (hplaced o ho) ?_
  exact Plan.read?_of_execute hplaced (CApi.fileNames_nodup hnames.usual hstems) hfirst o ho

omit hfirst in
/-- A file at the place of the legacy header is the header of the module that has its name. -/
theorem header_of_target_eq (ho : o ∈ (g.planIn c.dirs types types).outputs)
    (h : files'.target o.path = files'.target (legacyOutput types dir).path) :
    ∃ m ∈ types.modules, g.HasHeader types m ∧
      ModuleHeader.fileOf m.name = LegacyHeader.defaultFile ∧
      o = g.headerOutput c.dirs types types m := by
  have hextends : LegacyHeader.defaultFile.toList.getLast? = some 'h' := by decide
  -- A place has one name at its end, so the two files are called the same.
  have hname : o.fileName = LegacyHeader.defaultFile := by
    obtain ⟨ho, d, hpath⟩ := CApi.isPlaced_of_mem_outputs hnames.usual hstems o ho
    obtain ⟨place, -, htarget⟩ :=
      FileStore.target_of_read? Command.isFileName_legacy (read?_legacyOutput hsecond)
    rw [hpath] at h
    exact FileStore.name_eq_of_target ho Command.isFileName_legacy (h.trans htarget) htarget
  -- Of the files of the C API only the headers of modules have names that are free.
  rcases CApi.mem_outputs.1 ho with ⟨m, hm, hh, rfl | ⟨-, rfl⟩⟩ | rfl | rfl
  · rw [CApi.fileName_headerOutput hstems hm] at hname
    exact ⟨m, hm, hh, hname, rfl⟩
  · rw [CApi.fileName_sourceOutput hnames.usual hstems hm] at hname
    exact absurd hname (CApi.source_ne hnames.usual m.name (.inl hextends))
  · rw [CApi.fileName_runtimeOutput hnames.usual, hnames.runtimeHeader] at hname
    exact absurd hname (by decide)
  · rw [CApi.fileName_manifestOutput hnames.usual, hnames.manifestFile] at hname
    exact absurd hname (by decide)

omit hnames hstems hfirst hsecond in
theorem text_headerOutput_ne {m : Module} :
    (g.headerOutput c.dirs types types m).text ≠ (legacyOutput types dir).text := by
  simp only [CApi.headerOutput, legacyOutput]
  exact ModuleHeader.text_ne_legacy _ _

omit hnames hstems hfirst hsecond in
/-- The path of a module's header that has the name of the legacy header. -/
theorem path_headerOutput {m : Module} (h : ModuleHeader.fileOf m.name = LegacyHeader.defaultFile) :
    (g.headerOutput c.dirs types types m).path = c.headerDir.join LegacyHeader.defaultFile := by
  rw [← h]
  rfl

/-- The files of the C API are kept unless the legacy header displaces one. -/
theorem reads_iff (hdir : c.legacyDir? = some dir) :
    (∀ o ∈ (g.planIn c.dirs types types).outputs, files'.read? o.path = some o.text) ↔
      ¬ c.Displaces g types files' := by
  constructor
  · rintro hreads ⟨dir', hdir', htarget, m, hm, hh, hname⟩
    cases hdir.symm.trans hdir'
    have ho : g.headerOutput c.dirs types types m ∈ (g.planIn c.dirs types types).outputs :=
      CApi.headerOutput_mem hm hh
    have hread := read?_after_legacy hnames hstems hfirst hsecond ho
    rw [hreads _ ho, if_pos (by rw [path_headerOutput hname]; exact htarget)] at hread
    exact text_headerOutput_ne (Option.some.inj hread)
  · intro hapart o ho
    rw [read?_after_legacy hnames hstems hfirst hsecond ho, if_neg]
    intro htarget
    obtain ⟨m, hm, hh, hname, rfl⟩ := header_of_target_eq hnames hstems hsecond ho htarget
    rw [path_headerOutput hname] at htarget
    exact hapart ⟨dir, hdir, htarget, m, hm, hh, hname⟩

/-- So every reported file is kept unless the legacy header displaces one. -/
theorem kept_iff (hdirs : g.dirs? = some c.dirs) (hdir : c.legacyDir? = some dir) :
    List.Forall₂ (Job.Holds files') (c.jobs g types)
        [(CApi.name, .ok report), (LegacyHeader.generatorName, .ok report')] ↔
      ¬ c.Displaces g types files' := by
  have hlegacy := Plan.read?_of_execute isPlaced_of_mem_legacyPlan legacyPlan_nodup hsecond
  rw [jobs, hdir, CApi.plan_eq hdirs]
  simp only [List.forall₂_cons, List.forall₂_nil_left_iff, and_true]
  rw [Job.holds_iff hfirst, and_iff_left ((Job.holds_iff hsecond).2 hlegacy)]
  exact reads_iff hnames hstems hfirst hsecond hdir

end LegacyAfter

/-! ### The second run -/

/-- If nothing is left to do for the legacy header, a second run writes nothing if and only if the
files of the C API are kept. -/
theorem idle_iff {report : Report} (hnames : g.options.HasDefaultNames)
    (hstems : ∀ t ∈ types.entries, '/' ∉ t.module.toList) (hdirs : g.dirs? = some c.dirs)
    (hfirst : (g.planIn c.dirs types types).execute files = (.ok report, files₁))
    (hkeeps : files₁.KeepsDirectories files')
    (hlegacy : ∀ dir ∈ c.legacyDir?, ∃ report',
      (LegacyHeader.plan LegacyHeader.defaultFile types dir).execute files' = (.ok report', files') ∧
        report'.written = []) :
    ((Job.runAll (c.jobs g types) files').1.succeeded = true ∧
        ∀ report ∈ (Job.runAll (c.jobs g types) files').1.reports, report.written = []) ↔
      ∀ o ∈ (g.planIn c.dirs types types).outputs, files'.read? o.path = some o.text := by
  have hplaced : ∀ o ∈ (g.planIn c.dirs types types).outputs, o.IsPlaced :=
    CApi.isPlaced_of_mem_outputs hnames.usual hstems
  -- The C API comes first, so what it has to write again is decided in the store of the first run.
  constructor
  · rcases hrun : Job.runAll (c.jobs g types) files' with ⟨summary, files₂⟩
    rintro ⟨hok, hwritten⟩
    obtain ⟨report₁, files₃, hagain, hrest⟩ := executed_of_run hdirs hrun hok
    have hmem : report₁ ∈ summary.reports := by
      rw [Summary.reports]
      rcases hrest with ⟨-, houtcomes, -⟩ | ⟨_, _, -, houtcomes, -⟩ <;> rw [houtcomes] <;>
        exact List.mem_cons_self
    exact (Plan.execute_idle_iff hplaced (CApi.fileNames_nodup hnames.usual hstems) hfirst hkeeps).1
      ⟨report₁, files₃, hagain, hwritten _ hmem⟩
  · intro hreads
    have hagain := Plan.execute_kept hplaced hfirst hkeeps hreads
    rw [runAll_jobs, CApi.generate_eq_execute hdirs, hagain]
    cases hdir : c.legacyDir? with
    | none => exact ⟨rfl, by simp [Summary.reports, Except.toOption]⟩
    | some dir =>
      obtain ⟨report', hexec, hwritten⟩ := hlegacy dir hdir
      dsimp only
      rw [hexec]
      exact ⟨rfl, by simp [Summary.reports, Except.toOption, hwritten]⟩

/-! ### The whole run -/

/-- What a run comes to that led to `files'` and in which every generator completed. -/
structure Settled (c : RunConfig) (g : CApi) (r : Registry) (summary : Summary) (files' : FileStore) :
    Prop where
  /-- Every reported file holds what was rendered for it, unless a header is displaced. -/
  kept : List.Forall₂ (Job.Holds files') (c.jobs g r.snapshot) summary.outcomes ↔
    ¬ c.Displaces g r.snapshot files'
  /-- A second run writes nothing, unless a header is displaced. -/
  idle : ((c.run g r files').1.succeeded = true ∧
      ∀ report ∈ (c.run g r files').1.reports, report.written = []) ↔
    ¬ c.Displaces g r.snapshot files'

/-- A run whose legacy header was written after the C API. -/
theorem settled_of_legacy {r : Registry} {summary : Summary} {dir : Path} {report report' : Report}
    (hdirs : g.dirs? = some c.dirs) (hnames : g.options.HasDefaultNames)
    (hstems : ∀ t ∈ r.snapshot.entries, '/' ∉ t.module.toList) (hdir : c.legacyDir? = some dir)
    (houtcomes : summary.outcomes = [(CApi.name, .ok report), (LegacyHeader.generatorName, .ok report')])
    (hfirst : (g.planIn c.dirs r.snapshot r.snapshot).execute files = (.ok report, files₁))
    (hsecond : (LegacyHeader.plan LegacyHeader.defaultFile r.snapshot dir).execute files₁ =
      (.ok report', files')) :
    Settled c g r summary files' := by
  have hagain := Plan.execute_again isPlaced_of_mem_legacyPlan legacyPlan_nodup hsecond
  have hkeeps := (Plan.carriedOut isPlaced_of_mem_legacyPlan legacyPlan_nodup hsecond).directories
  refine ⟨houtcomes ▸ kept_iff hnames hstems hfirst hsecond hdirs hdir,
    (idle_iff hnames hstems hdirs hfirst hkeeps ?_).trans
      (reads_iff hnames hstems hfirst hsecond hdir)⟩
  intro dir' hdir'
  cases hdir.symm.trans hdir'
  exact ⟨_, hagain, rfl⟩

/-- In a run in which every generator completed, no output overwrites another, and a second run writes
nothing, unless the legacy header displaces the header of a module. -/
theorem settled_of_succeeded (c : RunConfig) (g : CApi) (r : Registry) (files files' : FileStore)
    (summary : Summary) (hdirs : g.dirs? = some c.dirs) (hnames : g.options.HasDefaultNames)
    (hstems : ∀ t ∈ r.snapshot.entries, '/' ∉ t.module.toList)
    (hrun : c.run g r files = (summary, files')) (hok : summary.succeeded = true) :
    Settled c g r summary files' := by
  obtain ⟨report, files₁, hfirst, ⟨hdir, houtcomes, rfl⟩ | ⟨dir, report', hdir, houtcomes, hsecond⟩⟩ :=
    executed_of_run hdirs hrun hok
  · have hapart : ¬ c.Displaces g r.snapshot files' := by
      rintro ⟨dir, h, -⟩
      cases hdir.symm.trans h
    have hreads : ∀ o ∈ (g.planIn c.dirs r.snapshot r.snapshot).outputs,
        files'.read? o.path = some o.text :=
      Plan.read?_of_execute (CApi.isPlaced_of_mem_outputs hnames.usual hstems)
        (CApi.fileNames_nodup hnames.usual hstems) hfirst
    refine ⟨iff_of_true ?_ hapart, iff_of_true ?_ hapart⟩
    · rw [jobs, hdir, houtcomes, CApi.plan_eq hdirs]
      exact .cons ((Job.holds_iff hfirst).2 hreads) .nil
    · refine (idle_iff hnames hstems hdirs hfirst ⟨rfl, fun _ h => h⟩ ?_).2 hreads
      simp [hdir]
  · exact settled_of_legacy hdirs hnames hstems hdir houtcomes hfirst hsecond

/-- One type with one function, in a module of this name. -/
def menuIn (stem : String) : Registry where
  types := {
    entries := [{
      name := "Menu", kind := .object, fileStem := stem
      functions := [{ name := "open", callable? := some .host }] }]
    nodup := by simp }

/-- The legacy header goes where the other headers go, to a directory that is spelled in another way. -/
def respelled : RunConfig where
  headerDir := .ofText "/work/include"
  sourceDir := .ofText "../src"
  legacyDir? := some (.ofText "include")

def respelledCApi : CApi := { dirs? := some respelled.dirs }

theorem settled_of_succeeded_menu :
    ∃ summary files',
      respelled.run respelledCApi (menuIn "menu") CApi.workplace = (summary, files') ∧
      summary.succeeded = true ∧
      files'.target (.ofText "/work/include/dombind_legacy.h") =
        files'.target (.ofText "include/dombind_legacy.h") ∧
      List.Forall₂ (Job.Holds files') (respelled.jobs respelledCApi (menuIn "menu").snapshot)
        summary.outcomes ∧
      ∀ report ∈ (respelled.run respelledCApi (menuIn "menu") files').1.reports,
        report.written = [] := by
  have hruns : (respelled.run respelledCApi (menuIn "menu") CApi.workplace).1.succeeded = true ∧
      (respelled.run respelledCApi (menuIn "menu") CApi.workplace).2.target
          (.ofText "/work/include/dombind_legacy.h") =
        (respelled.run respelledCApi (menuIn "menu") CApi.workplace).2.target
          (.ofText "include/dombind_legacy.h") := by
    decide +kernel
  have hfiles : ∀ m ∈ (menuIn "menu").snapshot.modules,
      ModuleHeader.fileOf m.name ≠ LegacyHeader.defaultFile := by decide +kernel
  rcases hrun : respelled.run respelledCApi (menuIn "menu") CApi.workplace with ⟨summary, files'⟩
  rw [hrun] at hruns
  obtain ⟨hok, hplace⟩ := hruns
  have hsettled := settled_of_succeeded respelled respelledCApi (menuIn "menu") CApi.workplace files'
    summary rfl ⟨.inl rfl, rfl, rfl⟩ (by decide) hrun hok
  have hapart : ¬ respelled.Displaces respelledCApi (menuIn "menu").snapshot files' := by
    rintro ⟨-, -, -, m, hm, -, hname⟩
    exact hfiles m hm hname
  exact ⟨summary, files', rfl, hok, hplace, hsettled.kept.2 hapart, (hsettled.idle.2 hapart).2⟩

/-- The legacy header goes where the other headers go. -/
def together : RunConfig where
  headerDir := .ofText "include"
  sourceDir := .ofText "src"
  legacyDir? := some (.ofText "include")

def togetherCApi : CApi := { dirs? := some together.dirs }

/-- The header of a module that has the name of the legacy header is lost, and a second run writes
again. -/
theorem header_displaced_menu :
    ∃ summary files',
      together.run togetherCApi (menuIn "dombind_legacy") .empty = (summary, files') ∧
      summary.succeeded = true ∧
      ¬ List.Forall₂ (Job.Holds files') (together.jobs togetherCApi (menuIn "dombind_legacy").snapshot)
        summary.outcomes ∧
      ¬ ((together.run togetherCApi (menuIn "dombind_legacy") files').1.succeeded = true ∧
        ∀ report ∈ (together.run togetherCApi (menuIn "dombind_legacy") files').1.reports,
          report.written = []) := by
  have hsucceeds : (together.run togetherCApi (menuIn "dombind_legacy") .empty).1.succeeded = true := by
    decide +kernel
  have hmodule : Module.ofTypes "dombind_legacy" (menuIn "dombind_legacy").snapshot.entries ∈
        (menuIn "dombind_legacy").snapshot.modules ∧
      togetherCApi.HasHeader (menuIn "dombind_legacy").snapshot
        (Module.ofTypes "dombind_legacy" (menuIn "dombind_legacy").snapshot.entries) := by
    decide +kernel
  rcases hrun : together.run togetherCApi (menuIn "dombind_legacy") .empty with ⟨summary, files'⟩
  rw [hrun] at hsucceeds
  have hdisplaces : together.Displaces togetherCApi (menuIn "dombind_legacy").snapshot files' :=
    ⟨_, rfl, rfl, _, hmodule.1, hmodule.2, by decide⟩
  obtain ⟨report, files₁, hfirst, ⟨⟨⟩, -⟩ | ⟨dir, report', hdir, houtcomes, hsecond⟩⟩ :=
    executed_of_run (g := togetherCApi) rfl hrun hsucceeds
  have hsettled : Settled together togetherCApi (menuIn "dombind_legacy") summary files' :=
    settled_of_legacy rfl ⟨.inl rfl, rfl, rfl⟩ (by decide) hdir houtcomes hfirst hsecond
  exact ⟨summary, files', rfl, hsucceeds, fun h => hsettled.kept.1 h hdisplaces,
    fun h => hsettled.idle.1 h hdisplaces⟩

end RunConfig

end Bindery
