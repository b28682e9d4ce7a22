import Bindery.Proofs.Generate.References
import Bindery.Proofs.Header.Guard
/-!
The guards of a run. Each header opens with the guard of its own file name, and no two headers of a run
have the same name; but names that guards do not tell apart give one guard. Then whichever header is
included first hides the other.
-/

namespace Bindery.CApi

open Header (Alike openingGuard?)

variable {g : CApi} {dirs : OutputDirs} {types snapshot : TypeMap} {m : Module}

/-- The headers of a run, each with its file name: those of the modules, and the runtime header. -/
def headers (g : CApi) (dirs : OutputDirs) (types snapshot : TypeMap) : List (String × Output) :=
  (types.modules.filter fun m => g.HasHeader types m).map (fun m =>
      (ModuleHeader.fileOf m.name, g.headerOutput dirs types snapshot m)) ++
    [(g.options.runtimeHeader, g.runtimeOutput dirs)]

variable {h : String × Output}

theorem mem_headers :
    h ∈ g.headers dirs types snapshot ↔
      (∃ m ∈ types.modules, g.HasHeader types m ∧
        h = (ModuleHeader.fileOf m.name, g.headerOutput dirs types snapshot m)) ∨
      h = (g.options.runtimeHeader, g.runtimeOutput dirs) := by
  rw [headers, List.mem_append, List.mem_map, List.mem_singleton]
  refine or_congr_left (exists_congr fun m => ?_)
  rw [List.mem_filter, decide_eq_true_eq, and_assoc, eq_comm (a := h)]

theorem moduleHeader_mem (hm : m ∈ types.modules) (hh : g.HasHeader types m) :
    (ModuleHeader.fileOf m.name, g.headerOutput dirs types snapshot m) ∈
      g.headers dirs types snapshot :=
  mem_headers.2 (.inl ⟨m, hm, hh, rfl⟩)

theorem runtimeHeader_mem :
    (g.options.runtimeHeader, g.runtimeOutput dirs) ∈ g.headers dirs types snapshot :=
  mem_headers.2 (.inr rfl)

theorem headers_mem_outputs (hh : h ∈ g.headers dirs types snapshot) :
    h.2 ∈ (g.planIn dirs types snapshot).outputs := by
  rcases mem_headers.1 hh with ⟨m, hm, hheader, rfl⟩ | rfl
  · exact headerOutput_mem hm hheader
  · exact mem_outputs.2 (.inr (.inl rfl))

/-- The name of a module's header is that of no other module's, and not that of the runtime header. -/
theorem headers_nodup : ((g.headers dirs types snapshot).map (·.1)).Nodup := by
  have hmodules : ((types.modules.filter fun m => g.HasHeader types m).map fun m =>
      ModuleHeader.fileOf m.name).Nodup := by
    have hnames := TypeMap.modules_names_nodup.sublist
      ((List.filter_sublist (l := types.modules) (p := fun m => g.HasHeader types m)).map (·.name))
    have hfiles := hnames.map fun _ _ => (String.append_left_inj ".h").1
    rwa [List.map_map] at hfiles
  rw [headers, List.map_append, List.map_map, List.nodup_append]
  refine ⟨hmodules, by simp, ?_⟩
  intro file hfile other hother
  obtain ⟨m, hm, rfl⟩ := List.mem_map.1 hfile
  obtain rfl : other = g.options.runtimeHeader := by simpa using hother
  have hheader : g.HasHeader types m := by simpa using (List.mem_filter.1 hm).2
  exact (header_ne_last hheader.1).1

variable (hstems : ∀ t ∈ types.entries, '/' ∉ t.module.toList)
include hstems

/-- A header of a run opens with the guard of its name. -/
theorem openingGuard?_headers (hh : h ∈ g.headers dirs types snapshot) :
    openingGuard? h.2.text = some (Header.guard h.1) := by
  rcases mem_headers.1 hh with ⟨m, hm, -, rfl⟩ | rfl
  · have hname : (g.headerOf types snapshot m).name = m.name := by
      rw [headerOf, HeaderInput.header, headerInput]
    have hslash : '/' ∉ (g.headerOf types snapshot m).name.toList := by
      rw [hname]
      exact noSlash_of_mem_modules hstems hm
    simp only [headerOutput]
    rw [ModuleHeader.openingGuard?_text hslash, hname]
  · simp only [runtimeOutput]
    rw [Header.openingGuard?_runtimeText]

/-- With the usual options a header reads as the run made it. -/
theorem read?_headers (hdirs : g.dirs? = some dirs) (husual : g.options.Usual) {files files' : FileStore}
    {report : Report} (hrun : g.generate types snapshot files = (.ok report, files'))
    (hh : h ∈ g.headers dirs types snapshot) : files'.read? h.2.path = some h.2.text :=
  Plan.read?_of_execute (isPlaced_of_mem_outputs husual hstems) (fileNames_nodup husual hstems)
    (execute_of_generate hdirs hrun) _ (headers_mem_outputs hh)

omit hstems

/-- How the guards of the headers of a run are related to their names. -/
structure Guarded (g : CApi) (dirs : OutputDirs) (types snapshot : TypeMap) (files' : FileStore)
    (report : Report) : Prop where
  names_nodup : ((g.headers dirs types snapshot).map (·.1)).Nodup
  /-- Every header is a file of the run, and with the usual options it reads as the run made it. -/
  produced : ∀ h ∈ g.headers dirs types snapshot, h.2.path = dirs.header.join h.1 ∧
    h.2.path ∈ report.files ∧ (g.options.Usual → files'.read? h.2.path = some h.2.text)
  opens : ∀ h ∈ g.headers dirs types snapshot, openingGuard? h.2.text = some (Header.guard h.1)
  /-- Different headers open with different guards if and only if no two of their names are alike. -/
  apart : (∀ h ∈ g.headers dirs types snapshot, ∀ h' ∈ g.headers dirs types snapshot, h.1 ≠ h'.1 →
      openingGuard? h.2.text ≠ openingGuard? h'.2.text) ↔
    ∀ h ∈ g.headers dirs types snapshot, ∀ h' ∈ g.headers dirs types snapshot, h.1 ≠ h'.1 →
      ¬ Alike h.1 h'.1

/-- After a run that completes, its headers are apart as far as their names are. -/
theorem guards_apart (g : CApi) (dirs : OutputDirs) (types snapshot : TypeMap)
    (files files' : FileStore) (report : Report) (hdirs : g.dirs? = some dirs)
    (hstems : ∀ t ∈ types.entries, '/' ∉ t.module.toList)
    (hrun : g.generate types snapshot files = (.ok report, files')) :
    Guarded g dirs types snapshot files' report := by
  have hfiles := (Plan.report_of_execute (execute_of_generate hdirs hrun)).2
  refine ⟨headers_nodup, fun h hh => ⟨?_, ?_, ?_⟩, fun h => openingGuard?_headers hstems,
    forall₂_congr fun h hh => forall₂_congr fun h' hh' => imp_congr_right fun _ => ?_⟩
  · rcases mem_headers.1 hh with ⟨m, -, -, rfl⟩ | rfl <;> rfl
  · exact hfiles.mem_iff.2 (List.mem_map_of_mem (headers_mem_outputs hh))
  · exact fun husual => read?_headers hstems hdirs husual hrun hh
  · rw [openingGuard?_headers hstems hh, openingGuard?_headers hstems hh', ← Header.guard_eq_iff]
    simp

/-- An object with a function, in a module of the given name. -/
def windowIn (stem : String) : TypeMap where
  entries := [{
    name := "Window", kind := .object, fileStem := stem
    functions := [{ name := "close", callable? := some .host }] }]
  nodup := by simp

/-- Where the headers and sources of `plain` go. -/
def plainDirs : OutputDirs := ⟨.ofText "include", .ofText "src"⟩

theorem guards_apart_window :
    ∃ report files, plain.generate (windowIn "window") (windowIn "window") .empty = (.ok report, files) ∧
      (plain.headers plainDirs (windowIn "window") (windowIn "window")).map (·.1) =
        ["window.h", "dombind_runtime.h"] ∧
      ∀ h ∈ plain.headers plainDirs (windowIn "window") (windowIn "window"),
        ∀ h' ∈ plain.headers plainDirs (windowIn "window") (windowIn "window"), h.1 ≠ h'.1 →
          openingGuard? h.2.text ≠ openingGuard? h'.2.text := by
  have hcompletes : (plain.generate (windowIn "window") (windowIn "window")
      .empty).1.toOption.isSome = true := by decide +kernel
  obtain ⟨report, files, hrun⟩ := exists_report hcompletes
  have hnames : (plain.headers plainDirs (windowIn "window") (windowIn "window")).map (·.1) =
      ["window.h", "dombind_runtime.h"] := by decide +kernel
  have hunlike : ∀ a ∈ ["window.h", "dombind_runtime.h"], ∀ b ∈ ["window.h", "dombind_runtime.h"],
      a ≠ b → ¬ Alike a b := by decide
  refine ⟨report, files, hrun, hnames, ?_⟩
  refine (guards_apart plain plainDirs _ _ _ _ _ rfl (by decide) hrun).apart.2 fun h hh h' hh' => ?_
  exact hunlike _ (hnames ▸ List.mem_map_of_mem hh) _ (hnames ▸ List.mem_map_of_mem hh')

/-- A name that differs from that of the runtime header in one character gives the same guard. -/
theorem guards_clash_runtime :
    ∃ report files text text',
      plain.generate (windowIn "dombind-runtime") (windowIn "dombind-runtime") .empty =
        (.ok report, files) ∧ report.errors = [] ∧
      files.read? (.ofText "include/dombind-runtime.h") = some text ∧
      files.read? (.ofText "include/dombind_runtime.h") = some text' ∧
      openingGuard? text = some "DOMBIND_DOMBIND_RUNTIME_H" ∧
      openingGuard? text' = some "DOMBIND_DOMBIND_RUNTIME_H" := by
  let types := windowIn "dombind-runtime"
  have hstems : ∀ t ∈ types.entries, '/' ∉ t.module.toList := by decide
  have herrors : (plain.generate types types .empty).1.toOption.map (·.errors) = some [] := by
    decide +kernel
  have hmodule : Module.ofTypes "dombind-runtime" types.entries ∈ types.modules ∧
      plain.HasHeader types (Module.ofTypes "dombind-runtime" types.entries) := by decide +kernel
  obtain ⟨report, files, hrun, herrors⟩ := exists_report_of_map herrors
  have hheader : (_, plain.headerOutput plainDirs types types _) ∈ plain.headers plainDirs types types :=
    moduleHeader_mem hmodule.1 hmodule.2
  have hruntime : (_, plain.runtimeOutput plainDirs) ∈ plain.headers plainDirs types types :=
    runtimeHeader_mem
  have hread := read?_headers hstems rfl Options.usual_default hrun hheader
  have hread' := read?_headers hstems rfl Options.usual_default hrun hruntime
  have hpath : (plain.headerOutput plainDirs types types
      (Module.ofTypes "dombind-runtime" types.entries)).path = .ofText "include/dombind-runtime.h" := by
    decide +kernel
  have hpath' : (plain.runtimeOutput plainDirs).path = .ofText "include/dombind_runtime.h" := by
    decide +kernel
  rw [hpath] at hread
  rw [hpath'] at hread'
  refine ⟨report, files, _, _, hrun, herrors, hread, hread', ?_, ?_⟩
  · rw [openingGuard?_headers hstems hheader]
    decide +kernel
  · rw [openingGuard?_headers hstems hruntime]
    decide +kernel

end Bindery.CApi
