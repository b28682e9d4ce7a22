import Bindery.Proofs.Generate.Outputs
import Bindery.Proofs.Header.Mirrors
/-!
References to structs. A header spells a struct type as a pointer if a struct of that name is
registered, and includes the header of its module; the struct is declared if its kind is known and its
module is not reserved. The two agree for the structs that are declared, and only for those: a header
that refers to a struct of an unknown kind, or to one of a reserved module, is left with a name that no
header declares, and with an include that no file answers if its module has nothing else in it.
-/

namespace Bindery.CApi

variable {g : CApi} {dirs : OutputDirs} {types : TypeMap} {m : Module} {t : TypeEntry} {name : String}

/-! ### What a header declares and spells -/

/-- Whether a header declares a struct. -/
def Declares (h : ModuleHeader) (name : String) : Prop := ∃ d ∈ h.structs, d.name = name

/-- A struct that is declared has its line. -/
theorem Declares.line_mem {h : ModuleHeader} (hd : Declares h name) :
    "typedef struct " ++ name ++ " " ++ name ++ ";" ∈ h.lines := by
  obtain ⟨d, hd, rfl⟩ := hd
  have hsection : d.forward ∈ h.structLines := by
    have hne : h.structs.isEmpty = false := by
      cases hs : h.structs with
      | nil => rw [hs] at hd; cases hd
      | cons _ _ => rfl
    rw [ModuleHeader.structLines, ModuleHeader.sectionLines, hne, if_neg Bool.false_ne_true]
    refine List.mem_append_right _ (List.mem_append_left _ (List.mem_append_left _ ?_))
    exact List.mem_map_of_mem hd
  simp only [ModuleHeader.lines, List.mem_append]
  tauto

/-- The data of the header of a module in a run. -/
def inputOf (g : CApi) (types : TypeMap) (m : Module) : HeaderInput :=
  g.headerInput types (g.built types) m ((g.definitions types m).map (·.1))

/-- Whether a header spells a struct type: as a field of a struct that has fields, as the target of an
alias, or in a function. -/
inductive Spells (i : HeaderInput) (name : String) : Prop where
  | field {t : TypeEntry} {p : PropertyEntry} (ht : t ∈ i.structs)
      (mapped : (HeaderInput.fields i.ctypes t).2 = []) (hp : p ∈ t.properties)
      (type : p.type = .struct name)
  | target {t : TypeEntry} (ht : t ∈ i.aliases)
      (mapped : (HeaderInput.aliasSpelling? i.ctypes t).isSome = true)
      (type : t.target? = some (.struct name))
  | param {f : FunctionBinding} {p : CParam} (hf : f ∈ i.functions) (hp : p ∈ f.params)
      (type : p.type = .struct name)
  | result {f : FunctionBinding} (hf : f ∈ i.functions) (type : f.returnType = .struct name)

/-- What a header spells it mentions. -/
theorem Spells.mentioned {i : HeaderInput} (h : Spells i name) : .struct name ∈ i.mentioned := by
  rw [HeaderInput.mentioned]
  cases h with
  | field ht _ hp type =>
    refine List.mem_append_left _ (List.mem_append_left _ ?_)
    rw [← type]
    exact List.mem_map_of_mem (List.mem_flatMap.2 ⟨_, ht, hp⟩)
  | target ht _ type =>
    refine List.mem_append_left _ (List.mem_append_right _ ?_)
    exact List.mem_filterMap.2 ⟨_, ht, type⟩
  | param hf hp type =>
    refine List.mem_append_right _ (List.mem_flatMap.2 ⟨_, hf, ?_⟩)
    rw [← type]
    exact List.mem_append_left _ (List.mem_map_of_mem hp)
  | result hf type =>
    refine List.mem_append_right _ (List.mem_flatMap.2 ⟨_, hf, ?_⟩)
    rw [← type]
    exact List.mem_append_right _ List.mem_cons_self

/-- A struct type that has a C type is that of a registered struct. -/
theorem exists_struct_of_spelling? {c : String}
    (h : (CTypes.ofTypes types).spelling? (.struct name) = some c) :
    ∃ t ∈ types.entries, t.name = name ∧ t.kind = .struct := by
  by_cases hr : (CTypes.ofTypes types).isRegistered name .struct = true
  · rw [CTypes.isRegistered] at hr
    split at hr
    · rename_i t ht
      exact ⟨t, List.mem_of_find?_eq_some ht, by simpa using List.find?_some ht, of_decide_eq_true hr⟩
    · cases hr
  · simp [CTypes.spelling?, hr] at h

/-- A function with a definition is one of those that are bound. -/
theorem mem_built_of_definitions (hm : m ∈ types.modules) {f : FunctionBinding}
    (hf : f ∈ (g.definitions types m).map (·.1)) : f ∈ (g.built types).functions := by
  obtain ⟨⟨f, text⟩, hmem, rfl⟩ := List.mem_map.1 hf
  exact (mem_functionsOf.1 ((mem_bodies hm).1 (mem_emitted.1 hmem)).1).1

/-- The types of a bound function have C types. -/
theorem mapped_of_built {f : FunctionBinding} (hf : f ∈ (g.built types).functions) :
    (∀ p ∈ f.params, (CTypes.ofTypes types).valueSpelling? p.type = some p.cType) ∧
      (CTypes.ofTypes types).spelling? f.returnType = some f.returnCType := by
  obtain ⟨t, -, kind, -, -, fn, -, -, hb⟩ := Manifest.mem_accepted.1 (Manifest.mem_accepted_of_mem hf)
  exact Manifest.bindFunction_mapped hb

/-- Every struct type that a header spells is that of a registered struct. -/
theorem Spells.exists_struct (hm : m ∈ types.modules) (h : Spells (g.inputOf types m) name) :
    ∃ t ∈ types.entries, t.name = name ∧ t.kind = .struct := by
  cases h with
  | @field t p ht mapped hp type =>
    simp only [HeaderInput.fields_eq, List.map_eq_nil_iff, List.filter_eq_nil_iff] at mapped
    have haccepts : (g.inputOf types m).ctypes.Accepts p.type := by simpa using mapped p hp
    obtain ⟨c, hc⟩ := Option.isSome_iff_exists.1 haccepts
    rw [type] at hc
    exact exists_struct_of_spelling? hc
  | target ht mapped type =>
    rw [HeaderInput.aliasSpelling?, type] at mapped
    obtain ⟨c, hc⟩ := Option.isSome_iff_exists.1 mapped
    exact exists_struct_of_spelling? hc
  | param hf hp type =>
    have hc := (mapped_of_built (mem_built_of_definitions hm hf)).1 _ hp
    rw [type] at hc
    exact exists_struct_of_spelling? hc
  | result hf type =>
    have hc := (mapped_of_built (mem_built_of_definitions hm hf)).2
    rw [type] at hc
    exact exists_struct_of_spelling? hc

/-- A header declares the structs of its module whose kind is known. -/
theorem declares_iff (hm : m ∈ types.modules) :
    Declares (g.headerOf types types m) name ↔
      ∃ t ∈ types.entries, t.name = name ∧ t.kind = .struct ∧ t.module = m.name ∧
        (g.catalog.resolve? t.subjectKind?).isSome = true := by
  have hstructs (t : TypeEntry) :
      t ∈ m.structs ↔ t ∈ types.entries ∧ t.module = m.name ∧ t.kind = .struct :=
    TypeMap.mem_bucket_of_mem_modules hm (k := .struct)
  constructor
  · rintro ⟨d, hd, rfl⟩
    obtain ⟨t, ht, rfl⟩ := List.mem_map.1 hd
    obtain ⟨ht, hlisted⟩ := List.mem_filter.1 ht
    obtain ⟨hentry, hmodule, hkind⟩ := (hstructs t).1 ht
    exact ⟨t, hentry, rfl, hkind, hmodule, (type?_isSome_iff hentry).1 hlisted⟩
  · rintro ⟨t, ht, rfl, hkind, hmodule, hknown⟩
    refine ⟨_, List.mem_map_of_mem (List.mem_filter.2 ⟨(hstructs t).2 ⟨ht, hmodule, hkind⟩, ?_⟩), rfl⟩
    exact (type?_isSome_iff ht).2 hknown

/-- The module of a struct reference is that of the registered type with this name, of any kind. -/
theorem structModule?_eq_some {ty : SemanticType} {module : String} :
    (CTypes.ofTypes types).structModule? ty = some module ↔
      ∃ name, ty = .struct name ∧ ∃ t ∈ types.entries, t.name = name ∧ t.module = module := by
  have hget (name : String) : (types.get? name).map (·.module) = some module ↔
      ∃ t ∈ types.entries, t.name = name ∧ t.module = module := by
    rw [Option.map_eq_some_iff]
    constructor
    · rintro ⟨t, ht, hmodule⟩
      exact ⟨t, List.mem_of_find?_eq_some ht, by simpa using List.find?_some ht, hmodule⟩
    · rintro ⟨t, ht, rfl, hmodule⟩
      refine ⟨t, ?_, hmodule⟩
      have hone := filter_key_eq types.nodup ht
      rw [TypeMap.get?, ← List.head?_filter, hone]
      rfl
  cases ty with
  | struct name =>
    refine (hget name).trans ⟨fun h => ⟨name, rfl, h⟩, ?_⟩
    rintro ⟨_, e, h⟩
    cases e
    exact h
  | _ => simp [CTypes.structModule?]

/-- A header includes the headers of the other modules that struct references name. -/
theorem include_mem_iff {module : String} :
    .module module ∈ (g.headerOf types types m).includes ↔
      module ≠ m.name ∧ ∃ name, .struct name ∈ (g.inputOf types m).mentioned ∧
        ∃ t ∈ types.entries, t.name = name ∧ t.module = module := by
  have hreferenced : .module module ∈ (g.headerOf types types m).includes ↔
      module ∈ (g.inputOf types m).referencedModules := by
    change Include.module module ∈ (g.inputOf types m).includes ↔ _
    rw [HeaderInput.includes]
    split <;> split <;> simp
  rw [hreferenced, HeaderInput.referencedModules, List.mem_mergeSort, List.mem_eraseDups,
    List.mem_filter, List.mem_filterMap, and_comm]
  refine and_congr decide_eq_true_iff ?_
  constructor
  · rintro ⟨ty, hty, hmodule⟩
    obtain ⟨name, rfl, ht⟩ := structModule?_eq_some.1 hmodule
    exact ⟨name, hty, ht⟩
  · rintro ⟨name, hname, ht⟩
    exact ⟨_, hname, structModule?_eq_some.2 ⟨name, rfl, ht⟩⟩

/-! ### Where references lead -/

/-- A module has a header if and only if it is not reserved and has a type of a known kind. -/
theorem hasHeader_iff (hm : m ∈ types.modules) :
    g.HasHeader types m ↔ g.isReserved m.name = false ∧
      ∃ t ∈ types.entries, t.module = m.name ∧ (g.catalog.resolve? t.subjectKind?).isSome = true := by
  refine and_congr_right fun _ => ?_
  rw [isListed, List.any_eq_true]
  constructor
  · rintro ⟨t, ht, hlisted⟩
    obtain ⟨ht, hmodule⟩ := (TypeMap.mem_types_of_mem_modules hm).1 ht
    exact ⟨t, ht, hmodule, (type?_isSome_iff ht).1 hlisted⟩
  · rintro ⟨t, ht, hmodule, hknown⟩
    exact ⟨t, (TypeMap.mem_types_of_mem_modules hm).2 ⟨ht, hmodule⟩, (type?_isSome_iff ht).2 hknown⟩

/-- The struct references of a header lead somewhere: every header that it includes is one of the run,
and every struct that it spells is declared by itself or by one that it includes. -/
structure ReferencesResolve (g : CApi) (types : TypeMap) (m : Module) : Prop where
  included : ∀ module, .module module ∈ (g.headerOf types types m).includes →
    ModuleHeader.fileOf module = g.options.runtimeHeader ∨
      ∃ m' ∈ types.modules, g.HasHeader types m' ∧ m'.name = module
  declared : ∀ name, Spells (g.inputOf types m) name →
    Declares (g.headerOf types types m) name ∨
      ∃ m' ∈ types.modules, g.HasHeader types m' ∧
        .module m'.name ∈ (g.headerOf types types m).includes ∧
        Declares (g.headerOf types types m') name

/-- The registered types that a header refers to are generated: every struct that it spells is of a
known kind and in a module that is not reserved, and every other module that a struct reference of it
names has a header, or would take the place of the runtime header. -/
structure ReferencesGenerated (g : CApi) (types : TypeMap) (m : Module) : Prop where
  spelled : ∀ t ∈ types.entries, Spells (g.inputOf types m) t.name →
    (g.catalog.resolve? t.subjectKind?).isSome = true ∧ g.isReserved t.module = false
  mentioned : ∀ t ∈ types.entries, .struct t.name ∈ (g.inputOf types m).mentioned →
    t.module ≠ m.name → ModuleHeader.fileOf t.module = g.options.runtimeHeader ∨
      g.isReserved t.module = false ∧ ∃ u ∈ types.entries, u.module = t.module ∧
        (g.catalog.resolve? u.subjectKind?).isSome = true

/-- The references of a header lead somewhere if and only if the types they name are generated. -/
theorem referencesResolve_iff (hm : m ∈ types.modules) (hh : g.HasHeader types m) :
    ReferencesResolve g types m ↔ ReferencesGenerated g types m := by
  constructor
  · intro h
    constructor
    · intro t ht hspells
      rcases h.declared t.name hspells with hd | ⟨m', hm', hh', -, hd⟩
      · obtain ⟨u, hu, hname, -, hmodule, hknown⟩ := (declares_iff hm).1 hd
        have e : u = t := Manifest.eq_of_name hu ht hname
        rw [← e, hmodule]
        exact ⟨hknown, hh.1⟩
      · obtain ⟨u, hu, hname, -, hmodule, hknown⟩ := (declares_iff hm').1 hd
        have e : u = t := Manifest.eq_of_name hu ht hname
        rw [← e, hmodule]
        exact ⟨hknown, hh'.1⟩
    · intro t ht hmentioned hne
      have hinclude := include_mem_iff.2 ⟨hne, t.name, hmentioned, t, ht, rfl, rfl⟩
      refine (h.included _ hinclude).imp id ?_
      rintro ⟨m', hm', hh', hname⟩
      rw [← hname]
      exact (hasHeader_iff hm').1 hh'
  · intro h
    constructor
    · intro module hinclude
      obtain ⟨hne, name, hmentioned, t, ht, rfl, rfl⟩ := include_mem_iff.1 hinclude
      refine (h.mentioned t ht hmentioned hne).imp id ?_
      intro hgenerated
      obtain ⟨m', hm', hname⟩ := TypeMap.exists_module ht
      rw [← hname] at hgenerated
      exact ⟨m', hm', (hasHeader_iff hm').2 hgenerated, hname⟩
    · intro name hspells
      obtain ⟨t, ht, rfl, hkind⟩ := hspells.exists_struct hm
      obtain ⟨hknown, hfree⟩ := h.spelled t ht hspells
      by_cases hmodule : t.module = m.name
      · exact .inl ((declares_iff hm).2 ⟨t, ht, rfl, hkind, hmodule, hknown⟩)
      · obtain ⟨m', hm', hname⟩ := TypeMap.exists_module ht
        refine .inr ⟨m', hm', ?_, ?_, ?_⟩
        · exact (hasHeader_iff hm').2 ⟨hname ▸ hfree, t, ht, hname.symm, hknown⟩
        · rw [hname]
          exact include_mem_iff.2 ⟨hmodule, t.name, hspells.mentioned, t, ht, rfl, rfl⟩
        · exact (declares_iff hm').2 ⟨t, ht, rfl, hkind, hname.symm, hknown⟩

/-- A run writes the headers of its modules, with a line for each struct that they declare. The struct
references of a header lead somewhere if and only if the types that they name are generated. -/
theorem struct_references (g : CApi) (dirs : OutputDirs) (types : TypeMap) (files files' : FileStore)
    (report : Report) (hdirs : g.dirs? = some dirs)
    (hrun : g.generate types types files = (.ok report, files')) (m : Module) (hm : m ∈ types.modules)
    (hh : g.HasHeader types m) :
    headerPath dirs m ∈ report.files ∧
      (∀ name, Declares (g.headerOf types types m) name →
        "typedef struct " ++ name ++ " " ++ name ++ ";" ∈ (g.headerOf types types m).lines) ∧
      (ReferencesResolve g types m ↔ ReferencesGenerated g types m) := by
  obtain ⟨-, hfiles⟩ := Plan.report_of_execute (execute_of_generate hdirs hrun)
  refine ⟨?_, fun name hd => hd.line_mem, referencesResolve_iff hm hh⟩
  rw [hfiles.mem_iff]
  exact List.mem_map_of_mem (headerOutput_mem hm hh)

/-- The generator of the builtin kinds. -/
def plain : CApi := { dirs? := some ⟨.ofText "include", .ofText "src"⟩ }

/-- A struct that refers to itself. -/
def node : TypeMap where
  entries := [{
    name := "Node", kind := .struct, properties := [{ name := "next", type := .struct "Node" }] }]
  nodup := by decide

theorem struct_references_node :
    ∃ report files, plain.generate node node .empty = (.ok report, files) ∧
      ∃ m ∈ node.modules, plain.HasHeader node m ∧ ReferencesResolve plain node m := by
  have hok : (plain.generate node node .empty).1.toOption.isSome = true := by decide +kernel
  obtain ⟨report, files, hrun⟩ := exists_report hok
  have hm : Module.ofTypes "node" node.entries ∈ node.modules := by decide +kernel
  have hh : plain.HasHeader node (Module.ofTypes "node" node.entries) := by decide +kernel
  have hknown : ∀ t ∈ node.entries, (plain.catalog.resolve? t.subjectKind?).isSome = true ∧
      plain.isReserved t.module = false ∧ t.module = "node" := by decide
  refine ⟨report, files, hrun, _, hm, hh, ?_⟩
  refine (struct_references plain _ node _ _ report rfl hrun _ hm hh).2.2.2 ⟨?_, ?_⟩
  · exact fun t ht _ => ⟨(hknown t ht).1, (hknown t ht).2.1⟩
  · exact fun t ht _ hne => absurd (hknown t ht).2.2 hne

/-! ### A reference that leads nowhere -/

/-- A struct of an unknown kind, and an object with a function that takes it. -/
def haunted : TypeMap where
  entries := [
    { name := "Ghost", kind := .struct, subjectKind? := some "Nope" },
    { name := "Widget", kind := .object,
      functions := [{ name := "haunt", paramTypes := [.struct "Ghost"], callable? := some .host }] }]
  nodup := by decide

theorem sortedTypes_haunted : Manifest.sortedTypes haunted = haunted.entries :=
  List.mergeSort_of_pairwise (by decide)

theorem sorted_haunted : haunted.sorted = haunted.entries := List.mergeSort_of_pairwise (by decide)

theorem moduleNames_haunted : haunted.moduleNames = ["ghost", "widget"] :=
  List.mergeSort_of_pairwise (by decide)

theorem generate_haunted :
    (plain.generate haunted haunted .empty).1.toOption.map (fun r => r.files.map Path.text) =
      some ["include/widget.h", "src/widget.c", "include/dombind_runtime.h",
        "include/bindings_manifest.json"] := by
  simp only [generate, plain, plan, planIn, moduleParts, finalManifest, reservedModules, Manifest.build,
    Manifest.contributions, TypeMap.modules, sortedTypes_haunted, sorted_haunted, moduleNames_haunted]
  decide +kernel

/-- The module of the object. -/
def hauntedModule : Module := .ofTypes "widget" [haunted.entries[1]]

theorem hauntedModule_mem : hauntedModule ∈ haunted.modules := by
  rw [TypeMap.modules, moduleNames_haunted, sorted_haunted]
  decide +kernel

theorem hasHeader_haunted : plain.HasHeader haunted hauntedModule :=
  (hasHeader_iff hauntedModule_mem).2 (by decide)

theorem include_haunted :
    .module "ghost" ∈ (plain.headerOf haunted haunted hauntedModule).includes := by
  simp only [headerOf, headerInput, definitions, built, Manifest.build, Manifest.contributions,
    sortedTypes_haunted]
  decide +kernel

/-- The run completes, and the header of the object includes the header of the struct, but there is no
such header. -/
theorem references_dangle_haunted :
    ∃ report files, plain.generate haunted haunted .empty = (.ok report, files) ∧
      report.files.map Path.text = ["include/widget.h", "src/widget.c", "include/dombind_runtime.h",
        "include/bindings_manifest.json"] ∧
      ∃ m ∈ haunted.modules, plain.HasHeader haunted m ∧
        .module "ghost" ∈ (plain.headerOf haunted haunted m).includes ∧
        ¬ ReferencesResolve plain haunted m := by
  obtain ⟨report, files, hrun, hfiles⟩ := exists_report_of_map generate_haunted
  refine ⟨report, files, hrun, hfiles, hauntedModule, hauntedModule_mem, hasHeader_haunted,
    include_haunted, ?_⟩
  intro h
  rcases h.included "ghost" include_haunted with hruntime | ⟨m', hm', hh', hname⟩
  · exact absurd hruntime (by decide)
  · have hghost := ((hasHeader_iff hm').1 hh').2
    rw [hname] at hghost
    exact absurd hghost (by decide)

end Bindery.CApi
