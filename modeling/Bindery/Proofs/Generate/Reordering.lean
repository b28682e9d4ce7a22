import Bindery.Generate.CApi
import Bindery.Proofs.Manifest.Reordering
/-!
A run does not depend on the order of registration. It starts from the same manifest, goes through the
same modules, and nothing that a header or a source is made from looks at the functions of a type,
except at whether it has any that are exported: a header takes its functions from the manifest, and an
emitter that looks at the binding alone writes the same definition. So the plan of the run is the same,
with its errors in the same order, and so is what carrying it out does to any files.
-/

namespace Bindery

variable {snapshot snapshot' : TypeMap} {order : String → List FunctionEntry}

/-! ### Headers -/

namespace HeaderInput

/-- The input with the functions of its types replaced, in view of other registered types. -/
def reorder (order : String → List FunctionEntry) (types : TypeMap) (i : HeaderInput) : HeaderInput :=
  { i with module := i.module.reorder order, ctypes := .ofTypes types }

variable (i : HeaderInput)

theorem enums_reorder : (i.reorder order snapshot').enums = i.enums.map (·.reorder order) :=
  List.filter_map

theorem structs_reorder : (i.reorder order snapshot').structs = i.structs.map (·.reorder order) :=
  List.filter_map

theorem aliases_reorder : (i.reorder order snapshot').aliases = i.aliases.map (·.reorder order) :=
  List.filter_map

theorem mentioned_reorder : (i.reorder order snapshot').mentioned = i.mentioned := by
  rw [mentioned, mentioned, structs_reorder, aliases_reorder, List.flatMap_map, List.filterMap_map]
  rfl

theorem usesHandle_reorder : (i.reorder order snapshot').usesHandle = i.usesHandle := by
  rw [usesHandle, usesHandle, structs_reorder, aliases_reorder, List.flatMap_map, List.any_map]
  rfl

theorem subjectNotes_reorder :
    (i.module.reorder order).subjects.filterMap (subjectNote? i.manifest) =
      i.module.subjects.filterMap (subjectNote? i.manifest) := by
  rw [Module.subjects_reorder, List.filterMap_map]
  rfl

section Types

variable (h : snapshot.SameOutline snapshot') (t : TypeEntry)
include h

theorem fields_reorder :
    fields (.ofTypes snapshot') (t.reorder order) = fields (.ofTypes snapshot) t := by
  rw [fields, fields, h.valueSpelling?]
  rfl

theorem structDecl_reorder :
    structDecl (.ofTypes snapshot') (t.reorder order) = structDecl (.ofTypes snapshot) t := by
  rw [structDecl, structDecl, fields_reorder h]
  rfl

theorem aliasSpelling?_reorder :
    aliasSpelling? (.ofTypes snapshot') (t.reorder order) = aliasSpelling? (.ofTypes snapshot) t := by
  rw [aliasSpelling?, aliasSpelling?, h.valueSpelling?, TypeEntry.target?_reorder]

theorem aliasDecl_reorder :
    aliasDecl (.ofTypes snapshot') (t.reorder order) = aliasDecl (.ofTypes snapshot) t := by
  rw [aliasDecl, aliasDecl, aliasSpelling?_reorder h]
  rfl

theorem aliasErrors_reorder :
    aliasErrors (.ofTypes snapshot') (t.reorder order) = aliasErrors (.ofTypes snapshot) t := by
  rw [aliasErrors, aliasErrors, aliasSpelling?_reorder h]
  rfl

omit t in
theorem needsStdint_reorder (m : Module) (fs : List FunctionBinding) :
    needsStdint (m.reorder order) fs (.ofTypes snapshot') = needsStdint m fs (.ofTypes snapshot) := by
  have hwidth : isFixedWidth (.ofTypes snapshot') = isFixedWidth (.ofTypes snapshot) := by
    funext ty
    rw [isFixedWidth, isFixedWidth, h.valueSpelling?]
  simp [needsStdint, hwidth, Module.reorder, List.flatMap_map, List.filterMap_map, Function.comp_def]

end Types

section Header

variable (h : snapshot.SameOutline snapshot') (hi : i.ctypes = .ofTypes snapshot)
include h hi

theorem includes_reorder : (i.reorder order snapshot').includes = i.includes := by
  rw [includes, includes, referencedModules, referencedModules, mentioned_reorder,
    usesHandle_reorder, hi]
  simp only [reorder, needsStdint_reorder h, h.structModule?]
  rfl

/-- The header of a module does not depend on the functions of its types. -/
theorem header_reorder : (i.reorder order snapshot').header = i.header := by
  rw [header, header, includes_reorder i h hi, enums_reorder, structs_reorder, aliases_reorder, hi,
    List.map_map, List.map_map, List.map_map]
  have hstructs : structDecl (.ofTypes snapshot') ∘ (·.reorder order) =
      structDecl (.ofTypes snapshot) := funext (structDecl_reorder h)
  have haliases : aliasDecl (.ofTypes snapshot') ∘ (·.reorder order) =
      aliasDecl (.ofTypes snapshot) := funext (aliasDecl_reorder h)
  simp only [reorder, hstructs, haliases, subjectNotes_reorder]
  rfl

theorem errors_reorder : (i.reorder order snapshot').errors = i.errors := by
  rw [errors, errors, enums_reorder, structs_reorder, aliases_reorder, hi, List.flatMap_map,
    List.flatMap_map, List.flatMap_map]
  simp only [reorder, fields_reorder h, aliasErrors_reorder h]
  rfl

end Header

end HeaderInput

namespace CApi

variable {g : CApi} {dirs : OutputDirs} {types types' : TypeMap} {manifest : Manifest} {m : Module}

/-! ### Bodies -/

/-- Emitters that look at the binding alone. -/
def ReadsBinding (emitters : Emitters) : Prop :=
  ∀ e ∈ emitters, ∀ c c' : EmitContext, c.binding = c'.binding → e.2 c = e.2 c'

theorem mem_of_lookup {α β : Type} [BEq α] [LawfulBEq α] {a : α} {b : β} :
    ∀ {l : List (α × β)}, l.lookup a = some b → (a, b) ∈ l
  | (a', b') :: l, h => by
    rw [List.lookup_cons] at h
    split at h
    · rename_i e
      rw [Option.some.inj h, eq_of_beq e]
      exact List.mem_cons_self
    · exact List.mem_cons_of_mem _ (mem_of_lookup h)

/-- Such emitters write the same whatever types and module surround the function. -/
theorem emit_reorder {emitters : Emitters} (he : ReadsBinding emitters) (m m' : Module) :
    Source.emit emitters types' m' = Source.emit emitters types m := by
  funext subject f
  rw [Source.emit, Source.emit]
  cases Definition.ofBinding? f with
  | some d => rfl
  | none =>
    cases hlookup : emitters.lookup f.subjectKind with
    | none => rfl
    | some emitter =>
      have hsame := he _ (mem_of_lookup hlookup)
        { function? := f.source? types', binding := f, module := m', subject }
        { function? := f.source? types, binding := f, module := m, subject } rfl
      dsimp only at hsame ⊢
      rw [hsame]

theorem exportsByName_isEmpty (t : TypeEntry) :
    t.exportsByName.isEmpty = t.exportedFunctions.isEmpty := (List.mergeSort_perm _ _).isEmpty_eq

/-- A module has functions to give a body to, whichever are not exported. -/
theorem hasFunctions_reorder
    (hexports : ∀ t ∈ m.types, (t.reorder order).exportsByName = t.exportsByName) :
    (m.reorder order).hasFunctions = m.hasFunctions := by
  rw [Module.hasFunctions, Module.hasFunctions, Module.nonEnums_reorder, List.any_map,
    Bool.eq_iff_iff, List.any_eq_true, List.any_eq_true]
  refine exists_congr fun t => and_congr_right fun ht => ?_
  rw [Function.comp_apply, ← exportsByName_isEmpty, hexports t (List.mem_append_right _ ht),
    exportsByName_isEmpty]

/-! ### The run -/

section Run

variable (htypes : types.SameExports types') (hsnapshot : snapshot.SameOutline snapshot')
  (he : ReadsBinding g.emitters)
include htypes he

theorem bodies_reorder (hm : m ∈ types.modules) :
    g.bodies types' manifest (m.reorder types'.functionsOf) = g.bodies types manifest m := by
  have hexports : ∀ t ∈ m.types, (t.reorder types'.functionsOf).exportsByName = t.exportsByName :=
    fun t ht => htypes.exports t ((TypeMap.mem_types_of_mem_modules hm).1 ht).1
  rw [bodies, bodies, hasFunctions_reorder hexports, Module.name_reorder,
    emit_reorder he m (m.reorder types'.functionsOf)]

include hsnapshot

/-- A module adds the same to a run. -/
theorem modulePart_reorder (hm : m ∈ types.modules) :
    g.modulePart dirs types' snapshot' manifest (m.reorder types'.functionsOf) =
      g.modulePart dirs types snapshot manifest m := by
  have hlisted : isListed manifest (m.reorder types'.functionsOf) = isListed manifest m := by
    rw [isListed, isListed, Module.types_reorder, List.any_map]
    rfl
  have hheader (fs : List FunctionBinding) :
      (g.headerInput snapshot' manifest (m.reorder types'.functionsOf) fs).header =
        (g.headerInput snapshot manifest m fs).header :=
    HeaderInput.header_reorder (g.headerInput snapshot manifest m fs) hsnapshot rfl
  have herrors (fs : List FunctionBinding) :
      (g.headerInput snapshot' manifest (m.reorder types'.functionsOf) fs).errors =
        (g.headerInput snapshot manifest m fs).errors :=
    HeaderInput.errors_reorder (g.headerInput snapshot manifest m fs) hsnapshot rfl
  rw [modulePart, modulePart, bodies_reorder htypes he hm, hlisted]
  simp only [hheader, herrors, Module.name_reorder]

/-- The plan of a run depends on the exported functions of each type alone: it is the same, with the
same errors in the same order. -/
theorem planIn_congr : g.planIn dirs types' snapshot' = g.planIn dirs types snapshot := by
  have hparts (manifest : Manifest) : g.moduleParts dirs types' snapshot' manifest =
      g.moduleParts dirs types snapshot manifest := by
    rw [moduleParts, moduleParts, htypes.outline.modules, List.map_map]
    exact List.map_congr_left fun m hm => modulePart_reorder htypes hsnapshot he hm
  simp only [planIn, finalManifest, reservedModules, Manifest.build_congr htypes, hparts,
    htypes.outline.moduleNames]

end Run

/-- It does not depend on the order of registration. -/
theorem planIn_reorder (htypes : types.Reordered types') (hsnapshot : snapshot.Reordered snapshot')
    (hnames : ∀ t ∈ types.entries, (t.functions.map (·.name)).Nodup) (he : ReadsBinding g.emitters) :
    g.planIn dirs types' snapshot' = g.planIn dirs types snapshot :=
  planIn_congr (htypes.sameExports hnames) hsnapshot.sameOutline he

/-- Generation does not depend on the order of registration, neither that of the types nor that of the
functions in them. -/
theorem generate_reordered (g : CApi) (types types' snapshot snapshot' : TypeMap)
    (htypes : types.Reordered types') (hsnapshot : snapshot.Reordered snapshot')
    (hnames : ∀ t ∈ types.entries, (t.functions.map (·.name)).Nodup)
    (hemitters : ReadsBinding g.emitters) :
    Manifest.build types' g.catalog = Manifest.build types g.catalog ∧
      ∀ files, g.generate types' snapshot' files = g.generate types snapshot files := by
  refine ⟨Manifest.build_reorder htypes hnames, fun files => ?_⟩
  have hplan : g.plan types' snapshot' = g.plan types snapshot := by
    rw [plan, plan]
    cases g.dirs? with
    | none => rfl
    | some dirs => exact congrArg _ (planIn_reorder htypes hsnapshot hnames hemitters)
  rw [generate, generate, hplan]

/-- Two functions that share a symbol, and a type beside theirs. -/
def library : TypeMap where
  entries := [
    { name := "Book", kind := .object,
      functions := [
        { name := "open", symbol? := some "Book_turn", callable? := some .host },
        { name := "close", symbol? := some "Book_turn", callable? := some .host }] },
    { name := "Shelf", kind := .object, subjectKind? := some "Custom",
      functions := [{ name := "sort", callable? := some .host }] }]
  nodup := by decide

/-- The same types, the last first, and the functions of the first type exchanged. -/
def libraryBackwards : TypeMap where
  entries := [
    { name := "Shelf", kind := .object, subjectKind? := some "Custom",
      functions := [{ name := "sort", callable? := some .host }] },
    { name := "Book", kind := .object,
      functions := [
        { name := "close", symbol? := some "Book_turn", callable? := some .host },
        { name := "open", symbol? := some "Book_turn", callable? := some .host }] }]
  nodup := by decide

theorem library_reordered : library.Reordered libraryBackwards := by
  intro name
  by_cases hbook : "Book" = name
  · subst hbook
    exact .some ⟨.swap _ _ _, rfl⟩
  · by_cases hshelf : "Shelf" = name
    · subst hshelf
      exact .some ⟨.refl _, rfl⟩
    · simp [TypeMap.get?, library, libraryBackwards, hbook, hshelf]

/-- The generator of the builtin kinds, with an emitter that repeats the prototype. -/
def echoing : CApi where
  dirs? := some ⟨.ofText "include", .ofText "src"⟩
  emitters := [("Custom", fun c => some (c.binding.signature ++ ";\n"))]

theorem generate_reordered_library :
    (library.Reordered libraryBackwards ∧ library.names ≠ libraryBackwards.names ∧
      (∀ t ∈ library.entries, (t.functions.map (·.name)).Nodup) ∧ ReadsBinding echoing.emitters) ∧
      ∀ files, echoing.generate libraryBackwards libraryBackwards files =
        echoing.generate library library files := by
  have hemitters : ReadsBinding echoing.emitters := by
    intro e he c c' hc
    rw [List.mem_singleton.1 he]
    exact congrArg (fun b : FunctionBinding => some (b.signature ++ ";\n")) hc
  have hnames : ∀ t ∈ library.entries, (t.functions.map (·.name)).Nodup := by decide
  exact ⟨⟨library_reordered, by decide, hnames, hemitters⟩,
    (generate_reordered echoing library libraryBackwards library libraryBackwards library_reordered
      library_reordered hnames hemitters).2⟩

end CApi

end Bindery
