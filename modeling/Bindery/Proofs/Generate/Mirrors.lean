import Bindery.Proofs.Generate.References
import Bindery.Proofs.Header.Mirrors
import Bindery.Proofs.Modules.Partition
/-!
The types in the headers of a run. A header has a section for the enums, one for the structs and one for
the aliases of its module. What the sections and the errors are made from are the types of a known kind,
in order of their names; a type of an unknown kind leaves no trace in either. Each type is mirrored in
its section as far as it can be, and what is missing is in the errors.
-/

namespace Bindery

namespace CApi

variable {g : CApi} {dirs : OutputDirs} {types snapshot : TypeMap} {m : Module} {t : TypeEntry}
  {kind : EntryKind}

/-- Whether the subject kind of a type is known. -/
def Classifies (g : CApi) (t : TypeEntry) : Prop := (g.catalog.resolve? t.subjectKind?).isSome = true

instance : DecidablePred g.Classifies := fun _ => inferInstanceAs (Decidable (_ = _))

/-- The types of a module that have some kind and whose subject kind is known, in order of their
names. -/
def classified (g : CApi) (types : TypeMap) (module : String) (kind : EntryKind) : List TypeEntry :=
  (types.typesIn module).filter fun t => t.kind = kind ∧ g.Classifies t

theorem mem_classified {module : String} :
    t ∈ g.classified types module kind ↔
      t ∈ types.entries ∧ t.module = module ∧ t.kind = kind ∧ g.Classifies t := by
  rw [classified, List.mem_filter, TypeMap.mem_typesIn, decide_eq_true_iff, and_assoc]

/-- The types of a module that the manifest lists are those whose kind is known. -/
theorem listed_bucket (hm : m ∈ types.modules) (functions : List FunctionBinding) (kind : EntryKind) :
    (g.headerInput snapshot (g.built types) m functions).listed (m.bucket kind) =
      g.classified types m.name kind := by
  rw [HeaderInput.listed, TypeMap.bucket_eq hm, List.filter_filter, classified]
  refine List.filter_congr fun t ht => ?_
  have hlisted : ((g.built types).type? t.name).isSome = true ↔ g.Classifies t :=
    type?_isSome_iff (TypeMap.mem_typesIn.1 ht).1
  rw [Bool.eq_iff_iff, Bool.and_eq_true, decide_eq_true_iff, decide_eq_true_iff, and_comm]
  exact and_congr_right fun _ => hlisted

/-- What was left out of the types of a module: constants, then fields, then aliases. -/
def typeErrors (g : CApi) (types snapshot : TypeMap) (module : String) : List BindingError :=
  (g.classified types module .enum).flatMap (fun t => (CType.constants t).2) ++
    (g.classified types module .struct).flatMap (fun t =>
      (HeaderInput.fields (.ofTypes snapshot) t).2) ++
    (g.classified types module .alias).flatMap (HeaderInput.aliasErrors (.ofTypes snapshot))

/-- How the header of a module mirrors the types of the module: what it says of them in its lines, and
what the errors of the module say of them. -/
structure TypesMirrored (g : CApi) (dirs : OutputDirs) (types snapshot : TypeMap) (m : Module) :
    Prop where
  written : (g.modulePart dirs types snapshot (g.built types) m).outputs.head? =
    some ⟨headerPath dirs m, Text.ofLines (g.headerOf types snapshot m).lines⟩
  /-- Besides sections about subjects and functions there is one for each kind of mirrored types, and
  all structs are declared before the first one is defined. -/
  lines : (g.headerOf types snapshot m).lines =
    (g.headerOf types snapshot m).opening ++
      ModuleHeader.sectionLines "Enums" (g.classified types m.name .enum).isEmpty
        ((g.classified types m.name .enum).flatMap fun t => (HeaderInput.enumDecl t).lines) ++
      ModuleHeader.sectionLines "Structs" (g.classified types m.name .struct).isEmpty
        ((g.classified types m.name .struct).map (fun t =>
            (HeaderInput.structDecl (.ofTypes snapshot) t).forward) ++ [""] ++
          (g.classified types m.name .struct).flatMap fun t =>
            (HeaderInput.structDecl (.ofTypes snapshot) t).bodyLines) ++
      ModuleHeader.sectionLines "Aliases" (g.classified types m.name .alias).isEmpty
        ((g.classified types m.name .alias).flatMap fun t =>
          (HeaderInput.aliasDecl (.ofTypes snapshot) t).lines) ++
      (g.headerOf types snapshot m).subjectLines ++ (g.headerOf types snapshot m).functionLines ++
      (g.headerOf types snapshot m).closing
  /-- The errors of the module are those about functions without a body and those about its types. -/
  errors : (g.modulePart dirs types snapshot (g.built types) m).errors =
    (skipped (g.bodies types (g.built types) m)).map (·.2) ++ g.typeErrors types snapshot m.name
  enums : ∀ t ∈ g.classified types m.name .enum,
    EnumMirrored t (HeaderInput.enumDecl t).lines (CType.constants t).2
  structs : ∀ t ∈ g.classified types m.name .struct,
    StructMirrored (.ofTypes snapshot) t (HeaderInput.structDecl (.ofTypes snapshot) t).forward
      (HeaderInput.structDecl (.ofTypes snapshot) t).bodyLines
      (HeaderInput.fields (.ofTypes snapshot) t).2
  aliases : ∀ t ∈ g.classified types m.name .alias,
    AliasMirrored (.ofTypes snapshot) t (HeaderInput.aliasDecl (.ofTypes snapshot) t).lines
      (HeaderInput.aliasErrors (.ofTypes snapshot) t)
  /-- The other sections, too, are about types of a known kind only. -/
  subjects : ∀ s ∈ (g.headerOf types snapshot m).subjects, ∃ kind,
    ∃ t ∈ g.classified types m.name kind, t.name = s.name
  functions : (g.headerOf types snapshot m).functions =
      ((g.definitions types m).map (·.1)).map (fun f => ⟨f.doc, f.signature⟩) ∧
    ∀ f ∈ (g.definitions types m).map (·.1), ∃ kind,
      ∃ t ∈ g.classified types m.name kind, t.name = f.owner
  /-- No error is about a mirror of a type of an unknown kind. -/
  unclassified : ∀ t ∈ types.entries, ¬ g.Classifies t →
    ∀ member what, .unmappableType t.name member what ∉ g.typeErrors types snapshot m.name

/-- The errors about the types of a module name a type of it whose kind is known. -/
theorem classifies_of_typeErrors {module owner member : String} {what : Unmappable}
    (h : .unmappableType owner member what ∈ g.typeErrors types snapshot module) :
    ∃ t ∈ types.entries, t.name = owner ∧ g.Classifies t := by
  simp only [typeErrors, List.mem_append, List.mem_flatMap] at h
  rcases h with (⟨t, ht, he⟩ | ⟨t, ht, he⟩) | ⟨t, ht, he⟩
  · rw [CType.constants_eq] at he
    obtain ⟨_, -, e⟩ := List.mem_map.1 he
    cases e
    exact ⟨t, (mem_classified.1 ht).1, rfl, (mem_classified.1 ht).2.2.2⟩
  · rw [HeaderInput.fields_eq] at he
    obtain ⟨_, -, e⟩ := List.mem_map.1 he
    cases e
    exact ⟨t, (mem_classified.1 ht).1, rfl, (mem_classified.1 ht).2.2.2⟩
  · rw [HeaderInput.aliasErrors] at he
    split at he
    · cases he
    · cases List.mem_singleton.1 he
      exact ⟨t, (mem_classified.1 ht).1, rfl, (mem_classified.1 ht).2.2.2⟩

/-- A registered type whose name the manifest lists is classified. -/
theorem exists_classified (ht : t ∈ types.entries) (hmodule : t.module = m.name)
    (hlisted : ((g.built types).type? t.name).isSome = true) :
    ∃ kind, ∃ u ∈ g.classified types m.name kind, u.name = t.name :=
  ⟨t.kind, t, mem_classified.2 ⟨ht, hmodule, rfl, (type?_isSome_iff ht).1 hlisted⟩, rfl⟩

theorem modulePart_errors (hh : g.HasHeader types m) :
    (g.modulePart dirs types snapshot (g.built types) m).errors =
      (skipped (g.bodies types (g.built types) m)).map (·.2) ++
        (g.headerInput snapshot (g.built types) m ((g.definitions types m).map (·.1))).errors := by
  rw [modulePart, hh.1, hh.2]
  rfl

/-- Every type of a module is mirrored in the header of the module or reported, member by member. -/
theorem types_mirrored (g : CApi) (dirs : OutputDirs) (types snapshot : TypeMap) (m : Module)
    (hm : m ∈ types.modules) (hh : g.HasHeader types m) :
    g.TypesMirrored dirs types snapshot m := by
  have hlisted (kind : EntryKind) :
      (g.headerInput snapshot (g.built types) m ((g.definitions types m).map (·.1))).listed
        (m.bucket kind) = g.classified types m.name kind := listed_bucket hm _ kind
  have henums : HeaderInput.enums _ = _ := hlisted .enum
  have hstructs : HeaderInput.structs _ = _ := hlisted .struct
  have haliases : HeaderInput.aliases _ = _ := hlisted .alias
  constructor
  case written => exact head?_outputs_modulePart hh
  case lines =>
    rw [ModuleHeader.lines_eq, ModuleHeader.enumLines, ModuleHeader.structLines,
      ModuleHeader.aliasLines]
    simp only [headerOf, HeaderInput.header, henums, hstructs, haliases, List.isEmpty_map,
      List.flatMap_map, List.map_map]
    rfl
  case errors =>
    rw [modulePart_errors hh, HeaderInput.errors, henums, hstructs, haliases]
    rfl
  case enums => exact fun t _ => enumMirrored t
  case structs => exact fun t _ => structMirrored _ t
  case aliases => exact fun t _ => aliasMirrored _ t
  case subjects =>
    intro s hs
    obtain ⟨t, ht, hnote⟩ := List.mem_filterMap.1 hs
    obtain ⟨b, hb, rfl⟩ := Option.map_eq_some_iff.1 hnote
    have hmem : t ∈ m.types := List.mem_append_right _ (List.mem_append_right _ ht)
    obtain ⟨hentry, hmodule⟩ := (TypeMap.mem_types_of_mem_modules hm).1 hmem
    exact exists_classified hentry hmodule (Option.isSome_iff_exists.2 ⟨b, hb⟩)
  case functions =>
    refine ⟨rfl, fun f hf => ?_⟩
    obtain ⟨⟨f, text⟩, hmem, rfl⟩ := List.mem_map.1 hf
    obtain ⟨hbuilt, hmodule⟩ := mem_functionsOf.1 ((mem_bodies hm).1 (mem_emitted.1 hmem)).1
    obtain ⟨t, ht, hname, htmodule, -, -, subject, hsubject⟩ := owner_of_built hbuilt
    rw [← hname] at hsubject ⊢
    exact exists_classified ht (htmodule.trans hmodule) (Option.isSome_iff_exists.2 ⟨_, hsubject⟩)
  case unclassified =>
    intro t ht hunknown member what he
    obtain ⟨u, hu, hname, hknown⟩ := classifies_of_typeErrors he
    exact hunknown (Manifest.eq_of_name hu ht hname ▸ hknown)

/-- An alias of nothing, an enum with a constant that does not fit, a struct of an unknown kind, and two
structs of which one has a field without a C type. -/
def gallery : TypeMap where
  entries := [
    { name := "Area", kind := .alias, fileStem := "shapes" },
    { name := "Color", kind := .enum, fileStem := "shapes"
      enumerators := [⟨"Red", -1⟩, ⟨"Far", 0x80000000⟩, ⟨"Blue", 0x7fffffff⟩] },
    { name := "Ghost", kind := .struct, fileStem := "shapes", subjectKind? := some "Nope"
      properties := [{ name := "mode", type := .enum "Mode" }] },
    { name := "Point", kind := .struct, fileStem := "shapes"
      properties := [{ name := "x", type := .float }, { name := "color", type := .enum "Color" }] },
    { name := "Slot", kind := .struct, fileStem := "shapes"
      properties := [{ name := "owner", type := .handle }, { name := "mode", type := .enum "Mode" }] }]
  nodup := by decide

theorem sorted_gallery : gallery.sorted = gallery.entries := List.mergeSort_of_pairwise (by decide)

/-- The module of all of them. -/
def galleryModule : Module := .ofTypes "shapes" gallery.entries

theorem galleryModule_mem : galleryModule ∈ gallery.modules := by
  have hnames : gallery.moduleNames = ["shapes"] := List.mergeSort_singleton _
  rw [TypeMap.modules, hnames, sorted_gallery]
  decide +kernel

theorem types_mirrored_gallery :
    plain.TypesMirrored ⟨.ofText "include", .ofText "src"⟩ gallery gallery galleryModule ∧
      plain.typeErrors gallery gallery "shapes" = [
        .unmappableType "Color" "Far" (.constant 0x80000000),
        .unmappableType "Slot" "mode" (.type (.enum "Mode")),
        .unmappableType "Area" "Area" .noTarget] := by
  have hh : plain.HasHeader gallery galleryModule := (hasHeader_iff galleryModule_mem).2 (by decide)
  refine ⟨types_mirrored plain _ gallery gallery galleryModule galleryModule_mem hh, ?_⟩
  simp only [typeErrors, classified, TypeMap.typesIn, sorted_gallery]
  decide +kernel

end CApi

end Bindery
