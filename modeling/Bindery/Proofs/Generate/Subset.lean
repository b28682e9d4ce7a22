import Bindery.Proofs.Document.Reading
import Bindery.Proofs.Generate.References
import Bindery.Proofs.Manifest.Occurrence
import Bindery.Proofs.Types
/-!
Generating a part of what is registered. The types of functions are looked up among the types that are
generated, the types of fields in the whole snapshot. Both look-ups find the same entry as long as the
part has an entry of the name; so they give the same C types to what refers to types of the part, and
only to that. A function that refers to a type outside the part is left out, although the header of its
module may have a field of that very type.
-/

namespace Bindery

/-! ### Parts of a type map -/

namespace TypeMap

/-- Whether every entry of a map is one of another. -/
def IsPartOf (part whole : TypeMap) : Prop := ∀ t ∈ part.entries, t ∈ whole.entries

instance {part whole : TypeMap} : Decidable (part.IsPartOf whole) :=
  inferInstanceAs (Decidable (∀ t ∈ part.entries, t ∈ whole.entries))

/-- Whether a map has an entry for the type that a semantic type refers to, if it refers to one. -/
def Covers (m : TypeMap) (t : SemanticType) : Prop := ∀ name ∈ t.referencedType?, m.contains name = true

instance {m : TypeMap} {t : SemanticType} : Decidable (m.Covers t) :=
  inferInstanceAs (Decidable (∀ name ∈ t.referencedType?, m.contains name = true))

variable {m part whole : TypeMap} {name : String}

theorem covers_enum : m.Covers (.enum name) ↔ m.contains name = true := by
  simp [Covers, SemanticType.referencedType?]

theorem covers_struct : m.Covers (.struct name) ↔ m.contains name = true := by
  simp [Covers, SemanticType.referencedType?]

/-- A part has the same entry for a name as the whole, or none. -/
theorem IsPartOf.get?_eq (h : part.IsPartOf whole) (name : String) :
    part.get? name = if part.contains name then whole.get? name else none := by
  cases hget : part.get? name with
  | none => simp [contains, hget]
  | some t =>
    obtain ⟨ht, hname⟩ := get?_eq_some.1 hget
    have hwhole : whole.get? name = some t := get?_eq_some.2 ⟨h t ht, hname⟩
    simp [contains, hget, hwhole]

end TypeMap

/-! ### C types in a part -/

namespace CTypes

variable {part whole : TypeMap} {t : SemanticType} {f : FunctionEntry}

theorem isRegistered_of_isPartOf (h : part.IsPartOf whole) (name : String) (kind : EntryKind) :
    (ofTypes part).isRegistered name kind =
      (part.contains name && (ofTypes whole).isRegistered name kind) := by
  simp only [isRegistered, ofTypes, h.get?_eq name]
  cases part.contains name <;> rfl

/-- In a part a semantic type has the C type that it has in the whole, if the part covers it, and none
otherwise. -/
theorem spelling?_of_isPartOf (h : part.IsPartOf whole) (t : SemanticType) :
    (ofTypes part).spelling? t = if part.Covers t then (ofTypes whole).spelling? t else none := by
  cases t with
  | enum name =>
    simp only [spelling?, isRegistered_of_isPartOf h, TypeMap.covers_enum]
    cases part.contains name <;> simp
  | struct name =>
    simp only [spelling?, isRegistered_of_isPartOf h, TypeMap.covers_struct]
    cases part.contains name <;> simp
  | _ => simp [spelling?, ofTypes, TypeMap.Covers, SemanticType.referencedType?]

theorem spelling?_isSome_of_isPartOf (h : part.IsPartOf whole) :
    ((ofTypes part).spelling? t).isSome = true ↔
      part.Covers t ∧ ((ofTypes whole).spelling? t).isSome = true := by
  rw [spelling?_of_isPartOf h]
  by_cases hc : part.Covers t <;> simp [hc]

/-- A part accepts what it covers, of what the whole accepts. -/
theorem accepts_of_isPartOf (h : part.IsPartOf whole) :
    (ofTypes part).Accepts t ↔ part.Covers t ∧ (ofTypes whole).Accepts t := by
  simp only [Accepts, valueSpelling?]
  split
  · simp
  · exact spelling?_isSome_of_isPartOf h

/-- In a part a function can have C types for all of its types if it can in the whole and the part
covers them. -/
theorem unmapped?_of_isPartOf (h : part.IsPartOf whole) :
    (ofTypes part).unmapped? f = none ↔
      (ofTypes whole).unmapped? f = none ∧ ∀ t ∈ f.semanticTypes, part.Covers t := by
  have hparams : (∀ t ∈ f.paramTypes, (ofTypes part).Accepts t) ↔
      (∀ t ∈ f.paramTypes, part.Covers t) ∧ ∀ t ∈ f.paramTypes, (ofTypes whole).Accepts t := by
    simp only [accepts_of_isPartOf h, forall_and]
  rw [unmapped?_eq_none, unmapped?_eq_none, spelling?_isSome_of_isPartOf h, hparams,
    FunctionEntry.semanticTypes, List.forall_mem_cons]
  tauto

end CTypes

/-! ### Generating a part -/

namespace CApi

open Manifest (Occurrence occurrences GetsToTypes unmappable)

variable {g : CApi} {part snapshot : TypeMap} {m : Module} {t : SemanticType}

/-- What the header of a module is made from when a part of a snapshot is generated. -/
def inputIn (g : CApi) (part snapshot : TypeMap) (m : Module) : HeaderInput :=
  g.headerInput snapshot (g.built part) m ((g.definitions part m).map (·.1))

/-- Whether a header has a field of a semantic type, in one of the structs that it declares. -/
def HasFieldOf (i : HeaderInput) (t : SemanticType) : Prop :=
  ∃ u ∈ i.structs, ∃ p ∈ u.properties, p.type = t ∧
    ∃ c, i.ctypes.valueSpelling? t = some c ∧ (c, p.name) ∈ (HeaderInput.structDecl i.ctypes u).fields

theorem HasFieldOf.accepts {i : HeaderInput} (h : HasFieldOf i t) : i.ctypes.Accepts t := by
  obtain ⟨-, -, -, -, -, c, hc, -⟩ := h
  exact Option.isSome_iff_exists.2 ⟨c, hc⟩

/-- A field of a header of a part is a property of a type of the part. -/
theorem HasFieldOf.exists_property (hm : m ∈ part.modules)
    (h : HasFieldOf (g.inputIn part snapshot m) t) :
    ∃ u ∈ part.entries, ∃ p ∈ u.properties, p.type = t := by
  obtain ⟨u, hu, p, hp, htype, -⟩ := h
  have hstruct : u ∈ m.structs := (List.mem_filter.1 hu).1
  have hentry : u ∈ part.entries ∧ u.module = m.name ∧ u.kind = .struct :=
    (TypeMap.mem_bucket_of_mem_modules hm (k := .struct)).1 hstruct
  exact ⟨u, hentry.1, p, hp, htype⟩

/-- References are resolved in the snapshot: a function is left out because of a type only if one of its
types has no C type in the snapshot, and what a header has a field of is accepted as the parameter of
a function. -/
structure ResolvesInSnapshot (g : CApi) (part snapshot : TypeMap) : Prop where
  functions : ∀ o ∈ occurrences part g.catalog, ∀ t,
    o.bound part g.catalog = .error (unmappable o.owner o.function t) →
      (CTypes.ofTypes snapshot).unmapped? o.function ≠ none
  fields : ∀ m ∈ part.modules, g.HasHeader part m → ∀ t, HasFieldOf (g.inputIn part snapshot m) t →
    (CTypes.ofTypes part).Accepts t

/-- The part has every type that is referred to by a function whose types have C types in the snapshot,
or by a field of a header. -/
structure CoversReferences (g : CApi) (part snapshot : TypeMap) : Prop where
  functions : ∀ o ∈ occurrences part g.catalog, GetsToTypes g.catalog o.function →
    (CTypes.ofTypes snapshot).unmapped? o.function = none →
      ∀ t ∈ o.function.semanticTypes, part.Covers t
  fields : ∀ m ∈ part.modules, g.HasHeader part m → ∀ t, HasFieldOf (g.inputIn part snapshot m) t →
    part.Covers t

/-- A function of a part is left out because of a type if and only if one of its types has no C type in
the snapshot or refers to a type outside the part. -/
theorem unmappable_iff (hpart : part.IsPartOf snapshot) {o : Occurrence}
    (ho : o ∈ occurrences part g.catalog) :
    (∃ t, o.bound part g.catalog = .error (unmappable o.owner o.function t)) ↔
      GetsToTypes g.catalog o.function ∧
        ((CTypes.ofTypes snapshot).unmapped? o.function ≠ none ∨
          ∃ t ∈ o.function.semanticTypes, ¬ part.Covers t) := by
  have hpartNone := CTypes.unmapped?_of_isPartOf (f := o.function) hpart
  simp only [Manifest.bound_eq_unmappable ho, exists_and_left]
  refine and_congr_right fun _ => ?_
  rw [← Option.isSome_iff_exists, Option.isSome_iff_ne_none, ne_eq, hpartNone, not_and_or]
  simp only [not_forall, exists_prop, ne_eq]

/-- References are resolved in the snapshot if and only if the part has the types that they name. -/
theorem resolvesInSnapshot_iff (hpart : part.IsPartOf snapshot) :
    ResolvesInSnapshot g part snapshot ↔ CoversReferences g part snapshot := by
  constructor
  · intro h
    constructor
    · intro o ho hgets hmapped t ht
      by_contra hc
      obtain ⟨u, hu⟩ := (unmappable_iff hpart ho).2 ⟨hgets, .inr ⟨t, ht, hc⟩⟩
      exact h.functions o ho u hu hmapped
    · intro m hm hh t ht
      exact ((CTypes.accepts_of_isPartOf hpart).1 (h.fields m hm hh t ht)).1
  · intro h
    constructor
    · intro o ho t hbound hmapped
      obtain ⟨hgets, hnone | ⟨u, hu, hc⟩⟩ := (unmappable_iff hpart ho).1 ⟨t, hbound⟩
      · exact hnone hmapped
      · exact hc (h.functions o ho hgets hmapped u hu)
    · intro m hm hh t ht
      exact (CTypes.accepts_of_isPartOf hpart).2 ⟨h.fields m hm hh t ht, ht.accepts⟩

/-- A run over a part of a snapshot reports every function that is left out. A function is left out
because of a type if and only if one of its types has no C type in the snapshot or refers to a type
outside the part; so references are resolved in the snapshot if and only if the part has the types that
they name. -/
theorem references_in_part (g : CApi) (dirs : OutputDirs) (part snapshot : TypeMap)
    (files files' : FileStore) (report : Report) (hpart : part.IsPartOf snapshot)
    (hdirs : g.dirs? = some dirs) (hrun : g.generate part snapshot files = (.ok report, files')) :
    (∀ o ∈ occurrences part g.catalog, ∀ e, o.bound part g.catalog = .error e → e ∈ report.errors) ∧
      (∀ o ∈ occurrences part g.catalog,
        (∃ t, o.bound part g.catalog = .error (unmappable o.owner o.function t)) ↔
          GetsToTypes g.catalog o.function ∧
            ((CTypes.ofTypes snapshot).unmapped? o.function ≠ none ∨
              ∃ t ∈ o.function.semanticTypes, ¬ part.Covers t)) ∧
      (ResolvesInSnapshot g part snapshot ↔ CoversReferences g part snapshot) := by
  obtain ⟨herrors, -⟩ := Plan.report_of_execute (execute_of_generate hdirs hrun)
  refine ⟨?_, fun o ho => unmappable_iff hpart ho, resolvesInSnapshot_iff hpart⟩
  intro o ho e he
  rw [herrors]
  exact List.mem_append_left _ (Manifest.mem_errors_of_bound ho he)

/-- A struct that refers to itself and has a function that takes one. -/
def nodeEntry : TypeEntry where
  name := "Node"
  kind := .struct
  properties := [{ name := "next", type := .struct "Node" }]
  functions := [
    { name := "depth", paramTypes := [.struct "Node"], returnType := .int32, isStatic := true,
      callable? := some .host }]

/-- A struct of its own. -/
def rectEntry : TypeEntry := { name := "Rect", kind := .struct }

def nodeAlone : TypeMap := ⟨[nodeEntry], by decide⟩

def nodeAndRect : TypeMap := ⟨[nodeEntry, rectEntry], by decide⟩

theorem coversReferences_node : CoversReferences plain nodeAlone nodeAndRect where
  functions := by decide +kernel
  fields := by
    intro m hm _ t ht
    obtain ⟨u, hu, p, hp, rfl⟩ := ht.exists_property hm
    have hcovers : ∀ u ∈ nodeAlone.entries, ∀ p ∈ u.properties, nodeAlone.Covers p.type := by decide
    exact hcovers u hu p hp

theorem references_in_part_node :
    ∃ report files, plain.generate nodeAlone nodeAndRect .empty = (.ok report, files) ∧
      nodeAlone.IsPartOf nodeAndRect ∧ ResolvesInSnapshot plain nodeAlone nodeAndRect := by
  have hpart : nodeAlone.IsPartOf nodeAndRect := by decide
  have hok : (plain.generate nodeAlone nodeAndRect .empty).1.toOption.isSome = true := by
    decide +kernel
  obtain ⟨report, files, hrun⟩ := exists_report hok
  refine ⟨report, files, hrun, hpart, ?_⟩
  exact (references_in_part plain _ _ _ _ _ report hpart rfl hrun).2.2.2 coversReferences_node

/-- A struct that refers to another one, in a field and in a function. -/
def frameEntry : TypeEntry where
  name := "Frame"
  kind := .struct
  properties := [{ name := "box", type := .struct "Rect" }]
  functions := [
    { name := "area", paramTypes := [.struct "Rect"], paramNames := ["rect"], returnType := .int32,
      isStatic := true, callable? := some .host }]

def frameAlone : TypeMap := ⟨[frameEntry], by decide⟩

def frameAndRect : TypeMap := ⟨[frameEntry, rectEntry], by decide⟩

/-- The module of the struct. -/
def frameModule : Module := .ofTypes "frame" [frameEntry]

theorem frameModule_mem : frameModule ∈ frameAlone.modules := by decide +kernel

theorem hasFieldOf_frame :
    HasFieldOf (plain.inputIn frameAlone frameAndRect frameModule) (.struct "Rect") := by
  refine ⟨frameEntry, ?_, frameEntry.properties[0], ?_, rfl, "const Rect*", ?_, ?_⟩
  · decide +kernel
  · decide +kernel
  · decide +kernel
  · decide +kernel

/-- The run completes. The header of the module has a field of the struct outside the part, with the C
type that it has in the snapshot, but the function that takes the same struct is left out because of
it. -/
theorem references_miss_snapshot_frame :
    ∃ report files, plain.generate frameAlone frameAndRect .empty = (.ok report, files) ∧
      frameAlone.IsPartOf frameAndRect ∧
      .unmappableType "Frame" "area" (.type (.struct "Rect")) ∈ report.errors ∧
      (CTypes.ofTypes frameAndRect).unmapped? frameEntry.functions[0] = none ∧
      ∃ m ∈ frameAlone.modules, plain.HasHeader frameAlone m ∧
        "    const Rect* box;" ∈ (plain.headerOf frameAlone frameAndRect m).lines ∧
        HasFieldOf (plain.inputIn frameAlone frameAndRect m) (.struct "Rect") ∧
        ¬ (CTypes.ofTypes frameAlone).Accepts (.struct "Rect") ∧
        ¬ ResolvesInSnapshot plain frameAlone frameAndRect := by
  have herrors : (plain.generate frameAlone frameAndRect .empty).1.toOption.map (·.errors) =
      some [.unmappableType "Frame" "area" (.type (.struct "Rect"))] := by decide +kernel
  have haccepts : ¬ (CTypes.ofTypes frameAlone).Accepts (.struct "Rect") := by decide
  have hh : plain.HasHeader frameAlone frameModule := by decide +kernel
  obtain ⟨report, files, hrun, herrors⟩ := exists_report_of_map herrors
  refine ⟨report, files, hrun, by decide, ?_, by decide, frameModule, frameModule_mem, hh, ?_,
    hasFieldOf_frame, haccepts, ?_⟩
  · rw [herrors]
    exact List.mem_singleton_self _
  · decide +kernel
  · intro h
    exact haccepts (h.fields frameModule frameModule_mem hh _ hasFieldOf_frame)

end CApi

end Bindery
