import Bindery.Proofs.Generate.Outputs
import Bindery.Proofs.Header.Mirrors
import Bindery.Proofs.Text
/-!
What headers include. The includes of a header are chosen before anything is left out of it: all types
of the module are scanned for integers of fixed width, the listed ones for handles. What the header
declares in the end is a part of what was scanned, spelled by the same table, so whatever it spells it
has the include for: `<stdint.h>` for an integer of fixed width, and the runtime header for a handle
and for any function. A source is made only where a function is declared.
-/

namespace Bindery

/-! ### Integers of fixed width -/

namespace CType

/-- The integer types of fixed width. -/
def fixedWidthTypes : List String :=
  ["int8_t", "int16_t", "int32_t", "int64_t", "uint8_t", "uint16_t", "uint32_t", "uint64_t"]

/-- Whether the name of an integer type of fixed width stands somewhere in a C text. -/
def NamesFixedWidth (text : String) : Prop :=
  ∃ name ∈ fixedWidthTypes, name.toList <:+: text.toList

/-- It is enough to look for the names with a sign, each of which stands in one without. -/
theorem usesFixedWidth_iff {text : String} : usesFixedWidth text = true ↔ NamesFixedWidth text := by
  have hsigned : usesFixedWidth text = true ↔
      ∃ name ∈ ["int8_t", "int16_t", "int32_t", "int64_t"], name.toList <:+: text.toList := by
    rw [usesFixedWidth, List.any_eq_true]
    exact exists_congr fun name => and_congr_right fun _ => Text.occursIn_iff
  have hpart : ∀ name ∈ fixedWidthTypes,
      ∃ signed ∈ ["int8_t", "int16_t", "int32_t", "int64_t"], signed.toList <:+: name.toList := by
    decide
  rw [hsigned]
  constructor
  · rintro ⟨name, hname, htext⟩
    exact ⟨name, List.mem_append_left _ hname, htext⟩
  · rintro ⟨name, hname, htext⟩
    obtain ⟨signed, hsigned, hin⟩ := hpart name hname
    exact ⟨signed, hsigned, hin.trans htext⟩

end CType

/-! ### What a header writes -/

namespace ModuleHeader

/-- What a header writes in its declarations: the lines that define enums, the types of fields, the
targets of aliases and the prototypes. -/
inductive Writes (h : ModuleHeader) : String → Prop where
  | enum {e : EnumDecl} (he : e ∈ h.enums) : Writes h ("typedef int32_t " ++ e.name ++ ";")
  | field {s : StructDecl} {cType name : String} (hs : s ∈ h.structs) (hf : (cType, name) ∈ s.fields) :
    Writes h cType
  | target {a : AliasDecl} {cType : String} (ha : a ∈ h.aliases) (hc : a.cType? = some cType) :
    Writes h cType
  | prototype {f : FunctionDecl} (hf : f ∈ h.functions) : Writes h f.signature

variable {h : ModuleHeader} {text : String}

theorem infix_append (before after : String) :
    text.toList <:+: (before ++ text ++ after).toList := by
  rw [String.toList_append, String.toList_append]
  exact List.infix_append _ _ _

/-- What a header writes stands on a line of it. -/
theorem Writes.on_line (hw : h.Writes text) : ∃ l ∈ h.lines, text.toList <:+: l.toList := by
  have hparts : ∀ l, l ∈ h.enumLines ∨ l ∈ h.structLines ∨ l ∈ h.aliasLines ∨ l ∈ h.functionLines →
      l ∈ h.lines := by
    intro l hl
    simp only [lines, List.mem_append]
    tauto
  cases hw with
  | @enum e he =>
    refine ⟨_, hparts _ (.inl ?_), List.infix_refl _⟩
    exact mem_sectionLines he (List.mem_flatMap.2 ⟨e, he, by simp [EnumDecl.lines]⟩)
  | @field s _ name hs hf =>
    refine ⟨"    " ++ text ++ (" " ++ name ++ ";"), hparts _ (.inr (.inl ?_)), infix_append _ _⟩
    have hbody : "    " ++ text ++ (" " ++ name ++ ";") ∈ s.bodyLines := by
      have hne : s.fields.isEmpty = false := List.isEmpty_eq_false_iff.2 (List.ne_nil_of_mem hf)
      rw [StructDecl.bodyLines, hne, if_neg Bool.false_ne_true]
      refine List.mem_append_left _ (List.mem_append_right _ (List.mem_map.2 ⟨_, hf, ?_⟩))
      simp only [String.append_assoc]
    exact mem_sectionLines hs (List.mem_append_right _ (List.mem_flatMap.2 ⟨s, hs, hbody⟩))
  | @target a _ ha hc =>
    refine ⟨"typedef " ++ text ++ (" " ++ a.name ++ ";"), hparts _ (.inr (.inr (.inl ?_))),
      infix_append _ _⟩
    refine mem_sectionLines ha (List.mem_flatMap.2 ⟨a, ha, ?_⟩)
    simp [AliasDecl.lines, hc, String.append_assoc]
  | @prototype f hf =>
    refine ⟨"" ++ f.signature ++ ";", hparts _ (.inr (.inr (.inr ?_))), infix_append _ _⟩
    exact mem_sectionLines hf (List.mem_flatMap.2 ⟨f, hf, by simp [FunctionDecl.lines]⟩)

/-- An include has its line. -/
theorem line_mem_of_include {i : Include} (hi : i ∈ h.includes) : i.line ∈ h.lines := by
  have hinclude : i.line ∈ h.includeLines := by
    rw [includeLines, List.isEmpty_eq_false_iff.2 (List.ne_nil_of_mem hi), if_neg Bool.false_ne_true]
    exact List.mem_append_left _ (List.mem_map_of_mem hi)
  simp only [lines, List.mem_append]
  tauto

end ModuleHeader

/-! ### Scanning -/

namespace HeaderInput

variable {i : HeaderInput} {text : String}

theorem mem_of_mem_listed {ts : List TypeEntry} {t : TypeEntry} (h : t ∈ i.listed ts) : t ∈ ts :=
  (List.mem_filter.1 h).1

/-- The fields that a struct is declared with are spelled as their types are. -/
theorem exists_property_of_field {c : CTypes} {t : TypeEntry} {cType name : String}
    (h : (cType, name) ∈ (structDecl c t).fields) :
    ∃ p ∈ t.properties, c.valueSpelling? p.type = some cType := by
  rw [structDecl_fields] at h
  split at h
  · rename_i haccepts
    obtain ⟨p, hp, e⟩ := List.mem_map.1 h
    obtain ⟨cType', hc⟩ := Option.isSome_iff_exists.1 (haccepts p hp)
    rw [hc] at e
    exact ⟨p, hp, hc.trans (congrArg some (congrArg Prod.fst e))⟩
  · cases h

theorem isFixedWidth_of_spelled {c : CTypes} {t : SemanticType} (h : c.valueSpelling? t = some text)
    (hfixed : CType.usesFixedWidth text = true) : isFixedWidth c t = true := by
  rw [isFixedWidth, h]
  exact hfixed

/-- Where a header writes an integer of fixed width, the scan has found one. -/
theorem needsStdint_of_writes (hw : i.header.Writes text) (hfixed : CType.usesFixedWidth text = true) :
    needsStdint i.module i.functions i.ctypes = true := by
  rw [needsStdint]
  simp only [Bool.or_eq_true]
  cases hw with
  | enum he =>
    obtain ⟨t, ht, -⟩ := List.mem_map.1 he
    refine .inl (.inl (.inl ?_))
    rw [List.isEmpty_eq_false_iff.2 (List.ne_nil_of_mem (mem_of_mem_listed ht))]
    rfl
  | field hs hf =>
    obtain ⟨t, ht, rfl⟩ := List.mem_map.1 hs
    obtain ⟨p, hp, hspelled⟩ := exists_property_of_field hf
    refine .inl (.inl (.inr (List.any_eq_true.2 ⟨p, ?_, isFixedWidth_of_spelled hspelled hfixed⟩)))
    exact List.mem_flatMap.2 ⟨t, mem_of_mem_listed ht, hp⟩
  | target ha hc =>
    obtain ⟨t, ht, rfl⟩ := List.mem_map.1 ha
    obtain ⟨target, htarget, hspelled⟩ := Option.bind_eq_some_iff.1 hc
    refine .inl (.inr (List.any_eq_true.2 ⟨target, ?_, isFixedWidth_of_spelled hspelled hfixed⟩))
    exact List.mem_filterMap.2 ⟨t, mem_of_mem_listed ht, htarget⟩
  | prototype hf =>
    obtain ⟨b, hb, rfl⟩ := List.mem_map.1 hf
    exact .inr (List.any_eq_true.2 ⟨b, hb, hfixed⟩)

theorem stdint_mem (h : needsStdint i.module i.functions i.ctypes = true) : .stdint ∈ i.includes := by
  rw [includes, if_pos h]
  simp

theorem runtime_mem (h : i.functions ≠ [] ∨ i.usesHandle = true) :
    .runtime i.runtimeHeader ∈ i.includes := by
  have hneeded : (!i.functions.isEmpty || i.usesHandle) = true := by simpa using h
  rw [includes, if_pos hneeded]
  simp

/-- Whether a type spells the handle type where it is declared: as the type of a field, or as what an
alias stands for. -/
def SpellsHandle (t : TypeEntry) : Prop :=
  (t.kind = .struct ∧ ∃ p ∈ t.properties, p.type = .handle) ∨
    (t.kind = .alias ∧ t.target? = some .handle)

end HeaderInput

/-! ### The headers of a run -/

namespace CApi

variable {g : CApi} {dirs : OutputDirs} {types snapshot : TypeMap} {m : Module} {t : TypeEntry}

/-- The header of a module in a run has the includes that its declarations need. -/
structure IncludesSuffice (g : CApi) (dirs : OutputDirs) (types snapshot : TypeMap) (m : Module) :
    Prop where
  /-- The first file of a module that has a header is the header, with these lines. -/
  written : g.HasHeader types m →
    (g.modulePart dirs types snapshot (g.built types) m).outputs.head? =
      some ⟨headerPath dirs m, Text.ofLines (g.headerOf types snapshot m).lines⟩
  stdint : ∀ text, (g.headerOf types snapshot m).Writes text →
    (∃ l ∈ (g.headerOf types snapshot m).lines, text.toList <:+: l.toList) ∧
      (CType.NamesFixedWidth text → "#include <stdint.h>" ∈ (g.headerOf types snapshot m).lines)
  handle : ∀ t ∈ types.entries, t.module = m.name →
    (g.catalog.resolve? t.subjectKind?).isSome = true → HeaderInput.SpellsHandle t →
      "#include \"" ++ g.options.runtimeHeader ++ "\"" ∈ (g.headerOf types snapshot m).lines
  functions : (g.headerOf types snapshot m).functions ≠ [] →
    "#include \"" ++ g.options.runtimeHeader ++ "\"" ∈ (g.headerOf types snapshot m).lines
  /-- The files of a module are its header and perhaps its source. -/
  source : ∀ source, (g.modulePart dirs types snapshot (g.built types) m).outputs =
      [g.headerOutput dirs types snapshot m, source] →
    "#include \"" ++ g.options.runtimeHeader ++ "\"" ∈ (g.headerOf types snapshot m).lines

/-- The handles of the types of a module that are listed are found by the scan. -/
theorem usesHandle_of_spells (hm : m ∈ types.modules) (ht : t ∈ types.entries)
    (hmodule : t.module = m.name) (hknown : (g.catalog.resolve? t.subjectKind?).isSome = true)
    (hspells : HeaderInput.SpellsHandle t) (functions : List FunctionBinding) :
    (g.headerInput snapshot (g.built types) m functions).usesHandle = true := by
  have hlisted : ((g.built types).type? t.name).isSome = true := (type?_isSome_iff ht).2 hknown
  rw [HeaderInput.usesHandle, Bool.or_eq_true, List.any_eq_true, List.any_eq_true]
  rcases hspells with ⟨hkind, p, hp, htype⟩ | ⟨hkind, htarget⟩
  · have hstruct : t ∈ m.structs :=
      (TypeMap.mem_bucket_of_mem_modules hm (k := .struct)).2 ⟨ht, hmodule, hkind⟩
    refine .inl ⟨p, List.mem_flatMap.2 ⟨t, List.mem_filter.2 ⟨hstruct, hlisted⟩, hp⟩, ?_⟩
    exact decide_eq_true htype
  · have halias : t ∈ m.aliases :=
      (TypeMap.mem_bucket_of_mem_modules hm (k := .alias)).2 ⟨ht, hmodule, hkind⟩
    exact .inr ⟨t, List.mem_filter.2 ⟨halias, hlisted⟩, decide_eq_true htarget⟩

/-- Every header of a run has the includes that its declarations need. -/
theorem includes_suffice (g : CApi) (dirs : OutputDirs) (types snapshot : TypeMap) (m : Module)
    (hm : m ∈ types.modules) : g.IncludesSuffice dirs types snapshot m := by
  have hruntime (h : (g.definitions types m).map (·.1) ≠ [] ∨
      (g.headerInput snapshot (g.built types) m ((g.definitions types m).map (·.1))).usesHandle = true) :
      "#include \"" ++ g.options.runtimeHeader ++ "\"" ∈ (g.headerOf types snapshot m).lines :=
    ModuleHeader.line_mem_of_include (i := .runtime g.options.runtimeHeader)
      (HeaderInput.runtime_mem h)
  constructor
  case written => exact head?_outputs_modulePart
  case stdint =>
    intro text hw
    refine ⟨hw.on_line, fun hfixed => ?_⟩
    have hneeds := HeaderInput.needsStdint_of_writes hw (CType.usesFixedWidth_iff.2 hfixed)
    exact ModuleHeader.line_mem_of_include (i := .stdint) (HeaderInput.stdint_mem hneeds)
  case handle =>
    intro t ht hmodule hknown hspells
    exact hruntime (.inr (usesHandle_of_spells hm ht hmodule hknown hspells _))
  case functions =>
    intro hne
    exact hruntime (.inl fun hnil => hne (List.map_eq_nil_iff.2 hnil))
  case source =>
    intro source houtputs
    refine hruntime (.inl fun hnil => ?_)
    -- without definitions the header is the only file of the module
    have hlength := congrArg List.length houtputs
    rw [outputs_modulePart, if_pos (List.map_eq_nil_iff.1 hnil)] at hlength
    split at hlength <;> simp at hlength

/-- A struct that is left opaque, with a handle among its fields and a function with a stated
prototype. -/
def panel : TypeMap where
  entries := [{
    name := "Panel", kind := .struct
    properties := [{ name := "owner", type := .handle }, { name := "mode", type := .enum "Mode" }]
    functions := [{
      name := "depth", isStatic := true, returnType := .uint16
      prototype? := some "uint16_t Panel_depth(void)" }] }]
  nodup := by decide

theorem includes_suffice_panel :
    let g : CApi := { dirs? := some ⟨.ofText "include", .ofText "src"⟩ }
    let m := Module.ofTypes "panel" panel.entries
    m ∈ panel.modules ∧ (g.headerOf panel panel m).Writes "uint16_t Panel_depth(void)" ∧
      "#include <stdint.h>" ∈ (g.headerOf panel panel m).lines ∧
      "#include \"dombind_runtime.h\"" ∈ (g.headerOf panel panel m).lines := by
  intro g m
  have hm : m ∈ panel.modules := by decide +kernel
  have hfunctions : (g.headerOf panel panel m).functions = [⟨"", "uint16_t Panel_depth(void)"⟩] := by
    decide +kernel
  have hwrites : (g.headerOf panel panel m).Writes "uint16_t Panel_depth(void)" :=
    .prototype (f := ⟨"", "uint16_t Panel_depth(void)"⟩) (by simp [hfunctions])
  have hincludes := includes_suffice g ⟨.ofText "include", .ofText "src"⟩ panel panel m hm
  refine ⟨hm, hwrites, (hincludes.stdint _ hwrites).2 ?_, hincludes.functions (by simp [hfunctions])⟩
  exact CType.usesFixedWidth_iff.1 (by decide)

end CApi

end Bindery
