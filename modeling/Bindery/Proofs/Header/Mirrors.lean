import Bindery.Header.Input
import Bindery.Proofs.Manifest.Binding
import Mathlib.Data.List.Forall2
/-!
How types are mirrored in headers. An enum leaves out the constants that do not fit, a struct with a
field that has no C type is left opaque, and an alias without one is left out. In each case the text and
the errors come from the same outcomes, one for each member, so that what is missing from the one is in
the other: no member is in both, and none is lost.
-/

namespace Bindery

/-- Outcomes that a condition decides: the results are those of the elements on which it holds, the
errors those of the others. -/
theorem partition_map_eq {ε α β : Type} {f : α → Except ε β} {p : α → Bool} {result : α → β}
    {error : α → ε} (hok : ∀ a, p a = true → f a = .ok (result a))
    (herror : ∀ a, p a = false → f a = .error (error a)) : ∀ l : List α,
    partition (l.map f) = ((l.filter p).map result, (l.filter fun a => !p a).map error)
  | [] => rfl
  | a :: l => by
    rw [List.map_cons]
    cases h : p a with
    | true => simp [hok a h, partition, partition_map_eq hok herror l, h]
    | false => simp [herror a h, partition, partition_map_eq hok herror l, h]

/-! ### The parts of a header -/

namespace ModuleHeader

variable {h : ModuleHeader}

/-- The lines of a header before what it declares. -/
def opening (h : ModuleHeader) : List String :=
  [Header.banner, h.titleLine, ""] ++ Header.openGuard (fileOf h.name) ++ [""] ++ h.includeLines ++
    Header.openLinkage

/-- The lines of a header after what it declares. -/
def closing (h : ModuleHeader) : List String :=
  [""] ++ Header.closeLinkage ++ ["", Header.closeGuard (fileOf h.name)]

theorem lines_eq (h : ModuleHeader) :
    h.lines = h.opening ++ h.enumLines ++ h.structLines ++ h.aliasLines ++ h.subjectLines ++
      h.functionLines ++ h.closing := by
  simp only [lines, opening, closing, List.append_assoc]

end ModuleHeader

/-! ### Enums -/

/-- Whether the value of a constant is one of the integers of 32 bits with a sign. -/
def Enumerator.Fits (e : Enumerator) : Prop :=
  Int32.minValue.toInt ≤ e.value.toInt ∧ e.value.toInt ≤ Int32.maxValue.toInt

instance : DecidablePred Enumerator.Fits := fun _ => inferInstanceAs (Decidable (_ ∧ _))

/-- The error about a constant that does not fit. -/
def TypeEntry.unfit (t : TypeEntry) (e : Enumerator) : BindingError :=
  .unmappableType t.name e.name (.constant e.value.toInt)

namespace CType

theorem constant_eq (owner : String) (e : Enumerator) :
    constant owner e =
      if e.Fits then .ok e.value.toInt
      else .error (.unmappableType owner e.name (.constant e.value.toInt)) := by
  have hrange : (-0x80000000 ≤ e.value.toInt ∧ e.value.toInt < 0x80000000) ↔ e.Fits := by
    have hmin : Int32.minValue.toInt = -0x80000000 := by decide
    have hmax : Int32.maxValue.toInt = 0x7fffffff := by decide
    rw [Enumerator.Fits, hmin, hmax]
    omega
  rw [constant]
  simp only [hrange]

/-- The constants of an enum are those that fit, in their order, and there is an error for each other
one. -/
theorem constants_eq (t : TypeEntry) :
    constants t =
      ((t.enumerators.filter (·.Fits)).map fun e => (e.name, e.value.toInt),
        (t.enumerators.filter (¬ ·.Fits)).map t.unfit) := by
  have hdecide : (fun e : Enumerator => decide ¬ e.Fits) = fun e => !decide e.Fits :=
    funext fun e => decide_not
  rw [constants, hdecide]
  refine partition_map_eq (fun e he => ?_) (fun e he => ?_) t.enumerators
  · rw [constant_eq, if_pos (of_decide_eq_true he)]
    rfl
  · rw [constant_eq, if_neg (of_decide_eq_false he)]
    rfl

end CType

/-- The line of a constant, without a separator. -/
def EnumDecl.constantText (enum : String) (c : String × Int) : String :=
  "    " ++ enum ++ "_" ++ c.1 ++ " = " ++ toString c.2

theorem mapIdx_map {α β γ : Type} (f : Nat → β → γ) (g : α → β) (l : List α) :
    (l.map g).mapIdx f = l.mapIdx fun i a => f i (g a) := by
  refine List.ext_getElem (by simp) fun i _ _ => ?_
  simp

/-- The lines of constants have a comma at the end of each but the last. -/
theorem EnumDecl.constantLines_eq (enum : String) : ∀ cs : List (String × Int),
    constantLines enum cs =
      cs.mapIdx fun i c => constantText enum c ++ if i + 1 = cs.length then "" else ","
  | [] => rfl
  | [c] => by simp [constantLines, constantText]
  | c :: d :: cs => by
    rw [constantLines, constantLines_eq enum (d :: cs), List.mapIdx_cons]
    · simp [constantText, @eq_comm Nat 0, List.length_eq_zero_iff]
    · exact List.cons_ne_nil d cs

/-- How a header mirrors an enum: in its lines, and in the errors about it. -/
structure EnumMirrored (t : TypeEntry) (lines : List String) (errors : List BindingError) : Prop where
  /-- The block has a line for each constant that fits, in their order, with a comma at the end of each
  but the last. -/
  block : t.enumerators.filter (·.Fits) ≠ [] →
    lines = docLines t.name t.doc ++ ["typedef int32_t " ++ t.name ++ ";", "enum \x7b"] ++
      ((t.enumerators.filter (·.Fits)).mapIdx fun i e =>
        "    " ++ t.name ++ "_" ++ e.name ++ " = " ++ toString e.value.toInt ++
          if i + 1 = (t.enumerators.filter (·.Fits)).length then "" else ",") ++ ["\x7d;", ""]
  /-- If there is none that fits there is no block. -/
  empty : t.enumerators.filter (·.Fits) = [] →
    lines = docLines t.name t.doc ++ ["typedef int32_t " ++ t.name ++ ";", ""]
  errors : errors = (t.enumerators.filter (¬ ·.Fits)).map t.unfit

theorem enumMirrored (t : TypeEntry) :
    EnumMirrored t (HeaderInput.enumDecl t).lines (CType.constants t).2 where
  block h := by
    have hne : ((t.enumerators.filter (·.Fits)).map fun e => (e.name, e.value.toInt)).isEmpty = false :=
      List.isEmpty_eq_false_iff.2 fun hnil => h (List.map_eq_nil_iff.1 hnil)
    rw [HeaderInput.enumDecl, EnumDecl.lines, CType.constants_eq, hne, EnumDecl.constantLines_eq]
    simp [EnumDecl.constantText, mapIdx_map]
  empty h := by
    rw [HeaderInput.enumDecl, EnumDecl.lines, CType.constants_eq, h]
    simp
  errors := by rw [CType.constants_eq]

/-! ### Structs -/

/-- Whether values of a semantic type are spelled by a C type. -/
def CTypes.SpellsValue (c : CTypes) (t : SemanticType) (cType : String) : Prop :=
  t ≠ .void ∧ c.spelling? t = some cType

theorem CTypes.valueSpelling?_eq_some {c : CTypes} {t : SemanticType} {cType : String} :
    c.valueSpelling? t = some cType ↔ c.SpellsValue t cType := by
  rw [valueSpelling?, SpellsValue, SemanticType.isVoid]
  by_cases h : t = .void <;> simp [h]

theorem CTypes.accepts_iff {c : CTypes} {t : SemanticType} :
    c.Accepts t ↔ ∃ cType, c.SpellsValue t cType := by
  rw [Accepts, Option.isSome_iff_exists]
  exact exists_congr fun _ => valueSpelling?_eq_some

/-- The error about a field without a C type. -/
def TypeEntry.unmapped (t : TypeEntry) (p : PropertyEntry) : BindingError :=
  .unmappableType t.name p.name (.type p.type)

/-- The fields of a struct are those that have a C type, in their order, and there is an error for each
other one. -/
theorem HeaderInput.fields_eq (c : CTypes) (t : TypeEntry) :
    fields c t =
      ((t.properties.filter fun p => c.Accepts p.type).map fun p =>
          ((c.valueSpelling? p.type).getD "", p.name),
        (t.properties.filter fun p => ¬ c.Accepts p.type).map t.unmapped) := by
  have hdecide : (fun p : PropertyEntry => decide ¬ c.Accepts p.type) =
      fun p => !decide (c.Accepts p.type) := funext fun p => decide_not
  rw [fields, hdecide]
  refine partition_map_eq (fun p hp => ?_) (fun p hp => ?_) t.properties
  · obtain ⟨cType, hc⟩ := Option.isSome_iff_exists.1 (of_decide_eq_true hp : c.Accepts p.type)
    simp only [hc, Option.getD_some]
  · have hnone : c.valueSpelling? p.type = none := by
      simpa [CTypes.Accepts] using of_decide_eq_false hp
    simp only [hnone]
    rfl

/-- How a header mirrors a struct: in the line that declares it, in the lines that define it, and in
the errors about it. -/
structure StructMirrored (c : CTypes) (t : TypeEntry) (forward : String) (body : List String)
    (errors : List BindingError) : Prop where
  forward : forward = "typedef struct " ++ t.name ++ " " ++ t.name ++ ";"
  /-- It is defined if it has fields and all of them have C types. -/
  defined : body ≠ [] ↔
    t.properties ≠ [] ∧ ∀ p ∈ t.properties, ∃ cType, c.SpellsValue p.type cType
  /-- The definition has a line for each field, in their order. -/
  body : body ≠ [] → ∃ fields,
    List.Forall₂ (fun p line => ∃ cType, c.SpellsValue p.type cType ∧
      line = "    " ++ cType ++ " " ++ p.name ++ ";") t.properties fields ∧
    body = docLines t.name t.doc ++ ["struct " ++ t.name ++ " \x7b"] ++ fields ++ ["\x7d;", ""]
  errors : errors =
    (t.properties.filter fun p => ¬ c.Accepts p.type).map t.unmapped

/-- A struct has all of its fields or none. -/
theorem HeaderInput.structDecl_fields (c : CTypes) (t : TypeEntry) :
    (structDecl c t).fields =
      if ∀ p ∈ t.properties, c.Accepts p.type then
        t.properties.map fun p => ((c.valueSpelling? p.type).getD "", p.name)
      else [] := by
  have hall : (fields c t).2.isEmpty = true ↔ ∀ p ∈ t.properties, c.Accepts p.type := by
    rw [fields_eq, List.isEmpty_iff, List.map_eq_nil_iff, List.filter_eq_nil_iff]
    simp
  rw [structDecl]
  by_cases h : ∀ p ∈ t.properties, c.Accepts p.type
  · rw [if_pos (hall.2 h), if_pos h, fields_eq, List.filter_eq_self.2 fun p hp => decide_eq_true (h p hp)]
  · rw [if_neg (mt hall.1 h), if_neg h]

theorem structMirrored (c : CTypes) (t : TypeEntry) :
    StructMirrored c t (HeaderInput.structDecl c t).forward (HeaderInput.structDecl c t).bodyLines
      (HeaderInput.fields c t).2 := by
  have hfields := HeaderInput.structDecl_fields c t
  have hbody : (HeaderInput.structDecl c t).bodyLines ≠ [] ↔
      (HeaderInput.structDecl c t).fields ≠ [] := by
    rw [StructDecl.bodyLines]
    cases (HeaderInput.structDecl c t).fields <;> simp
  constructor
  case forward => rfl
  case defined =>
    simp only [← CTypes.accepts_iff]
    rw [hbody, hfields]
    by_cases h : ∀ p ∈ t.properties, c.Accepts p.type
    · rw [if_pos h, and_iff_left h, Ne, List.map_eq_nil_iff]
    · simp [h]
  case body =>
    intro hne
    have hfieldsne := hbody.1 hne
    rw [hfields] at hfieldsne
    have hall : ∀ p ∈ t.properties, c.Accepts p.type := by
      by_contra h
      rw [if_neg h] at hfieldsne
      exact hfieldsne rfl
    rw [if_pos hall] at hfields hfieldsne
    refine ⟨t.properties.map fun p =>
      "    " ++ (c.valueSpelling? p.type).getD "" ++ " " ++ p.name ++ ";", ?_, ?_⟩
    · rw [List.forall₂_map_right_iff, List.forall₂_same]
      intro p hp
      obtain ⟨cType, hc⟩ := Option.isSome_iff_exists.1 (hall p hp)
      exact ⟨cType, CTypes.valueSpelling?_eq_some.1 hc, by rw [hc, Option.getD_some]⟩
    · rw [StructDecl.bodyLines, hfields, List.isEmpty_eq_false_iff.2 hfieldsne, List.map_map]
      rfl
  case errors => rw [HeaderInput.fields_eq]

/-! ### Aliases -/

/-- The error about an alias that stands for nothing that has a C type. -/
def TypeEntry.untargeted (t : TypeEntry) : BindingError :=
  .unmappableType t.name t.name (t.target?.elim .noTarget .type)

/-- How a header mirrors an alias: in its lines, and in the errors about it. -/
structure AliasMirrored (c : CTypes) (t : TypeEntry) (lines : List String)
    (errors : List BindingError) : Prop where
  declared : ∀ target cType, t.target? = some target → c.SpellsValue target cType →
    lines = docLines t.name t.doc ++ ["typedef " ++ cType ++ " " ++ t.name ++ ";"] ∧ errors = []
  omitted : (∀ target cType, t.target? = some target → ¬ c.SpellsValue target cType) →
    lines = [] ∧ errors = [t.untargeted]

theorem aliasMirrored (c : CTypes) (t : TypeEntry) :
    AliasMirrored c t (HeaderInput.aliasDecl c t).lines (HeaderInput.aliasErrors c t) := by
  have hspelling {cType : String} : HeaderInput.aliasSpelling? c t = some cType ↔
      ∃ target, t.target? = some target ∧ c.SpellsValue target cType := by
    rw [HeaderInput.aliasSpelling?, Option.bind_eq_some_iff]
    simp only [CTypes.valueSpelling?_eq_some]
  constructor
  case declared =>
    intro target cType htarget hc
    have hsome := hspelling.2 ⟨target, htarget, hc⟩
    rw [HeaderInput.aliasErrors, HeaderInput.aliasDecl, hsome]
    exact ⟨rfl, rfl⟩
  case omitted =>
    intro h
    have hnone : HeaderInput.aliasSpelling? c t = none := by
      rw [Option.eq_none_iff_forall_ne_some]
      intro cType hsome
      obtain ⟨target, htarget, hc⟩ := hspelling.1 hsome
      exact h target cType htarget hc
    rw [HeaderInput.aliasErrors, HeaderInput.aliasDecl, hnone, TypeEntry.untargeted]
    cases t.target? <;> exact ⟨rfl, rfl⟩

end Bindery
