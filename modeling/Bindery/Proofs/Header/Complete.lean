import Bindery.Proofs.Header.Legacy
import Bindery.Proofs.Manifest.Signature
import Bindery.Proofs.Modules.Partition
import Bindery.Proofs.Prototype.Grammar
import Bindery.Proofs.Prototype.Normalizing
/-!
What the legacy header says. Its prototypes, its declarations and its errors come from three walks over
the types. Every exported function has either a prototype or an error, and a C type that a derived
prototype spells is that of a registered struct or object only if the walk that declares types has come
upon it: so its line stands in front of all prototypes.
-/

namespace Bindery

/-- Apart from texts, a C type `const X*` is that of a registered struct. -/
theorem CTypes.struct_of_spelling? {c : CTypes} {t : SemanticType} {name : String}
    (hhandle : c.handleType = "void*") (htext : t ≠ .string)
    (h : c.spelling? t = some ("const " ++ name ++ "*")) : c.isRegistered name .struct = true := by
  have hhead {s : String} (e : some s = some ("const " ++ name ++ "*")) :
      s.toList.head? = some 'c' := by
    rw [Option.some.inj e, String.toList_append, String.toList_append]
    rfl
  cases t with
  | string => exact absurd rfl htext
  | handle =>
    rw [spelling?, hhandle] at h
    exact absurd (hhead h) (by decide)
  | «struct» other =>
    rw [spelling?] at h
    split at h
    · rename_i hr
      have e : "const " ++ other ++ "*" = "const " ++ name ++ "*" := Option.some.inj h
      rwa [(String.append_right_inj _).1 ((String.append_left_inj _).1 e)] at hr
    · cases h
  | «enum» other =>
    rw [spelling?] at h
    split at h
    · exact absurd (hhead h) (by decide)
    · cases h
  | _ => exact absurd (hhead h) (by decide)

namespace Legacy

open Bindery.Prototype (IsIdentifier IsTypeText Declares)

variable {c : CTypes} {owner : TypeEntry} {f : FunctionEntry}

/-- The line that declares a struct. -/
def structLine (name : String) : String := "typedef struct " ++ name ++ " " ++ name ++ ";"

/-- What stands between the parentheses of the prototype of a function that states none: the receiver if
the function acts on an object, then the C types and names of the parameters, and `void` if there is
neither. -/
def parameterList (owner : TypeEntry) (f : FunctionEntry) (params : List CParam) : String :=
  let declarations :=
    (if owner.kind = .object ∧ f.isStatic = false then [owner.name ++ "* self"] else []) ++
      params.map fun p => p.cType ++ " " ++ p.name
  if declarations = [] then "void" else ", ".intercalate declarations

/-- The prototype of a function, and what of it is declared in the lines in front of it. -/
inductive PrototypeFor (c : CTypes) (earlier : List String) (owner : TypeEntry) (f : FunctionEntry) :
    Prototype → Prop where
  | stated {symbol text kept : String} {gap semicolons : List Char}
      (named : symbol = f.symbol?.getD (owner.name ++ "_" ++ f.name)) (states : f.prototype? = some text)
      (normalizes : Bindery.Prototype.Normalizes text.toList kept.toList gap semicolons) :
    PrototypeFor c earlier owner f ⟨symbol, kept⟩
  | derived {symbol returnCType text : String} {params : List CParam}
      (named : symbol = f.symbol?.getD (owner.name ++ "_" ++ f.name)) (derives : f.prototype? = none)
      (result : c.spelling? f.returnType = some returnCType)
      (types : params.map (·.type) = f.paramTypes)
      (names : params.map (·.name) = (List.range f.paramTypes.length).map f.paramName)
      (spelled : ∀ p ∈ params, c.SpellsValue p.type p.cType)
      (spells : text = returnCType ++ " " ++ symbol ++ "(" ++ parameterList owner f params ++ ")")
      (declares : IsIdentifier symbol → (∀ name, f.returnType = .struct name → IsIdentifier name) →
        Declares text.toList symbol (parameterList owner f params).toList)
      (receiver : owner.kind = .object → f.isStatic = false → structLine owner.name ∈ earlier)
      -- a text is a `const char*`, and `char` needs no declaration
      (result_pointer : f.returnType ≠ .string →
        ∀ name, returnCType = "const " ++ name ++ "*" → structLine name ∈ earlier)
      (pointers : ∀ p ∈ params, p.type ≠ .string →
        ∀ name, p.cType = "const " ++ name ++ "*" → structLine name ∈ earlier) :
    PrototypeFor c earlier owner f ⟨symbol, text⟩

/-- Why a function has no prototype. -/
inductive Refusal (c : CTypes) (owner : TypeEntry) (f : FunctionEntry) : BindingError → Prop where
  | missing (unbindable : f.isBindable = false) :
    Refusal c owner f (.missingCallable owner.name f.name)
  | unmapped {t : SemanticType} (bindable : f.isBindable = true) (derives : f.prototype? = none)
      (first : c.unmapped? f = some t) : Refusal c owner f (Manifest.unmappable owner f t)

section Prototypes

variable {earlier : List String} {p : Prototype} {e : BindingError}

/-- A function without a prototype is refused for the first reason that there is. -/
theorem refusal (h : prototype c owner f = .error e) : Refusal c owner f e := by
  rcases prototype_eq_error h with ⟨hb, rfl⟩ | ⟨hb, hderived, t, ht, rfl⟩
  · exact .missing hb
  · exact .unmapped hb hderived ht

/-- The lines declare what a C type points to if they declare all registered objects and structs. -/
theorem pointer_declared (hhandle : c.handleType = "void*")
    (hearlier : ∀ t ∈ c.types.entries, t.kind = .object ∨ t.kind = .struct →
      structLine t.name ∈ earlier) {t : SemanticType} {name : String} (htext : t ≠ .string)
    (h : c.spelling? t = some ("const " ++ name ++ "*")) : structLine name ∈ earlier := by
  have hregistered := CTypes.struct_of_spelling? hhandle htext h
  rw [CTypes.isRegistered] at hregistered
  split at hregistered
  · rename_i u hu
    obtain ⟨hmem, rfl⟩ := TypeMap.get?_eq_some.1 hu
    exact hearlier u hmem (.inr (of_decide_eq_true hregistered))
  · cases hregistered

/-- The declarations in a derived prototype are those of the receiver and of the parameters. -/
theorem parameterList_eq (params : List CParam) :
    (if Bindery.Prototype.declared (receiver? owner f) params = [] then "void"
      else ", ".intercalate ((Bindery.Prototype.declared (receiver? owner f) params).map
        fun d => Bindery.Prototype.declaration d.1 d.2)) = parameterList owner f params := by
  have hdeclarations : (Bindery.Prototype.declared (receiver? owner f) params).map
        (fun d => Bindery.Prototype.declaration d.1 d.2) =
      (if owner.kind = .object ∧ f.isStatic = false then [owner.name ++ "* self"] else []) ++
        params.map fun p => p.cType ++ " " ++ p.name := by
    have hself : Bindery.Prototype.declaration (owner.name ++ "*") Manifest.selfParam =
        owner.name ++ "* self" := by
      rw [Bindery.Prototype.declaration, String.append_assoc, String.append_assoc]
      rfl
    rw [Bindery.Prototype.declared, List.map_append, List.map_map, receiver?]
    congr 1
    by_cases hobject : owner.kind = .object <;> cases hstatic : f.isStatic <;> simp [hobject, hself]
  rw [parameterList, ← hdeclarations]
  simp only [List.map_eq_nil_iff]

theorem derive_receiver (returnCType symbol : String) (params : List CParam) :
    Bindery.Prototype.derive returnCType symbol (receiver? owner f) params =
      returnCType ++ " " ++ symbol ++ "(" ++ parameterList owner f params ++ ")" := by
  rw [Bindery.Prototype.derive_eq, parameterList_eq]
  rfl

theorem inner_receiver (params : List CParam) :
    Bindery.Prototype.inner (Bindery.Prototype.declared (receiver? owner f) params) =
      (parameterList owner f params).toList := by
  rw [Bindery.Prototype.inner_eq, parameterList_eq]

/-- A function has the prototype that it states or that its C types give, and the lines in front
declare what it points to if they declare all registered objects and structs. -/
theorem prototypeFor (hhandle : c.handleType = "void*") (howner : owner ∈ c.types.entries)
    (hearlier : ∀ t ∈ c.types.entries, t.kind = .object ∨ t.kind = .struct →
      structLine t.name ∈ earlier)
    (h : prototype c owner f = .ok p) : PrototypeFor c earlier owner f p := by
  obtain ⟨-, ⟨stated, hstated, rfl⟩ | ⟨hderived, returnCType, params, hresult, hparams, rfl⟩⟩ :=
    prototype_eq_ok h
  · obtain ⟨gap, semicolons, hnormalizes⟩ := Bindery.Prototype.exists_normalizes_iff.2
      (Bindery.Prototype.toList_normalize stated).symm
    exact .stated rfl hstated hnormalizes
  · obtain ⟨htypes, hvalues⟩ := Manifest.paramsFrom_eq_ok hparams
    have hspelled : ∀ p ∈ params, c.SpellsValue p.type p.cType := fun p hp =>
      CTypes.valueSpelling?_eq_some.1 (hvalues p hp)
    have hnames := Manifest.paramsFrom_names hparams
    rw [← List.range_eq_range'] at hnames
    refine .derived rfl hderived hresult htypes hnames hspelled ?spells ?declares ?receiver ?result
      ?params
    case spells => exact derive_receiver ..
    case declares =>
      intro hsymbol hstruct
      have hhandle : IsTypeText c.handleType := hhandle ▸ (by decide : IsTypeText "void*")
      rw [← inner_receiver]
      exact Bindery.Prototype.declares_derive
        (CTypes.isTypeText_of_spelling? hhandle hresult hstruct) hsymbol
    case receiver => exact fun hobject _ => hearlier owner howner (.inl hobject)
    case result =>
      rintro htext name rfl
      exact pointer_declared hhandle hearlier htext hresult
    case params =>
      intro p hp htext name hcType
      exact pointer_declared hhandle hearlier htext (hcType ▸ (hspelled p hp).2)

end Prototypes

/-! ### Types -/

/-- The lines of the declarations of some types have one for each struct and object among them. -/
theorem structLine_mem {ts : List TypeEntry} {t : TypeEntry} (ht : t ∈ ts)
    (hkind : t.kind = .object ∨ t.kind = .struct) :
    structLine t.name ∈ (ts.filterMap declaration?).flatMap (·.lines) := by
  have hdeclaration : declaration? t = some (.struct t.name) := by
    rcases hkind with hkind | hkind <;> rw [declaration?, hkind]
  exact List.mem_flatMap.2 ⟨_, List.mem_filterMap.2 ⟨t, ht, hdeclaration⟩, List.mem_cons_self⟩

/-- The errors about types are those about the constants of enums. -/
theorem flatMap_declarationErrors (ts : List TypeEntry) :
    ts.flatMap declarationErrors =
      (ts.filter (·.kind = .enum)).flatMap fun t => (t.enumerators.filter (¬ ·.Fits)).map t.unfit := by
  rw [← flatMap_if]
  refine List.flatMap_congr fun t _ => ?_
  simp only [declarationErrors, CType.constants_eq, decide_eq_true_iff]

end Legacy

namespace LegacyHeader

open Legacy (Declarable PrototypeFor Refusal structLine)

variable {types : TypeMap} {fileName : String}

/-- The lines of the header before its prototypes. -/
def opening (h : LegacyHeader) : List String :=
  [Header.banner, ""] ++ Header.openGuard h.fileName ++ ["", "#include <stdint.h>", ""] ++
    Header.openLinkage ++ [""] ++
    (if h.spellsHandle then Header.handleDeclaration ++ [""] else []) ++
    h.declarations.flatMap (·.lines)

/-- The lines of the header after its prototypes. -/
def closing (h : LegacyHeader) : List String :=
  [""] ++ Header.closeLinkage ++ ["", Header.closeGuard h.fileName]

theorem lines_eq (h : LegacyHeader) :
    h.lines = h.opening ++
      (if h.prototypes.isEmpty then [] else "" :: h.prototypes.map fun p => p.text ++ ";") ++
      h.closing := by
  simp only [lines, opening, closing, List.append_assoc]

/-- The declaration of the handle type is among the lines before the prototypes if one of them spells
it. -/
theorem handle_declared {h : LegacyHeader} {p : Legacy.Prototype} (hp : p ∈ h.prototypes)
    (hspells : "DomBind_Handle".toList <:+: p.text.toList) :
    "typedef struct DomBind_Handle DomBind_Handle;" ∈ h.opening := by
  have hany : h.spellsHandle = true :=
    List.any_eq_true.2 ⟨p, hp, Text.occursIn_iff.2 hspells⟩
  rw [opening, if_pos hany]
  refine List.mem_append_left _ (List.mem_append_right _ (List.mem_append_left _ ?_))
  decide

/-- The exported functions that have a prototype in the legacy header, type by type. -/
def declarable (types : TypeMap) : List Member :=
  (membersOf types.sorted).filter fun m => Declarable (Legacy.ctypes types) m.2

/-- What the legacy header says about some types. -/
structure Complete (types : TypeMap) (fileName : String) : Prop where
  /-- Types are taken in the order of their names, and functions as they were registered. -/
  in_order : types.sorted.Perm types.entries ∧ types.sorted.Pairwise fun t u => t.name < u.name
  text : (ofTypes fileName types).text = Text.ofLines ((ofTypes fileName types).opening ++
    (if (ofTypes fileName types).prototypes = [] then []
      else "" :: (ofTypes fileName types).prototypes.map fun p => p.text ++ ";") ++
    (ofTypes fileName types).closing)
  ascending : (ofTypes fileName types).prototypes.Pairwise fun p q => p.symbol ≤ q.symbol
  /-- Each function that can have a prototype has one, and the lines in front of the prototypes declare
  what it points to. -/
  prototypes : ∃ members : List Member, members.Perm (declarable types) ∧
    List.Forall₂ (fun m => PrototypeFor (Legacy.ctypes types) (ofTypes fileName types).opening m.1 m.2)
      members (ofTypes fileName types).prototypes
  /-- For each other function there is an error, and then one for each constant that does not fit. -/
  errors : ∃ refusals,
    List.Forall₂ (fun m => Refusal (Legacy.ctypes types) m.1 m.2)
      ((membersOf types.sorted).filter fun m => ¬ Declarable (Legacy.ctypes types) m.2) refusals ∧
    errors types = refusals ++ (types.sorted.filter (·.kind = .enum)).flatMap fun t =>
      (t.enumerators.filter (¬ ·.Fits)).map t.unfit
  handle : ∀ p ∈ (ofTypes fileName types).prototypes,
    "DomBind_Handle".toList <:+: p.text.toList →
      "typedef struct DomBind_Handle DomBind_Handle;" ∈ (ofTypes fileName types).opening

theorem outcome_isOk (types : TypeMap) (m : Member) :
    (outcome types m).isOk = decide (Declarable (Legacy.ctypes types) m.2) := by
  rw [Bool.eq_iff_iff, decide_eq_true_iff]
  exact Legacy.prototype_isOk

/-- The functions that have a prototype, as they are listed. -/
theorem listing_fst_perm (types : TypeMap) :
    ((listing types).map (·.1)).Perm (declarable types) := by
  refine ((List.mergeSort_perm _ _).map _).trans (.of_eq ?_)
  rw [withResult_fst]
  exact List.filter_congr fun m _ => outcome_isOk types m

/-- The legacy header has a prototype or an error for every exported function, and declares the types
that its prototypes point to before them. -/
theorem complete_ofTypes (types : TypeMap) (fileName : String) : Complete types fileName := by
  constructor
  case in_order => exact ⟨List.mergeSort_perm _ _, types.sorted_ascending⟩
  case text =>
    rw [text, lines_eq]
    simp only [List.isEmpty_iff]
  case ascending => exact pairwise_mergeSort_text Legacy.Prototype.symbol _
  case prototypes =>
    refine ⟨(listing types).map (·.1), listing_fst_perm types, ?_⟩
    rw [← listing_snd, List.forall₂_map_left_iff, List.forall₂_map_right_iff, List.forall₂_same]
    intro x hx
    obtain ⟨hm, houtcome⟩ := mem_listing.1 hx
    refine Legacy.prototypeFor rfl (List.mem_mergeSort.1 (mem_membersOf.1 hm).1) ?_ houtcome
    intro t ht hkind
    exact List.mem_append_right _ (Legacy.structLine_mem (List.mem_mergeSort.2 ht) hkind)
  case errors =>
    refine ⟨(outcomes types).2, ?_, ?_⟩
    · have hothers : (membersOf types.sorted).filter (fun m => ¬ Declarable (Legacy.ctypes types) m.2) =
          (membersOf types.sorted).filter fun m => !(outcome types m).isOk :=
        List.filter_congr fun m _ => by rw [outcome_isOk, decide_not]
      rw [hothers, outcomes_eq]
      exact (partition_errors (f := outcome types) _).imp fun _ _ h => Legacy.refusal h
    · rw [LegacyHeader.errors, Legacy.flatMap_declarationErrors]
  case handle => exact fun p hp hspells => handle_declared hp hspells

end LegacyHeader

end Bindery
