import Bindery.Proofs.Manifest.RoundTrip
import Bindery.Proofs.Source.Dispatch
import Bindery.Proofs.Source.Scope
/-!
Prototypes are read back. Whether the prototype of a bound function was stated or derived, reading it
gives the handle and the parameters of the binding, in order. A stated one is read when the function is
bound; a derived one is read back because the C types that the table spells cannot be taken for
anything else: each begins with a letter, and none has a comma or a parenthesis.
-/

namespace Bindery

open Prototype (IsIdentifier IsTypeText)

namespace CTypes

variable {t : SemanticType} {cType : String}

theorem isTypeText_runtimeHandle : IsTypeText runtimeHandle := by decide

theorem isTypeText_struct {name : String} (h : IsIdentifier name) :
    IsTypeText ("const " ++ name ++ "*") where
  ne_empty := by simp
  front := by simp [Text.isBlank]
  plain := by
    intro c hc
    rw [String.toList_append, String.toList_append, List.mem_append, List.mem_append] at hc
    rcases hc with (hc | hc) | hc
    · exact (by decide : IsTypeText "const ").plain c hc
    · refine ⟨?_, ?_, ?_⟩ <;> rintro rfl <;> exact h.not_mem (by decide) hc
    · exact (by decide : IsTypeText "*").plain c hc

/-- What the table spells can stand in a derived prototype, if the C type of handles can and the struct
that it may name has an identifier for a name. -/
theorem isTypeText_of_spelling? {c : CTypes} (hhandle : IsTypeText c.handleType)
    (h : c.spelling? t = some cType) (hstruct : ∀ name, t = .struct name → IsIdentifier name) :
    IsTypeText cType := by
  cases t with
  | handle =>
    cases h
    exact hhandle
  | «enum» name =>
    rw [spelling?] at h
    split at h
    · cases h
      exact by decide
    · cases h
  | «struct» name =>
    rw [spelling?] at h
    split at h
    · cases h
      exact isTypeText_struct (hstruct name rfl)
    · cases h
  | _ =>
    cases h
    exact by decide

theorem spelling?_of_valueSpelling? {c : CTypes} (h : c.valueSpelling? t = some cType) :
    c.spelling? t = some cType := by
  rw [valueSpelling?] at h
  split at h
  · cases h
  · exact h

end CTypes

/-- Whether the names in a derived prototype are identifiers: those of the function, its parameters and
the structs to which they point. -/
structure FunctionBinding.HasIdentifiers (b : FunctionBinding) : Prop where
  symbol : IsIdentifier b.symbol
  params : ∀ p ∈ b.params, IsIdentifier p.name
  structs : ∀ name, .struct name ∈ b.semanticTypes → IsIdentifier name

namespace Manifest

variable {types : TypeMap} {catalog : Catalog} {ctypes : CTypes} {owner : TypeEntry}
  {ownerKind : SubjectKind} {fn : FunctionEntry} {o : Occurrence} {b : FunctionBinding}

/-- A stated prototype is kept without the blanks around it and without semicolons at its end. -/
theorem normalize_stated (h : bindFunction catalog ctypes owner ownerKind fn = .ok b)
    (hstated : b.isStated = true) : Prototype.normalize b.signature = b.signature := by
  obtain ⟨_, _, _, shape, -, -, -, -, hshape, rfl⟩ := bindFunction_eq_ok h
  cases hprototype : fn.prototype? with
  | none =>
    rw [shapeOf, hprototype] at hshape
    cases hshape
    cases hstated
  | some stated =>
    obtain ⟨-, hsignature, hread⟩ := statedShape_names (statedShape_of_shapeOf hprototype hshape)
    change Prototype.normalize shape.signature = shape.signature
    rw [hsignature]
    exact Prototype.normalize_normalize hread

/-- The handle in a derived prototype has the name that all such handles have. -/
theorem handle_derived (h : bindFunction catalog ctypes owner ownerKind fn = .ok b)
    (hderived : b.isStated = false) : ∀ handle ∈ b.handleParam?, handle = selfParam := by
  obtain ⟨kind, _, _, shape, -, -, -, -, hshape, rfl⟩ := bindFunction_eq_ok h
  cases hprototype : fn.prototype? with
  | none =>
    rw [shapeOf, hprototype] at hshape
    cases hshape
    cases kind.usesHandle && !fn.isStatic <;> simp [derivedShape, eq_comm]
  | some stated =>
    obtain ⟨hstated, -⟩ := statedShape_names (statedShape_of_shapeOf hprototype hshape)
    cases hderived.symm.trans hstated

/-- The declarations in a derived prototype have types of the table, and identifiers. -/
theorem declared_derived (h : bindFunction catalog (.ofTypes types) owner ownerKind fn = .ok b)
    (hderived : b.isStated = false) (hident : b.HasIdentifiers) :
    ∀ d ∈ Prototype.declared (b.handleParam?.map (CTypes.runtimeHandle, ·)) b.params,
      IsTypeText d.1 ∧ IsIdentifier d.2 := by
  intro d hd
  rcases List.mem_append.1 hd with hd | hd
  · obtain ⟨handle, hhandle, rfl⟩ := Option.map_eq_some_iff.1 (Option.mem_toList.1 hd)
    rw [handle_derived h hderived handle hhandle]
    exact ⟨CTypes.isTypeText_runtimeHandle, by decide⟩
  · obtain ⟨p, hp, rfl⟩ := List.mem_map.1 hd
    have hspelled := CTypes.spelling?_of_valueSpelling? ((bindFunction_mapped h).1 p hp)
    have hstruct (name : String) (e : p.type = .struct name) : IsIdentifier name :=
      hident.structs name (List.mem_cons_of_mem _ (e ▸ List.mem_map_of_mem hp))
    exact ⟨CTypes.isTypeText_of_spelling? CTypes.isTypeText_runtimeHandle hspelled hstruct,
      hident.params p hp⟩

/-- The prototype of a binding is what is kept of it when it is read, and it is read as the handle and
the parameters. -/
theorem read_of_bindFunction (h : bindFunction catalog (.ofTypes types) owner ownerKind fn = .ok b)
    (hident : b.isStated = false → b.HasIdentifiers) :
    Prototype.normalize b.signature = b.signature ∧
      Prototype.parameters b.signature b.symbol = .ok b.shape.parameterNames := by
  obtain ⟨hdeclares, -⟩ := parameterNames_perm h
  rw [Shape.SignatureDeclares] at hdeclares
  split at hdeclares
  · rename_i hstated
    exact ⟨normalize_stated h hstated, hdeclares⟩
  · rename_i hstated
    have hderived : b.isStated = false := Bool.not_eq_true _ ▸ hstated
    have hident := hident hderived
    have hreturn : IsTypeText b.returnCType :=
      CTypes.isTypeText_of_spelling? CTypes.isTypeText_runtimeHandle (bindFunction_mapped h).2
        fun name e => hident.structs name (e ▸ List.mem_cons_self)
    have hnames : _ = b.shape.parameterNames :=
      Prototype.declared_names CTypes.runtimeHandle b.handleParam? b.params
    rw [show b.signature = _ from hdeclares, ← hnames]
    exact ⟨Prototype.normalize_derive hreturn hident.symbol,
      Prototype.parameters_derive hreturn hident.symbol (declared_derived h hderived hident)⟩

/-- How the prototype of a binding agrees with its parameters, and those with the types of its
function. -/
structure Agrees (ctypes : CTypes) (fn : FunctionEntry) (b : FunctionBinding) : Prop where
  /-- Reading the prototype gives the name of the handle, if there is one, and then those of the
  parameters. -/
  names : Prototype.parameters b.signature b.symbol =
    .ok (b.handleParam?.toList ++ b.params.map (·.name))
  /-- There is one parameter for each type that the function declares, and it is spelled as such. -/
  types : b.params.map (·.type) = fn.paramTypes
  spelled : ∀ p ∈ b.params, ctypes.valueSpelling? p.type = some p.cType
  /-- No blank stands around the prototype, and no semicolon at its end. -/
  trimmed : Text.trim b.signature = b.signature
  last : b.signature.toList.getLast? ≠ some ';'
  /-- Of a derived prototype, reading it recovers the declarations. -/
  derived : b.isStated = false → b.signature =
    Prototype.derive b.returnCType b.symbol (b.handleParam?.map (CTypes.runtimeHandle, ·)) b.params

/-- Every prototype in a manifest is read back as the handle and the parameters of its binding. Of a
derived one the names must be identifiers; a stated one may be any text that was accepted. -/
theorem signature_reads_back (b : FunctionBinding) (hb : b ∈ (build types catalog).manifest.functions)
    (hident : b.isStated = false → b.HasIdentifiers) :
    ∃ o ∈ occurrences types catalog, o.bound types catalog = .ok b ∧
      Agrees (.ofTypes types) o.function b := by
  obtain ⟨o, ho, hbound⟩ := exists_bound_of_mem hb
  obtain ⟨_, -, hfollows⟩ := follows_of_bound hbound
  obtain ⟨kind, hbind⟩ : ∃ kind, bindFunction catalog (.ofTypes types) o.owner kind o.function = .ok b := by
    rw [Occurrence.bound] at hbound
    split at hbound
    · cases hbound
    · exact ⟨_, hbound⟩
  obtain ⟨hkept, hnames⟩ := read_of_bindFunction hbind hident
  have hchars : Prototype.normalizeChars b.signature.toList = b.signature.toList := by
    rw [← Prototype.toList_normalize, hkept]
  refine ⟨o, ho, hbound, hnames, hfollows.params, (bindFunction_mapped hbind).1, ?_, ?_, ?_⟩
  · rw [Text.trim_eq_self_iff, ← hchars]
    exact Prototype.isTrimmed_normalizeChars _
  · rw [← hchars, Prototype.getLast?_of_parameters hnames]
    simp
  · intro hderived
    have hdeclares := (parameterNames_perm hbind).1
    rw [Shape.SignatureDeclares, if_neg (by simpa [FunctionBinding.shape] using hderived)] at hdeclares
    exact hdeclares

/-- A struct with one function. -/
def rectWith (fn : FunctionEntry) : TypeMap where
  entries := [{ name := "Rect", kind := .struct, functions := [fn] }]
  nodup := by simp

/-- The binding of a function of the struct whose prototype is derived. -/
def growBinding : FunctionBinding where
  name := "grow"
  symbol := "Rect_grow"
  signature := "uint8_t Rect_grow(DomBind_Handle* self, const Rect* other, uint32_t arg1)"
  isStated := false
  owner := "Rect"
  module := "rect"
  subjectKind := "Object"
  family := .methodTable
  isStatic := false
  handleParam? := some "self"
  params := [⟨"other", "const Rect*", .struct "Rect"⟩, ⟨"arg1", "uint32_t", .uint32⟩]
  returnType := .bool
  returnCType := "uint8_t"
  doc := ""

/-- The binding of one whose prototype is stated. -/
def labelBinding : FunctionBinding where
  name := "label"
  symbol := "Rect_label"
  signature := "const char *Rect_label (DomBind_Handle* rect, int sizes[])"
  isStated := true
  owner := "Rect"
  module := "rect"
  subjectKind := "Object"
  family := .methodTable
  isStatic := false
  handleParam? := some "rect"
  params := [⟨"sizes", "int32_t", .int32⟩]
  returnType := .string
  returnCType := "const char*"
  doc := ""

theorem signature_reads_back_rect :
    growBinding.HasIdentifiers ∧
    Prototype.parameters growBinding.signature "Rect_grow" = .ok ["self", "other", "arg1"] ∧
    Prototype.parameters labelBinding.signature "Rect_label" = .ok ["rect", "sizes"] := by
  have hgrow : growBinding ∈ (build (rectWith {
      name := "grow", paramTypes := [.struct "Rect", .uint32], paramNames := ["other"]
      returnType := .bool, callable? := some .host }) .builtin).manifest.functions := by
    decide +kernel
  have hlabel : labelBinding ∈ (build (rectWith {
      name := "label", paramTypes := [.int32], returnType := .string
      prototype? := some "  const char *Rect_label (DomBind_Handle* rect, int sizes[]) ; " })
      .builtin).manifest.functions := by
    decide +kernel
  have hident : growBinding.HasIdentifiers := by
    refine ⟨by decide, by decide, fun name hname => ?_⟩
    obtain rfl : name = "Rect" := by simpa [FunctionBinding.semanticTypes, growBinding] using hname
    decide
  obtain ⟨_, -, -, hreads⟩ := signature_reads_back growBinding hgrow fun _ => hident
  obtain ⟨_, -, -, hreads'⟩ := signature_reads_back labelBinding hlabel (by simp [labelBinding])
  exact ⟨hident, hreads.names, hreads'.names⟩

end Manifest

end Bindery
