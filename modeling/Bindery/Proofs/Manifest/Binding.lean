import Bindery.Manifest.Build
/-!
What binding one function can do. `bindFunction` asks four questions in turn and then fills in the
binding. If all of them are answered the binding is named after the function and its owner; the first
that is not gives the error, and every such error names the function and its owner.
-/

namespace Bindery

/-! ### Steps that may fail -/

theorem bind_eq_ok {ε α β : Type} {x : Except ε α} {g : α → Except ε β} {b : β}
    (h : x >>= g = .ok b) : ∃ a, x = .ok a ∧ g a = .ok b := by
  cases x with
  | error e => cases h
  | ok a => exact ⟨a, rfl, h⟩

theorem bind_eq_error {ε α β : Type} {x : Except ε α} {g : α → Except ε β} {e : ε}
    (h : x >>= g = .error e) : x = .error e ∨ ∃ a, x = .ok a ∧ g a = .error e := by
  cases x with
  | error e' =>
    cases h
    exact .inl rfl
  | ok a => exact .inr ⟨a, rfl, h⟩

/-- Whether an error says why a function of a type cannot be bound. -/
def BindingError.Refuses (owner function : String) : BindingError → Prop
  | .unknownFunctionSubjectKind o f _ => o = owner ∧ f = function
  | .missingCallable o f => o = owner ∧ f = function
  | .unmappableType o f (.type _) => o = owner ∧ f = function
  | .malformedSignature o f _ _ => o = owner ∧ f = function
  | _ => False

namespace CTypes

/-- Whether a semantic type can be that of a field or a parameter. -/
def Accepts (c : CTypes) (t : SemanticType) : Prop := (c.valueSpelling? t).isSome = true

instance {c : CTypes} {t : SemanticType} : Decidable (c.Accepts t) :=
  inferInstanceAs (Decidable (_ = true))

/-- The type for which a function cannot be bound: that of its result, or else the first of its
parameters', that has no C type. -/
def unmapped? (c : CTypes) (f : FunctionEntry) : Option SemanticType :=
  if (c.spelling? f.returnType).isSome then f.paramTypes.find? fun t => (c.valueSpelling? t).isNone
  else some f.returnType

/-- All types of a function have C types, the types of its parameters as values, unless one is found
that has none. -/
theorem unmapped?_eq_none {c : CTypes} {f : FunctionEntry} :
    c.unmapped? f = none ↔
      (c.spelling? f.returnType).isSome = true ∧ ∀ t ∈ f.paramTypes, c.Accepts t := by
  rw [unmapped?]
  split
  · rename_i h
    simp [h, Accepts, Option.isSome_iff_ne_none]
  · rename_i h
    simp [h]

/-- How semantic types are spelled depends on the kinds of the registered types alone. -/
theorem spelling?_congr {c c' : CTypes}
    (hkinds : ∀ name, (c'.types.get? name).map (·.kind) = (c.types.get? name).map (·.kind))
    (hhandle : c'.handleType = c.handleType) : c'.spelling? = c.spelling? := by
  have hregistered (c : CTypes) (name : String) (kind : EntryKind) :
      c.isRegistered name kind =
        decide ((c.types.get? name).map (·.kind) = some kind) := by
    rw [isRegistered]
    cases c.types.get? name <;> simp
  funext ty
  cases ty with
  | handle => rw [spelling?, spelling?, hhandle]
  | «enum» name => rw [spelling?, spelling?, hregistered, hregistered, hkinds]
  | «struct» name => rw [spelling?, spelling?, hregistered, hregistered, hkinds]
  | _ => rfl

theorem valueSpelling?_congr {c c' : CTypes} (h : c'.spelling? = c.spelling?) :
    c'.valueSpelling? = c.valueSpelling? := by
  funext ty
  rw [valueSpelling?, valueSpelling?, h]

end CTypes

namespace Manifest

variable {catalog : Catalog} {ctypes : CTypes} {owner : TypeEntry} {ownerKind kind : SubjectKind}
  {f : FunctionEntry} {t : SemanticType}

/-- The error about a type of a function that has no C type. -/
def unmappable (owner : TypeEntry) (f : FunctionEntry) (t : SemanticType) : BindingError :=
  .unmappableType owner.name f.name (.type t)

theorem mem_kinds_of_get? {name : String} (h : catalog.get? name = some kind) :
    kind ∈ catalog.kinds ∧ kind.name = name :=
  ⟨List.mem_of_find?_eq_some h, by simpa using List.find?_some h⟩

/-- The kind of a function is one of the catalog's, provided that of its type is. -/
theorem functionKind_mem (howner : ownerKind ∈ catalog.kinds)
    (h : functionKind catalog owner ownerKind f = .ok kind) : kind ∈ catalog.kinds := by
  unfold functionKind at h
  split at h
  · cases h
    exact howner
  · split at h
    · rename_i hget
      cases h
      exact (mem_kinds_of_get? hget).1
    · cases h

theorem functionKind_refuses {e : BindingError}
    (h : functionKind catalog owner ownerKind f = .error e) : e.Refuses owner.name f.name := by
  unfold functionKind at h
  split at h
  · cases h
  · split at h
    · cases h
    · cases h
      exact ⟨rfl, rfl⟩

theorem returnSpelling_eq_ok {c : String} (h : returnSpelling ctypes owner f = .ok c) :
    ctypes.spelling? f.returnType = some c := by
  unfold returnSpelling at h
  split at h
  · rename_i hc
    cases h
    exact hc
  · cases h

theorem returnSpelling_eq_error {e : BindingError} :
    returnSpelling ctypes owner f = .error e ↔
      ctypes.spelling? f.returnType = none ∧ e = unmappable owner f f.returnType := by
  rw [returnSpelling]
  cases ctypes.spelling? f.returnType <;> simp [unmappable, eq_comm]

theorem returnSpelling_refuses {e : BindingError} (h : returnSpelling ctypes owner f = .error e) :
    e.Refuses owner.name f.name := by
  obtain ⟨-, rfl⟩ := returnSpelling_eq_error.1 h
  exact ⟨rfl, rfl⟩

/-- The parameters keep the declared types, in order, and each has the C type of its own. -/
theorem paramsFrom_eq_ok : ∀ {ts : List SemanticType} {i : Nat} {ps : List CParam},
    paramsFrom ctypes owner f i ts = .ok ps →
      ps.map (·.type) = ts ∧ ∀ p ∈ ps, ctypes.valueSpelling? p.type = some p.cType
  | [], _, _, h => by
    cases h
    exact ⟨rfl, by simp⟩
  | t :: ts, i, ps, h => by
    rw [paramsFrom] at h
    split at h
    · cases h
    · rename_i c hc
      cases hrest : paramsFrom ctypes owner f (i + 1) ts with
      | error e =>
        rw [hrest] at h
        cases h
      | ok qs =>
        rw [hrest] at h
        cases h
        obtain ⟨htypes, hspell⟩ := paramsFrom_eq_ok hrest
        refine ⟨by rw [List.map_cons, htypes], ?_⟩
        intro p hp
        rcases List.mem_cons.1 hp with rfl | hp
        · exact hc
        · exact hspell p hp

/-- The parameters are named as the function names them, from the given position on. -/
theorem paramsFrom_names : ∀ {ts : List SemanticType} {i : Nat} {ps : List CParam},
    paramsFrom ctypes owner f i ts = .ok ps →
      ps.map (·.name) = (List.range' i ts.length).map f.paramName
  | [], _, _, h => by
    cases h
    rfl
  | t :: ts, i, ps, h => by
    rw [paramsFrom] at h
    split at h
    · cases h
    · cases hrest : paramsFrom ctypes owner f (i + 1) ts with
      | error e =>
        rw [hrest] at h
        cases h
      | ok qs =>
        rw [hrest] at h
        cases h
        rw [List.map_cons, paramsFrom_names hrest, List.length_cons, List.range'_succ, List.map_cons]

/-- The first type without a C type keeps the parameters from having C types. -/
theorem paramsFrom_eq_error {e : BindingError} : ∀ {ts : List SemanticType} {i : Nat},
    paramsFrom ctypes owner f i ts = .error e ↔
      ∃ t, (ts.find? fun t => (ctypes.valueSpelling? t).isNone) = some t ∧ e = unmappable owner f t
  | [], _ => by simp [paramsFrom]
  | t :: ts, i => by
    cases hc : ctypes.valueSpelling? t with
    | none => simp [paramsFrom, hc, unmappable, eq_comm]
    | some s =>
      have hrest : paramsFrom ctypes owner f i (t :: ts) = .error e ↔
          paramsFrom ctypes owner f (i + 1) ts = .error e := by
        rw [paramsFrom, hc]
        cases paramsFrom ctypes owner f (i + 1) ts <;> simp [Except.map]
      rw [hrest, paramsFrom_eq_error, List.find?_cons_of_neg (by simp [hc])]

theorem paramsFrom_refuses {e : BindingError} {ts : List SemanticType} {i : Nat}
    (h : paramsFrom ctypes owner f i ts = .error e) : e.Refuses owner.name f.name := by
  obtain ⟨_, -, rfl⟩ := paramsFrom_eq_error.1 h
  exact ⟨rfl, rfl⟩

/-- The names of a stated prototype take the place of those that the function declares, the first of
them in place of the handle's if it takes one. -/
theorem statedShape_eq_ok {stated symbol : String} {takesHandle : Bool} {ps : List CParam} {s : Shape}
    (h : statedShape stated symbol takesHandle ps = .ok s) :
    ∃ names, Prototype.parameters stated symbol = .ok names ∧
      names.length = ps.length + (if takesHandle then 1 else 0) ∧
      s = {
        signature := Prototype.normalize stated
        isStated := true
        handleParam? := if takesHandle then names.head? else none
        params := ps.zipWith (fun p name => { p with name := name })
          (if takesHandle then names.drop 1 else names) } := by
  unfold statedShape at h
  split at h
  · cases h
  · rename_i names hnames
    by_cases hlen : names.length = ps.length + (if takesHandle then 1 else 0)
    · refine ⟨names, hnames, hlen, ?_⟩
      simpa [hlen] using h.symm
    · simp [hlen] at h

/-- A shape has the parameters that it is given, up to their names. -/
theorem shapeOf_eq_ok {returnCType : String} {takesHandle : Bool} {ps : List CParam} {s : Shape}
    (h : shapeOf owner f returnCType takesHandle ps = .ok s) :
    s.params.map (fun p => (p.cType, p.type)) = ps.map fun p => (p.cType, p.type) := by
  unfold shapeOf at h
  split at h
  · cases h
    rfl
  · cases hs : statedShape _ (symbolOf owner f) takesHandle ps with
    | error fault =>
      rw [hs] at h
      cases h
    | ok shape =>
      rw [hs] at h
      cases h
      obtain ⟨names, -, hlen, rfl⟩ := statedShape_eq_ok hs
      have hown : (if takesHandle then names.drop 1 else names).length = ps.length := by
        cases takesHandle <;> simp_all
      apply List.ext_getElem
      · rw [List.length_map, List.length_zipWith, hown, Nat.min_self, List.length_map]
      · intro i _ _
        simp

theorem shapeOf_refuses {returnCType : String} {takesHandle : Bool} {ps : List CParam}
    {e : BindingError} (h : shapeOf owner f returnCType takesHandle ps = .error e) :
    e.Refuses owner.name f.name := by
  unfold shapeOf at h
  split at h
  · cases h
  · cases hs : statedShape _ (symbolOf owner f) takesHandle ps with
    | error fault =>
      rw [hs] at h
      cases h
      exact ⟨rfl, rfl⟩
    | ok shape =>
      rw [hs] at h
      cases h

/-- What a bound function is: its kind, its C types and its shape are those found on the way, and all
else is copied from the function and its owner. -/
theorem bindFunction_eq_ok {b : FunctionBinding}
    (h : bindFunction catalog ctypes owner ownerKind f = .ok b) :
    ∃ kind returnCType cParams shape,
      functionKind catalog owner ownerKind f = .ok kind ∧ f.isBindable = true ∧
      returnSpelling ctypes owner f = .ok returnCType ∧ params ctypes owner f = .ok cParams ∧
      shapeOf owner f returnCType (kind.usesHandle && !f.isStatic) cParams = .ok shape ∧
      b = {
        name := f.name
        symbol := symbolOf owner f
        signature := shape.signature
        isStated := shape.isStated
        owner := owner.name
        module := owner.module
        subjectKind := kind.name
        family := kind.family
        isStatic := f.isStatic
        handleParam? := shape.handleParam?
        params := shape.params
        returnType := f.returnType
        returnCType
        doc := f.doc } := by
  obtain ⟨kind, hkind, h⟩ := bind_eq_ok h
  cases hb : f.isBindable with
  | false =>
    rw [hb] at h
    cases h
  | true =>
    rw [hb] at h
    obtain ⟨returnCType, hreturn, h⟩ := bind_eq_ok h
    obtain ⟨cParams, hparams, h⟩ := bind_eq_ok h
    obtain ⟨shape, hshape, h⟩ := bind_eq_ok h
    cases h
    exact ⟨kind, returnCType, cParams, shape, hkind, rfl, hreturn, hparams, hshape, rfl⟩

/-- Why a function is not bound: the first of the questions about its kind, its callable, its types
and its prototype that is not answered. -/
theorem bindFunction_eq_error {e : BindingError}
    (h : bindFunction catalog ctypes owner ownerKind f = .error e) :
    functionKind catalog owner ownerKind f = .error e ∨
      ∃ kind, functionKind catalog owner ownerKind f = .ok kind ∧
        (f.isBindable = false ∧ e = .missingCallable owner.name f.name ∨
          f.isBindable = true ∧
            (returnSpelling ctypes owner f = .error e ∨
              ∃ returnCType, returnSpelling ctypes owner f = .ok returnCType ∧
                (params ctypes owner f = .error e ∨
                  ∃ cParams, params ctypes owner f = .ok cParams ∧
                    shapeOf owner f returnCType (kind.usesHandle && !f.isStatic) cParams =
                      .error e))) := by
  rcases bind_eq_error h with h | ⟨kind, hkind, h⟩
  · exact .inl h
  · refine .inr ⟨kind, hkind, ?_⟩
    cases hb : f.isBindable with
    | false =>
      rw [hb] at h
      cases h
      exact .inl ⟨rfl, rfl⟩
    | true =>
      rw [hb] at h
      refine .inr ⟨rfl, ?_⟩
      rcases bind_eq_error h with h | ⟨returnCType, hreturn, h⟩
      · exact .inl h
      · refine .inr ⟨returnCType, hreturn, ?_⟩
        rcases bind_eq_error h with h | ⟨cParams, hparams, h⟩
        · exact .inl h
        · rcases bind_eq_error h with h | ⟨shape, -, h⟩
          · exact .inr ⟨cParams, hparams, h⟩
          · cases h

/-- Whatever keeps a function from being bound, the error names it and its owner. -/
theorem bindFunction_refuses {e : BindingError}
    (h : bindFunction catalog ctypes owner ownerKind f = .error e) : e.Refuses owner.name f.name := by
  rcases bindFunction_eq_error h with h | ⟨_, -, ⟨-, rfl⟩ | ⟨-, h | ⟨_, -, h | ⟨_, -, h⟩⟩⟩⟩
  · exact functionKind_refuses h
  · exact ⟨rfl, rfl⟩
  · exact returnSpelling_refuses h
  · exact paramsFrom_refuses h
  · exact shapeOf_refuses h

/-! ### Left out because of a type -/

/-- Whether binding a function gets as far as its types: the kind that it states is known, and it can
be called or its prototype is stated. -/
def GetsToTypes (catalog : Catalog) (f : FunctionEntry) : Prop :=
  (∀ name ∈ f.subjectKind?, (catalog.get? name).isSome = true) ∧ f.isBindable = true

instance : Decidable (GetsToTypes catalog f) := inferInstanceAs (Decidable (_ ∧ _))

theorem functionKind_isOk :
    (∃ kind, functionKind catalog owner ownerKind f = .ok kind) ↔
      ∀ name ∈ f.subjectKind?, (catalog.get? name).isSome = true := by
  unfold functionKind
  cases hstated : f.subjectKind? with
  | none => simp
  | some name =>
    cases hget : catalog.get? name with
    | none => simp [hget]
    | some kind => simp [hget]

theorem functionKind_ne_unmappable :
    functionKind catalog owner ownerKind f ≠ .error (unmappable owner f t) := by
  unfold functionKind
  split
  · simp
  · split <;> simp [unmappable]

theorem shapeOf_ne_unmappable {returnCType : String} {takesHandle : Bool} {ps : List CParam} :
    shapeOf owner f returnCType takesHandle ps ≠ .error (unmappable owner f t) := by
  intro h
  unfold shapeOf at h
  split at h
  · cases h
  · cases hs : statedShape _ (symbolOf owner f) takesHandle ps <;> rw [hs] at h <;> cases h

/-- A function is left out because of a type if and only if binding it gets to its types and this is
the one for which it cannot be bound. -/
theorem bindFunction_eq_unmappable :
    bindFunction catalog ctypes owner ownerKind f = .error (unmappable owner f t) ↔
      GetsToTypes catalog f ∧ ctypes.unmapped? f = some t := by
  constructor
  · intro h
    rcases bindFunction_eq_error h with
      h | ⟨kind, hkind, ⟨-, e⟩ | ⟨hb, h | ⟨returnCType, hreturn, h | ⟨_, -, h⟩⟩⟩⟩
    · exact absurd h functionKind_ne_unmappable
    · cases e
    · obtain ⟨hnone, e⟩ := returnSpelling_eq_error.1 h
      cases e
      exact ⟨⟨functionKind_isOk.1 ⟨kind, hkind⟩, hb⟩, by simp [CTypes.unmapped?, hnone]⟩
    · obtain ⟨u, hu, e⟩ := paramsFrom_eq_error.1 h
      cases e
      have hsome := returnSpelling_eq_ok hreturn
      exact ⟨⟨functionKind_isOk.1 ⟨kind, hkind⟩, hb⟩, by simp [CTypes.unmapped?, hsome, hu]⟩
    · exact absurd h shapeOf_ne_unmappable
  · rintro ⟨⟨hkind, hb⟩, h⟩
    obtain ⟨kind, hkind⟩ : ∃ kind, functionKind catalog owner ownerKind f = .ok kind :=
      functionKind_isOk.2 hkind
    cases hreturn : ctypes.spelling? f.returnType with
    | none =>
      have hfirst : returnSpelling ctypes owner f = .error (unmappable owner f f.returnType) :=
        returnSpelling_eq_error.2 ⟨hreturn, rfl⟩
      rw [CTypes.unmapped?, hreturn] at h
      cases h
      rw [bindFunction, hkind, hb, hfirst]
      rfl
    | some returnCType =>
      have hfirst : returnSpelling ctypes owner f = .ok returnCType := by rw [returnSpelling, hreturn]
      rw [CTypes.unmapped?, hreturn] at h
      have hsecond : params ctypes owner f = .error (unmappable owner f t) :=
        paramsFrom_eq_error.2 ⟨t, h, rfl⟩
      rw [bindFunction, hkind, hb, hfirst, hsecond]
      rfl

/-! ### What a binding depends on -/

section Congruence

variable {ctypes' : CTypes} {other : TypeEntry} (hspelling : ctypes'.spelling? = ctypes.spelling?)
  (hname : other.name = owner.name)
include hspelling hname

theorem paramsFrom_congr (f : FunctionEntry) : ∀ (i : Nat) (ts : List SemanticType),
    paramsFrom ctypes' other f i ts = paramsFrom ctypes owner f i ts
  | _, [] => rfl
  | i, ty :: ts => by
    rw [paramsFrom, paramsFrom, CTypes.valueSpelling?_congr hspelling, hname,
      paramsFrom_congr f (i + 1) ts]

theorem returnSpelling_congr (f : FunctionEntry) :
    returnSpelling ctypes' other f = returnSpelling ctypes owner f := by
  rw [returnSpelling, returnSpelling, hspelling, hname]

/-- Of its type, a function that is bound looks at the name and the module only. -/
theorem bindFunction_congr (hmodule : other.module = owner.module) :
    bindFunction catalog ctypes' other ownerKind = bindFunction catalog ctypes owner ownerKind := by
  funext f
  rw [bindFunction, bindFunction, returnSpelling_congr hspelling hname, params, params,
    paramsFrom_congr hspelling hname]
  simp only [functionKind, shapeOf, symbolOf, hname, hmodule]

end Congruence

/-! ### What a binding says about its function -/

/-- A binding has the names of its function and its owner, and is in its owner's module. -/
theorem bindFunction_names {b : FunctionBinding}
    (h : bindFunction catalog ctypes owner ownerKind f = .ok b) :
    b.name = f.name ∧ b.owner = owner.name ∧ b.module = owner.module ∧ b.symbol = symbolOf owner f := by
  obtain ⟨_, _, _, _, -, -, -, -, -, rfl⟩ := bindFunction_eq_ok h
  exact ⟨rfl, rfl, rfl, rfl⟩

/-- All types of a binding have a C type: those of the parameters as values. -/
theorem bindFunction_mapped {b : FunctionBinding}
    (h : bindFunction catalog ctypes owner ownerKind f = .ok b) :
    (∀ p ∈ b.params, ctypes.valueSpelling? p.type = some p.cType) ∧
      ctypes.spelling? b.returnType = some b.returnCType := by
  obtain ⟨_, returnCType, cParams, shape, -, -, hreturn, hparams, hshape, rfl⟩ := bindFunction_eq_ok h
  refine ⟨?_, returnSpelling_eq_ok hreturn⟩
  intro p hp
  have hp : (p.cType, p.type) ∈ shape.params.map fun p => (p.cType, p.type) := List.mem_map_of_mem hp
  rw [shapeOf_eq_ok hshape] at hp
  obtain ⟨q, hq, e⟩ := List.mem_map.1 hp
  obtain ⟨hcType, htype⟩ := Prod.mk.inj e
  rw [← htype, ← hcType]
  exact (paramsFrom_eq_ok hparams).2 q hq

/-- The kind that a binding refers to is in the catalog, with the binding's family. -/
theorem bindFunction_family {b : FunctionBinding} (howner : ownerKind ∈ catalog.kinds)
    (h : bindFunction catalog ctypes owner ownerKind f = .ok b) :
    ∃ k ∈ catalog.kinds, k.name = b.subjectKind ∧ k.family = b.family := by
  obtain ⟨k, _, _, _, hk, -, -, -, -, rfl⟩ := bindFunction_eq_ok h
  exact ⟨k, functionKind_mem howner hk, rfl, rfl⟩

end Manifest

end Bindery
