import Bindery.Header.Legacy
import Bindery.Proofs.Header.Mirrors
import Bindery.Proofs.Manifest.Account
import Bindery.Proofs.Manifest.Consistency
/-!
The legacy header against the manifest. Both look at the exported functions of all types, in different
orders, with different C types for handles and with different demands on stated prototypes. The
manifest passes over the functions of enums, and the legacy header does not. Apart from these, when
nothing is left out of the manifest, nothing is left out of the header, and both have the same symbols.
-/

namespace Bindery

theorem flatMap_if {α β : Type} (p : α → Bool) (g : α → List β) : ∀ l : List α,
    (l.flatMap fun a => if p a then g a else []) = (l.filter p).flatMap g
  | [] => rfl
  | a :: l => by by_cases h : p a = true <;> simp [h, flatMap_if p g l]

/-- A function with the type that it belongs to. -/
abbrev Member := TypeEntry × FunctionEntry

/-- The exported functions of some types. -/
def membersOf (ts : List TypeEntry) : List Member :=
  ts.flatMap fun t => t.exportedFunctions.map fun f => (t, f)

/-- The symbol of a function. -/
def Member.symbol (m : Member) : String := Manifest.symbolOf m.1 m.2

theorem mem_membersOf {ts : List TypeEntry} {m : Member} :
    m ∈ membersOf ts ↔ m.1 ∈ ts ∧ m.2 ∈ m.1.exportedFunctions := by
  rw [membersOf, List.mem_flatMap]
  constructor
  · rintro ⟨t, ht, hm⟩
    obtain ⟨f, hf, rfl⟩ := List.mem_map.1 hm
    exact ⟨ht, hf⟩
  · rintro ⟨ht, hf⟩
    exact ⟨m.1, ht, List.mem_map_of_mem hf⟩

theorem perm_membersOf {ts us : List TypeEntry} (h : ts.Perm us) :
    (membersOf ts).Perm (membersOf us) := h.flatMap fun _ _ => .refl _

/-- The functions of no enums are those of the types that are no enums. -/
theorem filter_membersOf (ts : List TypeEntry) :
    (membersOf ts).filter (fun m => m.1.kind ≠ .enum) =
      membersOf (ts.filter fun t => t.kind ≠ .enum) := by
  have hof (t : TypeEntry) :
      (t.exportedFunctions.map fun f => (t, f)).filter (fun m : Member => m.1.kind ≠ .enum) =
        if decide (t.kind ≠ .enum) then t.exportedFunctions.map fun f => (t, f) else [] := by
    by_cases h : t.kind = .enum <;> simp [h]
  rw [membersOf, List.filter_flatMap, List.flatMap_congr fun t _ => hof t]
  exact flatMap_if _ _ ts

/-! ### Manifests from which nothing is left out -/

namespace Manifest

variable {types : TypeMap} {catalog : Catalog} {t : TypeEntry} {o : Occurrence}

section Clean

variable (hclean : (build types catalog).isClean = true)
include hclean

theorem errors_of_clean : (build types catalog).errors = [] := List.isEmpty_iff.1 hclean

theorem resolve?_of_clean (ht : t ∈ types.entries) :
    (catalog.resolve? t.subjectKind?).isSome = true := by
  by_contra hnone
  have hkind : catalog.resolve? t.subjectKind? = none := by simpa using hnone
  have hmem : BindingError.unknownSubjectKind t.name (t.subjectKind?.getD "") ∈
      (sortedTypes types).flatMap (kindErrors catalog) := by
    refine List.mem_flatMap.2 ⟨t, mem_sortedTypes.2 ht, ?_⟩
    rw [kindErrors, hkind]
    exact List.mem_cons_self
  have hreported := errors_perm.symm.subset (List.mem_append_left _ hmem)
  have herrors := errors_of_clean hclean
  rw [errors_build, List.append_eq_nil_iff] at herrors
  rw [herrors.1] at hreported
  cases hreported

theorem bound_of_clean (ho : o ∈ occurrences types catalog) :
    ∃ b, o.bound types catalog = .ok b := by
  cases h : o.bound types catalog with
  | ok b => exact ⟨b, rfl⟩
  | error e =>
    have hmem := mem_errors_of_bound ho h
    rw [errors_of_clean hclean] at hmem
    cases hmem

theorem functions_of_clean :
    (build types catalog).manifest.functions = sortFunctions (accepted types catalog) := by
  have herrors := errors_of_clean hclean
  rw [errors_build, List.append_eq_nil_iff] at herrors
  rw [functions_build, dedup_of_no_errors herrors.2]

end Clean

theorem bound_symbol {b : FunctionBinding} (h : o.bound types catalog = .ok b) :
    b.symbol = symbolOf o.owner o.function := by
  rw [Occurrence.bound] at h
  split at h
  · cases h
  · obtain ⟨_, _, _, _, -, -, -, -, -, rfl⟩ := bindFunction_eq_ok h
    rfl

/-- The functions that are to be bound are the exported ones of types of a known kind that are no
enums. -/
theorem members_occurrences :
    (occurrences types catalog).map (fun o => (o.owner, o.function)) =
      membersOf (types.entries.filter (bindsFunctions catalog)) := by
  have hof (t : TypeEntry) : (occurrencesOf catalog t).map (fun o => (o.owner, o.function)) =
      if bindsFunctions catalog t then t.exportedFunctions.map fun f => (t, f) else [] := by
    rw [occurrencesOf]
    split
    · rw [List.map_map, ← List.zipIdx_map_fst 0 t.exportedFunctions, List.map_map]
      simp [Function.comp_def]
    · rfl
  rw [occurrences, List.map_flatMap, membersOf, List.flatMap_congr fun t _ => hof t]
  exact flatMap_if _ _ types.entries

/-- When nothing is left out, the symbols are those of the exported functions of all types but
enums. -/
theorem symbols_of_clean (hclean : (build types catalog).isClean = true) :
    ((build types catalog).manifest.functions.map (·.symbol)).Perm
      ((membersOf (types.entries.filter fun t => t.kind ≠ .enum)).map Member.symbol) := by
  have hok : ∀ o ∈ arranged types catalog, ∃ b, o.bound types catalog = .ok b := fun o ho =>
    bound_of_clean hclean ((arranged_perm types catalog).subset ho)
  have hsymbols : (accepted types catalog).map (·.symbol) =
      (arranged types catalog).map fun o => symbolOf o.owner o.function := by
    have hfst : (bindable types catalog).map (·.1) = arranged types catalog := withResult_fst_of_ok hok
    rw [← bindable_snd, List.map_map, ← hfst, List.map_map]
    exact List.map_congr_left fun x hx => bound_symbol (mem_bindable.1 hx).2
  have hbinds : types.entries.filter (bindsFunctions catalog) =
      types.entries.filter fun t => t.kind ≠ .enum :=
    List.filter_congr fun t ht => by rw [bindsFunctions, resolve?_of_clean hclean ht, Bool.true_and]
  rw [functions_of_clean hclean, ← hbinds, ← members_occurrences, List.map_map]
  refine ((List.mergeSort_perm _ _).map _).trans ?_
  rw [hsymbols]
  exact (arranged_perm types catalog).map _

end Manifest

/-! ### One prototype -/

/-- An error names at most one function. -/
theorem BindingError.Refuses.unique {e : BindingError} {owner owner' function function' : String}
    (h : e.Refuses owner function) (h' : e.Refuses owner' function') :
    owner = owner' ∧ function = function' := by
  unfold Refuses at h h'
  split at h <;> simp_all

theorem CTypes.spelling?_isSome {c c' : CTypes} (h : c'.types = c.types) (t : SemanticType) :
    (c'.spelling? t).isSome = (c.spelling? t).isSome := by
  obtain ⟨types, handle⟩ := c
  obtain ⟨types', handle'⟩ := c'
  obtain rfl : types' = types := h
  cases t <;> rfl

/-- Which types have values in C does not depend on how handles are spelled. -/
theorem CTypes.accepts_congr {c c' : CTypes} (h : c'.types = c.types) {t : SemanticType} :
    c'.Accepts t ↔ c.Accepts t := by
  rw [Accepts, Accepts, valueSpelling?, valueSpelling?]
  split
  · exact Iff.rfl
  · rw [spelling?_isSome h]

/-- Parameters that have C types are of types that have values in C. -/
theorem Manifest.accepts_of_params {c : CTypes} {owner : TypeEntry} {f : FunctionEntry}
    {ps : List CParam} (h : params c owner f = .ok ps) : ∀ t ∈ f.paramTypes, c.Accepts t := by
  obtain ⟨htypes, hspell⟩ := paramsFrom_eq_ok h
  intro t ht
  rw [← htypes] at ht
  obtain ⟨p, hp, rfl⟩ := List.mem_map.1 ht
  rw [CTypes.Accepts, hspell p hp]
  rfl

namespace Legacy

variable {c : CTypes} {owner : TypeEntry} {f : FunctionEntry}

/-- Whether a function has a prototype in the legacy header: it can be bound, and its prototype is
stated or all of its types have C types, those of parameters as values. -/
def Declarable (c : CTypes) (f : FunctionEntry) : Prop :=
  f.isBindable = true ∧ (f.prototype?.isSome = true ∨
    (c.spelling? f.returnType).isSome = true ∧ ∀ t ∈ f.paramTypes, c.Accepts t)

instance : Decidable (Declarable c f) := inferInstanceAs (Decidable (_ ∧ (_ ∨ _ ∧ _)))

/-- What a prototype is made from: a function that can be bound, and the prototype that it states or
else its C types. -/
theorem prototype_eq_ok {p : Prototype} (h : prototype c owner f = .ok p) :
    f.isBindable = true ∧
      ((∃ stated, f.prototype? = some stated ∧
          p = ⟨Manifest.symbolOf owner f, Bindery.Prototype.normalize stated⟩) ∨
        f.prototype? = none ∧ ∃ returnCType params,
          c.spelling? f.returnType = some returnCType ∧ Manifest.params c owner f = .ok params ∧
            p = ⟨Manifest.symbolOf owner f, Bindery.Prototype.derive returnCType
              (Manifest.symbolOf owner f) (receiver? owner f) params⟩) := by
  rw [prototype] at h
  cases hb : f.isBindable with
  | false =>
    rw [hb] at h
    cases h
  | true =>
    rw [hb] at h
    refine ⟨rfl, ?_⟩
    cases hstated : f.prototype? with
    | some stated =>
      rw [hstated] at h
      cases h
      exact .inl ⟨stated, rfl, rfl⟩
    | none =>
      rw [hstated] at h
      obtain ⟨returnCType, hreturn, h⟩ := bind_eq_ok h
      obtain ⟨params, hparams, h⟩ := bind_eq_ok h
      cases h
      exact .inr ⟨rfl, returnCType, params, Manifest.returnSpelling_eq_ok hreturn, hparams, rfl⟩

theorem symbol_of_prototype {p : Prototype} (h : prototype c owner f = .ok p) :
    p.symbol = Manifest.symbolOf owner f := by
  obtain ⟨-, ⟨_, -, rfl⟩ | ⟨-, _, _, -, -, rfl⟩⟩ := prototype_eq_ok h <;> rfl

/-- Why a function has no prototype: it cannot be bound at all, or its prototype is not stated and one
of its types has no C type. -/
theorem prototype_eq_error {e : BindingError} (h : prototype c owner f = .error e) :
    f.isBindable = false ∧ e = .missingCallable owner.name f.name ∨
      f.isBindable = true ∧ f.prototype? = none ∧
        ∃ t, c.unmapped? f = some t ∧ e = Manifest.unmappable owner f t := by
  rw [prototype] at h
  cases hb : f.isBindable with
  | false =>
    rw [hb] at h
    cases h
    exact .inl ⟨rfl, rfl⟩
  | true =>
    rw [hb] at h
    cases hstated : f.prototype? with
    | some stated =>
      rw [hstated] at h
      cases h
    | none =>
      rw [hstated] at h
      refine .inr ⟨rfl, rfl, ?_⟩
      rw [CTypes.unmapped?]
      rcases bind_eq_error h with h | ⟨_, hreturn, h⟩
      · obtain ⟨hnone, rfl⟩ := Manifest.returnSpelling_eq_error.1 h
        exact ⟨f.returnType, by simp [hnone], rfl⟩
      · rcases bind_eq_error h with h | ⟨_, -, h⟩
        · obtain ⟨t, ht, rfl⟩ := Manifest.paramsFrom_eq_error.1 h
          exact ⟨t, by simp [Manifest.returnSpelling_eq_ok hreturn, ht], rfl⟩
        · cases h

/-- Whatever keeps a function from having a prototype, the error names it and its owner. -/
theorem prototype_refuses {e : BindingError} (h : prototype c owner f = .error e) :
    e.Refuses owner.name f.name := by
  rcases prototype_eq_error h with ⟨-, rfl⟩ | ⟨-, -, _, -, rfl⟩ <;> exact ⟨rfl, rfl⟩

/-- The functions with a prototype are those that can be bound and are stated or have C types. -/
theorem prototype_isOk : (prototype c owner f).isOk = true ↔ Declarable c f := by
  cases h : prototype c owner f with
  | ok p =>
    refine iff_of_true rfl ?_
    obtain ⟨hb, ⟨stated, hstated, -⟩ | ⟨-, returnCType, params, hresult, hparams, -⟩⟩ :=
      prototype_eq_ok h
    · exact ⟨hb, .inl (hstated ▸ rfl)⟩
    · exact ⟨hb, .inr ⟨hresult ▸ rfl, Manifest.accepts_of_params hparams⟩⟩
  | error e =>
    refine iff_of_false Bool.false_ne_true ?_
    rintro ⟨hb, hdeclarable⟩
    rcases prototype_eq_error h with ⟨hunbindable, -⟩ | ⟨-, hderived, t, ht, -⟩
    · rw [hb] at hunbindable
      cases hunbindable
    · rw [hderived] at hdeclarable
      rw [CTypes.unmapped?_eq_none.2 (hdeclarable.resolve_left Bool.false_ne_true)] at ht
      cases ht

/-- A function that can be bound has a prototype in the legacy header: which types have a C type does
not depend on that of handles. -/
theorem exists_prototype {types : TypeMap} {catalog : Catalog} {ownerKind : SubjectKind}
    {b : FunctionBinding}
    (h : Manifest.bindFunction catalog (.ofTypes types) owner ownerKind f = .ok b) :
    ∃ p, prototype (ctypes types) owner f = .ok p := by
  obtain ⟨_, returnCType, cParams, _, -, hbindable, hreturn, hparams, -, -⟩ :=
    Manifest.bindFunction_eq_ok h
  have htypes : (ctypes types).types = (CTypes.ofTypes types).types := rfl
  have hresult : ((ctypes types).spelling? f.returnType).isSome = true := by
    rw [CTypes.spelling?_isSome htypes, Manifest.returnSpelling_eq_ok hreturn]
    rfl
  have hdeclarable : Declarable (ctypes types) f :=
    ⟨hbindable, .inr ⟨hresult, fun t ht =>
      (CTypes.accepts_congr htypes).2 (Manifest.accepts_of_params hparams t ht)⟩⟩
  cases hp : prototype (ctypes types) owner f with
  | ok p => exact ⟨p, rfl⟩
  | error e =>
    have hok : (prototype (ctypes types) owner f).isOk = true := prototype_isOk.2 hdeclarable
    rw [hp] at hok
    cases hok

end Legacy

/-! ### The header and the manifest -/

namespace LegacyHeader

variable {types : TypeMap} {catalog : Catalog} {m : Member}

/-- What becomes of a function in the legacy header. -/
def outcome (types : TypeMap) (m : Member) : Except BindingError Legacy.Prototype :=
  Legacy.prototype (Legacy.ctypes types) m.1 m.2

/-- The prototypes of the legacy header in their order, each with the function that it is for. -/
def listing (types : TypeMap) : List (Member × Legacy.Prototype) :=
  (withResult (outcome types) (membersOf types.sorted)).mergeSort fun x y =>
    x.2.symbol ≤ y.2.symbol

theorem outcomes_eq : outcomes types = partition ((membersOf types.sorted).map (outcome types)) := by
  rw [outcomes, membersOf, List.map_flatMap]
  simp only [List.map_map]
  rfl

theorem listing_snd (fileName : String) :
    (listing types).map (·.2) = (ofTypes fileName types).prototypes := by
  rw [ofTypes, outcomes_eq, ← withResult_snd]
  exact List.map_mergeSort fun _ _ _ _ => rfl

theorem mem_listing {x : Member × Legacy.Prototype} :
    x ∈ listing types ↔ x.1 ∈ membersOf types.sorted ∧ outcome types x.1 = .ok x.2 := by
  rw [listing, List.mem_mergeSort]
  exact mem_withResult

theorem not_refuses_declarationErrors {t : TypeEntry} {e : BindingError}
    (h : e ∈ Legacy.declarationErrors t) (owner function : String) : ¬ e.Refuses owner function := by
  rw [Legacy.declarationErrors] at h
  split at h
  · rw [CType.constants_eq] at h
    obtain ⟨_, -, rfl⟩ := List.mem_map.1 h
    exact id
  · cases h

/-- An error about a function comes from that function. -/
theorem member_of_error {e : BindingError} (he : e ∈ errors types) {owner function : String}
    (h : e.Refuses owner function) :
    ∃ m ∈ membersOf types.sorted, outcome types m = .error e := by
  rw [errors, outcomes_eq] at he
  rcases List.mem_append.1 he with he | he
  · obtain ⟨m, hm, houtcome⟩ := List.mem_map.1 (mem_partition_error.1 he)
    exact ⟨m, hm, houtcome⟩
  · obtain ⟨t, -, he⟩ := List.mem_flatMap.1 he
    exact absurd h (not_refuses_declarationErrors he owner function)

theorem mem_errors_of_outcome {e : BindingError} (hm : m ∈ membersOf types.sorted)
    (h : outcome types m = .error e) : e ∈ errors types := by
  rw [errors, outcomes_eq]
  exact List.mem_append_left _ (mem_partition_error.2 (List.mem_map.2 ⟨m, hm, h⟩))

/-- The symbol of a listed prototype is that of its function. -/
theorem symbol_listing {x : Member × Legacy.Prototype} (hx : x ∈ listing types) :
    x.2.symbol = x.1.symbol := Legacy.symbol_of_prototype (mem_listing.1 hx).2

section Clean

variable (hclean : (Manifest.build types catalog).isClean = true)
include hclean

/-- When nothing is left out of the manifest, the functions of types other than enums have
prototypes. -/
theorem outcome_of_clean (hm : m ∈ membersOf types.sorted) (henum : m.1.kind ≠ .enum) :
    ∃ p, outcome types m = .ok p := by
  obtain ⟨howner, hf⟩ := mem_membersOf.1 hm
  have hentry : m.1 ∈ types.entries := List.mem_mergeSort.1 howner
  obtain ⟨i, hi⟩ := List.getElem?_of_mem hf
  have hbinds : Manifest.bindsFunctions catalog m.1 = true := by
    rw [Manifest.bindsFunctions, Manifest.resolve?_of_clean hclean hentry, Bool.true_and]
    simpa using henum
  have ho : (⟨m.1, m.2, i⟩ : Manifest.Occurrence) ∈ Manifest.occurrences types catalog :=
    Manifest.mem_occurrences.2 ⟨hentry, hbinds, hi⟩
  obtain ⟨b, hb⟩ := Manifest.bound_of_clean hclean ho
  rw [Manifest.Occurrence.bound] at hb
  split at hb
  · cases hb
  · exact Legacy.exists_prototype hb

/-- When nothing is left out of the manifest, the symbols of its functions are those of the prototypes
of functions of types other than enums. -/
theorem symbols_perm_of_clean :
    (((listing types).filter fun x => x.1.1.kind ≠ .enum).map (·.2.symbol)).Perm
      ((Manifest.build types catalog).manifest.functions.map (·.symbol)) := by
  have hsymbols : ((listing types).filter fun x => x.1.1.kind ≠ .enum).map (·.2.symbol) =
      (((listing types).filter fun x => x.1.1.kind ≠ .enum).map (·.1)).map Member.symbol := by
    rw [List.map_map]
    exact List.map_congr_left fun x hx => symbol_listing (List.mem_filter.1 hx).1
  have hperm : (((listing types).filter fun x => x.1.1.kind ≠ .enum).map (·.1)).Perm
      ((membersOf types.sorted).filter fun m => m.1.kind ≠ .enum) := by
    refine (((List.mergeSort_perm _ _).filter _).map _).trans ?_
    rw [filter_withResult (fun m : Member => m.1.kind ≠ .enum), withResult_fst_of_ok]
    intro m hm
    obtain ⟨hm, henum⟩ := List.mem_filter.1 hm
    exact outcome_of_clean hclean hm (by simpa using henum)
  -- Both walks are over the functions of the types that are no enums, in different orders.
  rw [hsymbols]
  refine (hperm.map _).trans ?_
  rw [filter_membersOf]
  refine .trans ?_ (Manifest.symbols_of_clean hclean).symm
  exact (perm_membersOf ((List.mergeSort_perm _ _).filter _)).map _

/-- When nothing is left out of the manifest, errors about functions are about those of enums. -/
theorem errors_of_clean {e : BindingError} (he : e ∈ errors types) {owner function : String}
    (h : e.Refuses owner function) :
    ∃ t ∈ types.entries, t.name = owner ∧ t.kind = .enum ∧
      ∃ f ∈ t.exportedFunctions, f.name = function := by
  obtain ⟨m, hm, houtcome⟩ := member_of_error he h
  obtain ⟨howner, hf⟩ := mem_membersOf.1 hm
  obtain ⟨hname, hfname⟩ := (Legacy.prototype_refuses houtcome).unique h
  refine ⟨m.1, List.mem_mergeSort.1 howner, hname, ?_, m.2, hf, hfname⟩
  by_contra henum
  obtain ⟨p, hp⟩ := outcome_of_clean hclean hm henum
  rw [houtcome] at hp
  cases hp

/-- When nothing is left out of the manifest, the header has its symbols in ascending order. -/
theorem symbols_of_clean :
    ((listing types).filter fun x => x.1.1.kind ≠ .enum).map (·.2.symbol) =
      ((Manifest.build types catalog).manifest.functions.map (·.symbol)).mergeSort
        fun a b => a ≤ b := by
  have hlisting : (listing types).Pairwise fun x y => x.2.symbol ≤ y.2.symbol :=
    pairwise_mergeSort_text (fun x : Member × Legacy.Prototype => x.2.symbol) _
  have hsorted : (((listing types).filter fun x => x.1.1.kind ≠ .enum).map (·.2.symbol)).Pairwise
      (· ≤ ·) := List.pairwise_map.2 (hlisting.filter _)
  refine ((symbols_perm_of_clean hclean).trans (List.mergeSort_perm _ _).symm).eq_of_pairwise ?_
    hsorted (pairwise_mergeSort_text id _)
  exact fun _ _ _ _ => String.le_antisymm

end Clean

/-- Every exported function is reported or listed. -/
theorem reported_or_listed {t : TypeEntry} {f : FunctionEntry} (ht : t ∈ types.entries)
    (hf : f ∈ t.exportedFunctions) :
    (∃ e ∈ errors types, e.Refuses t.name f.name) ∨ ∃ p, ((t, f), p) ∈ listing types := by
  have hm : (t, f) ∈ membersOf types.sorted := mem_membersOf.2 ⟨List.mem_mergeSort.2 ht, hf⟩
  cases houtcome : outcome types (t, f) with
  | error e =>
    exact .inl ⟨e, mem_errors_of_outcome hm houtcome, Legacy.prototype_refuses houtcome⟩
  | ok p => exact .inr ⟨p, mem_listing.2 ⟨hm, houtcome⟩⟩

/-- No prototype is one for a function of an enum if no enum exports a function. -/
theorem listing_of_no_enum (h : ∀ t ∈ types.entries, t.kind = .enum → t.exportedFunctions = []) :
    ((listing types).filter fun x => x.1.1.kind ≠ .enum) = listing types := by
  refine List.filter_eq_self.2 fun x hx => decide_eq_true fun henum => ?_
  obtain ⟨howner, hf⟩ := mem_membersOf.1 (mem_listing.1 hx).1
  rw [h x.1.1 (List.mem_mergeSort.1 howner) henum] at hf
  cases hf

/-- What the legacy header and a manifest from which nothing is left out agree on. -/
structure AgreesWith (types : TypeMap) (fileName : String) (manifest : Manifest) : Prop where
  /-- Errors about functions are about exported functions of enums. -/
  errors : ∀ e ∈ LegacyHeader.errors types, ∀ owner function, e.Refuses owner function →
    ∃ t ∈ types.entries, t.name = owner ∧ t.kind = .enum ∧
      ∃ f ∈ t.exportedFunctions, f.name = function
  /-- The prototypes of the header are listed with the functions that they are for. -/
  prototypes : (listing types).map (·.2) = (ofTypes fileName types).prototypes
  listed : ∀ x ∈ listing types, x.1.1 ∈ types.entries ∧ x.1.2 ∈ x.1.1.exportedFunctions ∧
    Legacy.prototype (Legacy.ctypes types) x.1.1 x.1.2 = .ok x.2
  /-- The symbols of those for functions of types other than enums, in their order, are the symbols of
  the manifest in ascending order, each once. -/
  symbols : ((listing types).filter fun x => x.1.1.kind ≠ .enum).map (·.2.symbol) =
    (manifest.functions.map (·.symbol)).mergeSort fun a b => a ≤ b
  once : ((manifest.functions.map (·.symbol)).mergeSort fun a b => a ≤ b).Pairwise (· < ·)
  /-- No function is reported at all, and there are no other symbols, if and only if no enum exports a
  function. -/
  exactly : ((∀ e ∈ LegacyHeader.errors types, ∀ owner function, ¬ e.Refuses owner function) ∧
      (ofTypes fileName types).prototypes.map (·.symbol) =
        (manifest.functions.map (·.symbol)).mergeSort fun a b => a ≤ b) ↔
    ∀ t ∈ types.entries, t.kind = .enum → t.exportedFunctions = []

/-- When nothing is left out of the manifest, the legacy header has what the manifest has, and besides
it only what comes from functions of enums. -/
theorem agrees_with_manifest (types : TypeMap) (catalog : Catalog) (fileName : String)
    (hclean : (Manifest.build types catalog).isClean = true) :
    AgreesWith types fileName (Manifest.build types catalog).manifest := by
  constructor
  case errors => exact fun e he owner function h => errors_of_clean hclean he h
  case prototypes => exact listing_snd fileName
  case listed =>
    intro x hx
    obtain ⟨hm, houtcome⟩ := mem_listing.1 hx
    obtain ⟨howner, hf⟩ := mem_membersOf.1 hm
    exact ⟨List.mem_mergeSort.1 howner, hf, houtcome⟩
  case symbols => exact symbols_of_clean hclean
  case once => exact strictly_mergeSort_text Manifest.consistent_build.symbols_nodup
  case exactly =>
    rw [← listing_snd, List.map_map, ← symbols_of_clean hclean]
    constructor
    · rintro ⟨hnone, hsymbols⟩ t ht henum
      refine List.eq_nil_iff_forall_not_mem.2 fun f hf => ?_
      rcases reported_or_listed ht hf with ⟨e, he, h⟩ | ⟨p, hp⟩
      · exact hnone e he _ _ h
      · -- As many symbols as there are without enums, so no listed function is one of an enum.
        have hlength := congrArg List.length hsymbols
        rw [List.length_map, List.length_map, eq_comm, List.length_filter_eq_length_iff] at hlength
        exact of_decide_eq_true (hlength _ hp) henum
    · intro hempty
      refine ⟨fun e he owner function h => ?_, ?_⟩
      · obtain ⟨t, ht, -, henum, f, hf, -⟩ := errors_of_clean hclean he h
        rw [hempty t ht henum] at hf
        cases hf
      · rw [listing_of_no_enum hempty]
        rfl

/-- An object and an enum, each with a function that can be bound. -/
def paint : TypeMap where
  entries := [
    { name := "Brush", kind := .object,
      functions := [{
        name := "dip", prototype? := some "void Brush_dip(DomBind_Handle* self, int32_t depth)"
        paramTypes := [.int32], callable? := some .host }] },
    { name := "Color", kind := .enum, enumerators := [⟨"Red", 0⟩]
      functions := [{ name := "mix", returnType := .int32, callable? := some .host }] }]
  nodup := by decide

theorem sortedTypes_paint : Manifest.sortedTypes paint = paint.entries :=
  List.mergeSort_of_pairwise (by decide)

theorem sorted_paint : paint.sorted = paint.entries := List.mergeSort_of_pairwise (by decide)

theorem build_paint :
    (Manifest.build paint .builtin).isClean = true ∧
      (Manifest.build paint .builtin).manifest.functions.map (·.symbol) = ["Brush_dip"] := by
  simp only [Manifest.build, Manifest.contributions, sortedTypes_paint]
  decide +kernel

theorem agrees_with_manifest_paint :
    (Manifest.build paint .builtin).isClean = true ∧
      AgreesWith paint defaultFile (Manifest.build paint .builtin).manifest :=
  ⟨build_paint.1, agrees_with_manifest paint .builtin defaultFile build_paint.1⟩

/-- The function of the enum is listed in the header, and the manifest, from which nothing is left out,
does not have it. -/
theorem lists_function_of_enum_paint :
    (Manifest.build paint .builtin).isClean = true ∧
      (ofTypes defaultFile paint).prototypes.map (·.symbol) = ["Brush_dip", "Color_mix"] ∧
      (((Manifest.build paint .builtin).manifest.functions.map (·.symbol)).mergeSort
        fun a b => a ≤ b) = ["Brush_dip"] := by
  refine ⟨build_paint.1, ?_, ?_⟩
  · have houtcomes : (outcomes paint).1 = [
        ⟨"Brush_dip", "void Brush_dip(DomBind_Handle* self, int32_t depth)"⟩,
        ⟨"Color_mix", "int32_t Color_mix(void)"⟩] := by
      rw [outcomes, sorted_paint]
      decide +kernel
    rw [ofTypes, houtcomes, List.mergeSort_of_pairwise (by decide)]
    rfl
  · rw [build_paint.2]
    exact List.mergeSort_singleton _

end LegacyHeader

end Bindery
