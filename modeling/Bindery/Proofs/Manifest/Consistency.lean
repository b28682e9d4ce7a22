import Bindery.Generate.CApi
import Bindery.Proofs.Manifest.Contents
import Mathlib.Data.List.Nodup
/-!
Agreement of the three lists of a manifest. Types and functions are in strict order, every function
belongs to one listed type, every type lists the symbols of its functions and no others, and the
kinds are those that are referred to. A manifest that is built has all of this, and dropping
functions, with or without the types of some modules, keeps it: what survives among the symbols of a
type is decided by symbol, so this rests on no two functions having the same symbol.
-/

namespace Bindery.Manifest

/-- The three lists of a manifest made with a catalog agree. -/
structure Consistent (catalog : Catalog) (m : Manifest) : Prop where
  types_ascending : m.types.Pairwise fun t u => PairLt (t.module, t.name) (u.module, u.name)
  functions_ascending :
    m.functions.Pairwise fun f g => PairLt (f.module, f.symbol) (g.module, g.symbol)
  /-- Symbols are distinct in the whole manifest, not only within a module. -/
  symbols_nodup : (m.functions.map (·.symbol)).Nodup
  /-- Exactly one listed type is the owner of a function, and it is in the same module. -/
  owner_listed : ∀ f ∈ m.functions,
    ∃ t, m.types.filter (fun t => t.name = f.owner) = [t] ∧ t.module = f.module
  symbols_ascending : ∀ t ∈ m.types, t.functions.Pairwise (· < ·)
  /-- A type lists the symbols of the functions that it owns. -/
  mem_symbols : ∀ t ∈ m.types, ∀ s,
    s ∈ t.functions ↔ ∃ f ∈ m.functions, f.owner = t.name ∧ f.symbol = s
  hasFunctions_iff : ∀ t ∈ m.types, t.hasFunctions = true ↔ t.functions ≠ []
  enum_owns_nothing : ∀ t ∈ m.types, t.kind = .enum → t.functions = []
  kinds_ascending : m.subjectKinds.Pairwise fun k l => k.name < l.name
  mem_kinds : ∀ k, k ∈ m.subjectKinds ↔ k ∈ catalog.kinds ∧
    ((∃ t ∈ m.types, t.subjectKind = k.name) ∨ ∃ f ∈ m.functions, f.subjectKind = k.name)
  type_family : ∀ t ∈ m.types, ∃ k ∈ m.subjectKinds, k.name = t.subjectKind ∧ k.family = t.family
  function_family : ∀ f ∈ m.functions,
    ∃ k ∈ m.subjectKinds, k.name = f.subjectKind ∧ k.family = f.family

/-! ### Dropping types and functions -/

section Restrict

variable {catalog : Catalog} {m : Manifest} {keepType : TypeBinding → Bool}
  {keep : FunctionBinding → Bool}

theorem mem_usedKinds {ts : List TypeBinding} {fs : List FunctionBinding} {name : String} :
    name ∈ usedKinds ts fs ↔
      (∃ t ∈ ts, t.subjectKind = name) ∨ ∃ f ∈ fs, f.subjectKind = name := by
  rw [usedKinds, List.mem_append, List.mem_map, List.mem_map]

/-- Two functions of a consistent manifest with the same symbol are the same. -/
theorem Consistent.eq_of_symbol (h : Consistent catalog m) {f g : FunctionBinding}
    (hf : f ∈ m.functions) (hg : g ∈ m.functions) (e : f.symbol = g.symbol) : f = g :=
  List.inj_on_of_nodup_map h.symbols_nodup hf hg e

/-- The listed type with the name of a function's owner is in the function's module. -/
theorem Consistent.module_of_owner (h : Consistent catalog m) {f : FunctionBinding}
    (hf : f ∈ m.functions) {t : TypeBinding} (ht : t ∈ m.types) (e : t.name = f.owner) :
    t.module = f.module := by
  obtain ⟨u, hu, hmodule⟩ := h.owner_listed f hf
  have hmem : t ∈ m.types.filter fun t => t.name = f.owner := List.mem_filter.2 ⟨ht, by simpa using e⟩
  rw [hu, List.mem_singleton] at hmem
  exact hmem ▸ hmodule

/-- A type of a restricted manifest is a type from before that keeps its place in all but its
symbols. -/
theorem mem_types_restrict {t' : TypeBinding}
    (h : t' ∈ ((m.retainTypes keepType).retain keep).types) :
    ∃ t ∈ m.types, keepType t = true ∧
      t'.functions = t.functions.filter ((m.functions.filter keep).map (·.symbol)).contains ∧
      t' = { t with functions := t'.functions, hasFunctions := !t'.functions.isEmpty } := by
  obtain ⟨t, ht, rfl⟩ := List.mem_map.1 h
  obtain ⟨ht, hk⟩ := List.mem_filter.1 ht
  exact ⟨t, ht, hk, rfl, rfl⟩

/-- A type that is left keeps, of its symbols, those of the functions that are left. -/
theorem Consistent.mem_symbols_restrict (h : Consistent catalog m) {t : TypeBinding}
    (ht : t ∈ m.types) (s : String) :
    s ∈ t.functions.filter ((m.functions.filter keep).map (·.symbol)).contains ↔
      ∃ f ∈ m.functions.filter keep, f.owner = t.name ∧ f.symbol = s := by
  rw [List.mem_filter, h.mem_symbols t ht, List.contains_iff_mem, List.mem_map]
  constructor
  · rintro ⟨⟨f, hf, howner, rfl⟩, g, hg, hgf⟩
    -- the symbol alone decides which function is meant
    have e : g = f := h.eq_of_symbol (List.mem_filter.1 hg).1 hf hgf
    exact ⟨g, hg, e ▸ howner, hgf⟩
  · rintro ⟨f, hf, howner, rfl⟩
    exact ⟨⟨f, (List.mem_filter.1 hf).1, howner, rfl⟩, f, hf, rfl⟩

/-- The listed types with a name are the same as before, if none of them is dropped. -/
theorem filter_name_restrict {name : String} {t : TypeBinding}
    (ht : m.types.filter (fun u => u.name = name) = [t]) (hk : keepType t = true) :
    ∃ t', ((m.retainTypes keepType).retain keep).types.filter (fun u => u.name = name) = [t'] ∧
      t'.module = t.module := by
  have hkept : (m.types.filter keepType).filter (fun u => u.name = name) = [t] := by
    rw [List.filter_comm, ht]
    simp [hk]
  simp only [retain, retainTypes, List.filter_map, Function.comp_def]
  rw [hkept]
  exact ⟨_, rfl, rfl⟩

/-- A consistent manifest stays so when functions are dropped, and types that own none of those that
are left. -/
theorem Consistent.restrict (h : Consistent catalog m)
    (hkeep : ∀ f ∈ m.functions, keep f = true → ∀ t ∈ m.types, t.name = f.owner → keepType t = true) :
    Consistent catalog ((m.retainTypes keepType).retain keep) where
  types_ascending := by
    refine List.pairwise_map.2 ?_
    exact (h.types_ascending.filter _).imp fun h => h
  functions_ascending := h.functions_ascending.filter _
  symbols_nodup := h.symbols_nodup.sublist (List.filter_sublist.map _)
  owner_listed := by
    intro f hf
    obtain ⟨hf, hk⟩ := List.mem_filter.1 hf
    obtain ⟨t, ht, hmodule⟩ := h.owner_listed f hf
    have hmem : t ∈ m.types.filter fun t => t.name = f.owner := by rw [ht]; exact List.mem_cons_self
    obtain ⟨htm, hname⟩ := List.mem_filter.1 hmem
    obtain ⟨t', ht', hmodule'⟩ := filter_name_restrict ht (hkeep f hf hk t htm (by simpa using hname))
    exact ⟨t', ht', hmodule'.trans hmodule⟩
  symbols_ascending := by
    intro t' ht'
    obtain ⟨t, ht, -, hfs, -⟩ := mem_types_restrict ht'
    rw [hfs]
    exact (h.symbols_ascending t ht).filter _
  mem_symbols := by
    intro t' ht' s
    obtain ⟨t, ht, -, hfs, e⟩ := mem_types_restrict ht'
    rw [hfs, e]
    exact h.mem_symbols_restrict ht s
  hasFunctions_iff := by
    intro t' ht'
    obtain ⟨t, -, -, -, e⟩ := mem_types_restrict ht'
    rw [e]
    simp
  enum_owns_nothing := by
    intro t' ht' henum
    obtain ⟨t, ht, -, hfs, e⟩ := mem_types_restrict ht'
    rw [e] at henum
    rw [hfs, h.enum_owns_nothing t ht henum]
    rfl
  kinds_ascending := h.kinds_ascending.filter _
  mem_kinds := by
    intro k
    change k ∈ m.subjectKinds.filter (fun k => (usedKinds _ _).contains k.name) ↔ _
    rw [List.mem_filter, List.contains_iff_mem, mem_usedKinds, h.mem_kinds]
    constructor
    · rintro ⟨⟨hk, -⟩, hused⟩
      exact ⟨hk, hused⟩
    · rintro ⟨hk, hused⟩
      refine ⟨⟨hk, ?_⟩, hused⟩
      rcases hused with ⟨t', ht', hkind⟩ | ⟨f, hf, hkind⟩
      · obtain ⟨t, ht, -, -, e⟩ := mem_types_restrict ht'
        exact .inl ⟨t, ht, by rw [← hkind, e]⟩
      · exact .inr ⟨f, (List.mem_filter.1 hf).1, hkind⟩
  type_family := by
    intro t' ht'
    obtain ⟨t, ht, -, -, e⟩ := mem_types_restrict ht'
    obtain ⟨k, hk, hname, hfamily⟩ := h.type_family t ht
    refine ⟨k, List.mem_filter.2 ⟨hk, ?_⟩, by rw [hname, e], by rw [hfamily, e]⟩
    rw [List.contains_iff_mem, mem_usedKinds]
    exact .inl ⟨t', ht', by rw [hname, e]⟩
  function_family := by
    intro f hf
    obtain ⟨k, hk, hname, hfamily⟩ := h.function_family f (List.mem_filter.1 hf).1
    refine ⟨k, List.mem_filter.2 ⟨hk, ?_⟩, hname, hfamily⟩
    rw [List.contains_iff_mem, mem_usedKinds]
    exact .inr ⟨f, hf, hname.symm⟩

end Restrict

/-- A consistent manifest stays so when functions are dropped. -/
theorem Consistent.retain {catalog : Catalog} {m : Manifest} (h : Consistent catalog m)
    (keep : FunctionBinding → Bool) : Consistent catalog (m.retain keep) := by
  have hall : m.retainTypes (fun _ => true) = m := by simp [retainTypes]
  have hrestrict : Consistent catalog ((m.retainTypes fun _ => true).retain keep) :=
    h.restrict (by simp)
  rwa [hall] at hrestrict

/-- A consistent manifest stays so when functions without a body and reserved modules are dropped: a
function of a type that is dropped is in the module of the type. -/
theorem Consistent.prune {catalog : Catalog} {m : Manifest} (h : Consistent catalog m)
    (dropped reserved : List String) : Consistent catalog (CApi.prune m dropped reserved) := by
  refine h.restrict ?_
  intro f hf hk t ht e
  rw [h.module_of_owner hf ht e]
  exact (Bool.and_eq_true_iff.1 hk).2

/-! ### Making a manifest -/

section Build

variable {types : TypeMap} {catalog : Catalog}

/-- The functions of a manifest that is made are in strict order. -/
theorem functions_ascending_build :
    (build types catalog).manifest.functions.Pairwise fun f g =>
      PairLt (f.module, f.symbol) (g.module, g.symbol) := by
  rw [functions_build]
  have hle : (sortFunctions (accepted types catalog)).Pairwise fun f g =>
      pairLe (f.module, f.symbol) (g.module, g.symbol) = true := pairwise_mergeSort_pair _ _
  have hne : (dedup [] (sortFunctions (accepted types catalog))).1.Pairwise fun f g =>
      f.symbol ≠ g.symbol := List.pairwise_map.1 (dedup_nodup _ _)
  refine (hle.sublist (dedup_sublist _ _)).imp₂ ?_ hne
  intro f g h hn
  exact pairLt_of_pairLe h fun e => hn (congrArg Prod.snd e)

/-- The type that a function is bound for is listed, and no other type has its name. -/
theorem owner_listed_build {f : FunctionBinding} (hf : f ∈ accepted types catalog) :
    ∃ t, (build types catalog).manifest.types.filter (fun t => t.name = f.owner) = [t] ∧
      t.module = f.module := by
  obtain ⟨t, ht, kind, hkind, -, g, -, -, hb⟩ := mem_accepted.1 hf
  obtain ⟨-, howner, hmodule, -⟩ := bindFunction_names hb
  have hmem : bindType t kind ∈ typeBindings types catalog :=
    mem_typeBindings.2 ⟨t, ht, kind, hkind, rfl⟩
  have hone := filter_key_eq typeBindings_names_nodup hmem
  refine ⟨attachSymbols (build types catalog).manifest.functions (bindType t kind), ?_, hmodule.symm⟩
  rw [types_build, List.filter_map, howner]
  exact congrArg (List.map _) hone

/-- No function is bound for an enum. -/
theorem enum_unowned {t : TypeEntry} (ht : t ∈ types.entries) (henum : t.kind = .enum)
    {f : FunctionBinding} (hf : f ∈ accepted types catalog) : f.owner ≠ t.name := by
  intro e
  obtain ⟨u, hu, _, -, hkind, g, -, -, hb⟩ := mem_accepted.1 hf
  obtain ⟨-, howner, -, -⟩ := bindFunction_names hb
  exact hkind (eq_of_name hu ht (howner.symm.trans e) ▸ henum)

theorem mem_attachSymbols {fs : List FunctionBinding} {t : TypeBinding} {s : String} :
    s ∈ (attachSymbols fs t).functions ↔ ∃ f ∈ fs, f.owner = t.name ∧ f.symbol = s := by
  simp [attachSymbols, and_assoc]

/-- A manifest that is made is consistent. -/
theorem consistent_build : Consistent catalog (build types catalog).manifest where
  types_ascending := by
    rw [types_build]
    exact List.pairwise_map.2 typeBindings_ascending
  functions_ascending := functions_ascending_build
  symbols_nodup := by
    rw [functions_build]
    exact dedup_nodup _ _
  owner_listed := fun f hf => owner_listed_build (mem_accepted_of_mem hf)
  symbols_ascending := by
    intro t ht
    rw [types_build] at ht
    obtain ⟨b, -, rfl⟩ := List.mem_map.1 ht
    refine strictly_mergeSort_text ?_
    refine List.Nodup.sublist (List.filter_sublist.map _) ?_
    rw [functions_build]
    exact dedup_nodup _ _
  mem_symbols := by
    intro t ht s
    rw [types_build] at ht
    obtain ⟨b, -, rfl⟩ := List.mem_map.1 ht
    exact mem_attachSymbols
  hasFunctions_iff := by
    intro t ht
    rw [types_build] at ht
    obtain ⟨b, -, rfl⟩ := List.mem_map.1 ht
    simp [attachSymbols]
  enum_owns_nothing := by
    intro t ht henum
    rw [types_build] at ht
    obtain ⟨b, hb, rfl⟩ := List.mem_map.1 ht
    obtain ⟨u, hu, kind, -, rfl⟩ := mem_typeBindings.1 hb
    rw [List.eq_nil_iff_forall_not_mem]
    intro s hs
    obtain ⟨f, hf, howner, -⟩ := mem_attachSymbols.1 hs
    exact enum_unowned hu henum (mem_accepted_of_mem hf) howner
  kinds_ascending := catalog.ascending.filter _
  mem_kinds := by
    intro k
    rw [kinds_build, List.mem_filter, List.contains_iff_mem, mem_usedKinds]
  type_family := by
    intro t ht
    have hmem := ht
    rw [types_build] at ht
    obtain ⟨b, hb, rfl⟩ := List.mem_map.1 ht
    obtain ⟨u, -, kind, hkind, rfl⟩ := mem_typeBindings.1 hb
    refine ⟨kind, ?_, rfl, rfl⟩
    rw [kinds_build, List.mem_filter, List.contains_iff_mem, mem_usedKinds]
    exact ⟨kind_mem_of_resolve? hkind, .inl ⟨_, hmem, rfl⟩⟩
  function_family := by
    intro f hf
    obtain ⟨t, -, kind, hkind, -, g, -, -, hb⟩ := mem_accepted.1 (mem_accepted_of_mem hf)
    obtain ⟨k, hk, hname, hfamily⟩ := bindFunction_family (kind_mem_of_resolve? hkind) hb
    refine ⟨k, ?_, hname, hfamily⟩
    rw [kinds_build, List.mem_filter, List.contains_iff_mem, mem_usedKinds]
    exact ⟨hk, .inr ⟨f, hf, hname.symm⟩⟩

end Build

/-- The three lists of a manifest agree when it is made, and stay so whatever functions are dropped,
and when functions are dropped together with the types and functions of reserved modules, as it is
done for the manifest that a run writes. -/
theorem lists_agree (types : TypeMap) (catalog : Catalog) :
    Consistent catalog (build types catalog).manifest ∧
      (∀ m, Consistent catalog m → ∀ keep, Consistent catalog (m.retain keep)) ∧
      (∀ m, Consistent catalog m →
        ∀ dropped reserved, Consistent catalog (CApi.prune m dropped reserved)) ∧
      ∀ (g : CApi) (dirs : OutputDirs) (snapshot : TypeMap),
        Consistent g.catalog (g.finalManifest dirs types snapshot) := by
  refine ⟨consistent_build, fun m h keep => h.retain keep, fun m h => h.prune, ?_⟩
  intro g dirs snapshot
  exact consistent_build.prune _ _

/-- Two shapes of one module and a bridge in a reserved one. -/
def shapesAndBridge : TypeMap where
  entries := [
    { name := "Triangle", kind := .object, fileStem := "shapes",
      functions := [{ name := "area", returnType := .double, callable? := some .host }] },
    { name := "Circle", kind := .object, fileStem := "shapes",
      functions := [{ name := "radius", returnType := .float, callable? := some .host }] },
    { name := "Bridge", kind := .global, fileStem := "dombind_runtime",
      subjectKind? := some "Singleton",
      functions := [{ name := "ping", callable? := some .host }] }]
  nodup := by decide

theorem lists_agree_shapesAndBridge :
    Consistent .builtin (build shapesAndBridge .builtin).manifest ∧
      Consistent .builtin ((build shapesAndBridge .builtin).manifest.retain fun f => f.name ≠ "area") ∧
      Consistent .builtin
        (CApi.prune (build shapesAndBridge .builtin).manifest ["Circle_radius"] ["dombind_runtime"]) :=
  have h := lists_agree shapesAndBridge .builtin
  ⟨h.1, h.2.1 _ h.1 _, h.2.2.1 _ h.1 _ _⟩

end Bindery.Manifest
