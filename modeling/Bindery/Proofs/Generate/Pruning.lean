import Bindery.Proofs.Manifest.Consistency
import Bindery.Proofs.Modules
/-!
What a run keeps. The run starts from the manifest of its types, tries to give every function of it a
body, module by module, and at the end drops from the manifest, by their symbols, the functions that
have none, and all reserved modules. No symbol stands for two functions, so a function is dropped only
on its own account: the functions that are left in a module are those that got a body, in their order.
-/

namespace Bindery.CApi

/-- The manifest that a run starts from. -/
def built (g : CApi) (types : TypeMap) : Manifest := (Manifest.build types g.catalog).manifest

variable {g : CApi} {dirs : OutputDirs} {types snapshot : TypeMap} {m : Module} {f : FunctionBinding}

theorem consistent_built : Manifest.Consistent g.catalog (g.built types) := Manifest.consistent_build

/-! ### Owners -/

/-- A function that is bound belongs to a registered type of its module that is no enum, has an
exported function, and is listed. -/
theorem owner_of_built (hf : f ∈ (g.built types).functions) :
    ∃ t ∈ types.entries, t.name = f.owner ∧ t.module = f.module ∧ t.kind ≠ .enum ∧
      t.exportedFunctions ≠ [] ∧ ∃ subject, (g.built types).type? f.owner = some subject := by
  obtain ⟨t, ht, kind, -, hkind, fn, hfn, hexported, hb⟩ :=
    Manifest.mem_accepted.1 (Manifest.mem_accepted_of_mem hf)
  obtain ⟨-, howner, hmodule, -⟩ := Manifest.bindFunction_names hb
  refine ⟨t, ht, howner.symm, hmodule.symm, hkind, ?_, ?_⟩
  · exact List.ne_nil_of_mem (List.mem_filter.2 ⟨hfn, hexported⟩)
  · obtain ⟨subject, hone, -⟩ := consistent_built.owner_listed f hf
    refine ⟨subject, ?_⟩
    rw [Manifest.type?, ← List.head?_filter, hone]
    rfl

/-- A function that is bound is in a module. -/
theorem exists_module_of_built (hf : f ∈ (g.built types).functions) :
    ∃ m ∈ types.modules, m.name = f.module := by
  obtain ⟨t, ht, -, hmodule, -⟩ := owner_of_built hf
  exact hmodule ▸ TypeMap.exists_module ht

theorem mem_functionsOf {manifest : Manifest} {module : String} :
    f ∈ manifest.functionsOf module ↔ f ∈ manifest.functions ∧ f.module = module := by
  rw [Manifest.functionsOf, List.mem_filter, decide_eq_true_iff]

/-- A type that the manifest lists is a registered one of the same module. -/
theorem source_of_built {b : TypeBinding} (hb : b ∈ (g.built types).types) :
    ∃ t ∈ types.entries, t.name = b.name ∧ t.module = b.module := by
  rw [built, Manifest.types_build] at hb
  obtain ⟨c, hc, rfl⟩ := List.mem_map.1 hb
  obtain ⟨t, ht, kind, -, rfl⟩ := Manifest.mem_typeBindings.1 hc
  exact ⟨t, ht, rfl, rfl⟩

/-- A registered type is listed if and only if its kind is known. -/
theorem type?_isSome_iff {t : TypeEntry} (ht : t ∈ types.entries) :
    ((g.built types).type? t.name).isSome = true ↔
      (g.catalog.resolve? t.subjectKind?).isSome = true := by
  rw [Manifest.type?, List.find?_isSome, built, Manifest.types_build]
  constructor
  · rintro ⟨b, hb, hname⟩
    obtain ⟨c, hc, rfl⟩ := List.mem_map.1 hb
    obtain ⟨u, hu, kind, hkind, rfl⟩ := Manifest.mem_typeBindings.1 hc
    have e : u = t := Manifest.eq_of_name hu ht (of_decide_eq_true hname)
    rw [← e, hkind]
    rfl
  · intro h
    obtain ⟨kind, hkind⟩ := Option.isSome_iff_exists.1 h
    have hb := Manifest.mem_typeBindings.2 ⟨t, ht, kind, hkind, rfl⟩
    exact ⟨_, List.mem_map_of_mem hb, decide_eq_true rfl⟩

/-- A module is listed if and only if one of the listed types is in it. -/
theorem isListed_iff (hm : m ∈ types.modules) :
    isListed (g.built types) m = true ↔ ∃ b ∈ (g.built types).types, b.module = m.name := by
  rw [isListed, List.any_eq_true]
  constructor
  · rintro ⟨t, ht, hlisted⟩
    obtain ⟨hentry, hmodule⟩ := (TypeMap.mem_types_of_mem_modules hm).1 ht
    obtain ⟨b, hb, hname⟩ := List.find?_isSome.1 hlisted
    obtain ⟨u, hu, huname, humodule⟩ := source_of_built hb
    have e : u = t := Manifest.eq_of_name hu hentry (huname.trans (by simpa using hname))
    exact ⟨b, hb, humodule.symm.trans (e ▸ hmodule)⟩
  · rintro ⟨b, hb, hmodule⟩
    obtain ⟨t, ht, hname, htmodule⟩ := source_of_built hb
    refine ⟨t, (TypeMap.mem_types_of_mem_modules hm).2 ⟨ht, htmodule.trans hmodule⟩, ?_⟩
    exact List.find?_isSome.2 ⟨b, hb, by simpa using hname.symm⟩

/-- A module with a function that is bound is listed. -/
theorem isListed_of_mem (hm : m ∈ types.modules) (hf : f ∈ (g.built types).functionsOf m.name) :
    isListed (g.built types) m = true := by
  obtain ⟨hf, hmodule⟩ := mem_functionsOf.1 hf
  obtain ⟨b, hone, hb⟩ := consistent_built.owner_listed f hf
  have hmem : b ∈ (g.built types).types.filter fun t => t.name = f.owner := by
    rw [hone]
    exact List.mem_cons_self
  exact (isListed_iff hm).2 ⟨b, (List.mem_filter.1 hmem).1, hb.trans hmodule⟩

/-! ### Bodies -/

theorem filterMap_fst {α β γ : Type} {look : α → Option β} {make : α → β → γ} : ∀ {l : List α},
    (∀ a ∈ l, ∃ b, look a = some b) →
      (l.filterMap fun a => (look a).map fun b => (a, make a b)).map (·.1) = l
  | [], _ => rfl
  | a :: l, h => by
    obtain ⟨b, hb⟩ := h a List.mem_cons_self
    have ih : (l.filterMap fun a => (look a).map fun b => (a, make a b)).map (·.1) = l :=
      filterMap_fst fun a ha => h a (List.mem_cons_of_mem _ ha)
    rw [List.filterMap_cons, hb, Option.map_some, List.map_cons, ih]

/-- The types of a module say whether it has functions to give a body to. -/
theorem bodies_eq (hm : m ∈ types.modules) :
    g.bodies types (g.built types) m =
      ((g.built types).functionsOf m.name).filterMap fun f =>
        ((g.built types).type? f.owner).map fun subject =>
          (f, Source.emit g.emitters types m subject f) := by
  rw [bodies]
  by_cases hnone : (g.built types).functionsOf m.name = []
  · rw [hnone]
    simp
  · obtain ⟨f, hf⟩ := List.exists_mem_of_ne_nil _ hnone
    obtain ⟨hf, hmodule⟩ := mem_functionsOf.1 hf
    obtain ⟨t, ht, -, htmodule, hkind, hfns, -⟩ := owner_of_built hf
    have hhas : m.hasFunctions = true := by
      rw [Module.hasFunctions, List.any_eq_true]
      refine ⟨t, (TypeMap.mem_nonEnums_of_mem_modules hm).2 ⟨ht, htmodule.trans hmodule, hkind⟩, ?_⟩
      simpa using hfns
    rw [if_pos hhas]

/-- Every function of a module that is bound is given an outcome, in order. -/
theorem bodies_fst (hm : m ∈ types.modules) :
    (g.bodies types (g.built types) m).map (·.1) = (g.built types).functionsOf m.name := by
  rw [bodies_eq hm]
  refine filterMap_fst fun f hf => ?_
  obtain ⟨-, -, -, -, -, -, hsubject⟩ := owner_of_built (mem_functionsOf.1 hf).1
  exact hsubject

theorem mem_bodies (hm : m ∈ types.modules) {outcome : Except BindingError String} :
    (f, outcome) ∈ g.bodies types (g.built types) m ↔
      f ∈ (g.built types).functionsOf m.name ∧
        ∃ subject, (g.built types).type? f.owner = some subject ∧
          Source.emit g.emitters types m subject f = outcome := by
  rw [bodies_eq hm, List.mem_filterMap]
  constructor
  · rintro ⟨f', hf, h⟩
    obtain ⟨subject, hsubject, e⟩ := Option.map_eq_some_iff.1 h
    cases e
    exact ⟨hf, subject, hsubject, rfl⟩
  · rintro ⟨hf, subject, hsubject, rfl⟩
    exact ⟨f, hf, by rw [hsubject]; rfl⟩

/-- A function is given one outcome, in one module. -/
theorem bodies_unique {m' : Module} (hm : m ∈ types.modules) (hm' : m' ∈ types.modules)
    {outcome outcome' : Except BindingError String}
    (h : (f, outcome) ∈ g.bodies types (g.built types) m)
    (h' : (f, outcome') ∈ g.bodies types (g.built types) m') : outcome = outcome' := by
  obtain ⟨hf, subject, hsubject, rfl⟩ := (mem_bodies hm).1 h
  obtain ⟨hf', subject', hsubject', rfl⟩ := (mem_bodies hm').1 h'
  have hname : m.name = m'.name := (mem_functionsOf.1 hf).2.symm.trans (mem_functionsOf.1 hf').2
  have e : m = m' := List.inj_on_of_nodup_map TypeMap.modules_names_nodup hm hm' hname
  rw [hsubject] at hsubject'
  cases hsubject'
  rw [e]

theorem mem_skipped {outcomes : List (FunctionBinding × Except BindingError String)}
    {e : BindingError} : (f, e) ∈ skipped outcomes ↔ (f, .error e) ∈ outcomes := by
  rw [skipped, List.mem_filterMap]
  constructor
  · rintro ⟨⟨f', outcome⟩, hp, h⟩
    cases outcome with
    | ok body => cases h
    | error e' =>
      cases h
      exact hp
  · intro h
    exact ⟨_, h, rfl⟩

theorem mem_emitted {outcomes : List (FunctionBinding × Except BindingError String)}
    {body : String} : (f, body) ∈ emitted outcomes ↔ (f, .ok body) ∈ outcomes := by
  rw [emitted, List.mem_filterMap]
  constructor
  · rintro ⟨⟨f', outcome⟩, hp, h⟩
    cases outcome with
    | ok body' =>
      cases h
      exact hp
    | error e => cases h
  · intro h
    exact ⟨_, h, rfl⟩

/-- The functions with a body are those of all functions that a test keeps, if the test agrees with
the outcomes. -/
theorem emitted_fst {keep : FunctionBinding → Bool} :
    ∀ {outcomes : List (FunctionBinding × Except BindingError String)},
      (∀ p ∈ outcomes, keep p.1 = p.2.isOk) →
        (emitted outcomes).map (·.1) = (outcomes.map (·.1)).filter keep
  | [], _ => rfl
  | (f, outcome) :: outcomes, h => by
    have ih := emitted_fst fun p hp => h p (List.mem_cons_of_mem _ hp)
    have hf := h (f, outcome) List.mem_cons_self
    cases outcome with
    | ok body =>
      rw [List.map_cons, List.filter_cons_of_pos hf, ← ih]
      rfl
    | error e =>
      rw [List.map_cons, List.filter_cons_of_neg (by rw [hf]; simp [Except.isOk, Except.toBool]), ← ih]
      rfl

/-- A function has no body for one of two reasons, which both name its symbol. -/
theorem emit_error {subject : TypeBinding} {e : BindingError}
    (h : Source.emit g.emitters types m subject f = .error e) :
    e = .noCustomEmitter f.subjectKind f.symbol ∨ e = .emitterFailed f.symbol := by
  unfold Source.emit at h
  split at h
  · cases h
  · split at h
    · cases h
      exact .inl rfl
    · split at h
      · cases h
      · cases h
        exact .inr rfl

/-! ### One module -/

theorem modulePart_of_reserved {manifest : Manifest} (h : g.isReserved m.name = true) :
    g.modulePart dirs types snapshot manifest m =
      { errors := [.reservedModuleName m.name (ModuleHeader.fileOf m.name)] } := by
  rw [modulePart, if_pos h]

/-- A module that is not reserved drops the functions of it that have no body. -/
theorem dropped_modulePart {manifest : Manifest} (h : g.isReserved m.name = false) :
    (g.modulePart dirs types snapshot manifest m).dropped =
      (skipped (g.bodies types manifest m)).map (·.1.symbol) := by
  rw [modulePart, if_neg (by simp [h])]
  dsimp only
  split <;> rfl

/-- A module that is not reserved reports why functions of it have no body. -/
theorem mem_errors_modulePart {manifest : Manifest} (h : g.isReserved m.name = false)
    {e : BindingError} (he : (f, .error e) ∈ g.bodies types manifest m) :
    e ∈ (g.modulePart dirs types snapshot manifest m).errors := by
  have hmem : e ∈ (skipped (g.bodies types manifest m)).map (·.2) :=
    List.mem_map_of_mem (mem_skipped.2 he)
  rw [modulePart, if_neg (by simp [h])]
  dsimp only
  split
  · exact hmem
  · exact List.mem_append_left _ hmem

/-! ### The manifest that is left -/

/-- The symbols of the functions that have no body. -/
def dropped (g : CApi) (dirs : OutputDirs) (types snapshot : TypeMap) : List String :=
  (g.moduleParts dirs types snapshot (g.built types)).flatMap (·.dropped)

/-- Whether a run keeps a function. -/
def keeps (g : CApi) (dirs : OutputDirs) (types snapshot : TypeMap) (f : FunctionBinding) : Bool :=
  !(g.dropped dirs types snapshot).contains f.symbol && !(g.reservedModules types).contains f.module

theorem functions_finalManifest :
    (g.finalManifest dirs types snapshot).functions =
      (g.built types).functions.filter (g.keeps dirs types snapshot) := rfl

theorem mem_dropped {symbol : String} :
    symbol ∈ g.dropped dirs types snapshot ↔
      ∃ m ∈ types.modules, g.isReserved m.name = false ∧
        ∃ f e, (f, .error e) ∈ g.bodies types (g.built types) m ∧ f.symbol = symbol := by
  simp only [dropped, moduleParts, List.mem_flatMap, List.mem_map, exists_exists_and_eq_and]
  refine exists_congr fun m => and_congr_right fun _ => ?_
  cases hr : g.isReserved m.name with
  | true => simp [modulePart_of_reserved hr]
  | false =>
    rw [dropped_modulePart hr, List.mem_map]
    simp [mem_skipped]

theorem mem_reservedModules {module : String} :
    module ∈ g.reservedModules types ↔ module ∈ types.moduleNames ∧ g.isReserved module = true :=
  List.mem_filter

/-- A function of a module that is not reserved is kept if and only if it has a body: no other
function has its symbol. -/
theorem keeps_eq (dirs : OutputDirs) (snapshot : TypeMap) (hm : m ∈ types.modules) (hr : g.isReserved m.name = false)
    {outcome : Except BindingError String}
    (h : (f, outcome) ∈ g.bodies types (g.built types) m) :
    g.keeps dirs types snapshot f = outcome.isOk := by
  obtain ⟨hf, hmodule⟩ := mem_functionsOf.1 ((mem_bodies hm).1 h).1
  have hfree : (g.reservedModules types).contains f.module = false := by
    rw [← Bool.not_eq_true, List.contains_iff_mem, mem_reservedModules, hmodule, hr]
    simp
  rw [keeps, hfree, Bool.not_false, Bool.and_true]
  cases outcome with
  | error e =>
    have hmem : f.symbol ∈ g.dropped dirs types snapshot := mem_dropped.2 ⟨m, hm, hr, f, e, h, rfl⟩
    rw [List.contains_iff_mem.2 hmem]
    rfl
  | ok body =>
    have hmem : f.symbol ∉ g.dropped dirs types snapshot := by
      intro hmem
      obtain ⟨m', hm', -, f', e, h', hsymbol⟩ := mem_dropped.1 hmem
      have hf' := (mem_functionsOf.1 ((mem_bodies hm').1 h').1).1
      have e' : f' = f := consistent_built.eq_of_symbol hf' hf hsymbol
      rw [e'] at h'
      cases bodies_unique hm hm' h h'
    rw [Bool.eq_false_iff.2 (mt List.contains_iff_mem.1 hmem)]
    rfl

/-- The functions that are left in a module that is not reserved are those that have a body. -/
theorem functionsOf_finalManifest (hm : m ∈ types.modules) (hr : g.isReserved m.name = false) :
    (g.finalManifest dirs types snapshot).functionsOf m.name =
      (emitted (g.bodies types (g.built types) m)).map (·.1) := by
  rw [emitted_fst fun p hp => keeps_eq dirs snapshot hm hr hp, bodies_fst hm,
    Manifest.functionsOf, Manifest.functionsOf, functions_finalManifest, List.filter_comm]

/-- Nothing is left of a reserved module. -/
theorem functionsOf_of_reserved (hm : m ∈ types.modules) (hr : g.isReserved m.name = true) :
    (g.finalManifest dirs types snapshot).functionsOf m.name = [] := by
  rw [List.eq_nil_iff_forall_not_mem]
  intro f hf
  obtain ⟨hf, hmodule⟩ := mem_functionsOf.1 hf
  rw [functions_finalManifest, List.mem_filter, keeps, Bool.and_eq_true] at hf
  have hmem : f.module ∈ g.reservedModules types := by
    rw [mem_reservedModules, hmodule, ← TypeMap.names_modules]
    exact ⟨List.mem_map_of_mem hm, hr⟩
  simp [hmem] at hf

/-- A type is left in a module if and only if one was listed and the module is not reserved. -/
theorem exists_type_finalManifest {module : String} :
    (∃ b ∈ (g.finalManifest dirs types snapshot).types, b.module = module) ↔
      g.isReserved module = false ∧ ∃ b ∈ (g.built types).types, b.module = module := by
  constructor
  · rintro ⟨b, hb, rfl⟩
    obtain ⟨b', hb', hkeep, -, e⟩ := Manifest.mem_types_restrict hb
    have hmodule : b.module = b'.module := by rw [e]
    obtain ⟨t, ht, -, htmodule⟩ := source_of_built hb'
    refine ⟨?_, b', hb', hmodule.symm⟩
    rw [hmodule, ← Bool.not_eq_true]
    intro hr
    have hmem : b'.module ∈ g.reservedModules types :=
      mem_reservedModules.2 ⟨TypeMap.mem_moduleNames.2 ⟨t, ht, htmodule⟩, hr⟩
    simp [hmem] at hkeep
  · rintro ⟨hr, b, hb, rfl⟩
    have hfree : b.module ∉ g.reservedModules types := by
      rw [mem_reservedModules, hr]
      simp
    refine ⟨_, List.mem_map_of_mem (List.mem_filter.2 ⟨hb, ?_⟩), rfl⟩
    simpa using hfree

end Bindery.CApi
