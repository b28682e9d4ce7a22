import Bindery.Proofs.Manifest.Binding
import Bindery.Proofs.Sorting
import Mathlib.Data.List.Nodup
/-!
What a manifest is made of. Every type of a known kind is listed, and every function that is bound
comes from an exported function of such a type. Of the functions with one symbol only the first is
kept, so symbols are distinct in the whole manifest although the functions are in order of their
modules first.
-/

namespace Bindery

/-- Of a list without repeated keys, the part with one key is the element that has it. -/
theorem filter_key_eq {α : Type} {key : α → String} {a : α} : ∀ {l : List α}, (l.map key).Nodup →
    a ∈ l → (l.filter fun b => key b = key a) = [a]
  | b :: l, hnodup, hmem => by
    obtain ⟨hb, hl⟩ := List.nodup_cons.1 hnodup
    rcases List.mem_cons.1 hmem with rfl | hmem
    · have hnone : (l.filter fun c => key c = key a) = [] := by
        rw [List.filter_eq_nil_iff]
        intro c hc e
        exact hb (List.mem_map.2 ⟨c, hc, by simpa using e⟩)
      rw [List.filter_cons_of_pos (by simp), hnone]
    · have hne : key b ≠ key a := fun e => hb (e ▸ List.mem_map_of_mem hmem)
      rw [List.filter_cons_of_neg (by simpa using hne), filter_key_eq hl hmem]

theorem mem_partition_ok {ε α : Type} {a : α} : ∀ {os : List (Except ε α)},
    a ∈ (partition os).1 ↔ .ok a ∈ os
  | [] => by simp [partition]
  | .ok b :: os => by
    have ih : a ∈ (partition os).1 ↔ .ok a ∈ os := mem_partition_ok
    simp [partition, ih]
  | .error e :: os => by
    have ih : a ∈ (partition os).1 ↔ .ok a ∈ os := mem_partition_ok
    simp [partition, ih]

theorem mem_partition_error {ε α : Type} {e : ε} : ∀ {os : List (Except ε α)},
    e ∈ (partition os).2 ↔ .error e ∈ os
  | [] => by simp [partition]
  | .ok a :: os => by
    have ih : e ∈ (partition os).2 ↔ .error e ∈ os := mem_partition_error
    simp [partition, ih]
  | .error e' :: os => by
    have ih : e ∈ (partition os).2 ↔ .error e ∈ os := mem_partition_error
    simp [partition, ih]

namespace Manifest

variable {types : TypeMap} {catalog : Catalog} {ctypes : CTypes} {t : TypeEntry} {kind : SubjectKind}

/-! ### What one type contributes -/

theorem mem_candidates {f : FunctionEntry} :
    f ∈ candidates t ↔ t.kind ≠ .enum ∧ f ∈ t.functions ∧ f.exported = true := by
  unfold candidates
  split <;> simp_all [TypeEntry.exportedFunctions]

theorem contribution_of_unknown (h : catalog.resolve? t.subjectKind? = none) :
    contribution catalog ctypes t =
      { errors := [.unknownSubjectKind t.name (t.subjectKind?.getD "")] } := by
  rw [contribution, h]

theorem contribution_of_known (h : catalog.resolve? t.subjectKind? = some kind) :
    contribution catalog ctypes t =
      { type? := some (bindType t kind)
        functions := (partition ((candidates t).map (bindFunction catalog ctypes t kind))).1
        errors := (partition ((candidates t).map (bindFunction catalog ctypes t kind))).2 } := by
  rw [contribution, h]

/-! ### The listed types -/

theorem mem_sortedTypes : t ∈ sortedTypes types ↔ t ∈ types.entries := List.mem_mergeSort

/-- The bindings of the types of a known kind, before it is known which functions they own. -/
def typeBindings (types : TypeMap) (catalog : Catalog) : List TypeBinding :=
  (contributions types catalog).filterMap (·.type?)

theorem typeBindings_eq :
    typeBindings types catalog =
      (sortedTypes types).filterMap fun t => (catalog.resolve? t.subjectKind?).map (bindType t) := by
  rw [typeBindings, contributions, List.filterMap_map]
  congr 1
  funext t
  cases h : catalog.resolve? t.subjectKind? with
  | none => simp [contribution_of_unknown h]
  | some kind => simp [contribution_of_known h]

theorem mem_typeBindings {b : TypeBinding} :
    b ∈ typeBindings types catalog ↔
      ∃ t ∈ types.entries, ∃ kind, catalog.resolve? t.subjectKind? = some kind ∧ b = bindType t kind := by
  rw [typeBindings_eq, List.mem_filterMap]
  constructor
  · rintro ⟨t, ht, h⟩
    obtain ⟨kind, hk, rfl⟩ := Option.map_eq_some_iff.1 h
    exact ⟨t, mem_sortedTypes.1 ht, kind, hk, rfl⟩
  · rintro ⟨t, ht, kind, hk, rfl⟩
    exact ⟨t, mem_sortedTypes.2 ht, by rw [hk]; rfl⟩

/-- No two types have the same name. -/
theorem sortedTypes_names_nodup (types : TypeMap) : ((sortedTypes types).map (·.name)).Nodup :=
  ((List.mergeSort_perm types.entries _).map (·.name)).nodup_iff.2 types.nodup

/-- The types come in strict order of module and name. -/
theorem sortedTypes_ascending :
    (sortedTypes types).Pairwise fun t u => PairLt (t.module, t.name) (u.module, u.name) := by
  have hle := pairwise_mergeSort_pair (fun t : TypeEntry => (t.module, t.name)) types.entries
  have hne : (sortedTypes types).Pairwise fun t u => t.name ≠ u.name :=
    List.pairwise_map.1 (sortedTypes_names_nodup types)
  exact hle.imp₂ (fun t u h hn => pairLt_of_pairLe h fun e => hn (congrArg Prod.snd e)) hne

/-- No two listed types have the same name. -/
theorem typeBindings_names_nodup : ((typeBindings types catalog).map (·.name)).Nodup := by
  refine List.Nodup.sublist ?_ (sortedTypes_names_nodup types)
  rw [typeBindings_eq]
  induction sortedTypes types with
  | nil => exact .slnil
  | cons t ts ih =>
    cases h : catalog.resolve? t.subjectKind? with
    | none => simpa [h] using ih.cons t.name
    | some kind => simpa [h, bindType] using ih.cons_cons t.name

/-- The listed types are in order of module and name. -/
theorem typeBindings_ascending :
    (typeBindings types catalog).Pairwise fun a b => PairLt (a.module, a.name) (b.module, b.name) := by
  rw [typeBindings_eq]
  refine sortedTypes_ascending.filterMap _ ?_
  intro t u htu a ha b hb
  obtain ⟨_, -, rfl⟩ := Option.map_eq_some_iff.1 ha
  obtain ⟨_, -, rfl⟩ := Option.map_eq_some_iff.1 hb
  exact htu

/-! ### The functions that can be bound -/

/-- The functions that can be bound, before it is known which of them share a symbol. -/
def accepted (types : TypeMap) (catalog : Catalog) : List FunctionBinding :=
  (contributions types catalog).flatMap (·.functions)

theorem mem_accepted {b : FunctionBinding} :
    b ∈ accepted types catalog ↔
      ∃ t ∈ types.entries, ∃ kind, catalog.resolve? t.subjectKind? = some kind ∧ t.kind ≠ .enum ∧
        ∃ f ∈ t.functions, f.exported = true ∧
          bindFunction catalog (.ofTypes types) t kind f = .ok b := by
  rw [accepted, contributions, List.mem_flatMap]
  constructor
  · rintro ⟨c, hc, hb⟩
    obtain ⟨t, ht, rfl⟩ := List.mem_map.1 hc
    cases h : catalog.resolve? t.subjectKind? with
    | none => simp [contribution_of_unknown h] at hb
    | some kind =>
      rw [contribution_of_known h, mem_partition_ok, List.mem_map] at hb
      obtain ⟨f, hf, hb⟩ := hb
      obtain ⟨henum, hmem, hexp⟩ := mem_candidates.1 hf
      exact ⟨t, mem_sortedTypes.1 ht, kind, h, henum, f, hmem, hexp, hb⟩
  · rintro ⟨t, ht, kind, h, henum, f, hmem, hexp, hb⟩
    refine ⟨_, List.mem_map_of_mem (mem_sortedTypes.2 ht), ?_⟩
    rw [contribution_of_known h, mem_partition_ok, List.mem_map]
    exact ⟨f, mem_candidates.2 ⟨henum, hmem, hexp⟩, hb⟩

theorem kind_mem_of_resolve? (h : catalog.resolve? t.subjectKind? = some kind) :
    kind ∈ catalog.kinds :=
  (mem_kinds_of_get? h).1

/-- No two registered types have the same name. -/
theorem eq_of_name {u : TypeEntry} (ht : t ∈ types.entries) (hu : u ∈ types.entries)
    (e : t.name = u.name) : t = u :=
  List.inj_on_of_nodup_map types.nodup ht hu e

/-! ### The first of each symbol -/

section Dedup

variable {seen : List (String × String)} {f : FunctionBinding}

theorem dedup_of_seen {owner : String} (h : seen.lookup f.symbol = some owner)
    (fs : List FunctionBinding) :
    dedup seen (f :: fs) =
      ((dedup seen fs).1, .duplicateSymbol f.symbol owner f.owner :: (dedup seen fs).2) := by
  rw [dedup, h]

theorem dedup_of_unseen (h : seen.lookup f.symbol = none) (fs : List FunctionBinding) :
    dedup seen (f :: fs) =
      (f :: (dedup ((f.symbol, f.owner) :: seen) fs).1, (dedup ((f.symbol, f.owner) :: seen) fs).2) := by
  rw [dedup, h]

theorem dedup_sublist : ∀ (seen : List (String × String)) (fs : List FunctionBinding),
    (dedup seen fs).1.Sublist fs
  | _, [] => .slnil
  | seen, f :: fs => by
    cases h : seen.lookup f.symbol with
    | some owner =>
      rw [dedup_of_seen h]
      exact (dedup_sublist seen fs).cons f
    | none =>
      rw [dedup_of_unseen h]
      exact (dedup_sublist _ fs).cons_cons f

/-- If no function is reported as a duplicate, all are kept. -/
theorem dedup_of_no_errors : ∀ {seen : List (String × String)} {fs : List FunctionBinding},
    (dedup seen fs).2 = [] → (dedup seen fs).1 = fs
  | _, [], _ => rfl
  | seen, f :: fs, h => by
    cases hseen : seen.lookup f.symbol with
    | some owner =>
      rw [dedup_of_seen hseen] at h
      cases h
    | none =>
      rw [dedup_of_unseen hseen] at h ⊢
      rw [dedup_of_no_errors h]

/-- What is kept has no symbol that was met before. -/
theorem dedup_unseen : ∀ (seen : List (String × String)) (fs : List FunctionBinding),
    ∀ f ∈ (dedup seen fs).1, seen.lookup f.symbol = none
  | _, [], _, hf => by cases hf
  | seen, g :: fs, f, hf => by
    cases h : seen.lookup g.symbol with
    | some owner =>
      rw [dedup_of_seen h] at hf
      exact dedup_unseen seen fs f hf
    | none =>
      rw [dedup_of_unseen h] at hf
      rcases List.mem_cons.1 hf with rfl | hf
      · exact h
      · have hlater := dedup_unseen ((g.symbol, g.owner) :: seen) fs f hf
        rw [List.lookup_cons] at hlater
        split at hlater
        · cases hlater
        · exact hlater

/-- What is kept has no symbol twice. -/
theorem dedup_nodup : ∀ (seen : List (String × String)) (fs : List FunctionBinding),
    ((dedup seen fs).1.map (·.symbol)).Nodup
  | _, [] => .nil
  | seen, f :: fs => by
    cases h : seen.lookup f.symbol with
    | some owner =>
      rw [dedup_of_seen h]
      exact dedup_nodup seen fs
    | none =>
      rw [dedup_of_unseen h, List.map_cons, List.nodup_cons]
      refine ⟨?_, dedup_nodup _ fs⟩
      intro hmem
      obtain ⟨g, hg, hgf⟩ := List.mem_map.1 hmem
      have hlater := dedup_unseen ((f.symbol, f.owner) :: seen) fs g hg
      simp [hgf] at hlater

end Dedup

/-! ### The manifest -/

theorem functions_build :
    (build types catalog).manifest.functions = (dedup [] (sortFunctions (accepted types catalog))).1 := by
  simp [build, retain, accepted]

theorem mem_accepted_of_mem {f : FunctionBinding} (h : f ∈ (build types catalog).manifest.functions) :
    f ∈ accepted types catalog := by
  rw [functions_build] at h
  exact List.mem_mergeSort.1 ((dedup_sublist _ _).subset h)

theorem attachSymbols_retained {functions : List FunctionBinding} {b : TypeBinding} :
    (attachSymbols functions b).functions.filter (functions.map (·.symbol)).contains =
      (attachSymbols functions b).functions := by
  rw [List.filter_eq_self]
  intro s hs
  simp only [attachSymbols, List.mem_mergeSort, List.mem_map, List.mem_filter] at hs
  obtain ⟨f, ⟨hf, -⟩, rfl⟩ := hs
  simpa using ⟨f, hf, rfl⟩

/-- The manifest lists the types of a known kind, each with the symbols of the functions that were
kept for it. -/
theorem types_build :
    (build types catalog).manifest.types =
      (typeBindings types catalog).map (attachSymbols (build types catalog).manifest.functions) := by
  have hall (fs : List FunctionBinding) : (fs.filter fun _ => true) = fs := by simp
  rw [functions_build]
  simp only [build, retain, typeBindings, accepted, hall, List.map_map]
  refine List.map_congr_left fun b _ => ?_
  simp only [Function.comp_apply, attachSymbols_retained]
  rfl

theorem kinds_build :
    (build types catalog).manifest.subjectKinds =
      catalog.kinds.filter fun k =>
        (usedKinds (build types catalog).manifest.types
          (build types catalog).manifest.functions).contains k.name := by
  rfl

theorem errors_build :
    (build types catalog).errors =
      (contributions types catalog).flatMap (·.errors) ++
        (dedup [] (sortFunctions (accepted types catalog))).2 := rfl

end Manifest

end Bindery
