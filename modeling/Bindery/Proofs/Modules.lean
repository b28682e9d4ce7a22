import Bindery.Module
import Bindery.Proofs.Sorting
/-!
Which types a module has. Adding types one after the other puts each of them at the end of the bucket
of its kind, so every bucket has the types of its kind in the order in which they came. The modules of
some types are named in strictly ascending order, and every type is in the one module of its stem.
-/

namespace Bindery

namespace Module

/-- The types of one kind. -/
def bucket (m : Module) : EntryKind → List TypeEntry
  | .enum => m.enums
  | .struct => m.structs
  | .object => m.objects
  | .global => m.globals
  | .function => m.functions
  | .alias => m.aliases

/-- A description changes neither the name of a module nor its types. -/
theorem mergeBrief_same (m : Module) (t : TypeEntry) (k : EntryKind) :
    (m.mergeBrief t).name = m.name ∧ (m.mergeBrief t).bucket k = m.bucket k := by
  unfold mergeBrief
  split
  · exact ⟨rfl, rfl⟩
  · split <;> cases k <;> exact ⟨rfl, rfl⟩

theorem name_add (m : Module) (t : TypeEntry) : (m.add t).name = m.name := by
  have h := (mergeBrief_same m t t.kind).1
  unfold add addToBucket
  split <;> exact h

/-- A type goes to the end of the bucket of its kind. -/
theorem bucket_add (m : Module) (t : TypeEntry) (k : EntryKind) :
    (m.add t).bucket k = if t.kind = k then m.bucket k ++ [t] else m.bucket k := by
  rw [← (mergeBrief_same m t k).2]
  unfold add addToBucket
  cases t.kind <;> cases k <;> rfl

theorem foldl_add (k : EntryKind) : ∀ (ts : List TypeEntry) (m : Module),
    (ts.foldl add m).name = m.name ∧
      (ts.foldl add m).bucket k = m.bucket k ++ ts.filter fun t => t.kind = k
  | [], m => by simp
  | t :: ts, m => by
    obtain ⟨hname, hbucket⟩ := foldl_add k ts (m.add t)
    rw [List.foldl_cons]
    refine ⟨hname.trans (name_add m t), ?_⟩
    rw [hbucket, bucket_add]
    by_cases h : t.kind = k
    · rw [if_pos h, List.filter_cons_of_pos (by simpa using h), List.append_assoc,
        List.singleton_append]
    · rw [if_neg h, List.filter_cons_of_neg (by simpa using h)]

variable {name : String} {ts : List TypeEntry} {t : TypeEntry}

theorem name_ofTypes : (ofTypes name ts).name = name := (foldl_add .enum ts _).1

/-- A bucket has the types of its kind in their order. -/
theorem bucket_ofTypes (k : EntryKind) :
    (ofTypes name ts).bucket k = ts.filter fun t => t.kind = k := by
  have h := (foldl_add k ts { name := name }).2
  have hnone : ({ name := name } : Module).bucket k = [] := by cases k <;> rfl
  rwa [hnone, List.nil_append] at h

theorem mem_bucket_ofTypes {k : EntryKind} : t ∈ (ofTypes name ts).bucket k ↔ t ∈ ts ∧ t.kind = k := by
  rw [bucket_ofTypes, List.mem_filter, decide_eq_true_iff]

theorem mem_nonEnums_iff {m : Module} :
    t ∈ m.nonEnums ↔ ∃ k, k ≠ .enum ∧ t ∈ m.bucket k := by
  simp only [nonEnums, subjects, List.mem_append]
  constructor
  · rintro ((h | h) | (h | h) | h)
    · exact ⟨.struct, by simp, h⟩
    · exact ⟨.alias, by simp, h⟩
    · exact ⟨.object, by simp, h⟩
    · exact ⟨.global, by simp, h⟩
    · exact ⟨.function, by simp, h⟩
  · rintro ⟨k, hk, h⟩
    cases k with
    | enum => exact absurd rfl hk
    | struct => exact .inl (.inl h)
    | «alias» => exact .inl (.inr h)
    | object => exact .inr (.inl (.inl h))
    | global => exact .inr (.inl (.inr h))
    | function => exact .inr (.inr h)

theorem mem_nonEnums_ofTypes : t ∈ (ofTypes name ts).nonEnums ↔ t ∈ ts ∧ t.kind ≠ .enum := by
  rw [mem_nonEnums_iff]
  constructor
  · rintro ⟨k, hk, h⟩
    obtain ⟨ht, rfl⟩ := mem_bucket_ofTypes.1 h
    exact ⟨ht, hk⟩
  · rintro ⟨ht, hk⟩
    exact ⟨t.kind, hk, mem_bucket_ofTypes.2 ⟨ht, rfl⟩⟩

theorem mem_types_ofTypes : t ∈ (ofTypes name ts).types ↔ t ∈ ts := by
  have henums : t ∈ (ofTypes name ts).enums ↔ t ∈ ts ∧ t.kind = .enum :=
    mem_bucket_ofTypes (k := .enum)
  rw [types, List.mem_append, henums, mem_nonEnums_ofTypes]
  by_cases h : t.kind = .enum <;> simp [h]

end Module

namespace TypeMap

variable {types : TypeMap} {m : Module} {t : TypeEntry}

theorem mem_moduleNames {name : String} :
    name ∈ types.moduleNames ↔ ∃ t ∈ types.entries, t.module = name := by
  rw [moduleNames, List.mem_mergeSort, List.mem_eraseDups, List.mem_map]

/-- The names of the modules are in strictly ascending order. -/
theorem moduleNames_ascending : types.moduleNames.Pairwise (· < ·) :=
  strictly_mergeSort_text (nodup_eraseDups _)

theorem names_modules : types.modules.map (·.name) = types.moduleNames := by
  rw [modules, List.map_map]
  refine (List.map_congr_left fun name _ => ?_).trans (List.map_id types.moduleNames)
  exact Module.name_ofTypes

/-- The module of a name is made from the types with this stem, by name. -/
theorem eq_of_mem_modules (h : m ∈ types.modules) :
    m = .ofTypes m.name (types.sorted.filter fun t => t.module = m.name) := by
  obtain ⟨name, -, rfl⟩ := List.mem_map.1 h
  rw [Module.name_ofTypes]

/-- A module has the types of its name. -/
theorem mem_types_of_mem_modules (h : m ∈ types.modules) :
    t ∈ m.types ↔ t ∈ types.entries ∧ t.module = m.name := by
  rw [eq_of_mem_modules h, Module.mem_types_ofTypes, Module.name_ofTypes, List.mem_filter, sorted,
    List.mem_mergeSort, decide_eq_true_iff]

/-- A bucket of a module has the types of its name and of one kind. -/
theorem mem_bucket_of_mem_modules (h : m ∈ types.modules) {k : EntryKind} :
    t ∈ m.bucket k ↔ t ∈ types.entries ∧ t.module = m.name ∧ t.kind = k := by
  rw [eq_of_mem_modules h, Module.mem_bucket_ofTypes, Module.name_ofTypes, List.mem_filter, sorted,
    List.mem_mergeSort, decide_eq_true_iff, and_assoc]

theorem mem_nonEnums_of_mem_modules (h : m ∈ types.modules) :
    t ∈ m.nonEnums ↔ t ∈ types.entries ∧ t.module = m.name ∧ t.kind ≠ .enum := by
  rw [eq_of_mem_modules h, Module.mem_nonEnums_ofTypes, Module.name_ofTypes, List.mem_filter, sorted,
    List.mem_mergeSort, decide_eq_true_iff, and_assoc]

/-- Every type is in a module. -/
theorem exists_module (h : t ∈ types.entries) : ∃ m ∈ types.modules, m.name = t.module := by
  have hname : t.module ∈ types.modules.map (·.name) := by
    rw [names_modules]
    exact mem_moduleNames.2 ⟨t, h, rfl⟩
  exact List.mem_map.1 hname

theorem modules_names_nodup : (types.modules.map (·.name)).Nodup := by
  rw [names_modules]
  exact moduleNames_ascending.imp String.ne_of_lt

end TypeMap

end Bindery
