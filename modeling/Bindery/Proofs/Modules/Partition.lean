import Bindery.Proofs.Modules
import Bindery.Proofs.Types
import Mathlib.Algebra.Ring.Nat
/-!
The modules divide the types. Every type is in one module, that of its stem, and there in one bucket,
that of its kind; a bucket is in order of the names. The description of a module is folded out of the
types of all its buckets together: while none of them states one, the first inferred one is kept, and
the first stated one takes its place for good. Over the types in order of their names this comes to
the first stated description, or else the first inferred one. None of it depends on the order in which
the types are given.
-/

namespace Bindery

namespace Module

/-! ### Descriptions -/

/-- The description of a module, and whether it was stated. -/
def description (m : Module) : Option String × Bool := (m.brief?, m.briefIsExplicit)

/-- The description after some further types: one that was stated stays, and else the first stated
one of the types counts, or the first inferred one at all. -/
def descriptionAfter (ts : List TypeEntry) : Option String × Bool → Option String × Bool
  | (brief?, true) => (brief?, true)
  | (brief?, false) =>
    match ts.findSome? (·.explicitBrief?) with
    | some brief => (some brief, true)
    | none => (brief?.or (ts.findSome? (·.inferredBrief?)), false)

theorem description_addToBucket (m : Module) (t : TypeEntry) :
    (m.addToBucket t).description = m.description := by
  unfold addToBucket
  split <;> rfl

theorem description_add (m : Module) (t : TypeEntry) :
    (m.add t).description = descriptionAfter [t] m.description := by
  rw [add, description_addToBucket, mergeBrief]
  obtain ⟨_, brief?, isExplicit, _⟩ := m
  cases isExplicit with
  | true => rfl
  | false =>
    cases he : t.explicitBrief? with
    | some brief => simp [description, descriptionAfter, he]
    | none => cases hi : t.inferredBrief? <;> simp [description, descriptionAfter, he, hi]

/-- What one type leaves to the next: the first types count before the later ones. -/
theorem descriptionAfter_cons (t : TypeEntry) (ts : List TypeEntry) (d : Option String × Bool) :
    descriptionAfter ts (descriptionAfter [t] d) = descriptionAfter (t :: ts) d := by
  obtain ⟨brief?, isExplicit⟩ := d
  cases isExplicit with
  | true => rfl
  | false =>
    cases he : t.explicitBrief? with
    | some brief => simp [descriptionAfter, he]
    | none => cases hi : t.inferredBrief? <;> simp [descriptionAfter, he, hi]

theorem description_foldl : ∀ (ts : List TypeEntry) (m : Module),
    (ts.foldl add m).description = descriptionAfter ts m.description
  | [], m => by
    obtain ⟨_, brief?, isExplicit, _⟩ := m
    cases isExplicit <;> simp [description, descriptionAfter]
  | t :: ts, m => by
    rw [List.foldl_cons, description_foldl ts, description_add, descriptionAfter_cons]

theorem description_ofTypes (name : String) (ts : List TypeEntry) :
    (ofTypes name ts).description = descriptionAfter ts (none, false) := description_foldl ts _

/-! ### Buckets -/

/-- The types of a module, bucket by bucket. -/
theorem types_eq_flatMap (m : Module) :
    m.types = [.enum, .struct, .alias, .object, .global, .function].flatMap m.bucket := by
  simp [types, nonEnums, subjects, bucket]

theorem mem_types_iff {m : Module} {t : TypeEntry} : t ∈ m.types ↔ ∃ k, t ∈ m.bucket k := by
  rw [types_eq_flatMap, List.mem_flatMap]
  refine exists_congr fun k => and_iff_right ?_
  cases k <;> decide

theorem size_eq_sum (m : Module) : m.size = (EntryKind.all.map fun k => (m.bucket k).length).sum := by
  rw [size, types_eq_flatMap, List.length_flatMap]
  simp [EntryKind.all]
  omega

end Module

namespace TypeMap

variable {types types' : TypeMap} {m : Module} {t : TypeEntry} {name : String}

/-! ### Types in order of their names -/

/-- The types of a module, in order of their names. -/
def typesIn (types : TypeMap) (name : String) : List TypeEntry :=
  types.sorted.filter fun t => t.module = name

theorem mem_typesIn : t ∈ types.typesIn name ↔ t ∈ types.entries ∧ t.module = name := by
  rw [typesIn, List.mem_filter, sorted, List.mem_mergeSort, decide_eq_true_iff]

theorem sorted_ascending (types : TypeMap) : types.sorted.Pairwise fun t u => t.name < u.name := by
  have hnames : (types.sorted.map (·.name)).Nodup :=
    ((List.mergeSort_perm types.entries _).map (·.name)).nodup_iff.2 types.nodup
  exact (pairwise_mergeSort_text (·.name) types.entries).imp₂
    (fun t u hle hne => String.not_le.1 fun hba => hne (String.le_antisymm hle hba))
    (List.pairwise_map.1 hnames)

theorem typesIn_ascending (types : TypeMap) (name : String) :
    (types.typesIn name).Pairwise fun t u => t.name < u.name :=
  types.sorted_ascending.sublist List.filter_sublist

/-- Whether a line is that of the first type of a module, by name, that has one. -/
def IsFirstLine (types : TypeMap) (module : String) (line? : TypeEntry → Option String)
    (line : String) : Prop :=
  ∃ t ∈ types.entries, t.module = module ∧ line? t = some line ∧
    ∀ u ∈ types.entries, u.module = module → (line? u).isSome = true → t.name ≤ u.name

theorem isFirstLine_of_findSome? {line? : TypeEntry → Option String} {line : String}
    (h : (types.typesIn name).findSome? line? = some line) :
    types.IsFirstLine name line? line := by
  obtain ⟨before, t, after, hsplit, ht, hbefore⟩ := List.findSome?_eq_some_iff.1 h
  have hmem : t ∈ types.typesIn name := by simp [hsplit]
  refine ⟨t, (mem_typesIn.1 hmem).1, (mem_typesIn.1 hmem).2, ht, fun u hu hmodule hline => ?_⟩
  have hascending := types.typesIn_ascending name
  have hu : u ∈ types.typesIn name := mem_typesIn.2 ⟨hu, hmodule⟩
  rw [hsplit] at hascending hu
  rcases List.mem_append.1 hu with hu | hu
  · rw [hbefore u hu] at hline
    cases hline
  · rcases List.mem_cons.1 hu with rfl | hu
    · exact String.le_refl _
    · have hlater := (List.pairwise_cons.1 (List.pairwise_append.1 hascending).2.1).1 u hu
      exact String.not_lt.1 (String.lt_asymm hlater)

theorem none_of_findSome? {line? : TypeEntry → Option String}
    (h : (types.typesIn name).findSome? line? = none) :
    ∀ t ∈ types.entries, t.module = name → line? t = none := by
  intro t ht hmodule
  exact List.findSome?_eq_none_iff.1 h t (mem_typesIn.2 ⟨ht, hmodule⟩)

/-! ### The partition -/

/-- How a module is described: by the first of its types, by name, that states a line, failing that by
the first that has an inferred one, failing that not at all. -/
inductive Describes (types : TypeMap) (m : Module) : Prop where
  | stated {line : String} (first : types.IsFirstLine m.name (·.explicitBrief?) line)
      (brief : m.brief? = some line) (isExplicit : m.briefIsExplicit = true)
  | inferred {line : String} (unstated : ∀ t ∈ types.entries, t.module = m.name → t.explicitBrief? = none)
      (first : types.IsFirstLine m.name (·.inferredBrief?) line)
      (brief : m.brief? = some line) (isExplicit : m.briefIsExplicit = false)
  | nothing (unstated : ∀ t ∈ types.entries, t.module = m.name → t.explicitBrief? = none)
      (uninferred : ∀ t ∈ types.entries, t.module = m.name → t.inferredBrief? = none)
      (brief : m.brief? = none) (isExplicit : m.briefIsExplicit = false)

/-- Whether some modules divide the types of a map. -/
structure Divides (types : TypeMap) (ms : List Module) : Prop where
  /-- The modules stand under their names, which are the stems of the types. -/
  names : ms.map (·.name) = types.moduleNames
  ascending : types.moduleNames.Pairwise (· < ·)
  /-- A type is in the module of its stem and in the bucket of its kind, and nowhere else. -/
  placed : ∀ t ∈ types.entries, ∃ m ∈ ms, m.name = t.module ∧
    ∀ m' ∈ ms, ∀ k, t ∈ m'.bucket k ↔ m' = m ∧ k = t.kind
  drawn : ∀ m ∈ ms, ∀ k, ∀ t ∈ m.bucket k, t ∈ types.entries
  not_empty : ∀ m ∈ ms, m.isEmpty = false
  bucket_ascending : ∀ m ∈ ms, ∀ k, (m.bucket k).Pairwise fun t u => t.name < u.name
  /-- All types of a module are listed, each once. -/
  listed : ∀ m ∈ ms, m.types.Nodup ∧ (∀ t, t ∈ m.types ↔ ∃ k, t ∈ m.bucket k) ∧
    m.types.length = m.size ∧ m.size = (EntryKind.all.map fun k => (m.bucket k).length).sum
  described : ∀ m ∈ ms, types.Describes m

theorem bucket_eq (hm : m ∈ types.modules) (k : EntryKind) :
    m.bucket k = (types.typesIn m.name).filter fun t => t.kind = k := by
  conv_lhs => rw [eq_of_mem_modules hm, Module.bucket_ofTypes]
  rfl

theorem placed (ht : t ∈ types.entries) : ∃ m ∈ types.modules, m.name = t.module ∧
    ∀ m' ∈ types.modules, ∀ k, t ∈ m'.bucket k ↔ m' = m ∧ k = t.kind := by
  obtain ⟨m, hm, hname⟩ := exists_module ht
  refine ⟨m, hm, hname, fun m' hm' k => ?_⟩
  have hsame : m'.name = m.name ↔ m' = m :=
    ⟨fun e => List.inj_on_of_nodup_map modules_names_nodup hm' hm e, fun e => e ▸ rfl⟩
  rw [mem_bucket_of_mem_modules hm', ← hsame, hname, and_iff_right ht, eq_comm, eq_comm (a := k)]

theorem types_nodup (hm : m ∈ types.modules) : m.types.Nodup := by
  rw [Module.types_eq_flatMap, List.nodup_flatMap]
  constructor
  · intro k _
    have hascending := (types.typesIn_ascending m.name).sublist (List.filter_sublist (p := (·.kind = k)))
    rw [bucket_eq hm]
    exact hascending.imp fun h e => String.ne_of_lt h (congrArg _ e)
  · -- a type has one kind, so no two buckets share one
    refine List.Pairwise.imp (R := (· ≠ ·)) ?_ (by decide)
    intro k k' hne t ht ht'
    rw [mem_bucket_of_mem_modules hm] at ht ht'
    exact hne (ht.2.2.symm.trans ht'.2.2)

theorem describes (hm : m ∈ types.modules) : types.Describes m := by
  have h : m.description = Module.descriptionAfter (types.typesIn m.name) (none, false) := by
    conv_lhs => rw [eq_of_mem_modules hm, Module.description_ofTypes]
    rfl
  rw [Module.descriptionAfter] at h
  cases hstated : (types.typesIn m.name).findSome? (·.explicitBrief?) with
  | some line =>
    rw [hstated] at h
    exact .stated (isFirstLine_of_findSome? hstated) (congrArg Prod.fst h) (congrArg Prod.snd h)
  | none =>
    rw [hstated, Option.none_or] at h
    have hunstated := none_of_findSome? hstated
    cases hinferred : (types.typesIn m.name).findSome? (·.inferredBrief?) with
    | some line =>
      rw [hinferred] at h
      exact .inferred hunstated (isFirstLine_of_findSome? hinferred) (congrArg Prod.fst h)
        (congrArg Prod.snd h)
    | none =>
      rw [hinferred] at h
      exact .nothing hunstated (none_of_findSome? hinferred) (congrArg Prod.fst h)
        (congrArg Prod.snd h)

theorem modules_of_perm (h : types'.entries.Perm types.entries) : types'.modules = types.modules := by
  have hsorted : types'.sorted = types.sorted :=
    mergeSort_text_eq_of_perm TypeEntry.name types'.nodup h
  have hnames : types'.moduleNames = types.moduleNames := by
    refine eq_of_ascending moduleNames_ascending moduleNames_ascending fun name => ?_
    rw [mem_moduleNames, mem_moduleNames]
    exact exists_congr fun t => and_congr_left fun _ => h.mem_iff
  rw [modules, modules, hsorted, hnames]

/-- The modules of some types divide them, and are the same in whatever order the types are given. -/
theorem modules_divide (types : TypeMap) :
    types.Divides types.modules ∧
      ∀ types' : TypeMap, types'.entries.Perm types.entries → types'.modules = types.modules := by
  refine ⟨?_, fun types' h => modules_of_perm h⟩
  constructor
  case names => exact names_modules
  case ascending => exact moduleNames_ascending
  case placed => exact fun t ht => placed ht
  case drawn => exact fun m hm k t ht => ((mem_bucket_of_mem_modules hm).1 ht).1
  case not_empty =>
    intro m hm
    have hname : m.name ∈ types.moduleNames := names_modules ▸ List.mem_map_of_mem hm
    obtain ⟨t, ht, hmodule⟩ := mem_moduleNames.1 hname
    have hmem : t ∈ m.types := (mem_types_of_mem_modules hm).2 ⟨ht, hmodule⟩
    rw [Module.isEmpty, List.isEmpty_eq_false_iff]
    exact List.ne_nil_of_mem hmem
  case bucket_ascending =>
    intro m hm k
    rw [bucket_eq hm]
    exact (types.typesIn_ascending m.name).sublist List.filter_sublist
  case listed => exact fun m hm => ⟨types_nodup hm, fun t => m.mem_types_iff, rfl, m.size_eq_sum⟩
  case described => exact fun m hm => describes hm

end TypeMap

end Bindery
