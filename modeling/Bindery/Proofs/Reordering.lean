import Bindery.Proofs.Modules
import Bindery.Proofs.Types
/-!
The same types with other functions. When two maps have the same names, for entries that are the same
but for their functions, one map has the other's entries, each with its functions replaced, and
everything that is sorted comes out the same up to this: the types by name, and the modules with their
buckets. So it is when the same types are registered in another order, which may change the order of
the functions of a type as well.
-/

namespace Bindery

namespace TypeEntry

/-- Whether two entries are the same but for their functions. -/
def SameOutline (t u : TypeEntry) : Prop := u = { t with functions := u.functions }

/-- Whether two entries differ at most in the order of their functions. -/
structure Reordered (t u : TypeEntry) : Prop where
  functions : t.functions.Perm u.functions
  others : u = { t with functions := u.functions }

/-- The entry with its functions as they are listed for its name. -/
def reorder (order : String → List FunctionEntry) (t : TypeEntry) : TypeEntry :=
  { t with functions := order t.name }

variable (order : String → List FunctionEntry) (t : TypeEntry)

@[simp] theorem name_reorder : (t.reorder order).name = t.name := rfl

@[simp] theorem kind_reorder : (t.reorder order).kind = t.kind := rfl

@[simp] theorem properties_reorder : (t.reorder order).properties = t.properties := rfl

@[simp] theorem target?_reorder : (t.reorder order).target? = t.target? := rfl

theorem exportedFunctions_reorder {order : String → List FunctionEntry} {t : TypeEntry}
    (h : t.functions.Perm (order t.name)) :
    t.exportedFunctions.Perm (t.reorder order).exportedFunctions := h.filter _

end TypeEntry

namespace Module

variable {order : String → List FunctionEntry}

/-- The module with the functions of its types as they are listed. -/
def reorder (order : String → List FunctionEntry) (m : Module) : Module :=
  { m with
    enums := m.enums.map (·.reorder order)
    structs := m.structs.map (·.reorder order)
    objects := m.objects.map (·.reorder order)
    globals := m.globals.map (·.reorder order)
    functions := m.functions.map (·.reorder order)
    aliases := m.aliases.map (·.reorder order) }

@[simp] theorem name_reorder (m : Module) : (m.reorder order).name = m.name := rfl

theorem subjects_reorder (m : Module) :
    (m.reorder order).subjects = m.subjects.map (·.reorder order) := by
  simp [subjects, reorder]

theorem nonEnums_reorder (m : Module) :
    (m.reorder order).nonEnums = m.nonEnums.map (·.reorder order) := by
  rw [nonEnums, nonEnums, subjects_reorder]
  simp [reorder]

theorem types_reorder (m : Module) : (m.reorder order).types = m.types.map (·.reorder order) := by
  rw [types, types, nonEnums_reorder]
  simp [reorder]

/-- A type is added alike, whatever its functions. -/
theorem add_reorder (m : Module) (t : TypeEntry) :
    (m.reorder order).add (t.reorder order) = (m.add t).reorder order := by
  have hbrief : (m.reorder order).mergeBrief (t.reorder order) = (m.mergeBrief t).reorder order := by
    rw [mergeBrief, mergeBrief, show (m.reorder order).briefIsExplicit = m.briefIsExplicit from rfl,
      show (t.reorder order).explicitBrief? = t.explicitBrief? from rfl]
    split
    · rfl
    · cases t.explicitBrief? <;> rfl
  rw [add, add, hbrief, addToBucket, addToBucket, TypeEntry.kind_reorder]
  cases t.kind <;> simp [reorder]

theorem ofTypes_reorder (name : String) (ts : List TypeEntry) :
    ofTypes name (ts.map (·.reorder order)) = (ofTypes name ts).reorder order := by
  have hfold : ∀ (ts : List TypeEntry) (m : Module),
      (ts.map (·.reorder order)).foldl add (m.reorder order) = (ts.foldl add m).reorder order := by
    intro ts
    induction ts with
    | nil => exact fun _ => rfl
    | cons t ts ih =>
      intro m
      rw [List.map_cons, List.foldl_cons, List.foldl_cons, add_reorder, ih]
  exact hfold ts { name := name }

end Module

namespace TypeMap

/-- Whether two maps have the same names, for entries that are the same but for their functions. -/
def SameOutline (m n : TypeMap) : Prop :=
  ∀ name, Option.Rel TypeEntry.SameOutline (m.get? name) (n.get? name)

/-- Whether two maps have the same names, for entries that differ at most in the order of their
functions. -/
def Reordered (m n : TypeMap) : Prop :=
  ∀ name, Option.Rel TypeEntry.Reordered (m.get? name) (n.get? name)

/-- The functions of the type called `name`. -/
def functionsOf (m : TypeMap) (name : String) : List FunctionEntry :=
  ((m.get? name).map (·.functions)).getD []

variable {m n : TypeMap} {t : TypeEntry}

/-- Looking up a name gives the entry of the other map, with its own functions. -/
theorem SameOutline.get? (h : m.SameOutline n) (name : String) :
    n.get? name = (m.get? name).map (·.reorder n.functionsOf) := by
  have hname := h name
  cases hm : m.get? name with
  | none =>
    rw [hm] at hname
    cases hn : n.get? name with
    | none => rfl
    | some u =>
      rw [hn] at hname
      cases hname
  | some t =>
    rw [hm] at hname
    cases hn : n.get? name with
    | none =>
      rw [hn] at hname
      cases hname
    | some u =>
      rw [hn] at hname
      cases hname with
      | some hsame =>
        have hfunctions : n.functionsOf t.name = u.functions := by
          rw [name_of_get? hm, functionsOf, hn]
          rfl
        rw [Option.map_some, TypeEntry.reorder, hfunctions, ← hsame]

/-- The entries are those of the other map, with their own functions. -/
theorem SameOutline.entries (h : m.SameOutline n) :
    (m.entries.map (·.reorder n.functionsOf)).Perm n.entries := by
  have hnames : ((m.entries.map (·.reorder n.functionsOf)).map (·.name)).Nodup := by
    rw [List.map_map]
    exact m.nodup
  rw [List.perm_ext_iff_of_nodup (.of_map _ hnames) n.entries_nodup]
  intro u
  rw [mem_entries, h.get?, Option.map_eq_some_iff, List.mem_map]
  constructor
  · rintro ⟨t, ht, rfl⟩
    exact ⟨t, get?_name ht, rfl⟩
  · rintro ⟨t, ht, e⟩
    exact ⟨t, (get?_eq_some.1 ht).1, e⟩

theorem SameOutline.sorted (h : m.SameOutline n) :
    n.sorted = m.sorted.map (·.reorder n.functionsOf) := by
  rw [TypeMap.sorted, TypeMap.sorted,
    ← mergeSort_text_eq_of_perm (·.name) ((h.entries.map _).nodup_iff.2 n.nodup) h.entries]
  refine (List.map_mergeSort ?_).symm
  exact fun _ _ _ _ => rfl

theorem SameOutline.moduleNames (h : m.SameOutline n) : n.moduleNames = m.moduleNames := by
  refine eq_of_ascending moduleNames_ascending moduleNames_ascending fun name => ?_
  rw [mem_moduleNames, mem_moduleNames]
  constructor
  · rintro ⟨u, hu, hmodule⟩
    obtain ⟨t, ht, rfl⟩ := List.mem_map.1 (h.entries.mem_iff.2 hu)
    exact ⟨t, ht, hmodule⟩
  · rintro ⟨t, ht, hmodule⟩
    exact ⟨_, h.entries.mem_iff.1 (List.mem_map_of_mem ht), hmodule⟩

/-- The modules are those of the other map, with the functions of their types replaced. -/
theorem SameOutline.modules (h : m.SameOutline n) :
    n.modules = m.modules.map (·.reorder n.functionsOf) := by
  rw [TypeMap.modules, TypeMap.modules, h.moduleNames, h.sorted, List.map_map]
  refine List.map_congr_left fun name _ => ?_
  rw [List.filter_map, Module.ofTypes_reorder]
  rfl

/-- Maps have the same outline if their entries are related name by name and related entries have. -/
theorem SameOutline.of_rel {R : TypeEntry → TypeEntry → Prop} (hR : ∀ t u, R t u → t.SameOutline u)
    (h : ∀ name, Option.Rel R (m.get? name) (n.get? name)) : m.SameOutline n := by
  intro name
  have hname := h name
  generalize m.get? name = t?, n.get? name = u? at hname ⊢
  cases hname with
  | some hr => exact .some (hR _ _ hr)
  | none => exact .none

theorem Reordered.sameOutline (h : m.Reordered n) : m.SameOutline n :=
  .of_rel (fun _ _ hr => hr.others) h

theorem Reordered.functions (h : m.Reordered n) (ht : t ∈ m.entries) :
    t.functions.Perm (n.functionsOf t.name) := by
  have hname := h t.name
  rw [functionsOf, h.sameOutline.get?, get?_name ht] at *
  cases hname with
  | some hr => exact hr.functions

end TypeMap

end Bindery
