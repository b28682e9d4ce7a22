import Bindery.Manifest.Build
import Mathlib.Data.List.Forall2
/-!
Dropping functions more than once. `retain` filters three lists one after the other: the functions,
then the symbols of each type by what is left of the functions, then the kinds by what is left of the
references to them. A second call finds fewer functions and so fewer symbols and fewer references, and
each filter of it takes away all that the same filter of the first call took. So two calls are one
call with both conditions, whether or not the three lists agreed before.
-/

namespace Bindery

/-- A filter that keeps less than an earlier one does all of the earlier one's work. -/
theorem filter_filter_of_imp {α : Type} {p q : α → Bool} (h : ∀ a, q a = true → p a = true)
    (l : List α) : (l.filter p).filter q = l.filter q := by
  rw [List.filter_filter]
  refine List.filter_congr fun a _ => ?_
  cases hq : q a with
  | false => rfl
  | true => rw [h a hq, Bool.and_self]

/-- A type with those of its symbols that some functions have. -/
def TypeBinding.keepOwn (functions : List FunctionBinding) (t : TypeBinding) : TypeBinding :=
  let own := t.functions.filter (functions.map (·.symbol)).contains
  { t with functions := own, hasFunctions := !own.isEmpty }

namespace Manifest

variable {m : Manifest} {p q keep : FunctionBinding → Bool} {ts : List TypeBinding}
  {fs gs : List FunctionBinding}

/-- Of the symbols that are left by some functions, fewer functions leave what they leave of all. -/
theorem keepOwn_keepOwn (h : gs ⊆ fs) (t : TypeBinding) :
    (t.keepOwn fs).keepOwn gs = t.keepOwn gs := by
  have hown : (t.functions.filter (fs.map (·.symbol)).contains).filter
      (gs.map (·.symbol)).contains = t.functions.filter (gs.map (·.symbol)).contains := by
    refine filter_filter_of_imp (fun symbol hsymbol => ?_) t.functions
    rw [List.contains_iff_mem] at hsymbol ⊢
    exact List.map_subset _ h hsymbol
  simp only [TypeBinding.keepOwn, hown]

/-- Which kinds are referred to does not depend on the symbols of types. -/
theorem usedKinds_keepOwn (fs : List FunctionBinding) :
    usedKinds (ts.map (TypeBinding.keepOwn fs)) gs = usedKinds ts gs := by
  rw [usedKinds, List.map_map]
  rfl

theorem usedKinds_subset (h : gs ⊆ fs) : usedKinds ts gs ⊆ usedKinds ts fs :=
  List.append_subset.2 ⟨List.subset_append_left _ _,
    List.Subset.trans (List.map_subset _ h) (List.subset_append_right _ _)⟩

/-- What is left of the three lists, each by the filter of its own. -/
theorem retain_lists (m : Manifest) (keep : FunctionBinding → Bool) :
    m.retain keep = {
      subjectKinds :=
        m.subjectKinds.filter fun k => (usedKinds m.types (m.functions.filter keep)).contains k.name
      types := m.types.map (TypeBinding.keepOwn (m.functions.filter keep))
      functions := m.functions.filter keep } := by
  rw [← usedKinds_keepOwn (m.functions.filter keep)]
  rfl

/-- Dropping functions twice is dropping them once by both conditions. -/
theorem retain_retain (m : Manifest) (p q : FunctionBinding → Bool) :
    (m.retain p).retain q = m.retain fun f => p f && q f := by
  have hfunctions : (m.functions.filter p).filter q = m.functions.filter fun f => p f && q f := by
    rw [List.filter_filter]
    exact List.filter_congr fun f _ => Bool.and_comm _ _
  have hfewer : (m.functions.filter fun f => p f && q f) ⊆ m.functions.filter p :=
    hfunctions ▸ List.filter_sublist.subset
  rw [retain_lists m p, retain_lists, retain_lists m]
  dsimp only
  rw [hfunctions, usedKinds_keepOwn, List.map_map]
  congr 1
  · -- a kind that is still referred to was referred to before
    refine filter_filter_of_imp (fun k hk => ?_) m.subjectKinds
    rw [List.contains_iff_mem] at hk ⊢
    exact usedKinds_subset hfewer hk
  · exact List.map_congr_left fun t _ => keepOwn_keepOwn hfewer t

theorem retain_self (m : Manifest) (p : FunctionBinding → Bool) :
    (m.retain p).retain p = m.retain p := by
  rw [retain_retain]
  simp only [Bool.and_self]

/-- A manifest that is made has been through a filter that keeps everything. -/
theorem retain_build (types : TypeMap) (catalog : Catalog) :
    ((build types catalog).manifest.retain fun _ => true) = (build types catalog).manifest :=
  retain_self _ _

/-! ### What is left -/

/-- A type of a manifest after functions were dropped: it has lost the symbols that none of the
functions has, and is otherwise as it was. -/
structure TypeRetained (functions : List FunctionBinding) (t t' : TypeBinding) : Prop where
  /-- The symbols that are left are in the order in which they were. -/
  in_order : t'.functions.Sublist t.functions
  count : ∀ s, t'.functions.count s =
    if ∃ f ∈ functions, f.symbol = s then t.functions.count s else 0
  hasFunctions : t'.hasFunctions = true ↔ t'.functions ≠ []
  unchanged : { t' with functions := t.functions, hasFunctions := t.hasFunctions } = t

/-- A manifest after functions were dropped from it: what is left in the three lists is in the order
in which it was, and no type is gone. -/
structure Retained (keep : FunctionBinding → Bool) (m m' : Manifest) : Prop where
  functions_in_order : m'.functions.Sublist m.functions
  functions_count : ∀ f, m'.functions.count f = if keep f then m.functions.count f else 0
  /-- The types are those from before, one by one. -/
  types : List.Forall₂ (TypeRetained m'.functions) m.types m'.types
  kinds_in_order : m'.subjectKinds.Sublist m.subjectKinds
  kinds_count : ∀ k, m'.subjectKinds.count k =
    if k.name ∈ m'.types.map (·.subjectKind) ++ m'.functions.map (·.subjectKind)
      then m.subjectKinds.count k else 0

theorem count_filter_eq {α : Type} [DecidableEq α] (p : α → Bool) (a : α) (l : List α) :
    (l.filter p).count a = if p a then l.count a else 0 := by
  split
  · rename_i h
    exact List.count_filter h
  · rename_i h
    exact List.count_eq_zero.2 fun hmem => h (List.mem_filter.1 hmem).2

theorem typeRetained_keepOwn (functions : List FunctionBinding) (t : TypeBinding) :
    TypeRetained functions t (t.keepOwn functions) where
  in_order := List.filter_sublist
  count s := by
    rw [TypeBinding.keepOwn, count_filter_eq]
    simp only [List.contains_iff_mem, List.mem_map]
  hasFunctions := by
    rw [TypeBinding.keepOwn, Bool.not_eq_true', List.isEmpty_eq_false_iff]
  unchanged := rfl

theorem retained_retain (m : Manifest) (keep : FunctionBinding → Bool) : Retained keep m (m.retain keep) where
  functions_in_order := List.filter_sublist
  functions_count f := count_filter_eq keep f m.functions
  types := by
    rw [retain_lists, List.forall₂_map_right_iff, List.forall₂_same]
    exact fun t _ => typeRetained_keepOwn _ t
  kinds_in_order := List.filter_sublist
  kinds_count k := by
    rw [retain, count_filter_eq]
    simp only [List.contains_iff_mem]
    rfl

/-- Dropping functions from any manifest composes, it is done after one time, and it keeps the order
of all that it leaves; a manifest that was made is left as it is when nothing is to be dropped. -/
theorem retain_composes (m : Manifest) (p q : FunctionBinding → Bool) :
    (m.retain p).retain q = m.retain (fun f => p f && q f) ∧
      (m.retain p).retain p = m.retain p ∧
      Retained p m (m.retain p) ∧
      ∀ (types : TypeMap) (catalog : Catalog),
        ((build types catalog).manifest.retain fun _ => true) = (build types catalog).manifest :=
  ⟨retain_retain m p q, retain_self m p, retained_retain m p, retain_build⟩

end Manifest

end Bindery
