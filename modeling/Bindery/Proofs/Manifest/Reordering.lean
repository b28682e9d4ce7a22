import Bindery.Proofs.Manifest.Contents
import Bindery.Proofs.Reordering
/-!
The manifest does not depend on the order of registration. C types look at names and kinds only, a
function is bound with no regard to the other functions of its type, and the exported functions of a
type are sorted by name before any of them is bound. So if these are the same each type contributes the
same, the types contribute in the same order, and the manifest comes out the same, with the same errors
in the same order.
-/

namespace Bindery

/-- The exported functions of a type, by name. -/
def TypeEntry.exportsByName (t : TypeEntry) : List FunctionEntry :=
  t.exportedFunctions.mergeSort fun f g => f.name ≤ g.name

/-- Whether two maps are the same but for their functions, and have the same exported functions, by
name, of each type. -/
structure TypeMap.SameExports (m n : TypeMap) : Prop where
  outline : m.SameOutline n
  exports : ∀ t ∈ m.entries, (t.reorder n.functionsOf).exportsByName = t.exportsByName

variable {types types' : TypeMap} {catalog : Catalog} {t : TypeEntry}
  {order : String → List FunctionEntry}

/-- Sorted by name, functions come in the same order if no two of them have the same name. -/
theorem TypeMap.Reordered.sameExports (h : types.Reordered types')
    (hnames : ∀ t ∈ types.entries, (t.functions.map (·.name)).Nodup) : types.SameExports types' where
  outline := h.sameOutline
  exports := by
    intro t ht
    have hexported : (t.exportedFunctions.map (·.name)).Nodup :=
      (hnames t ht).sublist (List.filter_sublist.map _)
    exact (mergeSort_text_eq_of_perm (·.name) hexported
      (TypeEntry.exportedFunctions_reorder (h.functions ht))).symm

/-! ### C types -/

theorem TypeMap.SameOutline.spelling? (h : types.SameOutline types') (handle : String) :
    (CTypes.mk types' handle).spelling? = (CTypes.mk types handle).spelling? := by
  refine CTypes.spelling?_congr (fun name => ?_) rfl
  rw [h.get?, Option.map_map]
  rfl

theorem TypeMap.SameOutline.valueSpelling? (h : types.SameOutline types') :
    (CTypes.ofTypes types').valueSpelling? = (CTypes.ofTypes types).valueSpelling? :=
  CTypes.valueSpelling?_congr (h.spelling? CTypes.runtimeHandle)

theorem TypeMap.SameOutline.structModule? (h : types.SameOutline types') :
    (CTypes.ofTypes types').structModule? = (CTypes.ofTypes types).structModule? := by
  funext ty
  cases ty with
  | struct name =>
    rw [CTypes.structModule?, CTypes.structModule?, CTypes.ofTypes, CTypes.ofTypes, h.get?,
      Option.map_map]
    rfl
  | _ => rfl

namespace Manifest

/-! ### One type -/

theorem contribution_reorder (h : types.SameOutline types')
    (hexports : (t.reorder order).exportsByName = t.exportsByName) :
    contribution catalog (.ofTypes types') (t.reorder order) =
      contribution catalog (.ofTypes types) t := by
  have hcandidates : candidates (t.reorder order) = candidates t := by
    rw [TypeEntry.exportsByName, TypeEntry.exportsByName] at hexports
    rw [candidates, candidates, TypeEntry.kind_reorder, hexports]
  have hbind (kind : SubjectKind) : bindFunction catalog (.ofTypes types') (t.reorder order) kind =
      bindFunction catalog (.ofTypes types) t kind :=
    bindFunction_congr (h.spelling? CTypes.runtimeHandle) rfl rfl
  rw [contribution, contribution, hcandidates]
  simp only [hbind]
  rfl

/-! ### All types -/

theorem sortedTypes_reorder (h : types.SameOutline types') :
    sortedTypes types' = (sortedTypes types).map (·.reorder types'.functionsOf) := by
  have hsort : (types.entries.map (·.reorder types'.functionsOf)).mergeSort
      (fun t u => pairLe (t.module, t.name) (u.module, u.name)) = sortedTypes types' := by
    refine mergeSort_eq_of_perm ?_ ?_ ?_ h.entries
    · exact fun _ _ _ => pairLe_trans _ _ _
    · exact fun _ _ => pairLe_total _ _
    · intro t ht u hu htu hut
      exact eq_of_name (h.entries.subset ht) (h.entries.subset hu)
        (congrArg Prod.snd (pairLe_antisymm htu hut))
  rw [← hsort, sortedTypes]
  refine (List.map_mergeSort ?_).symm
  exact fun _ _ _ _ => rfl

/-- The types contribute the same in the same order. -/
theorem contributions_congr (h : types.SameExports types') :
    contributions types' catalog = contributions types catalog := by
  rw [contributions, contributions, sortedTypes_reorder h.outline, List.map_map]
  refine List.map_congr_left fun t ht => ?_
  exact contribution_reorder h.outline (h.exports t (mem_sortedTypes.1 ht))

/-- The manifest and the errors depend on the exported functions of each type alone. -/
theorem build_congr (h : types.SameExports types') : build types' catalog = build types catalog := by
  rw [build, build, contributions_congr h]

/-- They do not depend on the order of registration. -/
theorem build_reorder (h : types.Reordered types')
    (hnames : ∀ t ∈ types.entries, (t.functions.map (·.name)).Nodup) :
    build types' catalog = build types catalog := build_congr (h.sameExports hnames)

end Manifest

end Bindery
