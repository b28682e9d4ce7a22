import Bindery.Generate.CApi
/-!
Looking up subject kinds after declarations. Placing a kind changes the look-up of its own name alone,
and a refused declaration changes nothing. So after any sequence of declarations a builtin name stands
for its builtin kind, and every other name for the kind that was declared last under it.
-/

namespace Bindery

namespace Catalog

variable {k : SubjectKind} {c : Catalog} {name : String}

/-- Placing a kind changes the look-up of its own name alone. -/
theorem find?_place (k : SubjectKind) (name : String) : ∀ ls : List SubjectKind,
    (place k ls).find? (fun l => l.name = name) =
      if k.name = name then some k else ls.find? fun l => l.name = name
  | [] => by by_cases h : k.name = name <;> simp [place, h]
  | l :: ls => by
    rw [place]
    split
    · by_cases h : k.name = name <;> simp [List.find?_cons, h]
    · split
      · rename_i hlt
        -- A kind that stands in front of `k` has another name, so it is not found in place of `k`.
        by_cases hl : l.name = name
        · have hk : k.name ≠ name := by
            rintro rfl
            exact String.lt_irrefl k.name (hl ▸ hlt)
          simp [hl, hk]
        · simp [hl, find?_place k name ls]
      · rename_i h1 h2
        have e : k.name = l.name := String.le_antisymm (String.not_lt.1 h2) (String.not_lt.1 h1)
        by_cases h : k.name = name
        · simp [h]
        · simp [h, e ▸ h]

/-- A builtin name stands for its builtin kind. -/
theorem get?_builtin_of_mem (h : k ∈ builtinKinds) : builtin.get? k.name = some k := by
  have hall : ∀ k ∈ builtinKinds, builtin.get? k.name = some k := by decide
  exact hall k h

/-- Among the builtin kinds there is none of any other name. -/
theorem get?_builtin_of_not (h : isBuiltin name = false) : builtin.get? name = none := by
  rw [isBuiltin, List.any_eq_false] at h
  exact List.find?_eq_none.2 h

theorem isBuiltin_of_mem (h : k ∈ builtinKinds) : isBuiltin k.name = true :=
  List.any_eq_true.2 ⟨k, h, by simp⟩

end Catalog

namespace CApi

variable {g : CApi} {k : SubjectKind} {name : String}

/-- A generator after a declaration. One that is refused leaves it as it is. -/
def afterDeclaration (g : CApi) (k : SubjectKind) : CApi := (g.declareKind k).toOption.getD g

/-- A generator after declarations, each of them accepted or refused. -/
def afterDeclarations (g : CApi) (ks : List SubjectKind) : CApi := ks.foldl afterDeclaration g

/-- A declaration is refused if and only if its name is builtin. -/
theorem declareKind_eq_error {e : CatalogError} :
    g.declareKind k = .error e ↔ Catalog.isBuiltin k.name = true ∧ e = .builtinRedeclared k.name := by
  rw [declareKind, Catalog.declare]
  split
  · rename_i h
    simp [Except.map, h, eq_comm]
  · rename_i h
    simp [Except.map, h]

/-- A declaration changes the look-up of its own name alone, and of a builtin name not at all. -/
theorem get?_afterDeclaration (g : CApi) (k : SubjectKind) (name : String) :
    (g.afterDeclaration k).catalog.get? name =
      if k.name = name ∧ Catalog.isBuiltin name = false then some k else g.catalog.get? name := by
  rw [afterDeclaration, declareKind, Catalog.declare]
  split
  · rename_i hbuiltin
    have hkept : ¬(k.name = name ∧ Catalog.isBuiltin name = false) := by
      rintro ⟨rfl, hnot⟩
      rw [hbuiltin] at hnot
      cases hnot
    rw [if_neg hkept]
    rfl
  · rename_i hbuiltin
    have hplaced : (k.name = name ∧ Catalog.isBuiltin name = false) ↔ k.name = name :=
      and_iff_left_of_imp fun h => by rw [← h]; simpa using hbuiltin
    simp only [hplaced]
    exact Catalog.find?_place k name g.catalog.kinds

/-- After declarations the last one of a name counts, unless the name is builtin. -/
theorem get?_afterDeclarations (name : String) : ∀ (ks : List SubjectKind) (g : CApi),
    (g.afterDeclarations ks).catalog.get? name =
      if Catalog.isBuiltin name then g.catalog.get? name
      else (ks.reverse.find? fun k => k.name = name).or (g.catalog.get? name)
  | [], g => by simp [afterDeclarations]
  | k :: ks, g => by
    have hrest : (g.afterDeclarations (k :: ks)).catalog.get? name =
        ((g.afterDeclaration k).afterDeclarations ks).catalog.get? name := rfl
    rw [hrest, get?_afterDeclarations name ks, get?_afterDeclaration, List.reverse_cons,
      List.find?_append, Option.or_assoc]
    cases hbuiltin : Catalog.isBuiltin name with
    | true => simp
    | false => by_cases h : k.name = name <;> simp [h]

end CApi

end Bindery
