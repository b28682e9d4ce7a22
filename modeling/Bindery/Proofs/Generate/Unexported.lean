import Bindery.Header.Legacy
import Bindery.Proofs.Generate.Reordering
/-!
Functions that are not exported cannot be seen in anything that is generated. The manifest is made from
the exported functions of a type, a module has functions to give a body to only if it has exported
ones, and the legacy header goes through the exported functions in the order of their registration. So
two maps that differ in nothing but such functions give the same manifest, the same files and the same
legacy header, with the same errors, whatever the functions are called and wherever they stand.
-/

namespace Bindery

/-- Whether two entries differ at most in the functions that are not exported. -/
structure TypeEntry.SameExported (t u : TypeEntry) : Prop where
  exported : t.exportedFunctions = u.exportedFunctions
  others : u = { t with functions := u.functions }

namespace TypeMap

/-- Whether two maps have the same names, for entries that differ at most in the functions that are not
exported. -/
def SameExported (m n : TypeMap) : Prop :=
  ∀ name, Option.Rel TypeEntry.SameExported (m.get? name) (n.get? name)

variable {m n : TypeMap} {t : TypeEntry}

theorem SameExported.sameOutline (h : m.SameExported n) : m.SameOutline n :=
  .of_rel (fun _ _ hr => hr.others) h

/-- The entries of one map have the exported functions of the other's. -/
theorem SameExported.exportedFunctions (h : m.SameExported n) (ht : t ∈ m.entries) :
    (t.reorder n.functionsOf).exportedFunctions = t.exportedFunctions := by
  have hname := h t.name
  rw [h.sameOutline.get?, get?_name ht] at hname
  cases hname with
  | some hr => exact hr.exported.symm

theorem SameExported.sameExports (h : m.SameExported n) : m.SameExports n where
  outline := h.sameOutline
  exports := by
    intro t ht
    rw [TypeEntry.exportsByName, h.exportedFunctions ht, TypeEntry.exportsByName]

end TypeMap

/-! ### The legacy header -/

namespace LegacyHeader

variable {types types' : TypeMap}

theorem prototype_reorder (h : types.SameOutline types') (t : TypeEntry)
    (order : String → List FunctionEntry) :
    Legacy.prototype (Legacy.ctypes types') (t.reorder order) =
      Legacy.prototype (Legacy.ctypes types) t := by
  have hspelling : (Legacy.ctypes types').spelling? = (Legacy.ctypes types).spelling? :=
    h.spelling? "void*"
  have hname : (t.reorder order).name = t.name := rfl
  funext f
  rw [Legacy.prototype, Legacy.prototype, Manifest.returnSpelling_congr hspelling hname,
    Manifest.params, Manifest.params, Manifest.paramsFrom_congr hspelling hname]
  rfl

/-- The prototypes of exported functions, and the reasons why others have none, are the same. -/
theorem outcomes_congr (h : types.SameExported types') : outcomes types' = outcomes types := by
  rw [outcomes, outcomes, h.sameOutline.sorted, List.flatMap_map]
  congr 1
  refine List.flatMap_congr fun t ht => ?_
  rw [h.exportedFunctions (List.mem_mergeSort.1 ht), prototype_reorder h.sameOutline]

/-- What is declared of a type does not depend on its functions. -/
theorem ofTypes_congr (h : types.SameExported types') (fileName : String) :
    ofTypes fileName types' = ofTypes fileName types := by
  rw [ofTypes, ofTypes, outcomes_congr h, h.sameOutline.sorted, List.filterMap_map]
  rfl

theorem errors_congr (h : types.SameExported types') : errors types' = errors types := by
  rw [errors, errors, outcomes_congr h, h.sameOutline.sorted, List.flatMap_map]
  rfl

end LegacyHeader

namespace CApi

/-- Functions that are not exported are invisible: whatever they are, and however many, the manifest,
the generated files and the legacy header are the same, with the same errors. -/
theorem unexported_invisible (g : CApi) (types types' snapshot snapshot' : TypeMap)
    (htypes : types.SameExported types') (hsnapshot : snapshot.SameExported snapshot')
    (hemitters : ReadsBinding g.emitters) :
    Manifest.build types' g.catalog = Manifest.build types g.catalog ∧
      (∀ files, g.generate types' snapshot' files = g.generate types snapshot files) ∧
      ∀ fileName, LegacyHeader.ofTypes fileName types' = LegacyHeader.ofTypes fileName types ∧
        LegacyHeader.errors types' = LegacyHeader.errors types := by
  refine ⟨Manifest.build_congr htypes.sameExports, fun files => ?_, fun fileName => ?_⟩
  · have hplan : g.plan types' snapshot' = g.plan types snapshot := by
      rw [plan, plan]
      cases g.dirs? with
      | none => rfl
      | some dirs =>
        exact congrArg _ (planIn_congr htypes.sameExports hsnapshot.sameOutline hemitters)
    rw [generate, generate, hplan]
  · exact ⟨LegacyHeader.ofTypes_congr htypes fileName, LegacyHeader.errors_congr htypes⟩

/-- A canvas that is drawn on, and a point whose kind needs an emitter. -/
def canvas : TypeMap where
  entries := [
    { name := "Canvas", kind := .object,
      functions := [{ name := "draw", paramTypes := [.struct "Point"], callable? := some .host }] },
    { name := "Point", kind := .struct, subjectKind? := some "Custom",
      functions := [{ name := "norm", callable? := some .host }] }]
  nodup := by decide

/-- The same types in another order, with functions that are not exported: one that takes a type
without a C type, one that shares a symbol, and one that shares a name. -/
def canvasInside : TypeMap where
  entries := [
    { name := "Point", kind := .struct, subjectKind? := some "Custom",
      functions := [
        { name := "norm", exported := false, symbol? := some "Point_fast_norm" },
        { name := "norm", callable? := some .host }] },
    { name := "Canvas", kind := .object,
      functions := [
        { name := "trace", exported := false, paramTypes := [.struct "Pen"] },
        { name := "draw", paramTypes := [.struct "Point"], callable? := some .host },
        { name := "paint", exported := false, symbol? := some "Canvas_draw",
          callable? := some .host }] }]
  nodup := by decide

theorem sameExported_canvas : canvas.SameExported canvasInside := by
  intro name
  by_cases hcanvas : "Canvas" = name
  · subst hcanvas
    exact .some ⟨rfl, rfl⟩
  · by_cases hpoint : "Point" = name
    · subst hpoint
      exact .some ⟨rfl, rfl⟩
    · simp [TypeMap.get?, canvas, canvasInside, hcanvas, hpoint]

/-- The generator of the builtin kinds, with an emitter that writes an empty body. -/
def stubbing : CApi where
  dirs? := some ⟨.ofText "include", .ofText "src"⟩
  emitters := [("Custom", fun c => some (c.binding.signature ++ " \x7b\x7d\n"))]

theorem unexported_invisible_canvas :
    (canvas.SameExported canvasInside ∧ ReadsBinding stubbing.emitters ∧
      canvas.functionsOf "Canvas" ≠ canvasInside.functionsOf "Canvas") ∧
    Manifest.build canvasInside stubbing.catalog = Manifest.build canvas stubbing.catalog ∧
    (∀ files, stubbing.generate canvasInside canvasInside files =
      stubbing.generate canvas canvas files) ∧
    LegacyHeader.errors canvasInside = LegacyHeader.errors canvas := by
  have hemitters : ReadsBinding stubbing.emitters :=
    List.forall_mem_singleton.2 fun _ _ hbinding =>
      congrArg (fun b : FunctionBinding => some (b.signature ++ " \x7b\x7d\n")) hbinding
  obtain ⟨hmanifest, hfiles, hlegacy⟩ := unexported_invisible stubbing canvas canvasInside canvas
    canvasInside sameExported_canvas sameExported_canvas hemitters
  exact ⟨⟨sameExported_canvas, hemitters, by decide⟩, hmanifest, hfiles, (hlegacy "canvas.h").2⟩

end CApi

end Bindery
