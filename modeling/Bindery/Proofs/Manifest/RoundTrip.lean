import Bindery.Manifest.Json
import Bindery.Proofs.Json.Vocabulary
/-!
A manifest is read back from its JSON text, whatever the indentation and whatever its texts hold, if
each of its semantic types has a label. Those of a manifest that was built from parsed labels have one.
-/

namespace Bindery

open Json (standsFor_string standsFor_bool standsFor_items standsFor_orNull standsFor_record)

theorem CParam.standsFor_toJson {p : CParam} (h : p.type.HasLabel) :
    p.toJson.StandsFor CParam.ofJson? p :=
  standsFor_record (by decide) <|
    .cons (.required (standsFor_string p.name)) <|
    .cons (.required (standsFor_string p.cType)) <|
    .cons (.required (SemanticType.standsFor_toJson h)) .nil

theorem TypeBinding.standsFor_toJson (t : TypeBinding) :
    t.toJson.StandsFor TypeBinding.ofJson? t :=
  standsFor_record (by decide) <|
    .cons (.required (standsFor_string t.name)) <|
    .cons (.required (standsFor_string t.nativeType)) <|
    .cons (.required t.kind.standsFor_toJson) <|
    .cons (.required (standsFor_string t.module)) <|
    .cons (.required (standsFor_string t.subjectKind)) <|
    .cons (.required t.family.standsFor_toJson) <|
    .cons (.required (standsFor_bool t.usesHandle)) <|
    .cons (.required (standsFor_bool t.ownsMethodTable)) <|
    .cons (.required (standsFor_bool t.hasFunctions)) <|
    .cons (.required (standsFor_items fun s _ => standsFor_string s)) .nil

namespace FunctionBinding

/-- The semantic types that a function refers to. -/
def semanticTypes (f : FunctionBinding) : List SemanticType := f.returnType :: f.params.map (·.type)

theorem standsFor_toJson {f : FunctionBinding} (h : ∀ t ∈ f.semanticTypes, t.HasLabel) :
    f.toJson.StandsFor FunctionBinding.ofJson? f := by
  obtain ⟨hreturn, hparams⟩ := List.forall_mem_cons.1 h
  have hparam (p : CParam) (hp : p ∈ f.params) : p.toJson.StandsFor CParam.ofJson? p :=
    CParam.standsFor_toJson (hparams p.type (List.mem_map_of_mem hp))
  exact standsFor_record (by decide) <|
    .cons (.required (standsFor_string f.name)) <|
    .cons (.required (standsFor_string f.symbol)) <|
    .cons (.required (standsFor_string f.signature)) <|
    .cons (.required (standsFor_bool f.isStated)) <|
    .cons (.required (standsFor_string f.owner)) <|
    .cons (.required (standsFor_string f.module)) <|
    .cons (.required (standsFor_string f.subjectKind)) <|
    .cons (.required f.family.standsFor_toJson) <|
    .cons (.required (standsFor_bool f.isStatic)) <|
    .cons (.orElse (standsFor_orNull f.handleParam?)) <|
    .cons (.required (standsFor_items hparam)) <|
    .cons (.required (SemanticType.standsFor_toJson hreturn)) <|
    .cons (.required (standsFor_string f.returnCType)) <|
    .cons (.required (standsFor_string f.doc)) .nil

end FunctionBinding

namespace Manifest

/-- The semantic types that the functions of a manifest refer to. -/
def semanticTypes (m : Manifest) : List SemanticType := m.functions.flatMap (·.semanticTypes)

theorem standsFor_toJson {m : Manifest} (h : ∀ t ∈ m.semanticTypes, t.HasLabel) :
    m.toJson.StandsFor Manifest.ofJson? m := by
  have hfunction (f : FunctionBinding) (hf : f ∈ m.functions) :
      f.toJson.StandsFor FunctionBinding.ofJson? f :=
    FunctionBinding.standsFor_toJson fun t ht => h t (List.mem_flatMap.2 ⟨f, hf, ht⟩)
  exact standsFor_record (by decide) <|
    .cons (.required (standsFor_items fun k _ => SubjectKind.standsFor_toJson k)) <|
    .cons (.required (standsFor_items fun t _ => TypeBinding.standsFor_toJson t)) <|
    .cons (.required (standsFor_items hfunction)) .nil

/-- Every manifest whose semantic types have labels is read back from its text as it was, for every
indentation. Semantic types that were read from labels are such. -/
theorem round_trip :
    (∀ (m : Manifest) (indent : Nat), (∀ t ∈ m.semanticTypes, t.HasLabel) →
      Manifest.read? (m.render indent) = some m) ∧
    ∀ text t, SemanticType.parse? text = some t → t.HasLabel := by
  refine ⟨fun m indent h => ?_, fun text t => SemanticType.hasLabel_of_parse?⟩
  have hm := standsFor_toJson h
  rw [read?, render, Json.read?_render hm.spelled, Option.bind_some]
  exact hm.read_eq

/-- A manifest of one function without a handle, with line breaks and quotes in its text. -/
def noted : Manifest where
  functions := [
    { name := "paint", symbol := "Widget_paint", signature := "void Widget_paint(int32_t mode)",
      isStated := false, owner := "Widget", module := "widget", subjectKind := "Singleton",
      family := .singleton, isStatic := true, handleParam? := none,
      params := [{ name := "mode", cType := "int32_t", type := .enum "Mode" }],
      returnType := .void, returnCType := "void", doc := "Paints \"it\" – twice.\n\tSee \\." }]

theorem round_trip_noted :
    (∀ t ∈ noted.semanticTypes, t.HasLabel) ∧
      ∀ indent, Manifest.read? (noted.render indent) = some noted := by
  have hlabels : ∀ t ∈ noted.semanticTypes, t.HasLabel := by decide
  exact ⟨hlabels, fun indent => round_trip.1 noted indent hlabels⟩

end Manifest

end Bindery
