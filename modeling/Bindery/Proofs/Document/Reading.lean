import Bindery.Document
import Bindery.Proofs.Json.Vocabulary
/-!
A metadata document is read back from its text with the same metadata, if each of its semantic types
has a label. Fields that were left out because they are empty or absent are read as empty or absent.
What is attached to members is not written, so a document is read back as the document without it.
-/

namespace Bindery

open Json (standsFor_string standsFor_bool standsFor_int64 standsFor_list standsFor_items
  standsFor_record)

theorem Enumerator.standsFor_toJson (e : Enumerator) : e.toJson.StandsFor Enumerator.ofJson? e :=
  standsFor_record (by decide) <|
    .cons (.required (standsFor_string e.name)) <|
    .cons (.required (standsFor_int64 e.value)) .nil

namespace PropertyEntry

/-- A property is read as the property without what is attached to it. -/
theorem standsFor_toJson {p : PropertyEntry} (h : p.type.HasLabel) :
    p.toJson.StandsFor PropertyEntry.ofJson? p.erase :=
  standsFor_record (by decide) <|
    .cons (.required (standsFor_string p.name)) <|
    .cons (.required (SemanticType.standsFor_toJson h)) <|
    .cons (.orElse (standsFor_bool p.readOnly)) <|
    .cons (.textIfPresent p.defaultValue?) <|
    .cons (.textUnlessEmpty p.doc) .nil

end PropertyEntry

namespace FunctionEntry

/-- The semantic types that a function refers to. -/
def semanticTypes (f : FunctionEntry) : List SemanticType := f.returnType :: f.paramTypes

/-- A function is read as the function without what is attached to it. -/
theorem standsFor_toJson {f : FunctionEntry} (h : ∀ t ∈ f.semanticTypes, t.HasLabel) :
    f.toJson.StandsFor FunctionEntry.ofJson? f.erase := by
  obtain ⟨hreturn, hparams⟩ := List.forall_mem_cons.1 h
  have hparam (t : SemanticType) (ht : t ∈ f.paramTypes) : t.toJson.StandsFor SemanticType.ofJson? t :=
    SemanticType.standsFor_toJson (hparams t ht)
  exact standsFor_record (by decide) <|
    .cons (.required (standsFor_string f.name)) <|
    .cons (.textUnlessEmpty f.nativeSignature) <|
    .cons (.orElse (standsFor_items hparam)) <|
    .cons (.textsUnlessEmpty f.paramNames) <|
    .cons (.orElse (SemanticType.standsFor_toJson hreturn)) <|
    .cons (.textIfPresent f.symbol?) <|
    .cons (.textIfPresent f.prototype?) <|
    .cons (.textUnlessEmpty f.doc) <|
    .cons (.orElse (standsFor_bool f.isStatic)) <|
    .cons (.orElse (standsFor_bool f.exported)) <|
    .cons (.textIfPresent f.subjectKind?) .nil

end FunctionEntry

namespace TypeEntry

/-- The semantic types that a type refers to. -/
def semanticTypes (t : TypeEntry) : List SemanticType :=
  t.properties.map (·.type) ++ t.functions.flatMap (·.semanticTypes) ++ t.target?.toList

/-- A type is read as the type without what is attached to its members. -/
theorem standsFor_toJson {t : TypeEntry} (h : ∀ s ∈ t.semanticTypes, s.HasLabel) :
    t.toJson.StandsFor TypeEntry.ofJson? t.erase := by
  simp only [semanticTypes, List.forall_mem_append, List.mem_map, List.mem_flatMap,
    Option.mem_toList] at h
  obtain ⟨⟨hproperties, hfunctions⟩, htarget⟩ := h
  have hproperty (p : PropertyEntry) (hp : p ∈ t.properties) :
      p.toJson.StandsFor PropertyEntry.ofJson? p.erase :=
    PropertyEntry.standsFor_toJson (hproperties _ ⟨p, hp, rfl⟩)
  have hfunction (f : FunctionEntry) (hf : f ∈ t.functions) :
      f.toJson.StandsFor FunctionEntry.ofJson? f.erase :=
    FunctionEntry.standsFor_toJson fun s hs => hfunctions s ⟨f, hf, hs⟩
  exact standsFor_record (by decide) <|
    .cons (.required (standsFor_string t.name)) <|
    .cons (.textUnlessEmpty t.nativeType) <|
    .cons (.required t.kind.standsFor_toJson) <|
    .cons (.textUnlessEmpty t.fileStem) <|
    .cons (.textIfPresent t.subjectKind?) <|
    .cons (.textsUnlessEmpty t.baseTypes) <|
    .cons (.listUnlessEmpty hproperty) <|
    .cons (.listUnlessEmpty hfunction) <|
    .cons (.itemsUnlessEmpty fun e _ => Enumerator.standsFor_toJson e) <|
    .cons (.ifPresent (fun s hs => SemanticType.standsFor_toJson (htarget s hs))
      (by simp [SemanticType.toJson])) <|
    .cons (.textUnlessEmpty t.doc) <|
    .cons (.textIfPresent t.moduleBrief?) <|
    .cons (.orElse (standsFor_bool t.briefIsExplicit)) .nil

end TypeEntry

namespace Document

/-- The semantic types that the types of a document refer to. -/
def semanticTypes (d : Document) : List SemanticType := d.types.flatMap (·.semanticTypes)

theorem standsFor_toJson {d : Document} (h : ∀ s ∈ d.semanticTypes, s.HasLabel) :
    d.toJson.StandsFor Document.ofJson? d.erase := by
  have htype (t : TypeEntry) (ht : t ∈ d.types) : t.toJson.StandsFor TypeEntry.ofJson? t.erase :=
    TypeEntry.standsFor_toJson fun s hs => h s (List.mem_flatMap.2 ⟨t, ht, hs⟩)
  exact standsFor_record (by decide) <|
    .cons (.itemsUnlessEmpty fun k _ => SubjectKind.standsFor_toJson k) <|
    .cons (.required (standsFor_list htype)) .nil

/-- A document is read from its text without what was attached to its members. -/
theorem read?_render {d : Document} (h : ∀ s ∈ d.semanticTypes, s.HasLabel) :
    Document.read? d.render = some d.erase := by
  have hd := standsFor_toJson h
  rw [read?, render, Json.read?_render hd.spelled, Option.bind_some]
  exact hd.read_eq

end Document

end Bindery
