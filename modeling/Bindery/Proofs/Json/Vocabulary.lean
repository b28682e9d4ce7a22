import Bindery.Entry.TypeEntry
import Bindery.SubjectKind
import Bindery.Proofs.Json.Record
import Bindery.Proofs.SemanticType
/-!
What manifests and metadata documents have in common: semantic types, kinds, dispatch families and
subject kinds are read from JSON as what they were written from.
-/

namespace Bindery

open Json (standsFor_string standsFor_bool standsFor_name standsFor_record)

theorem SemanticType.standsFor_toJson {t : SemanticType} (h : t.HasLabel) :
    t.toJson.StandsFor SemanticType.ofJson? t :=
  ⟨.str t.label, parse?_label h⟩

theorem EntryKind.standsFor_toJson (k : EntryKind) : k.toJson.StandsFor EntryKind.ofJson? k := by
  cases k <;> exact standsFor_name (by decide)

theorem DispatchFamily.standsFor_toJson (f : DispatchFamily) :
    f.toJson.StandsFor DispatchFamily.ofJson? f := by
  cases f <;> exact standsFor_name (by decide)

theorem SubjectKind.standsFor_toJson (k : SubjectKind) :
    k.toJson.StandsFor SubjectKind.ofJson? k :=
  standsFor_record (by decide) <|
    .cons (.required (standsFor_string k.name)) <|
    .cons (.required k.family.standsFor_toJson) <|
    .cons (.required (standsFor_bool k.usesHandle)) <|
    .cons (.required (standsFor_bool k.ownsMethodTable)) .nil

end Bindery
