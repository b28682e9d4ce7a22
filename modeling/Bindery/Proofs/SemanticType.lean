import Bindery.SemanticType
import Bindery.Proofs.Text
/-!
Labels of semantic types. A label is read back as the type that it labels exactly when the name in the
type, if there is one, is not empty and has no blank at either end; and only such types are read.
-/

namespace Bindery.SemanticType

variable {t : SemanticType} {name text : String} {cs : List Char}

/-- Whether a label can state a name: it is not empty, and no blank stands at either end. -/
structure IsLabelName (name : String) : Prop where
  ne_empty : name ≠ ""
  isTrimmed : Text.trim name = name

instance (name : String) : Decidable (IsLabelName name) :=
  decidable_of_iff (name ≠ "" ∧ Text.trim name = name) ⟨fun h => ⟨h.1, h.2⟩, fun h => ⟨h.1, h.2⟩⟩

/-- Whether a semantic type has a label that can be read: a label can state the name in it. -/
def HasLabel (t : SemanticType) : Prop := ∀ name ∈ t.referencedType?, IsLabelName name

instance (t : SemanticType) : Decidable t.HasLabel :=
  inferInstanceAs (Decidable (∀ name ∈ t.referencedType?, IsLabelName name))

@[simp] theorem hasLabel_enum : (SemanticType.enum name).HasLabel ↔ IsLabelName name := by
  simp [HasLabel, referencedType?]

@[simp] theorem hasLabel_struct : (SemanticType.struct name).HasLabel ↔ IsLabelName name := by
  simp [HasLabel, referencedType?]

/-! ### Names -/

theorem IsLabelName.name? (h : IsLabelName name) : name? name.toList = some name := by
  have htrim : Text.trimChars name.toList = name.toList :=
    Text.trimChars_eq_self_iff.2 (Text.trim_eq_self_iff.1 h.isTrimmed)
  have hne : name.toList.isEmpty = false := by
    simpa [List.isEmpty_iff] using h.ne_empty
  rw [SemanticType.name?]
  simp [htrim, hne]

theorem isLabelName_of_name? (h : name? cs = some name) : IsLabelName name := by
  rw [name?] at h
  split at h
  · cases h
  · rename_i hne
    obtain rfl : String.ofList (Text.trimChars cs) = name := by simpa using h
    refine ⟨by simpa [List.isEmpty_iff] using hne, Text.trim_eq_self_iff.2 ?_⟩
    rw [String.toList_ofList]
    exact Text.isTrimmed_trimChars cs

/-! ### Labels -/

theorem afterStart?_append (start cs : List Char) : afterStart? start (start ++ cs) = some cs := by
  simp [afterStart?]

/-- A label of a struct does not begin like one of an enum. -/
theorem afterStart?_struct (cs : List Char) :
    afterStart? "enum:".toList ("struct:".toList ++ cs) = none := by
  simp [afterStart?]

/-- No label of a type without a name begins like one of a type with a name. -/
theorem ofLabel?_simple : ∀ t ∈ simple, ofLabel? t.label.toList = some t := by decide

theorem ofLabel?_enum (h : IsLabelName name) :
    ofLabel? (SemanticType.enum name).label.toList = some (.enum name) := by
  rw [label, String.toList_append, ofLabel?, afterStart?_append]
  simp [h.name?]

theorem ofLabel?_struct (h : IsLabelName name) :
    ofLabel? (SemanticType.struct name).label.toList = some (.struct name) := by
  rw [label, String.toList_append, ofLabel?, afterStart?_struct, afterStart?_append]
  simp [h.name?]

/-- A label without blanks around it is read as the type that it labels. -/
theorem ofLabel?_label (h : t.HasLabel) : ofLabel? t.label.toList = some t := by
  cases t with
  | enum name => exact ofLabel?_enum (hasLabel_enum.1 h)
  | struct name => exact ofLabel?_struct (hasLabel_struct.1 h)
  | _ => exact ofLabel?_simple _ (by decide)

theorem isTrimmed_label_simple : ∀ t ∈ simple, Text.trim t.label = t.label := by decide

theorem isTrimmed_label (h : t.HasLabel) : Text.IsTrimmed t.label.toList := by
  have happend {start : List Char} {name : String} (hname : IsLabelName name)
      (hstart : (start.head?.all fun c => !Text.isBlank c) = true) (hne : start ≠ []) :
      Text.IsTrimmed (start ++ name.toList) :=
    (Text.trim_eq_self_iff.1 hname.isTrimmed).append (by simpa using hname.ne_empty)
      (by simpa [Option.all_eq_true] using hstart) hne
  cases t with
  | enum name =>
    rw [label, String.toList_append]
    exact happend (hasLabel_enum.1 h) (by decide) (by decide)
  | struct name =>
    rw [label, String.toList_append]
    exact happend (hasLabel_struct.1 h) (by decide) (by decide)
  | _ => exact Text.trim_eq_self_iff.1 (isTrimmed_label_simple _ (by decide))

/-- A type that has a label is read from it. -/
theorem parse?_label (h : t.HasLabel) : parse? t.label = some t := by
  rw [parse?, Text.trimChars_eq_self_iff.2 (isTrimmed_label h)]
  exact ofLabel?_label h

/-- Every type that is read from a text has a label. -/
theorem hasLabel_of_parse? (h : parse? text = some t) : t.HasLabel := by
  rw [parse?, ofLabel?] at h
  split at h
  · obtain ⟨name, hname, rfl⟩ := Option.map_eq_some_iff.1 h
    exact hasLabel_enum.2 (isLabelName_of_name? hname)
  · split at h
    · obtain ⟨name, hname, rfl⟩ := Option.map_eq_some_iff.1 h
      exact hasLabel_struct.2 (isLabelName_of_name? hname)
    · have hsimple : ∀ t ∈ simple, t.HasLabel := by decide
      exact hsimple t (List.mem_of_find?_eq_some h)

end Bindery.SemanticType
