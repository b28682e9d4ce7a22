import Bindery.Proofs.Json.Parsing
import Bindery.Proofs.Json.Vocabulary
import Bindery.Proofs.Text.Cuts
/-!
Texts that stand for semantic types. A text is read in two steps: the blanks around it go, and if it
then begins with `enum:` or `struct:` the blanks around the rest go too. What is left is a label or a
name, and no name makes a label look like another one, whatever it contains: the text before the first
colon says what it is. So a type that was read is read again from its label, also by way of JSON.
-/

namespace Bindery.SemanticType

variable {t u : SemanticType} {name text : String} {cs start rest : List Char}

/-- Whether a text stands for a semantic type. -/
inductive Spells (text : String) : SemanticType → Prop where
  | simple {t : SemanticType} (mem : t ∈ simple) (label : Text.trim text = t.label) : Spells text t
  | enum {rest : String} (label : Text.trim text = "enum:" ++ rest) (named : Text.trim rest ≠ "") :
    Spells text (.enum (Text.trim rest))
  | struct {rest : String} (label : Text.trim text = "struct:" ++ rest) (named : Text.trim rest ≠ "") :
    Spells text (.struct (Text.trim rest))

/-! ### Reading -/

theorem name?_toList (rest : String) :
    name? rest.toList = if Text.trim rest = "" then none else some (Text.trim rest) := by
  have hempty : (Text.trimChars rest.toList).isEmpty = true ↔ Text.trim rest = "" := by
    rw [List.isEmpty_iff, ← Text.toList_trim, String.toList_eq_nil_iff]
  rw [name?]
  split
  · rename_i h
    rw [if_pos (hempty.1 h)]
  · rename_i h
    rw [if_neg (mt hempty.2 h)]
    rfl

theorem afterStart?_eq_some : afterStart? start cs = some rest → cs = start ++ rest := by
  rw [afterStart?]
  split
  · rename_i hprefix
    rintro ⟨⟩
    exact (List.prefix_iff_eq_append.1 (List.isPrefixOf_iff_prefix.1 hprefix)).symm
  · rintro ⟨⟩

theorem parse?_of_enum {rest : String} (h : Text.trim text = "enum:" ++ rest) :
    parse? text = if Text.trim rest = "" then none else some (.enum (Text.trim rest)) := by
  rw [parse?, ← Text.toList_trim, h, String.toList_append, ofLabel?, afterStart?_append]
  dsimp only
  rw [name?_toList]
  split <;> rfl

theorem parse?_of_struct {rest : String} (h : Text.trim text = "struct:" ++ rest) :
    parse? text = if Text.trim rest = "" then none else some (.struct (Text.trim rest)) := by
  rw [parse?, ← Text.toList_trim, h, String.toList_append, ofLabel?, afterStart?_struct,
    afterStart?_append]
  dsimp only
  rw [name?_toList]
  split <;> rfl

/-- A text that begins neither like an enum nor like a struct is looked up among the labels. -/
theorem parse?_of_simple (henum : ∀ rest, Text.trim text ≠ "enum:" ++ rest)
    (hstruct : ∀ rest, Text.trim text ≠ "struct:" ++ rest) :
    parse? text = simple.find? fun t => t.label = Text.trim text := by
  have hnone {start : String} (h : ∀ rest, Text.trim text ≠ start ++ rest) :
      afterStart? start.toList (Text.trim text).toList = none := by
    cases hafter : afterStart? start.toList (Text.trim text).toList with
    | none => rfl
    | some rest =>
      refine absurd ?_ (h (String.ofList rest))
      rw [← String.toList_inj, String.toList_append, String.toList_ofList]
      exact afterStart?_eq_some hafter
  rw [parse?, ← Text.toList_trim, ofLabel?, hnone henum, hnone hstruct]
  simp only [String.toList_inj]

/-- What is read of a text is what it stands for. -/
theorem parse?_eq_some : parse? text = some t ↔ Spells text t := by
  constructor
  · intro h
    by_cases henum : ∃ rest, Text.trim text = "enum:" ++ rest
    · obtain ⟨rest, hlabel⟩ := henum
      rw [parse?_of_enum hlabel] at h
      split at h
      · cases h
      · rename_i hnamed
        cases h
        exact .enum hlabel hnamed
    · by_cases hstruct : ∃ rest, Text.trim text = "struct:" ++ rest
      · obtain ⟨rest, hlabel⟩ := hstruct
        rw [parse?_of_struct hlabel] at h
        split at h
        · cases h
        · rename_i hnamed
          cases h
          exact .struct hlabel hnamed
      · rw [parse?_of_simple (not_exists.1 henum) (not_exists.1 hstruct)] at h
        have hlabel := List.find?_some h
        exact .simple (List.mem_of_find?_eq_some h) (of_decide_eq_true hlabel).symm
  · rintro (⟨hmem, hlabel⟩ | ⟨hlabel, hnamed⟩ | ⟨hlabel, hnamed⟩)
    · rw [parse?, ← Text.toList_trim, hlabel]
      exact ofLabel?_simple t hmem
    · rw [parse?_of_enum hlabel, if_neg hnamed]
    · rw [parse?_of_struct hlabel, if_neg hnamed]

theorem parse_eq_ok : parse text = .ok t ↔ parse? text = some t := by
  rw [parse]
  split <;> simp_all

/-- Something is left of a text when the blanks at its ends go, unless it has nothing else. -/
theorem trim_ne_empty {s : String} : Text.trim s ≠ "" ↔ ∃ c ∈ s.toList, Text.isBlank c = false := by
  rw [Ne, ← String.toList_eq_nil_iff, Text.toList_trim, Text.trimChars_eq_nil_iff]
  simp

/-- Which texts stand for a semantic type. -/
theorem exists_spells : (∃ t, Spells text t) ↔
    (∃ t ∈ simple, Text.trim text = t.label) ∨
      ∃ rest : String, (Text.trim text = "enum:" ++ rest ∨ Text.trim text = "struct:" ++ rest) ∧
        ∃ c ∈ rest.toList, Text.isBlank c = false := by
  constructor
  · rintro ⟨t, ⟨hmem, hlabel⟩ | ⟨hlabel, hnamed⟩ | ⟨hlabel, hnamed⟩⟩
    · exact .inl ⟨t, hmem, hlabel⟩
    · exact .inr ⟨_, .inl hlabel, trim_ne_empty.1 hnamed⟩
    · exact .inr ⟨_, .inr hlabel, trim_ne_empty.1 hnamed⟩
  · rintro (⟨t, hmem, hlabel⟩ | ⟨rest, hlabel | hlabel, hnamed⟩)
    · exact ⟨t, .simple hmem hlabel⟩
    · exact ⟨_, .enum hlabel (trim_ne_empty.2 hnamed)⟩
    · exact ⟨_, .struct hlabel (trim_ne_empty.2 hnamed)⟩

/-! ### Labels -/

/-- A type is read from its label if and only if it has a label that can be read. -/
theorem parse?_label_iff : parse? t.label = some t ↔ t.HasLabel := ⟨hasLabel_of_parse?, parse?_label⟩

theorem hasLabel_iff : t.HasLabel ↔
    t ∈ simple ∨ ∃ name, t.referencedType? = some name ∧ name ≠ "" ∧ Text.trim name = name := by
  have hreferring {name : String} (ht : t.referencedType? = some name) (hnot : t ∉ simple) :
      t.HasLabel ↔
        t ∈ simple ∨ ∃ name, t.referencedType? = some name ∧ name ≠ "" ∧ Text.trim name = name := by
    rw [or_iff_right hnot, HasLabel, ht]
    simp only [Option.mem_def, Option.some.injEq, forall_eq', exists_eq_left']
    exact ⟨fun h => ⟨h.ne_empty, h.isTrimmed⟩, fun h => ⟨h.1, h.2⟩⟩
  cases t with
  | enum name => exact hreferring rfl (by simp [simple])
  | struct name => exact hreferring rfl (by simp [simple])
  | _ => exact iff_of_true (fun _ h => by cases h) (.inl (by decide))

theorem label_inj (ht : t.HasLabel) (hu : u.HasLabel) (h : t.label = u.label) : t = u := by
  have hread := parse?_label ht
  rw [h, parse?_label hu] at hread
  exact (Option.some.inj hread).symm

/-- What diagnostics print of a type is its label. -/
theorem toString_eq_label (t : SemanticType) : toString t = t.label := by
  cases t <;> rfl

/-- A type is read from its label in JSON, in whatever layout the text was written. -/
theorem ofJson?_render (h : t.HasLabel) (layout : Json.Layout) :
    (Json.read? (t.toJson.render layout)).bind ofJson? = some t := by
  rw [Json.read?_render (standsFor_toJson h).spelled, Option.bind_some]
  exact (standsFor_toJson h).read_eq

/-- A type that is read from a text is read from its label again, and from its label in JSON. The types
that are read from their labels are those without a name, and those whose name is not empty and has no
blank at either end; they have different labels. -/
theorem labels_round_trip :
    (∀ text t, parse text = .ok t →
      parse t.label = .ok t ∧ ∀ layout, (Json.read? (t.toJson.render layout)).bind ofJson? = some t) ∧
    (∀ t, parse t.label = .ok t ↔
      t ∈ simple ∨ ∃ name, t.referencedType? = some name ∧ name ≠ "" ∧ Text.trim name = name) ∧
    (∀ t u : SemanticType, t.HasLabel → u.HasLabel → t.label = u.label → t = u) ∧
    (∀ t : SemanticType, toString t = t.label) ∧
    ∀ text, (∃ t, parse text = .ok t) ↔
      (∃ t ∈ simple, Text.trim text = t.label) ∨
        ∃ rest : String, (Text.trim text = "enum:" ++ rest ∨ Text.trim text = "struct:" ++ rest) ∧
          ∃ c ∈ rest.toList, Text.isBlank c = false := by
  refine ⟨fun text t h => ?_, fun t => ?_, fun _ _ => label_inj, toString_eq_label, fun text => ?_⟩
  · have hlabel : t.HasLabel := hasLabel_of_parse? (parse_eq_ok.1 h)
    exact ⟨parse_eq_ok.2 (parse?_label hlabel), ofJson?_render hlabel⟩
  · rw [parse_eq_ok, parse?_label_iff, hasLabel_iff]
  · simp only [parse_eq_ok, parse?_eq_some]
    exact exists_spells

/-- The name of an enum may look like the label of a struct. -/
theorem labels_round_trip_nested :
    parse " enum: struct:Rect\t" = .ok (.enum "struct:Rect") ∧
      parse (SemanticType.enum "struct:Rect").label = .ok (.enum "struct:Rect") := by
  have h : parse " enum: struct:Rect\t" = .ok (.enum "struct:Rect") := by decide
  exact ⟨h, (labels_round_trip.1 _ _ h).1⟩

end Bindery.SemanticType
