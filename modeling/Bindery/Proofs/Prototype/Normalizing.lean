import Bindery.Proofs.Prototype
import Bindery.Proofs.Text.Cuts
/-!
What normalizing takes away from a stated prototype. One run of semicolons is dropped at the end, with
the blanks around it, and what stands in front of them stays. So another run of semicolons in front of
those blanks stays at the end, and that is the only case in which the result is not normal: normalizing
again takes the other run away.
-/

namespace Bindery.Prototype

open Text (isBlank IsTrimmed CutsTail Trims)

variable {cs body gap semicolons : List Char} {text : String}

/-- Whether `body` is left of a text when the blanks around it, a run of semicolons at its end and the
blanks in front of them are taken away. -/
structure Normalizes (cs body gap semicolons : List Char) : Prop where
  trims : Trims cs (body ++ gap ++ semicolons)
  semicolons : CutsTail (· = ';') (body ++ gap ++ semicolons) (body ++ gap) semicolons
  gap : CutsTail isBlank (body ++ gap) body gap

theorem exists_normalizes_iff :
    (∃ gap semicolons, Normalizes cs body gap semicolons) ↔ normalizeChars cs = body := by
  constructor
  · rintro ⟨gap, semicolons, h⟩
    rw [normalizeChars, Text.trims_iff.1 h.trims, (Text.cutsTail_iff.1 h.semicolons).1, Text.trimBack,
      (Text.cutsTail_iff.1 h.gap).1]
  · rintro rfl
    have hgap : CutsTail isBlank (Text.dropTail (· = ';') (Text.trimChars cs)) _ _ :=
      Text.cutsTail_iff.2 ⟨rfl, rfl⟩
    have hsemicolons : CutsTail (· = ';') (Text.trimChars cs) _ _ := Text.cutsTail_iff.2 ⟨rfl, rfl⟩
    refine ⟨Text.takeTail isBlank (Text.dropTail (· = ';') (Text.trimChars cs)),
      Text.takeTail (· = ';') (Text.trimChars cs), ?_⟩
    rw [normalizeChars, Text.trimBack]
    constructor
    · rw [← hgap.whole, ← hsemicolons.whole]
      exact Text.trims_trimChars cs
    · rw [← hgap.whole, ← hsemicolons.whole]
      exact hsemicolons
    · rw [← hgap.whole]
      exact hgap

/-- Blanks are taken away in front, and blanks and semicolons at the end. -/
theorem normalizeChars_inside (cs : List Char) :
    ∃ front tail, cs = front ++ normalizeChars cs ++ tail ∧ (∀ c ∈ front, isBlank c = true) ∧
      ∀ c ∈ tail, isBlank c = true ∨ c = ';' := by
  obtain ⟨gap, semicolons, h⟩ := exists_normalizes_iff.2 (rfl : normalizeChars cs = _)
  obtain ⟨front, back, hwhole, hblank⟩ := h.trims.inside
  refine ⟨front, gap ++ semicolons ++ back, ?_, fun c hc => hblank c (List.mem_append_left _ hc), ?_⟩
  · simpa only [List.append_assoc] using hwhole
  · intro c hc
    rw [List.mem_append, List.mem_append] at hc
    rcases hc with (hc | hc) | hc
    · exact .inl (h.gap.all c hc)
    · exact .inr (of_decide_eq_true (h.semicolons.all c hc))
    · exact .inl (hblank c (List.mem_append_right _ hc))

/-- Whether a text ends, apart from blanks behind it, in semicolons in two places: a semicolon, blanks and
semicolons. -/
def ClosesTwice (cs : List Char) : Prop :=
  ∃ front gap semicolons back, cs = front ++ ';' :: (gap ++ (semicolons ++ back)) ∧
    (gap ≠ [] ∧ ∀ c ∈ gap, isBlank c = true) ∧ (semicolons ≠ [] ∧ ∀ c ∈ semicolons, c = ';') ∧
    ∀ c ∈ back, isBlank c = true

theorem isBlank_semicolon : isBlank ';' = false := rfl

theorem head?_trimFront_append {c : Char} (hc : isBlank c = false) (front back : List Char) :
    ∀ d ∈ (Text.trimFront front ++ c :: back).head?, isBlank d = false := by
  intro d hd
  rw [List.head?_append] at hd
  cases hhead : (Text.trimFront front).head? with
  | none =>
    rw [hhead] at hd
    cases hd
    exact hc
  | some e =>
    rw [hhead] at hd
    cases hd
    exact Text.head?_trimFront front d hhead

/-- The blanks between the semicolons keep the first of them out of reach. -/
theorem normalizeChars_of_closesTwice (h : ClosesTwice cs) : (normalizeChars cs).getLast? = some ';' := by
  obtain ⟨front, gap, semicolons, back, rfl, ⟨hgap, hgapBlank⟩, ⟨hsemicolons, hall⟩, hback⟩ := h
  suffices hnormalizes : Normalizes (front ++ ';' :: (gap ++ (semicolons ++ back)))
      (Text.trimFront front ++ [';']) gap semicolons by
    rw [exists_normalizes_iff.1 ⟨gap, semicolons, hnormalizes⟩, List.getLast?_concat]
  have hnotBlank : ∀ c ∈ semicolons, isBlank c = false := fun c hc => hall c hc ▸ isBlank_semicolon
  constructor
  case trims =>
    constructor
    · refine ⟨front.takeWhile isBlank, back, ?_, fun c hc => ?_⟩
      · have hfront : front.takeWhile isBlank ++ Text.trimFront front = front :=
          List.takeWhile_append_dropWhile
        conv_lhs => rw [← hfront]
        simp
      · exact (List.mem_append.1 hc).elim (List.all_eq_true.1 List.all_takeWhile c) (hback c)
    · have htrimmed : IsTrimmed semicolons :=
        ⟨fun c hc => hnotBlank c (List.mem_of_mem_head? hc),
          fun c hc => hnotBlank c (List.mem_of_mem_getLast? hc)⟩
      refine htrimmed.append hsemicolons ?_ (by simp)
      rw [List.append_assoc]
      exact head?_trimFront_append isBlank_semicolon front gap
  case semicolons =>
    refine ⟨rfl, fun c hc => decide_eq_true (hall c hc), fun c hc => decide_eq_false ?_⟩
    rw [List.getLast?_append_of_ne_nil _ hgap] at hc
    rintro rfl
    cases hgapBlank _ (List.mem_of_mem_getLast? hc)
  case gap =>
    refine ⟨rfl, hgapBlank, fun c hc => ?_⟩
    rw [List.getLast?_concat] at hc
    cases hc
    rfl

/-- A semicolon at the end of the result is one that blanks kept out of reach. -/
theorem closesTwice_of_getLast? (h : (normalizeChars cs).getLast? = some ';') : ClosesTwice cs := by
  obtain ⟨gap, semicolons, hnormalizes⟩ := exists_normalizes_iff.2 (rfl : normalizeChars cs = _)
  obtain ⟨body, hbody⟩ := List.getLast?_eq_some_iff.1 h
  rw [hbody] at hnormalizes
  obtain ⟨front, back, hwhole, hblank⟩ := hnormalizes.trims.inside
  have hgap : gap ≠ [] := by
    rintro rfl
    have hlast := hnormalizes.semicolons.longest ';' (by simp)
    simp at hlast
  have hsemicolons : semicolons ≠ [] := by
    rintro rfl
    have hlast := hnormalizes.trims.trimmed.back (gap.getLast hgap) (by
      rw [List.append_nil, List.getLast?_append_of_ne_nil _ hgap]
      exact List.getLast?_eq_some_getLast hgap)
    rw [hnormalizes.gap.all _ (List.getLast_mem hgap)] at hlast
    cases hlast
  refine ⟨front ++ body, gap, semicolons, back, ?_, ⟨hgap, hnormalizes.gap.all⟩,
    ⟨hsemicolons, fun c hc => of_decide_eq_true (hnormalizes.semicolons.all c hc)⟩,
    fun c hc => hblank c (List.mem_append_right _ hc)⟩
  simpa using hwhole

theorem getLast?_normalizeChars_iff : (normalizeChars cs).getLast? = some ';' ↔ ClosesTwice cs :=
  ⟨closesTwice_of_getLast?, normalizeChars_of_closesTwice⟩

/-- Normalizing again changes nothing exactly if there is no semicolon left at the end. -/
theorem normalizeChars_normalizeChars_iff :
    normalizeChars (normalizeChars cs) = normalizeChars cs ↔ ¬ ClosesTwice cs := by
  rw [← getLast?_normalizeChars_iff]
  constructor
  · intro hagain hlast
    -- What the second pass leaves ends in front of the semicolon.
    have hprefix : normalizeChars (normalizeChars cs) <+: Text.dropTail (· = ';') (normalizeChars cs) := by
      rw [normalizeChars, Text.trimChars_eq_self_iff.2 (isTrimmed_normalizeChars cs)]
      exact Text.dropTail_prefix isBlank _
    rw [hagain] at hprefix
    have hkept : Text.dropTail (· = ';') (normalizeChars cs) = normalizeChars cs :=
      (Text.dropTail_prefix _ _).eq_of_length_le hprefix.length_le
    exact of_decide_eq_false (Text.dropTail_eq_self_iff.1 hkept ';' hlast) rfl
  · intro hlast
    refine normalizeChars_eq_self (isTrimmed_normalizeChars cs) ?_
    rintro c hc rfl
    exact hlast hc

/-- What normalizing makes of a stated prototype. -/
structure Normalized (text : String) : Prop where
  trimmed : IsTrimmed (normalize text).toList
  inside : ∃ front tail, text.toList = front ++ (normalize text).toList ++ tail ∧
    (∀ c ∈ front, isBlank c = true) ∧ ∀ c ∈ tail, isBlank c = true ∨ c = ';'
  closed : (normalize text).toList.getLast? = some ';' ↔ ClosesTwice text.toList
  again : normalize (normalize text) = normalize text ↔ ¬ ClosesTwice text.toList
  /-- A prototype that is not made normal is not accepted either. -/
  refused : ClosesTwice text.toList → ∀ symbol names, parameters text symbol ≠ .ok names

theorem normalized (text : String) : Normalized text := by
  constructor
  case trimmed =>
    rw [toList_normalize]
    exact isTrimmed_normalizeChars _
  case inside =>
    rw [toList_normalize]
    exact normalizeChars_inside _
  case closed =>
    rw [toList_normalize]
    exact getLast?_normalizeChars_iff
  case again =>
    rw [← normalizeChars_normalizeChars_iff, ← String.toList_inj]
    simp only [toList_normalize]
  case refused =>
    intro hcloses symbol names haccepted
    rw [← getLast?_normalizeChars_iff, getLast?_of_parameters haccepted] at hcloses
    cases hcloses

example : normalize " void f(int32_t n) ;; " = "void f(int32_t n)" := by decide

end Bindery.Prototype
