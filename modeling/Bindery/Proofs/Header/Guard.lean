import Bindery.Header.ModuleHeader
import Bindery.Header.RuntimeHeader
import Bindery.Proofs.Text.Comment
import Mathlib
/-!
Include guards. A header opens with the guard that its file name gives, because the comments in front
of it end where they should: a module's name has no slash, and the line about the module none right
after a star. Guards do not tell all file names apart: letters are taken in upper case, and whatever
is neither a letter nor a digit becomes an underscore.
-/

namespace Bindery

namespace Header

open Text (KeepsOpen)

/-! ### Guards of file names -/

/-- Whether guards do not tell two characters apart: they are the same letter or digit, up to case, or
neither of them is one. -/
def Confused (c d : Char) : Prop :=
  (c.isAlphanum = true ∧ d.isAlphanum = true ∧ c.toUpper = d.toUpper) ∨
    (c.isAlphanum = false ∧ d.isAlphanum = false)

instance (c d : Char) : Decidable (Confused c d) := inferInstanceAs (Decidable (_ ∨ _))

/-- Whether two file names differ in such characters only. -/
def Alike (a b : String) : Prop := List.Forall₂ Confused a.toList b.toList

instance (a b : String) : Decidable (Alike a b) := inferInstanceAs (Decidable (List.Forall₂ _ _ _))

theorem guardChar_eq (c : Char) : guardChar c = if c.isAlphanum then c.toUpper else '_' := by
  by_cases hlower : c.isLower = true
  · have halnum : c.isAlphanum = true := by simp [Char.isAlphanum, Char.isAlpha, hlower]
    rw [if_pos halnum, Char.toUpper_eq_of_isLower hlower, guardChar]
    exact if_pos (by simpa [Char.isLower, Char.le_def] using hlower)
  · have hnot : ¬ ('a' ≤ c && c ≤ 'z') = true := by simpa [Char.isLower, Char.le_def] using hlower
    rw [guardChar, if_neg hnot, Char.toUpper_eq_of_not_isLower hlower]
    simp [Char.isAlphanum, Char.isAlpha, hlower, Char.isUpper, Char.isDigit, Char.le_def]

theorem isAlphanum_toUpper {c : Char} (h : c.isAlphanum = true) : c.toUpper.isAlphanum = true := by
  by_cases hlower : c.isLower = true
  · simp [Char.isAlphanum, Char.isAlpha, hlower]
  · rwa [Char.toUpper_eq_of_not_isLower hlower]

theorem guardChar_eq_iff {c d : Char} : guardChar c = guardChar d ↔ Confused c d := by
  have hunderscore {e : Char} (h : e.isAlphanum = true) : e.toUpper ≠ '_' := by
    intro e'
    have := isAlphanum_toUpper h
    rw [e'] at this
    cases this
  rw [guardChar_eq, guardChar_eq, Confused]
  cases hc : c.isAlphanum <;> cases hd : d.isAlphanum
  · simp
  · simpa using (hunderscore hd).symm
  · simpa using hunderscore hc
  · simp

/-- The guards of two file names are the same if and only if the names are alike. -/
theorem guard_eq_iff {a b : String} : guard a = guard b ↔ Alike a b := by
  rw [guard, guard, String.append_right_inj, String.ofList_inj, Alike, ← List.forall₂_eq_eq_eq,
    List.forall₂_map_left_iff, List.forall₂_map_right_iff]
  simp only [guardChar_eq_iff]

/-- Guards are made of letters, digits and underscores. -/
theorem mem_guard {file : String} {c : Char} (h : c ∈ (guard file).toList) :
    c.isAlphanum = true ∨ c = '_' := by
  rw [guard, String.toList_append, List.mem_append] at h
  rcases h with h | h
  · have hfixed : ("DOMBIND_".toList.all fun c => c.isAlphanum || c = '_') = true := by decide
    simpa using List.all_eq_true.1 hfixed c h
  · rw [String.toList_ofList] at h
    obtain ⟨d, -, rfl⟩ := List.mem_map.1 h
    rw [guardChar_eq]
    split
    · exact .inl (isAlphanum_toUpper ‹_›)
    · exact .inr rfl

theorem not_mem_guard {file : String} {c : Char} (h : c.isAlphanum = false) (hc : c ≠ '_') :
    c ∉ (guard file).toList := by
  intro hmem
  rcases mem_guard hmem with halnum | rfl
  · rw [halnum] at h
    cases h
  · exact hc rfl

/-! ### What a header opens with -/

/-- The macro with which a text opens: behind the comments in front it asks whether the macro is
defined, and defines it. -/
def openingGuard? (text : String) : Option String :=
  let cs := Text.trimFront (Text.uncommented false text.toList)
  let name := String.ofList ((cs.drop "#ifndef ".length).takeWhile (· ≠ '\n'))
  if (Text.ofLines ["#ifndef " ++ name, "#define " ++ name]).toList <+: cs then some name else none

theorem openingGuard?_eq {text name : String} (cs : List Char)
    (h : Text.trimFront (Text.uncommented false text.toList) =
      (Text.ofLines ["#ifndef " ++ name, "#define " ++ name]).toList ++ cs)
    (hname : '\n' ∉ name.toList) : openingGuard? text = some name := by
  have hall : ∀ c ∈ name.toList, decide (c ≠ '\n') = true := by
    intro c hc
    rw [decide_eq_true_iff]
    rintro rfl
    exact hname hc
  have hread : (((Text.ofLines ["#ifndef " ++ name, "#define " ++ name]).toList ++ cs).drop
      "#ifndef ".length).takeWhile (· ≠ '\n') = name.toList := by
    have hlines : (Text.ofLines ["#ifndef " ++ name, "#define " ++ name]).toList ++ cs =
        "#ifndef ".toList ++ (name.toList ++ '\n' :: (("#define " ++ name ++ "\n").toList ++ cs)) := by
      simp [Text.ofLines]
    rw [hlines, ← String.length_toList, List.drop_left, List.takeWhile_append_of_pos hall,
      List.takeWhile_cons_of_neg (by simp), List.append_nil]
  rw [openingGuard?, h, hread, String.ofList_toList, if_pos (List.prefix_append _ _)]

/-- In front of a header stand empty lines and comments. -/
def IsPreamble (l : String) : Prop := l = "" ∨ ∃ s, KeepsOpen s.toList ∧ l = Text.commentLine s

/-- Nothing but blanks is left of what stands in front. -/
theorem uncommented_preamble (cs : List Char) : ∀ {ls : List String}, (∀ l ∈ ls, IsPreamble l) →
    ∃ blanks, (∀ c ∈ blanks, Text.isBlank c = true) ∧
      Text.uncommented false ((Text.ofLines ls).toList ++ cs) = blanks ++ Text.uncommented false cs
  | [], _ => ⟨[], by simp, by simp [Text.ofLines]⟩
  | l :: ls, h => by
    obtain ⟨hl, hls⟩ := List.forall_mem_cons.1 h
    obtain ⟨blanks, hblanks, hrest⟩ := uncommented_preamble cs hls
    have hlines : (Text.ofLines (l :: ls)).toList ++ cs =
        l.toList ++ (['\n'] ++ ((Text.ofLines ls).toList ++ cs)) := by
      simp [Text.ofLines]
    have hbreak : Text.uncommented false (['\n'] ++ ((Text.ofLines ls).toList ++ cs)) =
        '\n' :: (blanks ++ Text.uncommented false cs) := by
      rw [Text.uncommented_plain (by decide), hrest]
      rfl
    rcases hl with rfl | ⟨s, hs, rfl⟩
    · refine ⟨'\n' :: blanks, List.forall_mem_cons.2 ⟨by decide, hblanks⟩, ?_⟩
      rw [hlines]
      exact hbreak
    · refine ⟨' ' :: '\n' :: blanks, ?_, ?_⟩
      · exact List.forall_mem_cons.2 ⟨by decide, List.forall_mem_cons.2 ⟨by decide, hblanks⟩⟩
      · rw [hlines, Text.uncommented_commentLine hs, hbreak]
        rfl

/-- Behind such lines a header opens with the guard of its file. -/
theorem openingGuard?_ofLines {above below : List String} {file : String}
    (h : ∀ l ∈ above, IsPreamble l) :
    openingGuard? (Text.ofLines (above ++ (openGuard file ++ below))) = some (guard file) := by
  have hslash : '/' ∉ (Text.ofLines (openGuard file)).toList := by
    have hguard : '/' ∉ (guard file).toList := not_mem_guard (by decide) (by decide)
    simp [Text.ofLines, openGuard, hguard]
  obtain ⟨blanks, hblanks, habove⟩ :=
    uncommented_preamble ((Text.ofLines (openGuard file)).toList ++ (Text.ofLines below).toList) h
  refine openingGuard?_eq (Text.uncommented false (Text.ofLines below).toList) ?_
    (not_mem_guard (by decide) (by decide))
  rw [Text.ofLines_append, Text.ofLines_append, String.toList_append, String.toList_append, habove,
    Text.uncommented_plain hslash, Text.trimFront, List.dropWhile_append_of_pos hblanks]
  have hfirst : (Text.ofLines (openGuard file)).toList =
      '#' :: (Text.ofLines (openGuard file)).toList.tail := by
    simp [Text.ofLines, openGuard]
  rw [hfirst, List.cons_append, List.dropWhile_cons_of_neg (by decide), ← List.cons_append, ← hfirst]
  rfl

theorem isPreamble_empty : IsPreamble "" := .inl rfl

theorem isPreamble_banner : IsPreamble banner :=
  .inr ⟨"Generated by dombind. Do not edit.", by decide, by decide⟩

/-- The runtime header opens with the guard of its file. -/
theorem openingGuard?_runtimeText (file : String) :
    openingGuard? (runtimeText file) = some (guard file) := by
  have habove : ∀ l ∈ [banner, ""], IsPreamble l := by
    simp [isPreamble_banner, isPreamble_empty]
  rw [runtimeText, runtimeLines]
  simp only [List.append_assoc]
  exact openingGuard?_ofLines habove

end Header

namespace ModuleHeader

open Header
open Text (KeepsOpen)

variable {h : ModuleHeader}

/-- The comment that names a module ends at its end, if the name has no slash. -/
theorem isPreamble_titleLine (hname : '/' ∉ h.name.toList) : IsPreamble h.titleLine := by
  refine .inr ⟨_, ?_, rfl⟩
  rw [String.toList_append]
  have hstart : KeepsOpen ("Module: " ++ h.name).toList := Text.keepsOpen_of_not_mem (by simp [hname])
  cases h.brief? with
  | none => exact hstart.append rfl (by simp)
  | some brief =>
    have hbrief : KeepsOpen (" - " ++ Text.comment brief).toList := by
      rw [String.toList_append]
      exact KeepsOpen.append (by decide) (Text.keepsOpen_comment brief) (by simp)
    exact hstart.append hbrief (by simp)

/-- The header of a module opens with the guard of its file, if the name of the module has no slash. -/
theorem openingGuard?_text (hname : '/' ∉ h.name.toList) :
    openingGuard? h.text = some (guard (fileOf h.name)) := by
  have habove : ∀ l ∈ [banner, h.titleLine, ""], IsPreamble l := by
    simp [isPreamble_banner, isPreamble_titleLine hname, isPreamble_empty]
  rw [text, lines]
  simp only [List.append_assoc]
  exact openingGuard?_ofLines habove

end ModuleHeader

end Bindery
