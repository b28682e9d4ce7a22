import Bindery.Proofs.Text
/-!
Where texts are cut. The longest tail of some characters and the text between the blanks at both ends
are described by the parts that the text is made of, and these are the parts that the functions give.
Between separators that are no blanks it makes no difference to the trimmed pieces whether the whole is
trimmed first.
-/

namespace Bindery.Text

variable {p sep : Char → Bool} {cs front tail body : List Char}

/-- Whether a text is cut where the longest tail begins on which `p` holds. -/
structure CutsTail (p : Char → Bool) (cs front tail : List Char) : Prop where
  whole : cs = front ++ tail
  all : ∀ c ∈ tail, p c = true
  longest : ∀ c ∈ front.getLast?, p c = false

theorem cutsTail_iff : CutsTail p cs front tail ↔ dropTail p cs = front ∧ takeTail p cs = tail := by
  constructor
  · rintro ⟨rfl, hall, hlongest⟩
    rcases List.eq_nil_or_concat front with rfl | ⟨ds, d, rfl⟩
    · have hreverse : ∀ c ∈ tail.reverse, p c = true := fun c hc => hall c (List.mem_reverse.1 hc)
      have htail : takeTail p tail = tail := by
        rw [takeTail, List.takeWhile_eq_self_iff.2 hreverse, List.reverse_reverse]
      have hwhole := dropTail_append_takeTail p tail
      rw [htail] at hwhole
      exact ⟨by simpa using hwhole, htail⟩
    · have hd : p d = false := hlongest d (by simp)
      rw [List.concat_eq_append, List.append_assoc]
      exact ⟨dropTail_append hd hall, takeTail_append hd hall⟩
  · rintro ⟨rfl, rfl⟩
    exact ⟨(dropTail_append_takeTail p cs).symm, fun c hc => mem_takeTail hc, getLast?_dropTail p cs⟩

/-! ### Trimming -/

/-- Whether `body` is what a text has between the blanks at both ends. -/
structure Trims (cs body : List Char) : Prop where
  inside : ∃ front back, cs = front ++ body ++ back ∧ ∀ c ∈ front ++ back, isBlank c = true
  trimmed : IsTrimmed body

theorem trimFront_blank_append (h : ∀ c ∈ front, isBlank c = true) (cs : List Char) :
    trimFront (front ++ cs) = trimFront cs := List.dropWhile_append_of_pos h

theorem trimBack_append_blank (h : ∀ c ∈ tail, isBlank c = true) (cs : List Char) :
    trimBack (cs ++ tail) = trimBack cs := by
  have hreverse : ∀ c ∈ tail.reverse, isBlank c = true := fun c hc => h c (List.mem_reverse.1 hc)
  rw [trimBack, dropTail, List.reverse_append, List.dropWhile_append_of_pos hreverse]
  rfl

theorem trimChars_blank_append (h : ∀ c ∈ front, isBlank c = true) (cs : List Char) :
    trimChars (front ++ cs) = trimChars cs := by
  rw [trimChars, trimFront_blank_append h, ← trimChars]

theorem trimChars_append_blank (h : ∀ c ∈ tail, isBlank c = true) (cs : List Char) :
    trimChars (cs ++ tail) = trimChars cs := by
  rcases hcs : trimFront cs with _ | ⟨d, ds⟩
  · have hall : ∀ c ∈ cs, isBlank c = true := List.dropWhile_eq_nil_iff.1 hcs
    rw [trimChars_blank_append hall, ← List.append_nil cs, trimChars_blank_append hall,
      ← List.append_nil tail, trimChars_blank_append h]
  · have hfront : trimFront (cs ++ tail) = trimFront cs ++ tail := by
      rw [trimFront, List.dropWhile_append, ← trimFront, hcs]
      rfl
    rw [trimChars, hfront, trimBack_append_blank h, ← trimChars]

theorem trims_trimChars (cs : List Char) : Trims cs (trimChars cs) where
  inside := by
    refine ⟨cs.takeWhile isBlank, takeTail isBlank (trimFront cs), ?_, fun c hc => ?_⟩
    · rw [List.append_assoc, trimChars, trimBack, dropTail_append_takeTail, trimFront,
        List.takeWhile_append_dropWhile]
    · exact (List.mem_append.1 hc).elim (List.all_eq_true.1 List.all_takeWhile c) mem_takeTail
  trimmed := isTrimmed_trimChars cs

theorem trims_iff : Trims cs body ↔ trimChars cs = body := by
  constructor
  · rintro ⟨⟨front, back, rfl, hblank⟩, htrimmed⟩
    have hfront : ∀ c ∈ front, isBlank c = true := fun c hc => hblank c (List.mem_append_left _ hc)
    have hback : ∀ c ∈ back, isBlank c = true := fun c hc => hblank c (List.mem_append_right _ hc)
    rw [trimChars_append_blank hback, trimChars_blank_append hfront, trimChars_eq_self_iff.2 htrimmed]
  · rintro rfl
    exact trims_trimChars cs

/-- Behind a trimmed text only the blanks at the end are taken away. -/
theorem trims_append (hfront : ∀ c ∈ front, isBlank c = true) (hbody : IsTrimmed body)
    (hne : body ≠ []) (tail : List Char) :
    Trims (front ++ (body ++ tail)) (body ++ dropTail isBlank tail) where
  inside := by
    refine ⟨front, takeTail isBlank tail, ?_, fun c hc => ?_⟩
    · rw [List.append_assoc, List.append_assoc, dropTail_append_takeTail]
    · exact (List.mem_append.1 hc).elim (hfront c) mem_takeTail
  trimmed.front := by
    rw [List.head?_append_of_ne_nil _ hne]
    exact hbody.front
  trimmed.back := by
    by_cases hnil : dropTail isBlank tail = []
    · rw [hnil, List.append_nil]
      exact hbody.back
    · rw [List.getLast?_append_of_ne_nil _ hnil]
      exact getLast?_dropTail isBlank tail

/-- Trimming takes away blanks only. -/
theorem mem_trimChars {c : Char} (hc : isBlank c = false) : c ∈ trimChars cs ↔ c ∈ cs := by
  obtain ⟨front, back, hwhole, hblank⟩ := (trims_trimChars cs).inside
  have hnot : c ∉ front ++ back := by
    intro hmem
    rw [hblank c hmem] at hc
    cases hc
  rw [List.mem_append, not_or] at hnot
  conv_rhs => rw [hwhole]
  simp [hnot.1, hnot.2]

theorem trimChars_eq_nil_iff : trimChars cs = [] ↔ ∀ c ∈ cs, isBlank c = true := by
  rw [← trims_iff]
  constructor
  · rintro ⟨⟨front, back, rfl, hblank⟩, -⟩
    simpa using hblank
  · intro h
    exact ⟨⟨cs, [], by simp, by simpa using h⟩, by simp, by simp⟩

/-! ### Pieces -/

/-- No piece has a separator in it. -/
theorem not_sep_of_mem_splitOnP {piece : List Char} (h : piece ∈ cs.splitOnP sep) :
    ∀ c ∈ piece, sep c = false := by
  induction cs generalizing piece with
  | nil =>
    obtain rfl : piece = [] := by simpa using h
    simp
  | cons c cs ih =>
    rw [List.splitOnP_cons_eq_if_modifyHead] at h
    split at h
    · rcases List.mem_cons.1 h with rfl | h
      · simp
      · exact ih h
    · rename_i hc
      obtain ⟨first, rest, hpieces⟩ := List.exists_cons_of_ne_nil (List.splitOnP_ne_nil sep cs)
      rw [hpieces, List.modifyHead_cons] at h
      rcases List.mem_cons.1 h with rfl | h
      · exact List.forall_mem_cons.2 ⟨by simpa using hc, ih (hpieces ▸ List.mem_cons_self)⟩
      · exact ih (hpieces ▸ List.mem_cons_of_mem first h)

/-- Blanks in front of a text stay in front of its first piece. -/
theorem splitOnP_blank_append (hsep : ∀ c, isBlank c = true → sep c = false) (cs : List Char) :
    ∀ {front : List Char}, (∀ c ∈ front, isBlank c = true) →
      ((front ++ cs).splitOnP sep).map trimChars = (cs.splitOnP sep).map trimChars
  | [], _ => rfl
  | b :: front, h => by
    obtain ⟨hb, hfront⟩ := List.forall_mem_cons.1 h
    rw [← splitOnP_blank_append hsep cs hfront, List.cons_append,
      List.splitOnP_cons_eq_if_modifyHead, if_neg (by simp [hsep b hb])]
    obtain ⟨piece, rest, hpieces⟩ := List.exists_cons_of_ne_nil (List.splitOnP_ne_nil sep (front ++ cs))
    have hpiece : trimChars (b :: piece) = trimChars piece :=
      trimChars_blank_append (by simpa using hb : ∀ c ∈ [b], isBlank c = true) piece
    rw [hpieces, List.modifyHead_cons, List.map_cons, List.map_cons, hpiece]

/-- Blanks behind a text stay behind its last piece. -/
theorem splitOnP_append_blank (hsep : ∀ c, isBlank c = true → sep c = false)
    (hback : ∀ c ∈ tail, isBlank c = true) : ∀ cs : List Char, ∃ pieces last,
      cs.splitOnP sep = pieces ++ [last] ∧ (cs ++ tail).splitOnP sep = pieces ++ [last ++ tail]
  | [] => by
    refine ⟨[], [], rfl, ?_⟩
    exact List.splitOnP_eq_singleton fun c hc => hsep c (hback c hc)
  | c :: cs => by
    obtain ⟨pieces, last, hcs, happend⟩ := splitOnP_append_blank hsep hback cs
    rw [List.cons_append, List.splitOnP_cons_eq_if_modifyHead, List.splitOnP_cons_eq_if_modifyHead,
      hcs, happend]
    split
    · exact ⟨[] :: pieces, last, rfl, rfl⟩
    · cases pieces with
      | nil => exact ⟨[], c :: last, rfl, rfl⟩
      | cons piece pieces => exact ⟨(c :: piece) :: pieces, last, rfl, rfl⟩

/-- The trimmed pieces of a text are those of the trimmed text. -/
theorem splitOnP_trimChars (hsep : ∀ c, isBlank c = true → sep c = false) (cs : List Char) :
    ((trimChars cs).splitOnP sep).map trimChars = (cs.splitOnP sep).map trimChars := by
  obtain ⟨front, back, hwhole, hblank⟩ := (trims_trimChars cs).inside
  have hfront : ∀ c ∈ front, isBlank c = true := fun c hc => hblank c (List.mem_append_left _ hc)
  have hback : ∀ c ∈ back, isBlank c = true := fun c hc => hblank c (List.mem_append_right _ hc)
  obtain ⟨pieces, last, hpieces, happend⟩ := splitOnP_append_blank hsep hback (trimChars cs)
  conv_rhs => rw [hwhole]
  rw [List.append_assoc, splitOnP_blank_append hsep _ hfront, hpieces, happend]
  simp [trimChars_append_blank hback]

end Bindery.Text
