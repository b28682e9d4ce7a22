import Bindery.Proofs.Text.Cuts
import Bindery.Text.Comment
/-!
Texts inside comments. A comment goes on up to the first slash right after a star. A text that is put
into one is taken apart into its words, and these are joined again with one blank between each two; then
each star is kept apart from a slash right after it. That cuts words in two and joins none, so what comes
out is again made of words with one blank between each two. It does not close the comment, and it has the
characters of the text that are not blank.
-/

namespace Bindery.Text

variable {c : Char} {cs : List Char}

/-! ### Where comments end -/

/-- A text with a blank in place of each comment, read from within a comment or from outside. -/
def uncommented : Bool → List Char → List Char
  | _, [] => []
  | false, '/' :: '*' :: cs => uncommented true cs
  | true, '*' :: '/' :: cs => ' ' :: uncommented false cs
  | false, c :: cs => c :: uncommented false cs
  | true, _ :: cs => uncommented true cs

/-- Whether nothing in a text closes a comment. -/
def KeepsOpen (cs : List Char) : Prop := occursIn ['*', '/'] cs = false

instance (cs : List Char) : Decidable (KeepsOpen cs) := inferInstanceAs (Decidable (_ = false))

theorem keepsOpen_cons : KeepsOpen (c :: cs) ↔ (c = '*' → ∀ d ∈ cs.head?, d ≠ '/') ∧ KeepsOpen cs := by
  rw [KeepsOpen, occursIn, Bool.or_eq_false_iff]
  refine and_congr_left fun _ => ?_
  cases cs with
  | nil => simp [List.isPrefixOf]
  | cons d cs => by_cases hc : c = '*' <;> by_cases hd : d = '/' <;> simp [List.isPrefixOf, hc, hd, Ne.symm]

/-- Without a slash no comment begins. -/
theorem uncommented_plain : ∀ {as : List Char}, '/' ∉ as →
    uncommented false (as ++ cs) = as ++ uncommented false cs
  | [], _ => rfl
  | a :: as, h => by
    obtain ⟨ha, has⟩ := not_or.1 (mt List.mem_cons.2 h)
    rw [List.cons_append, uncommented, uncommented_plain has]
    · rfl
    · rintro _ rfl
      exact absurd rfl ha

/-- A comment goes on up to the first slash right after a star. -/
theorem uncommented_inside : ∀ {as : List Char}, KeepsOpen as →
    uncommented true (as ++ ' ' :: '*' :: '/' :: cs) = ' ' :: uncommented false cs
  | [], _ => by simp [uncommented]
  | a :: as, h => by
    obtain ⟨ha, has⟩ := keepsOpen_cons.1 h
    rw [List.cons_append, uncommented, uncommented_inside has]
    rintro _ rfl hnext
    cases as with
    | nil => simp at hnext
    | cons b as => exact ha rfl b rfl (List.cons.inj hnext).1

theorem uncommented_commentLine {s : String} (h : KeepsOpen s.toList) :
    uncommented false ((commentLine s).toList ++ cs) = ' ' :: uncommented false cs := by
  have hchars : (commentLine s).toList ++ cs =
      '/' :: '*' :: ((' ' :: s.toList) ++ ' ' :: '*' :: '/' :: cs) := by
    simp [commentLine]
  rw [hchars, uncommented]
  exact uncommented_inside (keepsOpen_cons.2 ⟨by simp, h⟩)

/-- Where a star and a slash after it stand in two texts, one behind the other: in one of them, or
across. -/
theorem closes_append {as bs before after : List Char}
    (h : as ++ bs = before ++ '*' :: '/' :: after) :
    before ++ ['*', '/'] <+: as ∨ (as.getLast? = some '*' ∧ bs.head? = some '/') ∨
      ∃ more, bs = more ++ '*' :: '/' :: after := by
  rcases List.append_eq_append_iff.1 h with ⟨more, rfl, rfl⟩ | ⟨rest, rfl, hrest⟩
  · exact .inr (.inr ⟨more, rfl⟩)
  · match rest with
    | [] => exact .inr (.inr ⟨[], hrest.symm⟩)
    | [d] =>
      obtain ⟨rfl, rfl⟩ := List.cons.inj hrest
      exact .inr (.inl ⟨by simp, rfl⟩)
    | d :: e :: rest =>
      simp only [List.cons_append, List.cons.injEq] at hrest
      obtain ⟨rfl, rfl, rfl⟩ := hrest
      exact .inl ⟨rest, by simp⟩

theorem keepsOpen_iff : KeepsOpen cs ↔ ¬ ['*', '/'] <:+: cs := by
  rw [KeepsOpen, ← occursIn_iff, Bool.not_eq_true]

/-- Two texts do not close a comment, one behind the other, if neither of them does and they do not do it
together. -/
theorem KeepsOpen.append {as bs : List Char} (has : KeepsOpen as) (hbs : KeepsOpen bs)
    (hacross : as.getLast? = some '*' → bs.head? ≠ some '/') : KeepsOpen (as ++ bs) := by
  rw [keepsOpen_iff] at has hbs ⊢
  rintro ⟨before, after, h⟩
  rw [List.append_assoc] at h
  rcases closes_append h.symm with hin | ⟨hstar, hslash⟩ | ⟨more, hmore⟩
  · exact has ((List.suffix_append before _).isInfix.trans hin.isInfix)
  · exact hacross hstar hslash
  · refine hbs (hmore ▸ ?_)
    exact ⟨more, after, List.append_assoc ..⟩

theorem keepsOpen_of_not_mem (h : '/' ∉ cs) : KeepsOpen cs := by
  rw [keepsOpen_iff]
  intro hin
  exact h (hin.subset (by simp))

/-- A character stays as it is, unless it is a star with a slash behind it. -/
theorem openComment_cons (h : c = '*' → ∀ rest, cs ≠ '/' :: rest) :
    openComment (c :: cs) = c :: openComment cs := by
  rw [openComment]
  exact fun rest hstar hslash => h hstar rest hslash

theorem head?_openComment (cs : List Char) : (openComment cs).head? = cs.head? := by
  fun_cases openComment cs <;> rfl

/-- What stands inside a comment does not close it. -/
theorem keepsOpen_openComment (cs : List Char) : KeepsOpen (openComment cs) := by
  fun_induction openComment cs with
  | case1 cs ih => simpa [keepsOpen_cons] using ih
  | case2 c cs hnot ih =>
    refine keepsOpen_cons.2 ⟨fun hc d hd hslash => ?_, ih⟩
    rw [head?_openComment] at hd
    obtain ⟨cs, rfl⟩ := List.head?_eq_some_iff.1 hd
    exact hnot cs hc (hslash ▸ rfl)
  | case3 => rfl

theorem openComment_eq_self (h : KeepsOpen cs) : openComment cs = cs := by
  fun_induction openComment cs with
  | case1 cs ih => exact absurd rfl ((keepsOpen_cons.1 h).1 rfl '/' rfl)
  | case2 c cs hnot ih => rw [ih (keepsOpen_cons.1 h).2]
  | case3 => rfl

/-! ### Words -/

/-- Whether some characters are a word. -/
def IsWord (w : List Char) : Prop := w ≠ [] ∧ ∀ c ∈ w, isBlank c = false

/-- Whether a text is made of words with one blank between each two, read character by character: behind
one that is not blank the text goes on, perhaps after a blank, but it does not end with that blank. -/
inductive IsSpaced : List Char → Prop where
  | nil : IsSpaced []
  | char {c : Char} {cs : List Char} (hc : isBlank c = false) (rest : IsSpaced cs) : IsSpaced (c :: cs)
  | blank {c d : Char} {cs : List Char} (hc : isBlank c = false) (rest : IsSpaced (d :: cs)) :
    IsSpaced (c :: ' ' :: d :: cs)

theorem IsSpaced.append {w : List Char} (h : IsSpaced cs) (hw : ∀ c ∈ w, isBlank c = false) :
    IsSpaced (w ++ cs) := by
  induction w with
  | nil => exact h
  | cons c w ih =>
    obtain ⟨hc, hw⟩ := List.forall_mem_cons.1 hw
    exact .char hc (ih hw)

/-- In front of a text that is not empty there can be another word, with a blank behind it. -/
theorem IsSpaced.word {w : List Char} (h : IsSpaced cs) (hne : cs ≠ []) (hw : IsWord w) :
    IsSpaced (w ++ ' ' :: cs) := by
  obtain ⟨d, cs, rfl⟩ := List.exists_cons_of_ne_nil hne
  rcases List.eq_nil_or_concat w with rfl | ⟨front, c, rfl⟩
  · exact absurd rfl hw.1
  · rw [List.concat_eq_append] at hw ⊢
    rw [List.append_assoc, List.singleton_append]
    have hc : isBlank c = false := hw.2 c (by simp)
    exact IsSpaced.append (.blank hc h) fun e he => hw.2 e (List.mem_append_left _ he)

theorem isSpaced_intercalate {ws : List (List Char)} (h : ∀ w ∈ ws, IsWord w) :
    IsSpaced ([' '].intercalate ws) := by
  induction ws with
  | nil => exact .nil
  | cons w ws ih =>
    obtain ⟨hw, hws⟩ := List.forall_mem_cons.1 h
    cases ws with
    | nil =>
      rw [List.intercalate_singleton, ← List.append_nil w]
      exact IsSpaced.append .nil hw.2
    | cons v ws =>
      rw [List.intercalate_cons_cons, List.append_assoc]
      exact (ih hws).word (intercalate_ne_nil (by simp) fun u hu => (hws u hu).1) hw

theorem IsSpaced.exists_words (h : IsSpaced cs) :
    ∃ ws, (∀ w ∈ ws, IsWord w) ∧ cs = [' '].intercalate ws := by
  induction h with
  | nil => exact ⟨[], by simp, rfl⟩
  | @char c cs hc _ ih =>
    obtain ⟨ws, hws, rfl⟩ := ih
    cases ws with
    | nil => exact ⟨[[c]], by simp [IsWord, hc], by simp⟩
    | cons w ws =>
      obtain ⟨⟨-, hw⟩, hws⟩ := List.forall_mem_cons.1 hws
      have hcw : IsWord (c :: w) := ⟨by simp, List.forall_mem_cons.2 ⟨hc, hw⟩⟩
      exact ⟨(c :: w) :: ws, List.forall_mem_cons.2 ⟨hcw, hws⟩, List.intercalate_cons_cons_left.symm⟩
  | @blank c d cs hc _ ih =>
    obtain ⟨ws, hws, hcs⟩ := ih
    cases ws with
    | nil => simp at hcs
    | cons w ws =>
      refine ⟨[c] :: w :: ws, List.forall_mem_cons.2 ⟨⟨by simp, by simp [hc]⟩, hws⟩, ?_⟩
      rw [List.intercalate_cons_cons, ← hcs]
      rfl

/-- Keeping a star apart from a slash makes two words of one. -/
theorem IsSpaced.openComment (h : IsSpaced cs) : IsSpaced (openComment cs) := by
  induction h with
  | nil => exact .nil
  | @char c cs hc _ ih =>
    by_cases hcut : c = '*' ∧ ∃ rest, cs = '/' :: rest
    · obtain ⟨rfl, rest, rfl⟩ := hcut
      rw [openComment_cons (by simp)] at ih
      exact .blank hc ih
    · rw [openComment_cons fun hstar rest hslash => hcut ⟨hstar, rest, hslash⟩]
      exact .char hc ih
  | @blank c d cs hc _ ih =>
    rw [openComment_cons (by simp), openComment_cons (by simp)]
    obtain ⟨rest, hrest⟩ := List.head?_eq_some_iff.1 (head?_openComment (d :: cs))
    rw [hrest] at ih ⊢
    exact .blank hc ih

/-! ### Characters that are not blank -/

/-- The characters of a text that are not blank. -/
def visible (cs : List Char) : List Char := cs.filter fun c => !isBlank c

@[simp] theorem visible_append (as bs : List Char) : visible (as ++ bs) = visible as ++ visible bs :=
  List.filter_append ..

theorem visible_openComment (cs : List Char) : visible (openComment cs) = visible cs := by
  fun_induction openComment cs with
  | case1 cs ih =>
    have hblank : isBlank ' ' = true := rfl
    simp only [visible, List.filter_cons, hblank] at ih ⊢
    simp [ih]
  | case2 c cs hnot ih =>
    simp only [visible, List.filter_cons] at ih ⊢
    rw [ih]
  | case3 => rfl

theorem visible_eq_self (h : ∀ c ∈ cs, isBlank c = false) : visible cs = cs := by
  rw [visible, List.filter_eq_self]
  simpa using h

/-- Joined words have the characters of the words. -/
theorem visible_intercalate {ws : List (List Char)} (h : ∀ w ∈ ws, IsWord w) :
    visible ([' '].intercalate ws) = ws.flatten := by
  induction ws with
  | nil => rfl
  | cons w ws ih =>
    obtain ⟨hw, hws⟩ := List.forall_mem_cons.1 h
    cases ws with
    | nil => simpa using visible_eq_self hw.2
    | cons v ws =>
      rw [List.intercalate_cons_cons, visible_append, visible_append, visible_eq_self hw.2, ih hws]
      simp [visible, isBlank]

/-! ### The words of a text -/

theorem flatten_splitOnP (cs : List Char) : (cs.splitOnP isBlank).flatten = visible cs := by
  induction cs with
  | nil => rfl
  | cons c cs ih =>
    rw [List.splitOnP_cons_eq_if_modifyHead, visible, List.filter_cons, ← visible, ← ih]
    obtain ⟨w, ws, hws⟩ := List.exists_cons_of_ne_nil (List.splitOnP_ne_nil isBlank cs)
    cases isBlank c <;> simp [hws]

theorem isWord_wordChars {w : List Char} (h : w ∈ wordChars cs) : IsWord w := by
  obtain ⟨hmem, hne⟩ := List.mem_filter.1 h
  exact ⟨by simpa using hne, not_sep_of_mem_splitOnP hmem⟩

theorem flatten_wordChars (cs : List Char) : (wordChars cs).flatten = visible cs := by
  rw [wordChars, List.flatten_filter_not_isEmpty, flatten_splitOnP]

theorem wordChars_word {w : List Char} (h : IsWord w) : wordChars w = [w] := by
  rw [wordChars, List.splitOnP_eq_singleton h.2]
  simp [h.1]

/-- At a blank a text falls apart into two, with the words of both. -/
theorem wordChars_append (as bs : List Char) (hc : isBlank c = true) :
    wordChars (as ++ c :: bs) = wordChars as ++ wordChars bs := by
  rw [wordChars, List.splitOnP_append_cons as bs hc, List.filter_append]
  rfl

/-- The words of joined words are those that were joined. -/
theorem wordChars_intercalate {ws : List (List Char)} (h : ∀ w ∈ ws, IsWord w) :
    wordChars ([' '].intercalate ws) = ws := by
  induction ws with
  | nil => simp [wordChars]
  | cons w ws ih =>
    obtain ⟨hw, hws⟩ := List.forall_mem_cons.1 h
    cases ws with
    | nil => rw [List.intercalate_singleton, wordChars_word hw]
    | cons v ws =>
      rw [List.intercalate_cons_cons, List.append_assoc, List.singleton_append,
        wordChars_append _ _ rfl, wordChars_word hw, ih hws, List.singleton_append]

/-! ### Texts as they stand in comments -/

theorem toList_comment (s : String) :
    (comment s).toList = openComment ([' '].intercalate (wordChars s.toList)) := by
  simp [comment]

theorem isSpaced_comment (s : String) : IsSpaced (comment s).toList := by
  rw [toList_comment]
  exact (isSpaced_intercalate fun w hw => isWord_wordChars hw).openComment

theorem keepsOpen_comment (s : String) : KeepsOpen (comment s).toList := by
  rw [toList_comment]
  exact keepsOpen_openComment _

theorem visible_comment (s : String) : visible (comment s).toList = visible s.toList := by
  rw [toList_comment, visible_openComment, visible_intercalate fun w hw => isWord_wordChars hw,
    flatten_wordChars]

/-- A text stands in a comment as it is if and only if it is made of words with one blank between each two
and does not close the comment. -/
theorem comment_eq_self_iff {s : String} : comment s = s ↔ IsSpaced s.toList ∧ KeepsOpen s.toList := by
  constructor
  · intro h
    rw [← h]
    exact ⟨isSpaced_comment s, keepsOpen_comment s⟩
  · rintro ⟨hspaced, hopen⟩
    obtain ⟨ws, hws, hs⟩ := hspaced.exists_words
    rw [← String.toList_inj, toList_comment, hs, wordChars_intercalate hws, ← hs,
      openComment_eq_self hopen]

theorem IsSpaced.eq_of_isBlank (h : IsSpaced cs) (hc : c ∈ cs) (hblank : isBlank c = true) : c = ' ' := by
  obtain ⟨ws, hws, rfl⟩ := h.exists_words
  rcases mem_intercalate hc with hc | ⟨w, hw, hc⟩
  · exact List.mem_singleton.1 hc
  · rw [(hws w hw).2 c hc] at hblank
    cases hblank

/-- The characters at which a line ends. -/
def lineBreaks : List Char := ['\n', '\x0b', '\x0c', '\r', '\u0085', '\u2028', '\u2029']

theorem isBlank_of_mem_lineBreaks : ∀ c ∈ lineBreaks, isBlank c = true ∧ c ≠ ' ' := by
  simp [lineBreaks, isBlank]

/-- What is put into a comment for a text. -/
structure Contained (s : String) : Prop where
  keepsOpen : ¬ "*/".toList <:+: (comment s).toList
  onLine : ∀ c ∈ lineBreaks, c ∉ (comment s).toList
  /-- It is made of words with one blank between each two. -/
  spaced : ∃ words : List String, (∀ w ∈ words, w ≠ "" ∧ ∀ c ∈ w.toList, isBlank c = false) ∧
    comment s = " ".intercalate words
  /-- It has the characters of the text that are not blank, in their order. -/
  characters : visible (comment s).toList = visible s.toList
  again : comment (comment s) = comment s

theorem contained (s : String) : Contained s := by
  have hspaced := isSpaced_comment s
  constructor
  case keepsOpen =>
    exact keepsOpen_iff.1 (keepsOpen_comment s)
  case onLine =>
    intro c hc hmem
    obtain ⟨hblank, hne⟩ := isBlank_of_mem_lineBreaks c hc
    exact hne (hspaced.eq_of_isBlank hmem hblank)
  case spaced =>
    obtain ⟨ws, hws, hs⟩ := hspaced.exists_words
    refine ⟨ws.map String.ofList, ?_, ?_⟩
    · rw [List.forall_mem_map]
      intro w hw
      rw [String.toList_ofList]
      exact ⟨fun hempty => (hws w hw).1 (by simpa using hempty), (hws w hw).2⟩
    · rw [← String.toList_inj, hs, String.toList_intercalate, List.map_map]
      simp [Function.comp_def]
  case characters => exact visible_comment s
  case again => exact comment_eq_self_iff.2 ⟨hspaced, keepsOpen_comment s⟩

/-- A star and a slash in neighbouring words stay apart, and those in one word are kept apart. -/
example : comment " Draws\n *\t/ a **//widget */" = "Draws * / a ** //widget * /" := by decide

end Bindery.Text
