import Bindery.Proofs.Prototype.Grammar
/-!
Parameters without a name. A parameter of a stated prototype can be a type and nothing else, but a text
does not say which of its words is a name: what is read as the name is the identifier at the end. A type
that ends in a star has none there, and in front of a single word there is no type, so these are refused.
Of a type of several words the last one is taken for the name.
-/

namespace Bindery.Prototype

variable {cs core piece : List Char} {text symbol word name : String} {words names : List String}
  {pieces : List (List Char)} {stars : Nat}

/-! ### Types alone -/

/-- The words that qualify a type. -/
def qualifiers : List String := ["const", "volatile", "restrict", "_Atomic"]

/-- The words that make up the types of the language itself. -/
def specifiers : List String :=
  ["void", "char", "short", "int", "long", "float", "double", "signed", "unsigned", "_Bool", "_Complex"]

/-- The words in front of a tag. -/
def tagKinds : List String := ["struct", "union", "enum"]

/-- Whether a word can be given to a type: an identifier that is not one of the words above. -/
structure IsGiven (word : String) : Prop where
  ident : IsIdentifier word
  not_mem : word ∉ qualifiers ++ specifiers ++ tagKinds

/-- Whether words name a type: some specifiers, a tag or the name of a type, with qualifiers. -/
inductive NamesType : List String → Prop where
  | specified {words : List String} (ne_nil : words ≠ [])
      (words_mem : ∀ w ∈ words, w ∈ qualifiers ++ specifiers) : NamesType words
  | tagged {kind tag : String} (kind_mem : kind ∈ tagKinds) (given : IsGiven tag) :
      NamesType [kind, tag]
  | named {type : String} (given : IsGiven type) : NamesType [type]
  | before {q : String} {words : List String} (q_mem : q ∈ qualifiers) (rest : NamesType words) :
      NamesType (q :: words)
  | behind {q : String} {words : List String} (q_mem : q ∈ qualifiers) (rest : NamesType words) :
      NamesType (words ++ [q])

/-- Whether a text is made of these words, with blanks between them. -/
inductive Spells : List String → List Char → Prop where
  | last (word : String) : Spells [word] word.toList
  | more (word : String) {words : List String} {gap cs : List Char} (ne_nil : gap ≠ [])
      (blank : ∀ c ∈ gap, Text.isBlank c = true) (rest : Spells words cs) :
      Spells (word :: words) (word.toList ++ gap ++ cs)

/-- Whether a parameter is a type and nothing else, blanks aside: words that name one, and behind them
this many stars. -/
inductive IsBareType (piece : List Char) (words : List String) (stars : Nat) : Prop where
  | intro {front cs back : List Char} (whole : piece = front ++ (cs ++ back))
      (blank : ∀ c ∈ front, Text.isBlank c = true) (names : NamesType words) (spells : Spells words cs)
      (starred : ∀ c ∈ back, c = '*' ∨ Text.isBlank c = true) (count : back.count '*' = stars)

theorem NamesType.isIdentifier (h : NamesType words) : ∀ w ∈ words, IsIdentifier w := by
  have hqualifier : ∀ w ∈ qualifiers, IsIdentifier w := by decide
  have hspecifier : ∀ w ∈ specifiers, IsIdentifier w := by decide
  have hkind : ∀ w ∈ tagKinds, IsIdentifier w := by decide
  induction h with
  | specified ne_nil words_mem =>
    exact fun w hw => (List.mem_append.1 (words_mem w hw)).elim (hqualifier w) (hspecifier w)
  | tagged kind_mem given => simpa using ⟨hkind _ kind_mem, given.ident⟩
  | named given => simpa using given.ident
  | before q_mem rest ih => exact List.forall_mem_cons.2 ⟨hqualifier _ q_mem, ih⟩
  | behind q_mem rest ih =>
    exact List.forall_mem_append.2 ⟨ih, by simpa using hqualifier _ q_mem⟩

theorem Spells.words_ne_nil (h : Spells words cs) : words ≠ [] := by
  cases h <;> simp

section Spells

variable (h : Spells words cs) (hident : ∀ w ∈ words, IsIdentifier w)
include h hident

theorem Spells.ne_nil : cs ≠ [] := by
  cases h with
  | last word => exact (hident word List.mem_cons_self).toList_ne_nil
  | more word ne_nil blank rest => simp [ne_nil]

theorem Spells.isTrimmed : Text.IsTrimmed cs := by
  induction h with
  | last word => exact (hident word List.mem_cons_self).isTrimmed
  | more word ne_nil blank rest ih =>
    obtain ⟨hword, hwords⟩ := List.forall_mem_cons.1 hident
    refine (ih hwords).append (rest.ne_nil hwords) ?_ (by simp [ne_nil])
    rw [List.head?_append_of_ne_nil _ hword.toList_ne_nil]
    exact hword.isTrimmed.front

/-- The identifier at the end of some words is the last of them, and there is something in front of it
if and only if there are others. -/
theorem Spells.cutsTail : ∃ type last, words.getLast? = some last ∧
    Text.CutsTail isIdentChar cs type last.toList ∧
    ((∃ c ∈ type, Text.isBlank c = false) ↔ 1 < words.length) := by
  induction h with
  | last word =>
    have hword := hident word List.mem_cons_self
    exact ⟨[], word, rfl, ⟨rfl, hword.all_chars, by simp⟩, by simp⟩
  | @more word words gap cs ne_nil blank rest ih =>
    obtain ⟨hword, hwords⟩ := List.forall_mem_cons.1 hident
    obtain ⟨type, last, hlast, cuts, -⟩ := ih hwords
    refine ⟨word.toList ++ gap ++ type, last, ?_, ⟨?_, cuts.all, ?_⟩, iff_of_true ?_ ?_⟩
    · rw [List.getLast?_cons, hlast]
      rfl
    · rw [cuts.whole]
      simp only [List.append_assoc]
    · rcases List.eq_nil_or_concat type with rfl | ⟨ds, d, rfl⟩
      · -- the word in front ends where a blank begins
        intro c hc
        rw [List.append_nil, List.getLast?_append_of_ne_nil _ ne_nil] at hc
        by_contra hc'
        rw [Bool.not_eq_false] at hc'
        have hblank := blank c (List.mem_of_getLast? hc)
        rw [isBlank_of_isIdentChar hc'] at hblank
        cases hblank
      · intro c hc
        rw [List.getLast?_append_of_ne_nil _ (by simp)] at hc
        exact cuts.longest c hc
    · obtain ⟨d, ds, hd⟩ := List.exists_cons_of_ne_nil hword.toList_ne_nil
      exact ⟨d, by simp [hd], hword.isTrimmed.front d (by simp [hd])⟩
    · have hpos := List.length_pos_iff.2 rest.words_ne_nil
      rw [List.length_cons]
      omega

end Spells

theorem IsBareType.words_ne_nil (h : IsBareType piece words stars) : words ≠ [] := by
  obtain ⟨-, -, -, spells, -, -⟩ := h
  exact spells.words_ne_nil

/-! ### What is read of them -/

/-- Of a parameter that ends in no bracket the name is the identifier at the end of it. -/
theorem isParameter_iff (h : Text.Trims piece core) (hlast : ∀ c ∈ core.getLast?, c ≠ ']') :
    IsParameter piece name ↔ ∃ type, Text.CutsTail isIdentChar core type name.toList ∧ name ≠ "" ∧
      ∃ c ∈ type, Text.isBlank c = false := by
  have hback : Text.dropTail Text.isBlank core = core := Text.dropTail_eq_self_iff.2 h.trimmed.back
  constructor
  · rintro ⟨trims, ⟨⟨n, hn⟩, -⟩, trimsBack, cuts, named, typed⟩
    obtain rfl := (Text.trims_iff.1 h).symm.trans (Text.trims_iff.1 trims)
    cases n with
    | zero =>
      rw [bracketPairs, List.append_nil] at hn
      obtain ⟨hdrop, -⟩ := Text.cutsTail_iff.1 trimsBack
      rw [← hn, hback] at hdrop
      rw [← hdrop] at cuts
      exact ⟨_, cuts, named, typed⟩
    | succ n =>
      rw [bracketPairs, ← List.append_assoc] at hn
      exact absurd rfl (hlast ']' (by rw [hn]; simp))
  · rintro ⟨type, cuts, named, typed⟩
    have hstrips : Strips core core := by
      refine ⟨⟨0, by simp [bracketPairs]⟩, ?_⟩
      rintro ⟨front, hfront⟩
      exact hlast ']' (by rw [← hfront]; simp) rfl
    have hgap : Text.CutsTail Text.isBlank core core [] :=
      ⟨(List.append_nil core).symm, by simp, h.trimmed.back⟩
    exact .intro h hstrips hgap cuts named typed

/-- Some words are read as a parameter if there are several, and then the last one is its name. -/
theorem isParameter_words_iff (h : Text.Trims piece cs) (spells : Spells words cs)
    (hident : ∀ w ∈ words, IsIdentifier w) :
    IsParameter piece name ↔ 1 < words.length ∧ words.getLast? = some name := by
  obtain ⟨type, last, hlast, cuts, typed⟩ := spells.cutsTail hident
  have hne : last.toList ≠ [] := (hident last (List.mem_of_getLast? hlast)).toList_ne_nil
  have hbracket : ∀ c ∈ cs.getLast?, c ≠ ']' := by
    intro c hc
    rw [cuts.whole, List.getLast?_append_of_ne_nil _ hne] at hc
    rintro rfl
    exact absurd (cuts.all _ (List.mem_of_getLast? hc)) (by decide)
  rw [isParameter_iff h hbracket, hlast, Option.some_inj, ← typed]
  constructor
  · rintro ⟨type', cuts', -, typed'⟩
    obtain ⟨rfl, hname⟩ := Text.cutsTail_iff.1 cuts
    obtain ⟨rfl, hname'⟩ := Text.cutsTail_iff.1 cuts'
    exact ⟨typed', String.toList_inj.1 (hname.symm.trans hname')⟩
  · rintro ⟨typed', rfl⟩
    exact ⟨type, cuts, fun hempty => hne (String.toList_eq_nil_iff.2 hempty), typed'⟩

/-- What ends in a star has no identifier at the end. -/
theorem not_isParameter_of_star (h : Text.Trims piece (cs ++ ['*'])) : ¬ IsParameter piece name := by
  rw [isParameter_iff h (by simp)]
  rintro ⟨type, cuts, named, -⟩
  have hne : name.toList ≠ [] := fun hnil => named (String.toList_eq_nil_iff.1 hnil)
  have hmem : '*' ∈ name.toList.getLast? := by
    rw [← List.getLast?_append_of_ne_nil type hne, ← cuts.whole]
    simp
  exact absurd (cuts.all _ (List.mem_of_getLast? hmem)) (by decide)

/-- A type alone is read as a parameter if and only if it has several words and no star, and then its
last word is taken for the name. -/
theorem isParameter_bare_iff (h : IsBareType piece words stars) : IsParameter piece name ↔
    (stars = 0 ∧ 1 < words.length) ∧ words.getLast? = some name := by
  obtain ⟨rfl, blank, hnames, spells, starred, rfl⟩ := h
  rename_i front cs back
  have hident := hnames.isIdentifier
  have htrims := Text.trims_append blank (spells.isTrimmed hident) (spells.ne_nil hident) back
  rcases List.eq_nil_or_concat (Text.dropTail Text.isBlank back) with hback | ⟨ds, d, hback⟩
  · have hblank : ∀ c ∈ back, Text.isBlank c = true := List.rdropWhile_eq_nil_iff.1 hback
    have hcount : back.count '*' = 0 := by
      rw [List.count_eq_zero]
      exact fun hstar => absurd (hblank '*' hstar) (by decide)
    rw [hback, List.append_nil] at htrims
    rw [isParameter_words_iff htrims spells hident, hcount, and_iff_right rfl]
  · have hd : d ∈ back := (Text.dropTail_prefix Text.isBlank back).subset (by simp [hback])
    obtain rfl : d = '*' := by
      refine (starred d hd).resolve_right fun hblank => ?_
      rw [Text.getLast?_dropTail Text.isBlank back d (by simp [hback])] at hblank
      cases hblank
    rw [hback, List.concat_eq_append, ← List.append_assoc cs] at htrims
    exact iff_of_false (not_isParameter_of_star htrims) fun hzero => List.count_eq_zero.1 hzero.1.1 hd

/-! ### Prototypes with parameters -/

/-- Whether a text is a prototype of a symbol with these texts between the commas of its parameter
list, which is neither blank nor `void`. -/
structure HasParameters (text symbol : String) (pieces : List (List Char)) : Prop where
  declares : Declares (normalize text).toList symbol ([','].intercalate pieces)
  ne_nil : pieces ≠ []
  apart : ∀ p ∈ pieces, ',' ∉ p
  not_blank : Text.trimChars ([','].intercalate pieces) ≠ []
  not_void : Text.trimChars ([','].intercalate pieces) ≠ ['v', 'o', 'i', 'd']

/-- Whether a parameter is refused. -/
inductive IsRefused (piece : List Char) : Prop where
  | parenthesis (mem : '(' ∈ piece ∨ ')' ∈ piece)
  | pointer {words : List String} {stars : Nat} (bare : IsBareType piece words (stars + 1))
  | word {word : String} {stars : Nat} (bare : IsBareType piece [word] stars)
  /-- It is not a type alone, and it is not a type and a name either. -/
  | malformed (not_bare : ∀ words stars, ¬ IsBareType piece words stars)
      (unnamed : ∀ name, ¬ IsParameter piece name)

theorem isRefused_iff : IsRefused piece ↔
    ('(' ∈ piece ∨ ')' ∈ piece) ∨ ∀ name, ¬ IsParameter piece name := by
  constructor
  · rintro (mem | bare | bare | ⟨-, unnamed⟩)
    · exact .inl mem
    · exact .inr fun name hname => Nat.succ_ne_zero _ ((isParameter_bare_iff bare).1 hname).1.1
    · exact .inr fun name hname => absurd ((isParameter_bare_iff bare).1 hname).1.2 (by simp)
    · exact .inr unnamed
  · rintro (mem | unnamed)
    · exact .parenthesis mem
    · by_cases hbare : ∃ words stars, IsBareType piece words stars
      · obtain ⟨words, stars, bare⟩ := hbare
        obtain ⟨last, hlast⟩ := Option.ne_none_iff_exists'.1
          (mt List.getLast?_eq_none_iff.1 bare.words_ne_nil)
        have hnot : ¬ (stars = 0 ∧ 1 < words.length) :=
          fun h => unnamed last ((isParameter_bare_iff bare).2 ⟨h, hlast⟩)
        cases stars with
        | succ stars => exact .pointer bare
        | zero =>
          have hlength : words.length = 1 := by
            have hpos := List.length_pos_iff.2 bare.words_ne_nil
            omega
          obtain ⟨word, rfl⟩ := List.length_eq_one_iff.1 hlength
          exact .word bare
      · simp only [not_exists] at hbare
        exact .malformed hbare unnamed

theorem exists_names_iff : ∀ {pieces : List (List Char)},
    (∃ names, List.Forall₂ IsParameter pieces names) ↔ ∀ p ∈ pieces, ∃ name, IsParameter p name
  | [] => by simp
  | p :: ps => by
    rw [List.forall_mem_cons, ← exists_names_iff]
    constructor
    · rintro ⟨names, hnames⟩
      obtain ⟨name, rest, hname, hrest, -⟩ := List.forall₂_cons_left_iff.1 hnames
      exact ⟨⟨name, hname⟩, rest, hrest⟩
    · rintro ⟨⟨name, hname⟩, rest, hrest⟩
      exact ⟨name :: rest, .cons hname hrest⟩

/-- A prototype with parameters is accepted if and only if each of them is one, and nothing in it is a
parenthesis. -/
theorem HasParameters.eq_ok_iff (h : HasParameters text symbol pieces) :
    parameters text symbol = .ok names ↔
      (∀ p ∈ pieces, '(' ∉ p ∧ ')' ∉ p) ∧ List.Forall₂ IsParameter pieces names := by
  have hparen (c : Char) (hc : c ≠ ',') : c ∈ [','].intercalate pieces ↔ ∃ p ∈ pieces, c ∈ p := by
    constructor
    · exact fun hmem => (Text.mem_intercalate hmem).resolve_left (by simpa using hc)
    · rintro ⟨p, hp, hmem⟩
      exact Text.mem_intercalate_of_mem hmem hp
  rw [parameters_of_declares h.declares, parseInner_eq_ok, hparen '(' (by decide),
    hparen ')' (by decide)]
  refine and_congr (by grind) ⟨?_, .some rfl h.ne_nil h.apart⟩
  rintro (⟨trims, blank⟩ | ⟨joined, ne_nil, apart, parameters⟩)
  · rw [← Text.trims_iff.1 trims] at blank
    exact absurd blank (not_or.2 ⟨h.not_blank, h.not_void⟩)
  · have hpieces := splitOnP_eq_iff.2 ⟨joined, ne_nil, apart⟩
    rwa [← hpieces, splitOnP_eq_iff.2 ⟨rfl, h.ne_nil, h.apart⟩] at parameters

/-- A prototype with parameters is refused if and only if one of them is. A type alone among them is, if
it ends in a star or consists of one word; of every other type alone the last word is taken for the
name. -/
theorem unnamed_refused (h : HasParameters text symbol pieces) :
    ((∃ fault, parameters text symbol = .error fault) ↔ ∃ p ∈ pieces, IsRefused p) ∧
      ∀ names, parameters text symbol = .ok names → List.Forall₂
        (fun p name => ∀ words stars, IsBareType p words stars → words.getLast? = some name)
        pieces names := by
  have haccepted : (∃ names, parameters text symbol = .ok names) ↔ ∀ p ∈ pieces, ¬ IsRefused p := by
    simp only [h.eq_ok_iff, exists_and_left, exists_names_iff, isRefused_iff, not_or, not_forall,
      not_not, ← forall₂_and]
  refine ⟨?_, fun names hnames => ?_⟩
  · rw [← not_iff_not]
    push Not
    rw [← haccepted]
    cases parameters text symbol <;> simp
  · exact (h.eq_ok_iff.1 hnames).2.imp fun p name hname words stars hbare =>
      ((isParameter_bare_iff hbare).1 hname).2

theorem unnamed_refused_pointer :
    HasParameters "void Widget_show(int32_t width, unsigned char*)" "Widget_show"
        ["int32_t width".toList, " unsigned char*".toList] ∧
      ∃ fault, parameters "void Widget_show(int32_t width, unsigned char*)" "Widget_show" = .error fault := by
  have whole : normalizeChars "void Widget_show(int32_t width, unsigned char*)".toList =
      "void Widget_show".toList ++
        '(' :: ([','].intercalate ["int32_t width".toList, " unsigned char*".toList] ++ [')']) := by
    decide
  have hparameters : HasParameters "void Widget_show(int32_t width, unsigned char*)" "Widget_show"
      ["int32_t width".toList, " unsigned char*".toList] := by
    refine ⟨?_, by decide, by decide, by decide, by decide⟩
    rw [toList_normalize]
    exact .of_head whole (by decide) (by decide) (by decide)
  have hspace : ∀ c ∈ [' '], Text.isBlank c = true := List.forall_mem_singleton.2 rfl
  have hspells : Spells ["unsigned", "char"] "unsigned char".toList :=
    .more "unsigned" (by decide) hspace (.last "char")
  have hbare : IsBareType " unsigned char*".toList ["unsigned", "char"] 1 :=
    .intro (by decide : _ = [' '] ++ (_ ++ ['*'])) hspace (.specified (by decide) (by decide)) hspells
      (List.forall_mem_singleton.2 (.inl rfl)) (by decide)
  exact ⟨hparameters, (unnamed_refused hparameters).1.2 ⟨_, by decide, .pointer hbare⟩⟩

/-- A type of two words alone is accepted, as a parameter of the name `int`. -/
theorem unnamed_accepted_unsigned :
    HasParameters "void Widget_show(unsigned int)" "Widget_show" ["unsigned int".toList] ∧
      IsBareType "unsigned int".toList ["unsigned", "int"] 0 ∧
      parameters "void Widget_show(unsigned int)" "Widget_show" = .ok ["int"] := by
  have whole : normalizeChars "void Widget_show(unsigned int)".toList =
      "void Widget_show".toList ++ '(' :: ([','].intercalate ["unsigned int".toList] ++ [')']) := by
    decide
  have hspace : ∀ c ∈ [' '], Text.isBlank c = true := List.forall_mem_singleton.2 rfl
  have hspells : Spells ["unsigned", "int"] "unsigned int".toList :=
    .more "unsigned" (by decide) hspace (.last "int")
  refine ⟨⟨?_, by decide, by decide, by decide, by decide⟩, ?_, by decide⟩
  · rw [toList_normalize]
    exact .of_head whole (by decide) (by decide) (by decide)
  · exact .intro (by decide : _ = [] ++ (_ ++ [])) (List.forall_mem_nil _)
      (.specified (by decide) (by decide)) hspells (List.forall_mem_nil _) (by decide)

end Bindery.Prototype
