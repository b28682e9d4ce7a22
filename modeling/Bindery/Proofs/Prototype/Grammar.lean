import Bindery.Proofs.Prototype
import Bindery.Proofs.Prototype.Slices
import Bindery.Proofs.Text.Cuts
import Mathlib.Data.List.Forall2
/-!
The grammar of stated prototypes. A prototype is a head, a parameter list in parentheses and nothing
else. The head ends in the symbol and says more than that; the list is blank, or `void`, or has between
its commas a type and a name each. The relations say what a text is made of at each step, without a word
on how it is cut, and reading accepts a text with some names if and only if the relations hold of them.
-/

namespace Bindery.Prototype

variable {cs inner piece body : List Char} {text symbol name : String} {names : List String}
  {pieces : List (List Char)} {position : Nat}

/-! ### Parameters -/

/-- Some pairs of brackets. -/
def bracketPairs : Nat → List Char
  | 0 => []
  | n + 1 => bracketPairs n ++ ['[', ']']

/-- Whether `body` is a text without the pairs of brackets at its end. -/
structure Strips (cs body : List Char) : Prop where
  whole : ∃ n, cs = body ++ bracketPairs n
  last : ¬ ['[', ']'] <:+ body

/-- Whether a piece of a parameter list is a parameter of this name: trimmed, without the pairs of
brackets at its end, and trimmed there again, it is a type and behind it the name, which is the longest
tail of identifier characters. -/
inductive IsParameter (piece : List Char) (name : String) : Prop where
  | intro {trimmed stripped text gap type : List Char} (trims : Text.Trims piece trimmed)
      (strips : Strips trimmed stripped) (trimsBack : Text.CutsTail Text.isBlank stripped text gap)
      (cuts : Text.CutsTail isIdentChar text type name.toList) (named : name ≠ "")
      (typed : ∃ c ∈ type, Text.isBlank c = false)

theorem dropBracketPairs_append (h : ¬ ['[', ']'] <:+ body) : ∀ n,
    dropBracketPairs (body ++ bracketPairs n).reverse = body.reverse
  | 0 => by
    rw [bracketPairs, List.append_nil, dropBracketPairs.eq_def]
    split
    · rename_i cs hbody
      refine absurd ⟨cs.reverse, ?_⟩ h
      rw [← List.reverse_inj, hbody]
      simp
    · rfl
  | n + 1 => by
    rw [bracketPairs, ← List.append_assoc, List.reverse_append]
    exact dropBracketPairs_append h n

theorem strips_dropBracketPairs (cs : List Char) : Strips cs (dropBracketPairs cs.reverse).reverse := by
  generalize hcs : cs.reverse = reversed
  obtain rfl : cs = reversed.reverse := by rw [← hcs, List.reverse_reverse]
  clear hcs
  fun_induction dropBracketPairs reversed with
  | case1 reversed ih =>
    obtain ⟨⟨n, hn⟩, hlast⟩ := ih
    refine ⟨⟨n + 1, ?_⟩, hlast⟩
    rw [bracketPairs, ← List.append_assoc, ← hn]
    simp
  | case2 reversed hnot =>
    refine ⟨⟨0, by simp [bracketPairs]⟩, ?_⟩
    rintro ⟨front, hfront⟩
    refine hnot front.reverse ?_
    rw [← List.reverse_inj, ← hfront]
    simp

theorem strips_iff : Strips cs body ↔ (dropBracketPairs cs.reverse).reverse = body := by
  constructor
  · rintro ⟨⟨n, rfl⟩, hlast⟩
    rw [dropBracketPairs_append hlast, List.reverse_reverse]
  · rintro rfl
    exact strips_dropBracketPairs cs

/-- A name is read from a piece if and only if the piece is a parameter of this name. -/
theorem parameterName?_eq_some : parameterName? piece = some name ↔ IsParameter piece name := by
  have htyped (type : List Char) : Text.trimChars type ≠ [] ↔ ∃ c ∈ type, Text.isBlank c = false := by
    rw [Ne, Text.trimChars_eq_nil_iff]
    simp
  constructor
  · intro h
    rw [parameterName?] at h
    split at h
    · cases h
    · rename_i hparts
      rw [Bool.or_eq_true, List.isEmpty_iff, List.isEmpty_iff, not_or] at hparts
      cases h
      refine .intro (Text.trims_trimChars piece) (strips_dropBracketPairs _)
        (Text.cutsTail_iff.2 ⟨rfl, rfl⟩) (Text.cutsTail_iff.2 ⟨rfl, String.toList_ofList.symm⟩) ?_
        ((htyped _).1 hparts.2)
      exact fun hempty => hparts.1 (String.ofList_eq_empty_iff.1 hempty)
  · rintro ⟨trims, strips, trimsBack, cuts, named, typed⟩
    obtain rfl := Text.trims_iff.1 trims
    obtain rfl := strips_iff.1 strips
    obtain ⟨rfl, -⟩ := Text.cutsTail_iff.1 trimsBack
    obtain ⟨rfl, hname⟩ := Text.cutsTail_iff.1 cuts
    have htext : parameterText piece = Text.dropTail Text.isBlank
        (dropBracketPairs (Text.trimChars piece).reverse).reverse := rfl
    rw [parameterName?, htext, hname, if_neg, String.ofList_toList]
    simpa using ⟨named, (htyped _).2 typed⟩

/-! ### Parameter lists -/

/-- Whether the text between the parentheses lists parameters of these names. -/
inductive Lists (inner : List Char) : List String → Prop where
  | nothing {trimmed : List Char} (trims : Text.Trims inner trimmed)
      (blank : trimmed = [] ∨ trimmed = ['v', 'o', 'i', 'd']) : Lists inner []
  | some {pieces : List (List Char)} {names : List String} (joined : inner = [','].intercalate pieces)
      (ne_nil : pieces ≠ []) (apart : ∀ p ∈ pieces, ',' ∉ p)
      (parameters : List.Forall₂ IsParameter pieces names) : Lists inner names

theorem not_mem_of_mem_splitOnP {cs p : List Char} (h : p ∈ cs.splitOnP (· = ',')) : ',' ∉ p := by
  intro hmem
  have hcomma := Text.not_sep_of_mem_splitOnP h ',' hmem
  simp at hcomma

/-- The pieces between the commas are known by what they are joined to. -/
theorem splitOnP_eq_iff : inner.splitOnP (· = ',') = pieces ↔
    inner = [','].intercalate pieces ∧ pieces ≠ [] ∧ ∀ p ∈ pieces, ',' ∉ p := by
  constructor
  · rintro rfl
    exact ⟨(List.intercalate_splitOn ',').symm, List.splitOnP_ne_nil _ _,
      fun p hp => not_mem_of_mem_splitOnP hp⟩
  · rintro ⟨rfl, hne, hapart⟩
    exact List.splitOn_intercalate ',' hapart hne

theorem forall₂_isParameter : List.Forall₂ IsParameter pieces names ↔
    pieces.map parameterName? = names.map some := by
  rw [← List.forall₂_eq_eq_eq, List.forall₂_map_left_iff, List.forall₂_map_right_iff]
  simp only [parameterName?_eq_some]

theorem parameterNames_eq_ok : ∀ {pieces : List (List Char)} {names : List String} {position : Nat},
    parameterNames position pieces = .ok names ↔ pieces.map parameterName? = names.map some
  | [], names, position => by
    cases names <;> simp [parameterNames]
  | p :: ps, names, position => by
    refine ⟨fun h => ?_, parameterNames_of_map⟩
    rw [parameterNames] at h
    cases hp : parameterName? p with
    | none =>
      rw [hp] at h
      cases h
    | some name =>
      rw [hp] at h
      dsimp only at h
      cases hps : parameterNames (position + 1) ps with
      | error fault =>
        rw [hps] at h
        cases h
      | ok rest =>
        rw [hps] at h
        cases h
        rw [List.map_cons, List.map_cons, hp, parameterNames_eq_ok.1 hps]

/-- Blanks around a piece do not count. -/
theorem parameterName?_trimChars (cs : List Char) :
    parameterName? (Text.trimChars cs) = parameterName? cs := by
  rw [parameterName?, parameterName?, parameterText, parameterText,
    Text.trimChars_eq_self_iff.2 (Text.isTrimmed_trimChars cs)]

/-- Blanks around the whole list do not count. -/
theorem parameterNames_trimmed (inner : List Char) :
    ((Text.trimChars inner).splitOnP (· = ',')).map parameterName? =
      (inner.splitOnP (· = ',')).map parameterName? := by
  have hcomma : ∀ c, Text.isBlank c = true → decide (c = ',') = false := by
    intro c hc
    rw [decide_eq_false_iff_not]
    rintro rfl
    cases hc
  have htrimmed : parameterName? = parameterName? ∘ Text.trimChars := by
    funext cs
    rw [Function.comp_apply, parameterName?_trimChars]
  rw [htrimmed, ← List.map_map, ← List.map_map, Text.splitOnP_trimChars hcomma]

/-- A list that is blank or `void` has no parameters. -/
theorem not_parameters_of_blank
    (h : Text.trimChars inner = [] ∨ Text.trimChars inner = ['v', 'o', 'i', 'd']) :
    (inner.splitOnP (· = ',')).map parameterName? ≠ names.map some := by
  rw [← parameterNames_trimmed]
  have hnone : ((Text.trimChars inner).splitOnP (· = ',')).map parameterName? = [none] := by
    rcases h with h | h <;> rw [h] <;> decide
  rw [hnone]
  cases names <;> simp

theorem parseInner_eq_ok : parseInner inner = .ok names ↔
    ('(' ∉ inner ∧ ')' ∉ inner) ∧ Lists inner names := by
  rw [parseInner]
  split
  · rename_i hparen
    rw [Bool.or_eq_true, List.contains_iff_mem, List.contains_iff_mem, Text.mem_trimChars (by decide),
      Text.mem_trimChars (by decide)] at hparen
    refine iff_of_false (fun h => by cases h) fun h => ?_
    exact hparen.elim h.1.1 h.1.2
  · rename_i hparen
    rw [Bool.or_eq_true, List.contains_iff_mem, List.contains_iff_mem, Text.mem_trimChars (by decide),
      Text.mem_trimChars (by decide), not_or] at hparen
    rw [and_iff_right hparen]
    split
    · rename_i hblank
      rw [Bool.or_eq_true, List.isEmpty_iff, decide_eq_true_iff] at hblank
      constructor
      · intro h
        cases h
        exact .nothing (Text.trims_trimChars inner) hblank
      · rintro (⟨-, -⟩ | ⟨joined, ne_nil, apart, parameters⟩)
        · rfl
        · have hpieces := splitOnP_eq_iff.2 ⟨joined, ne_nil, apart⟩
          rw [forall₂_isParameter, ← hpieces] at parameters
          exact absurd parameters (not_parameters_of_blank hblank)
    · rename_i hblank
      rw [Bool.or_eq_true, List.isEmpty_iff, decide_eq_true_iff] at hblank
      rw [parameterNames_eq_ok, parameterNames_trimmed, ← forall₂_isParameter]
      constructor
      · intro h
        obtain ⟨joined, ne_nil, apart⟩ := splitOnP_eq_iff.1 rfl
        exact .some joined ne_nil apart h
      · rintro (⟨trims, blank⟩ | ⟨joined, ne_nil, apart, parameters⟩)
        · rw [← Text.trims_iff.1 trims] at blank
          exact absurd blank hblank
        · rwa [splitOnP_eq_iff.2 ⟨joined, ne_nil, apart⟩]

/-! ### Prototypes -/

/-- Whether a text is the prototype of a symbol, with `inner` between the parentheses: in front of them,
blanks aside, the symbol is the longest tail of identifier characters, but not all there is. -/
inductive Declares (cs : List Char) (symbol : String) (inner : List Char) : Prop where
  | intro {head text gap type : List Char} (whole : cs = head ++ '(' :: (inner ++ [')']))
      (first : '(' ∉ head) (trimsBack : Text.CutsTail Text.isBlank head text gap)
      (cuts : Text.CutsTail isIdentChar text type symbol.toList) (typed : type ≠ [])

/-- Whether a text is a stated prototype of a symbol with parameters of these names. -/
def IsPrototype (text symbol : String) (names : List String) : Prop :=
  ∃ inner, Declares (normalize text).toList symbol inner ∧ ('(' ∉ inner ∧ ')' ∉ inner) ∧
    Lists inner names

/-- Of a prototype of the symbol the parameter list is read. -/
theorem parameters_of_declares (h : Declares (normalize text).toList symbol inner) :
    parameters text symbol = parseInner inner := by
  rw [toList_normalize] at h
  obtain ⟨whole, first, trimsBack, cuts, typed⟩ := h
  obtain ⟨rfl, -⟩ := Text.cutsTail_iff.1 trimsBack
  obtain ⟨-, hsymbol⟩ := Text.cutsTail_iff.1 cuts
  rw [parameters, whole, Text.splitAtFirst_append first]
  dsimp only
  rw [if_neg (by simp), Text.trimBack, hsymbol, if_neg (by simp), if_neg, List.dropLast_concat]
  rw [cuts.whole]
  simpa using typed

/-- A text is a prototype of the symbol if what stands in front of the parentheses ends in the symbol
and is more than that. -/
theorem Declares.of_head {head : List Char} (whole : cs = head ++ '(' :: (inner ++ [')']))
    (first : '(' ∉ head) (hsymbol : Text.takeTail isIdentChar (Text.trimBack head) = symbol.toList)
    (hmore : Text.trimBack head ≠ symbol.toList) : Declares cs symbol inner := by
  have cuts : Text.CutsTail isIdentChar (Text.trimBack head)
      (Text.dropTail isIdentChar (Text.trimBack head)) symbol.toList :=
    Text.cutsTail_iff.2 ⟨rfl, hsymbol⟩
  refine .intro whole first (Text.cutsTail_iff.2 ⟨rfl, rfl⟩) cuts fun hnil => hmore ?_
  rw [cuts.whole, hnil, List.nil_append]

/-- A text declares at most one symbol. -/
theorem Declares.unique {cs inner inner' : List Char} {symbol symbol' : String}
    (h : Declares cs symbol inner) (h' : Declares cs symbol' inner') : symbol = symbol' := by
  obtain ⟨whole, first, trimsBack, cuts, -⟩ := h
  obtain ⟨whole', first', trimsBack', cuts', -⟩ := h'
  have hsplit := Text.splitAtFirst_append (b := inner ++ [')']) first
  rw [← whole, whole', Text.splitAtFirst_append first', Option.some.injEq, Prod.mk.injEq] at hsplit
  obtain ⟨rfl, -⟩ := hsplit
  obtain ⟨htext, -⟩ := Text.cutsTail_iff.1 trimsBack
  obtain ⟨htext', -⟩ := Text.cutsTail_iff.1 trimsBack'
  obtain rfl := htext.symm.trans htext'
  exact String.toList_inj.1
    ((Text.cutsTail_iff.1 cuts).2.symm.trans (Text.cutsTail_iff.1 cuts').2)

/-- A derived prototype declares its symbol, whatever its parameters are. -/
theorem declares_derive {returnType : String} {receiver? : Option (String × String)}
    {params : List CParam} (hreturn : IsTypeText returnType) (hsymbol : IsIdentifier symbol) :
    Declares (derive returnType symbol receiver? params).toList symbol
      (Prototype.inner (declared receiver? params)) := by
  have htrim : Text.trimBack (declaration returnType symbol).toList =
      (declaration returnType symbol).toList :=
    Text.dropTail_eq_self_iff.2 (isTrimmed_declaration hreturn hsymbol).back
  refine .of_head (toList_derive ..) (not_mem_declaration hreturn hsymbol (.inl rfl)) ?_ ?_
  · rw [htrim, toList_declaration]
    exact Text.takeTail_append (by decide) hsymbol.all_chars
  · rw [htrim, toList_declaration]
    intro h
    have hlength := congrArg List.length h
    rw [List.length_append, List.length_cons] at hlength
    omega

/-- What is accepted is a prototype of the symbol. -/
theorem declares_of_parameters (h : parameters text symbol = .ok names) :
    ∃ inner, Declares (normalize text).toList symbol inner := by
  rw [toList_normalize]
  rw [parameters] at h
  split at h
  · cases h
  · rename_i before rest hsplit
    obtain ⟨whole, first⟩ := Text.splitAtFirst_eq_some hsplit
    split at h
    · cases h
    · rename_i hlast
      obtain ⟨inner, rfl⟩ := List.getLast?_eq_some_iff.1 (not_not.1 hlast)
      dsimp only at h
      split at h
      · cases h
      · rename_i hsymbol
        split at h
        · cases h
        · rename_i hmore
          exact ⟨inner, .of_head whole first (not_not.1 hsymbol) hmore⟩

theorem parameters_eq_ok : parameters text symbol = .ok names ↔ IsPrototype text symbol names := by
  constructor
  · intro h
    obtain ⟨inner, hinner⟩ := declares_of_parameters h
    rw [parameters_of_declares hinner] at h
    exact ⟨inner, hinner, parseInner_eq_ok.1 h⟩
  · rintro ⟨inner, hinner, h⟩
    rw [parameters_of_declares hinner]
    exact parseInner_eq_ok.2 h

/-- Reading accepts the texts of the grammar, with the names that they have, and no others; and it
never cuts a text where there is no end of a character. -/
theorem accepts_exactly (text symbol : String) :
    (∀ names, parameters text symbol = .ok names ↔ IsPrototype text symbol names) ∧
      ((∃ fault, parameters text symbol = .error fault) ↔ ∀ names, ¬ IsPrototype text symbol names) ∧
      slicedParameters? text symbol = some (parameters text symbol) := by
  refine ⟨fun names => parameters_eq_ok, ?_, slicedParameters?_eq text symbol⟩
  cases h : parameters text symbol with
  | ok names => simpa using ⟨names, parameters_eq_ok.1 h⟩
  | error fault =>
    refine iff_of_true ⟨fault, rfl⟩ fun names hnames => ?_
    rw [parameters_eq_ok.2 hnames] at h
    cases h

example : parameters " void Buf_fill(uint8_t data[], uint32_t n) ;" "Buf_fill" = .ok ["data", "n"] := by
  decide

end Bindery.Prototype
