import Bindery.Prototype
import Bindery.Proofs.Text
/-!
Reading prototypes. A stated prototype that is accepted ends in the parenthesis of its parameter list,
so the text that is kept of it is accepted in turn, with the same parameters. A derived prototype is
accepted as well if its names are identifiers: the head ends in the symbol, no comma or parenthesis
stands within a declaration, and each declaration ends in the name of its parameter.
-/

namespace Bindery.Prototype

variable {cs : List Char} {text symbol : String} {names : List String}

theorem isTrimmed_normalizeChars (cs : List Char) : Text.IsTrimmed (normalizeChars cs) where
  front c hc := (Text.isTrimmed_trimChars cs).front c (Text.head?_dropTail (Text.head?_dropTail hc))
  back := Text.getLast?_dropTail Text.isBlank _

theorem normalizeChars_eq_self (h : Text.IsTrimmed cs) (hlast : ∀ c ∈ cs.getLast?, c ≠ ';') :
    normalizeChars cs = cs := by
  have htail : Text.dropTail (· = ';') cs = cs :=
    Text.dropTail_eq_self_iff.2 fun c hc => decide_eq_false (hlast c hc)
  rw [normalizeChars, Text.trimChars_eq_self_iff.2 h, htail]
  exact Text.dropTail_eq_self_iff.2 h.back

/-- Whether a name is a C identifier: letters, digits and underscores, the first of them no digit. -/
structure IsIdentifier (name : String) : Prop where
  ne_empty : name ≠ ""
  all_chars : ∀ c ∈ name.toList, isIdentChar c = true
  first_char : ∀ c ∈ name.toList.head?, c.isDigit = false

instance (name : String) : Decidable (IsIdentifier name) :=
  decidable_of_iff (name ≠ "" ∧ name.toList.all isIdentChar = true ∧
      (name.toList.head?.all fun c => !c.isDigit) = true)
    ⟨fun h => ⟨h.1, by simpa using h.2.1, by simpa [Option.all_eq_true] using h.2.2⟩,
      fun h => ⟨h.1, by simpa using h.2, by simpa [Option.all_eq_true] using h.3⟩⟩

/-- What is kept of an accepted prototype ends in the parenthesis of its parameter list. -/
theorem getLast?_of_parameters (h : parameters text symbol = .ok names) :
    (normalizeChars text.toList).getLast? = some ')' := by
  rw [parameters] at h
  split at h
  · cases h
  · rename_i before rest hsplit
    split at h
    · cases h
    · rename_i hlast
      obtain ⟨hcs, -⟩ := Text.splitAtFirst_eq_some hsplit
      rw [hcs, List.getLast?_append, List.getLast?_cons]
      simp [not_ne_iff.1 hlast]

theorem toList_normalize (text : String) : (normalize text).toList = normalizeChars text.toList :=
  String.toList_ofList

/-- What is kept of an accepted prototype is kept as it is. -/
theorem normalize_normalize (h : parameters text symbol = .ok names) :
    normalize (normalize text) = normalize text := by
  have hlast : ∀ c ∈ (normalizeChars text.toList).getLast?, c ≠ ';' := by
    rw [getLast?_of_parameters h]
    simp
  have hagain := normalizeChars_eq_self (isTrimmed_normalizeChars text.toList) hlast
  rw [← String.toList_inj, toList_normalize, toList_normalize, hagain]

/-- What is kept of an accepted prototype is accepted, with the same parameters. -/
theorem parameters_normalize (h : parameters text symbol = .ok names) :
    parameters (normalize text) symbol = .ok names := by
  have hkept : normalizeChars (normalize text).toList = normalizeChars text.toList := by
    rw [← toList_normalize, normalize_normalize h, toList_normalize]
  rw [parameters, hkept, ← parameters]
  exact h

/-! ### Derived prototypes -/

/-- Whether a text can be the C type of a declaration: it begins with no blank, and nothing in it
separates or closes declarations. -/
structure IsTypeText (cType : String) : Prop where
  ne_empty : cType ≠ ""
  front : ∀ c ∈ cType.toList.head?, Text.isBlank c = false
  plain : ∀ c ∈ cType.toList, c ≠ '(' ∧ c ≠ ')' ∧ c ≠ ','

instance (cType : String) : Decidable (IsTypeText cType) :=
  decidable_of_iff (cType ≠ "" ∧ (cType.toList.head?.all fun c => !Text.isBlank c) = true ∧
      (cType.toList.all fun c => c ≠ '(' ∧ c ≠ ')' ∧ c ≠ ',') = true)
    ⟨fun h => ⟨h.1, by simpa [Option.all_eq_true] using h.2.1, by simpa using h.2.2⟩,
      fun h => ⟨h.1, by simpa [Option.all_eq_true] using h.2, by simpa using h.3⟩⟩

variable {c : Char} {cType name : String}

theorem isBlank_of_isIdentChar (h : isIdentChar c = true) : Text.isBlank c = false := by
  simp only [isIdentChar, Bool.or_eq_true, Bool.and_eq_true, decide_eq_true_eq, Char.le_def,
    UInt32.le_iff_toNat_le] at h
  have hrange : (48 ≤ c.toNat ∧ c.toNat ≤ 57) ∨ (65 ≤ c.toNat ∧ c.toNat ≤ 122) := by
    rcases h with ((⟨h1, h2⟩ | ⟨h1, h2⟩) | ⟨h1, h2⟩) | rfl
    · exact .inr ⟨Nat.le_trans (by decide) h1, h2⟩
    · exact .inr ⟨h1, Nat.le_trans h2 (by decide)⟩
    · exact .inl ⟨h1, h2⟩
    · exact .inr (by decide)
  simp only [Text.isBlank, Bool.or_eq_false_iff, Bool.and_eq_false_iff, decide_eq_false_iff_not,
    beq_eq_false_iff_ne]
  omega

theorem IsIdentifier.toList_ne_nil (h : IsIdentifier name) : name.toList ≠ [] :=
  fun hnil => h.ne_empty (String.toList_eq_nil_iff.1 hnil)

/-- No character of an identifier is one that is no part of identifiers. -/
theorem IsIdentifier.not_mem (h : IsIdentifier name) (hc : isIdentChar c = false) : c ∉ name.toList := by
  intro hmem
  rw [h.all_chars c hmem] at hc
  cases hc

theorem IsIdentifier.isTrimmed (h : IsIdentifier name) : Text.IsTrimmed name.toList where
  front c hc := isBlank_of_isIdentChar (h.all_chars c (List.mem_of_head? hc))
  back c hc := isBlank_of_isIdentChar (h.all_chars c (List.mem_of_getLast? hc))

theorem IsTypeText.toList_ne_nil (h : IsTypeText cType) : cType.toList ≠ [] :=
  fun hnil => h.ne_empty (String.toList_eq_nil_iff.1 hnil)

theorem dropBracketPairs_eq_self (h : ∀ c ∈ cs.head?, c ≠ ']') : dropBracketPairs cs = cs := by
  rw [dropBracketPairs.eq_def]
  split
  · exact absurd rfl (h ']' rfl)
  · rfl

theorem toList_declaration (cType name : String) :
    (declaration cType name).toList = cType.toList ++ ' ' :: name.toList := by
  simp [declaration]

section Declaration

variable (ht : IsTypeText cType) (hn : IsIdentifier name)
include ht hn

theorem isTrimmed_declaration : Text.IsTrimmed (declaration cType name).toList := by
  rw [toList_declaration, List.append_cons]
  refine hn.isTrimmed.append hn.toList_ne_nil ?_ (by simp)
  rw [List.head?_append_of_ne_nil _ ht.toList_ne_nil]
  exact ht.front

theorem not_mem_declaration (hc : c = '(' ∨ c = ')' ∨ c = ',') :
    c ∉ (declaration cType name).toList := by
  rw [toList_declaration, List.mem_append, List.mem_cons]
  have hident : isIdentChar c = false := by rcases hc with rfl | rfl | rfl <;> decide
  have hspace : c ≠ ' ' := by rcases hc with rfl | rfl | rfl <;> decide
  rintro (hmem | rfl | hmem)
  · obtain ⟨h1, h2, h3⟩ := ht.plain c hmem
    exact hc.elim h1 (Or.rec h2 h3)
  · exact hspace rfl
  · exact hn.not_mem hident hmem

/-- A declaration is read as that of its name. -/
theorem parameterName?_declaration : parameterName? (declaration cType name).toList = some name := by
  have htrimmed := isTrimmed_declaration ht hn
  have hlast : ∀ c ∈ (declaration cType name).toList.reverse.head?, c ≠ ']' := by
    intro c hc
    rw [List.head?_reverse, toList_declaration, List.append_cons,
      List.getLast?_append_of_ne_nil _ hn.toList_ne_nil] at hc
    rintro rfl
    exact hn.not_mem (by decide) (List.mem_of_getLast? hc)
  have htext : parameterText (declaration cType name).toList = (declaration cType name).toList := by
    rw [parameterText, Text.trimChars_eq_self_iff.2 htrimmed, dropBracketPairs_eq_self hlast,
      List.reverse_reverse]
    exact Text.dropTail_eq_self_iff.2 htrimmed.back
  have hname : Text.takeTail isIdentChar (declaration cType name).toList = name.toList := by
    rw [toList_declaration]
    exact Text.takeTail_append (by decide) hn.all_chars
  have htype : Text.trimChars (Text.dropTail isIdentChar (declaration cType name).toList) ≠ [] := by
    rw [toList_declaration, Text.dropTail_append (by decide) hn.all_chars]
    exact Text.trimChars_ne_nil (by simp) (by
      rw [List.head?_append_of_ne_nil _ ht.toList_ne_nil]
      exact ht.front)
  rw [parameterName?, htext, hname, if_neg, String.ofList_toList]
  simpa using ⟨hn.ne_empty, htype⟩

end Declaration

/-- Blanks in front of a parameter do not count. -/
theorem parameterName?_blank (cs : List Char) : parameterName? (' ' :: cs) = parameterName? cs := by
  have htrim : Text.trimChars (' ' :: cs) = Text.trimChars cs := by
    rw [Text.trimChars, Text.trimFront, List.dropWhile_cons_of_pos (by decide), Text.trimChars,
      Text.trimFront]
  rw [parameterName?, parameterName?, parameterText, parameterText, htrim]

theorem parameterNames_of_map : ∀ {ps : List (List Char)} {names : List String} {position : Nat},
    ps.map parameterName? = names.map some → parameterNames position ps = .ok names
  | [], [], _, _ => rfl
  | p :: ps, name :: names, position, h => by
    obtain ⟨hp, hps⟩ := List.cons.inj h
    rw [parameterNames, hp]
    dsimp only
    rw [parameterNames_of_map hps]
    rfl

/-- A list is split at its commas; behind each of them stands a blank. -/
theorem splitOnP_intercalate : ∀ (ps : List (List Char)) (p : List Char), (∀ q ∈ p :: ps, ',' ∉ q) →
    ([',', ' '].intercalate (p :: ps)).splitOnP (· = ',') = p :: ps.map (' ' :: ·)
  | [], p, h => by
    have hp : ∀ c ∈ p, decide (c = ',') = false := by
      intro c hc
      rw [decide_eq_false_iff_not]
      rintro rfl
      exact h p List.mem_cons_self hc
    rw [List.intercalate_singleton, List.splitOnP_eq_singleton hp]
    rfl
  | q :: ps, p, h => by
    obtain ⟨hp, hrest⟩ := List.forall_mem_cons.1 h
    obtain ⟨hq, hps⟩ := List.forall_mem_cons.1 hrest
    have hp : ∀ c ∈ p, decide (c = ',') = false := by
      intro c hc
      rw [decide_eq_false_iff_not]
      rintro rfl
      exact hp hc
    have hnext : [',', ' '].intercalate (p :: q :: ps) =
        p ++ ',' :: [',', ' '].intercalate ((' ' :: q) :: ps) := by
      cases ps <;> simp [List.intercalate_cons_cons]
    rw [hnext, List.splitOnP_append_cons_of_forall_mem hp _ (by decide),
      splitOnP_intercalate ps (' ' :: q) (List.forall_mem_cons.2 ⟨by simpa using hq, hps⟩)]
    rfl

/-- The text of a list of declarations. -/
def listed (ds : List (String × String)) : List Char :=
  [',', ' '].intercalate (ds.map fun d => (declaration d.1 d.2).toList)

section Listed

variable {ds : List (String × String)} (h : ∀ d ∈ ds, IsTypeText d.1 ∧ IsIdentifier d.2)
include h

theorem isTrimmed_listed : Text.IsTrimmed (listed ds) := by
  refine Text.isTrimmed_intercalate fun p hp => ?_
  obtain ⟨d, hd, rfl⟩ := List.mem_map.1 hp
  exact ⟨by simp [toList_declaration], isTrimmed_declaration (h d hd).1 (h d hd).2⟩

theorem not_mem_listed (hc : c = '(' ∨ c = ')') : c ∉ listed ds := by
  intro hmem
  rcases Text.mem_intercalate hmem with hmem | ⟨p, hp, hmem⟩
  · rcases hc with rfl | rfl <;> simp at hmem
  · obtain ⟨d, hd, rfl⟩ := List.mem_map.1 hp
    exact not_mem_declaration (h d hd).1 (h d hd).2 (hc.imp_right .inl) hmem

/-- The names in a list of declarations are those of its parameters. -/
theorem parameterNames_listed (hne : ds ≠ []) :
    parameterNames 1 ((listed ds).splitOnP (· = ',')) = .ok (ds.map (·.2)) := by
  obtain ⟨d, ds, rfl⟩ := List.exists_cons_of_ne_nil hne
  have hcommas : ∀ p ∈ (d :: ds).map fun d => (declaration d.1 d.2).toList, ',' ∉ p := by
    intro p hp
    obtain ⟨e, he, rfl⟩ := List.mem_map.1 hp
    exact not_mem_declaration (h e he).1 (h e he).2 (.inr (.inr rfl))
  have hread : ∀ e ∈ d :: ds, parameterName? (declaration e.1 e.2).toList = some e.2 :=
    fun e he => parameterName?_declaration (h e he).1 (h e he).2
  rw [listed, List.map_cons, splitOnP_intercalate _ _ hcommas]
  refine parameterNames_of_map ?_
  rw [List.map_cons, hread d List.mem_cons_self, List.map_map, List.map_map, List.map_map,
    List.map_cons]
  refine congrArg (some d.2 :: ·) (List.map_congr_left fun e he => ?_)
  rw [Function.comp_apply, Function.comp_apply, parameterName?_blank,
    hread e (List.mem_cons_of_mem _ he)]
  rfl

/-- A parameter list is read as the names of its declarations. -/
theorem parseInner_listed (hne : ds ≠ []) : parseInner (listed ds) = .ok (ds.map (·.2)) := by
  have hspace : ' ' ∈ listed ds := by
    obtain ⟨d, hd⟩ := List.exists_mem_of_ne_nil ds hne
    exact Text.mem_intercalate_of_mem (by simp [toList_declaration]) (List.mem_map_of_mem hd)
  have hopen := not_mem_listed h (.inl rfl)
  have hclose := not_mem_listed h (.inr rfl)
  rw [parseInner, Text.trimChars_eq_self_iff.2 (isTrimmed_listed h)]
  rw [if_neg (by simp [hopen, hclose]), if_neg ?_]
  · exact parameterNames_listed h hne
  · -- a declaration has a blank between its type and its name
    intro hvoid
    rcases Bool.or_eq_true_iff.1 hvoid with hempty | hvoid
    · rw [List.isEmpty_iff.1 hempty] at hspace
      cases hspace
    · rw [of_decide_eq_true hvoid] at hspace
      simp at hspace

end Listed

/-- The declarations in a derived prototype: that of the receiver stands in front. -/
def declared (receiver? : Option (String × String)) (params : List CParam) : List (String × String) :=
  receiver?.toList ++ params.map fun p => (p.cType, p.name)

theorem declared_names (cType : String) (handle? : Option String) (params : List CParam) :
    (declared (handle?.map (cType, ·)) params).map (·.2) =
      handle?.toList ++ params.map (·.name) := by
  rw [declared, List.map_append, List.map_map]
  cases handle? <;> rfl

/-- The text between the parentheses of a derived prototype. -/
def inner (ds : List (String × String)) : List Char := if ds = [] then "void".toList else listed ds

/-- A derived prototype, by the declarations in its parameter list. -/
theorem derive_eq (returnType symbol : String) (receiver? : Option (String × String))
    (params : List CParam) :
    derive returnType symbol receiver? params =
      declaration returnType symbol ++ "(" ++
        (if declared receiver? params = [] then "void"
          else String.intercalate ", " ((declared receiver? params).map fun d => declaration d.1 d.2)) ++
        ")" := by
  rcases receiver? with _ | ⟨cType, name⟩ <;> simp [derive, declared, declaration, Function.comp_def]

theorem inner_eq (ds : List (String × String)) :
    inner ds = (if ds = [] then "void"
      else String.intercalate ", " (ds.map fun d => declaration d.1 d.2)).toList := by
  rw [inner, listed]
  split
  · rfl
  · simp [String.toList_intercalate, List.map_map, Function.comp_def]

theorem toList_derive (returnType symbol : String) (receiver? : Option (String × String))
    (params : List CParam) :
    (derive returnType symbol receiver? params).toList =
      (declaration returnType symbol).toList ++
        '(' :: (inner (declared receiver? params) ++ [')']) := by
  rw [derive_eq, inner_eq]
  simp

/-- A derived prototype ends in the parenthesis of its parameter list. -/
theorem getLast?_derive (returnType symbol : String) (receiver? : Option (String × String))
    (params : List CParam) :
    (derive returnType symbol receiver? params).toList.getLast? = some ')' := by
  rw [toList_derive, ← List.cons_append, ← List.append_assoc, List.getLast?_concat]

theorem parseInner_inner {ds : List (String × String)}
    (h : ∀ d ∈ ds, IsTypeText d.1 ∧ IsIdentifier d.2) : parseInner (inner ds) = .ok (ds.map (·.2)) := by
  rw [inner]
  split
  · rename_i hempty
    subst hempty
    decide
  · exact parseInner_listed h ‹_›

section Derive

variable {returnType : String} {receiver? : Option (String × String)} {params : List CParam}
  (hreturn : IsTypeText returnType) (hsymbol : IsIdentifier symbol)
include hreturn hsymbol

/-- A derived prototype has no blank at an end, and no semicolon. -/
theorem normalizeChars_derive :
    normalizeChars (derive returnType symbol receiver? params).toList =
      (derive returnType symbol receiver? params).toList := by
  have hfront : ∀ c ∈ (derive returnType symbol receiver? params).toList.head?,
      Text.isBlank c = false := by
    rw [toList_derive, List.head?_append_of_ne_nil _ (by simp [toList_declaration])]
    exact (isTrimmed_declaration hreturn hsymbol).front
  refine normalizeChars_eq_self ⟨hfront, ?_⟩ ?_
  · rw [getLast?_derive]
    simp [Text.isBlank]
  · rw [getLast?_derive]
    simp

theorem normalize_derive :
    normalize (derive returnType symbol receiver? params) = derive returnType symbol receiver? params := by
  rw [normalize, normalizeChars_derive hreturn hsymbol, String.ofList_toList]

/-- A derived prototype is accepted, with the names of the receiver and the parameters. -/
theorem parameters_derive (h : ∀ d ∈ declared receiver? params, IsTypeText d.1 ∧ IsIdentifier d.2) :
    parameters (derive returnType symbol receiver? params) symbol =
      .ok ((declared receiver? params).map (·.2)) := by
  have hblank := (isTrimmed_declaration hreturn hsymbol).back
  have hname : Text.takeTail isIdentChar (declaration returnType symbol).toList = symbol.toList := by
    rw [toList_declaration]
    exact Text.takeTail_append (by decide) hsymbol.all_chars
  have htype : (declaration returnType symbol).toList ≠ symbol.toList := by
    intro h
    have hlength := congrArg List.length h
    rw [toList_declaration, List.length_append, List.length_cons] at hlength
    omega
  rw [parameters, normalizeChars_derive hreturn hsymbol, toList_derive,
    Text.splitAtFirst_append (not_mem_declaration hreturn hsymbol (.inl rfl))]
  dsimp only
  rw [if_neg (by simp), Text.trimBack, Text.dropTail_eq_self_iff.2 hblank, hname, if_neg (by simp),
    if_neg htype, List.dropLast_concat]
  exact parseInner_inner h

end Derive

end Bindery.Prototype
