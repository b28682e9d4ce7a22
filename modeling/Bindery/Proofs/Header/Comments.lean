import Bindery.Header.ModuleHeader
import Bindery.Proofs.Text.Comment
/-!
Comments in module headers. A header has comments with texts that it does not make up: what is said about
the module, its types and its functions. Such a text stands behind a blank, as text that does not close
its comment, so a comment is closed where it ends, unless it is closed by what stands in front of the
text. Everything else in a header is as it would be without these texts.
-/

namespace Bindery.ModuleHeader

open Text (KeepsOpen comment commentLine uncommented)

/-- Where a header quotes a text in a comment: what stands in front of the text there, and the text. -/
inductive Quotes (h : ModuleHeader) : String → String → Prop where
  | brief {brief : String} (hb : h.brief? = some brief) : Quotes h ("Module: " ++ h.name ++ " - ") brief
  | enumDoc {e : EnumDecl} (he : e ∈ h.enums) (hdoc : e.doc ≠ "") : Quotes h (e.name ++ ": ") e.doc
  | structDoc {s : StructDecl} (hs : s ∈ h.structs) (hfields : s.fields ≠ []) (hdoc : s.doc ≠ "") :
    Quotes h (s.name ++ ": ") s.doc
  | aliasDoc {a : AliasDecl} (ha : a ∈ h.aliases) (hc : a.cType?.isSome = true) (hdoc : a.doc ≠ "") :
    Quotes h (a.name ++ ": ") a.doc
  | subjectDoc {s : SubjectNote} (hs : s ∈ h.subjects) (hdoc : s.doc ≠ "") :
    Quotes h (s.name ++ " (" ++ s.kind.name ++ ", " ++ s.family.name ++ "): ") s.doc
  | functionDoc {f : FunctionDecl} (hf : f ∈ h.functions) (hdoc : f.doc ≠ "") : Quotes h "" f.doc

/-- The comment in which a text is quoted. -/
def quotation (front text : String) : String := commentLine (front ++ comment text)

/-- A header without the texts that it quotes. -/
def silent (h : ModuleHeader) : ModuleHeader :=
  { h with
    brief? := none
    enums := h.enums.map fun e => { e with doc := "" }
    structs := h.structs.map fun s => { s with doc := "" }
    aliases := h.aliases.map fun a => { a with doc := "" }
    subjects := h.subjects.map fun s => { s with doc := "" }
    functions := h.functions.map fun f => { f with doc := "" } }

variable {h : ModuleHeader} {front text : String} {ls ms ls' ms' : List String}

/-! ### Where comments end -/

/-- In front of a quoted text stands a blank. -/
theorem Quotes.front_blank (hq : h.Quotes front text) : ("/* " ++ front).toList.getLast? = some ' ' := by
  cases hq <;> simp [List.getLast?_cons, List.getLast?_append]

/-- A comment is closed where its line ends, or by what stands in front of the text. -/
theorem closes_quotation (hfront : ("/* " ++ front).toList.getLast? = some ' ') {before after : List Char}
    (hcloses : (quotation front text).toList = before ++ '*' :: '/' :: after) :
    after = [] ∨ before ++ ['*', '/'] <+: ("/* " ++ front).toList := by
  have hline : (quotation front text).toList =
      ("/* " ++ front).toList ++ ((comment text).toList ++ [' ', '*', '/']) := by
    simp [quotation, commentLine]
  rw [hline] at hcloses
  rcases Text.closes_append hcloses with hin | ⟨hstar, -⟩ | ⟨more, hmore⟩
  · exact .inr hin
  · rw [hfront] at hstar
    cases hstar
  · refine .inl ?_
    rcases Text.closes_append hmore with hin | ⟨-, hslash⟩ | ⟨rest, hrest⟩
    · refine absurd ?_ (Text.contained text).keepsOpen
      exact (List.infix_append' more ['*', '/'] []).trans (by simpa using hin.isInfix)
    · cases hslash
    · have hlength := congrArg List.length hrest
      cases rest with
      | nil => cases hrest
      | cons c rest =>
        simp at hlength
        exact List.length_eq_zero_iff.1 (by omega)

/-- Behind a comment is read what would be read without it, unless what stands in front of the text closes
the comment. -/
theorem uncommented_quotation (hfront : ("/* " ++ front).toList.getLast? = some ' ')
    (hopen : KeepsOpen front.toList) (rest : List Char) :
    uncommented false ((quotation front text).toList ++ rest) = ' ' :: uncommented false rest := by
  refine Text.uncommented_commentLine ?_
  rw [String.toList_append]
  refine hopen.append (Text.keepsOpen_comment text) fun hstar => ?_
  rw [String.toList_append, List.getLast?_append, hstar] at hfront
  cases hfront

/-! ### What is not quoted -/

/-- Whether some lines are among others, but for comments in which a header quotes a text. -/
def Adds (h : ModuleHeader) (ls ms : List String) : Prop :=
  ∀ l ∈ ls, l ∈ ms ∨ ∃ front text, h.Quotes front text ∧ l = quotation front text

theorem Adds.refl (h : ModuleHeader) (ls : List String) : h.Adds ls ls := fun _ hl => .inl hl

theorem Adds.append (hs : h.Adds ls ms) (hs' : h.Adds ls' ms') : h.Adds (ls ++ ls') (ms ++ ms') := by
  intro l hl
  rcases List.mem_append.1 hl with hl | hl
  · exact (hs l hl).imp_left (List.mem_append_left _)
  · exact (hs' l hl).imp_left (List.mem_append_right _)

theorem Adds.flatMap {α : Type} {lines : α → List String} {bare : α → α} {ds : List α}
    (hs : ∀ d ∈ ds, h.Adds (lines d) (lines (bare d))) :
    h.Adds (ds.flatMap lines) ((ds.map bare).flatMap lines) := by
  intro l hl
  obtain ⟨d, hd, hl⟩ := List.mem_flatMap.1 hl
  refine (hs d hd l hl).imp_left fun hl => ?_
  exact List.mem_flatMap.2 ⟨bare d, List.mem_map_of_mem hd, hl⟩

theorem Adds.sectionLines {title : String} {isEmpty : Bool} (hs : h.Adds ls ms) :
    h.Adds (sectionLines title isEmpty ls) (sectionLines title isEmpty ms) := by
  rw [ModuleHeader.sectionLines, ModuleHeader.sectionLines]
  split
  · exact .refl h []
  · exact Adds.append (.refl h _) hs

/-- What is said about a declared name is quoted in front of its lines. -/
theorem adds_of_docLines {name doc : String} (hq : doc ≠ "" → h.Quotes (name ++ ": ") doc)
    (hls : ls = docLines name doc ++ ms) : h.Adds ls ms := by
  subst hls
  intro l hl
  rcases List.mem_append.1 hl with hl | hl
  · rw [docLines] at hl
    split at hl
    · cases hl
    · rename_i hdoc
      exact .inr ⟨_, _, hq hdoc, List.mem_singleton.1 hl⟩
  · exact .inl hl

theorem adds_titleLine (h : ModuleHeader) : h.Adds [h.titleLine] [h.silent.titleLine] := by
  intro l hl
  obtain rfl := List.mem_singleton.1 hl
  cases hbrief : h.brief? with
  | none =>
    refine .inl ?_
    simp [titleLine, silent, hbrief]
  | some brief =>
    refine .inr ⟨_, _, .brief hbrief, ?_⟩
    simp [titleLine, quotation, hbrief, String.append_assoc]

theorem adds_enumLines (h : ModuleHeader) : h.Adds h.enumLines h.silent.enumLines := by
  rw [enumLines, enumLines, silent, List.isEmpty_map]
  refine Adds.sectionLines (Adds.flatMap fun e he => ?_)
  refine adds_of_docLines (.enumDoc he) ?_
  simp [EnumDecl.lines, docLines]

theorem adds_structLines (h : ModuleHeader) : h.Adds h.structLines h.silent.structLines := by
  rw [structLines, structLines, silent, List.isEmpty_map, List.map_map]
  refine Adds.sectionLines (Adds.append (.refl h _) (Adds.flatMap fun s hs => ?_))
  by_cases hfields : s.fields = []
  · simp [StructDecl.bodyLines, hfields, Adds.refl]
  · refine adds_of_docLines (.structDoc hs hfields) ?_
    simp [StructDecl.bodyLines, docLines, hfields]

theorem adds_aliasLines (h : ModuleHeader) : h.Adds h.aliasLines h.silent.aliasLines := by
  rw [aliasLines, aliasLines, silent, List.isEmpty_map]
  refine Adds.sectionLines (Adds.flatMap fun a ha => ?_)
  cases hc : a.cType? with
  | none => simp [AliasDecl.lines, hc, Adds.refl]
  | some cType =>
    refine adds_of_docLines (.aliasDoc ha (by simp [hc])) ?_
    simp [AliasDecl.lines, docLines, hc]

theorem adds_subjectLines (h : ModuleHeader) : h.Adds h.subjectLines h.silent.subjectLines := by
  rw [subjectLines, subjectLines, silent, List.isEmpty_map]
  refine Adds.sectionLines fun l hl => ?_
  obtain ⟨s, hs, rfl⟩ := List.mem_map.1 hl
  by_cases hdoc : s.doc = ""
  · refine .inl ?_
    simp only [List.map_map, List.mem_map]
    exact ⟨s, hs, by simp [SubjectNote.line, hdoc]⟩
  · refine .inr ⟨_, _, .subjectDoc hs hdoc, ?_⟩
    simp [SubjectNote.line, quotation, hdoc, String.append_assoc]

theorem adds_functionLines (h : ModuleHeader) : h.Adds h.functionLines h.silent.functionLines := by
  rw [functionLines, functionLines, silent, List.isEmpty_map]
  refine Adds.sectionLines (Adds.flatMap fun f hf l hl => ?_)
  rcases List.mem_append.1 hl with hl | hl
  · split at hl
    · cases hl
    · rename_i hdoc
      refine .inr ⟨_, _, .functionDoc hf hdoc, ?_⟩
      rw [List.mem_singleton.1 hl, quotation, String.empty_append]
  · exact .inl (List.mem_append_right _ hl)

/-- A header without its texts has all lines but the quotations. -/
theorem adds_lines (h : ModuleHeader) : h.Adds h.lines h.silent.lines := by
  have htitle : h.Adds [Header.banner, h.titleLine, ""] [Header.banner, h.silent.titleLine, ""] :=
    Adds.append (.refl h [Header.banner]) (h.adds_titleLine.append (.refl h [""]))
  rw [lines, lines]
  simp only [List.append_assoc]
  refine htitle.append <| .append (.refl h _) <| .append (.refl h _) <| .append (.refl h _) <|
    .append (.refl h _) ?_
  exact h.adds_enumLines.append <| h.adds_structLines.append <| h.adds_aliasLines.append <|
    h.adds_subjectLines.append <| h.adds_functionLines.append (.refl h _)

/-! ### What is quoted -/

theorem quotation_mem_docLines {name doc : String} (hdoc : doc ≠ "") :
    quotation (name ++ ": ") doc ∈ docLines name doc := by
  rw [docLines, if_neg hdoc]
  exact List.mem_singleton_self _

/-- Every quotation is a line of the header. -/
theorem Quotes.on_line (hq : h.Quotes front text) : quotation front text ∈ h.lines := by
  have hparts : ∀ l, l = h.titleLine ∨ l ∈ h.enumLines ∨ l ∈ h.structLines ∨ l ∈ h.aliasLines ∨
      l ∈ h.subjectLines ∨ l ∈ h.functionLines → l ∈ h.lines := by
    intro l hl
    simp only [lines, List.mem_append, List.mem_cons]
    tauto
  apply hparts
  cases hq with
  | brief hb => exact .inl (by simp [quotation, titleLine, hb, String.append_assoc])
  | @enumDoc e he hdoc =>
    refine .inr (.inl (mem_sectionLines he (List.mem_flatMap.2 ⟨e, he, ?_⟩)))
    exact List.mem_append_left _ (List.mem_append_left _ (List.mem_append_left _
      (quotation_mem_docLines hdoc)))
  | @structDoc s hs hfields hdoc =>
    refine .inr (.inr (.inl (mem_sectionLines hs ?_)))
    refine List.mem_append_right _ (List.mem_flatMap.2 ⟨s, hs, ?_⟩)
    rw [StructDecl.bodyLines, if_neg (by simpa using hfields)]
    exact List.mem_append_left _ (List.mem_append_left _ (List.mem_append_left _
      (quotation_mem_docLines hdoc)))
  | @aliasDoc a ha hc hdoc =>
    obtain ⟨cType, hc⟩ := Option.isSome_iff_exists.1 hc
    refine .inr (.inr (.inr (.inl (mem_sectionLines ha (List.mem_flatMap.2 ⟨a, ha, ?_⟩)))))
    rw [AliasDecl.lines, hc]
    exact List.mem_append_left _ (quotation_mem_docLines hdoc)
  | @subjectDoc s hs hdoc =>
    refine .inr (.inr (.inr (.inr (.inl (mem_sectionLines hs (List.mem_map.2 ⟨s, hs, ?_⟩))))))
    simp [SubjectNote.line, quotation, hdoc, String.append_assoc]
  | @functionDoc f hf hdoc =>
    refine .inr (.inr (.inr (.inr (.inr (mem_sectionLines hf (List.mem_flatMap.2 ⟨f, hf, ?_⟩))))))
    simp [FunctionDecl.lines, quotation, hdoc]

/-- What becomes of the texts that a header quotes. -/
structure ConfinesTexts (h : ModuleHeader) : Prop where
  quoted : ∀ front text, h.Quotes front text → quotation front text ∈ h.lines
  /-- Every line that is not a quotation stands in the header without the texts as well. -/
  others : ∀ l ∈ h.lines,
    l ∈ h.silent.lines ∨ ∃ front text, h.Quotes front text ∧ l = quotation front text
  /-- The comment of a quotation is closed where the line ends, or by what stands in front of the text. -/
  closed : ∀ front text, h.Quotes front text → ∀ before after,
    (quotation front text).toList = before ++ "*/".toList ++ after →
      after = [] ∨ before ++ "*/".toList <+: ("/* " ++ front).toList
  /-- Behind the line is read what would be read without it. -/
  read : ∀ front text, h.Quotes front text → ¬ "*/".toList <:+: front.toList → ∀ rest,
    uncommented false ((quotation front text).toList ++ rest) = ' ' :: uncommented false rest

/-- Whatever a text is, what is put into a comment for it does not close the comment, so that a header
holds its texts in comments that are closed at their ends. -/
theorem texts_confined (text : String) (h : ModuleHeader) : Text.Contained text ∧ h.ConfinesTexts := by
  refine ⟨Text.contained text, ?_⟩
  constructor
  case quoted => exact fun _ _ hq => hq.on_line
  case others => exact h.adds_lines
  case closed =>
    intro front text hq before after hcloses
    rw [List.append_assoc] at hcloses
    exact closes_quotation hq.front_blank hcloses
  case read =>
    intro front text hq hopen
    exact uncommented_quotation hq.front_blank (Text.keepsOpen_iff.2 hopen)

/-- A text that would close its comment twice, and go on behind it on another line. -/
example : quotation "Menu: " "Opens */\n/* and **/ closes" =
    "/* Menu: Opens * / /* and ** / closes */" := by decide

end Bindery.ModuleHeader
