import Bindery.Json.Printer
import Bindery.Json.Token
import Mathlib.Data.List.TakeWhile
import Mathlib.Tactic.IntervalCases
import Mathlib.Tactic.SplitIfs
/-!
Scanning what was printed. In either layout the text of a value scans to the tokens of the value. A
scan that has come to the end of a value may still be inside its last word, because only the next
character shows that the word is over; `Scan.Holds` says which tokens a scan has read, such a word
included, and printed text always goes on with a character that ends a word.
-/

namespace Bindery.Json

/-! ### Folds that may fail -/

section Fold

variable {σ α : Type} {f : σ → α → Option σ} {s s' : σ} {a : α} {as bs : List α}

theorem foldlM_cons_some (h : f s a = some s') : (a :: as).foldlM f s = as.foldlM f s' := by
  rw [List.foldlM_cons, h]
  rfl

theorem foldlM_append_some (h : as.foldlM f s = some s') :
    (as ++ bs).foldlM f s = bs.foldlM f s' := by
  rw [List.foldlM_append, h]
  rfl

end Fold

/-! ### Tokens of values -/

mutual

/-- The tokens of a value. -/
def tokensOf : Json → List Token
  | .arr items => .openArr :: itemTokens [] items ++ [.closeArr]
  | .obj fields => .openObj :: fieldTokens [] fields ++ [.closeObj]
  | v => [.scalar v]

/-- The tokens of the items of an array, the first one after `lead` and each further one after a
comma. -/
def itemTokens (lead : List Token) : List Json → List Token
  | [] => []
  | item :: items => lead ++ tokensOf item ++ itemTokens [.comma] items

/-- The tokens of the fields of an object, the first one after `lead` and each further one after a
comma. -/
def fieldTokens (lead : List Token) : List (String × Json) → List Token
  | [] => []
  | (name, value) :: fields =>
    lead ++ [.scalar (.str name), .colon] ++ tokensOf value ++ fieldTokens [.comma] fields

end

/-- Whether characters make up a word that spells a value. -/
structure IsWord (cs : List Char) (v : Json) : Prop where
  ne_nil : cs ≠ []
  unbroken : ∀ c ∈ cs, Scan.endsWord c = false
  spells : word? cs = some v

theorem IsWord.of_all {cs : List Char} {v : Json} (hne : cs ≠ [])
    (h : (cs.all fun c => !Scan.endsWord c) = true) (hspells : word? cs = some v) : IsWord cs v :=
  ⟨hne, by simpa using h, hspells⟩

/-- Whether a value is one that has a text: every number literal in it is one. -/
inductive Spelled : Json → Prop
  | null : Spelled .null
  | bool (b : Bool) : Spelled (.bool b)
  | int (i : Int) : Spelled (.int i)
  | real {literal : String} (h : IsWord literal.toList (.real literal)) : Spelled (.real literal)
  | str (s : String) : Spelled (.str s)
  | arr {items : List Json} (h : ∀ v ∈ items, Spelled v) : Spelled (.arr items)
  | obj {fields : List (String × Json)} (h : ∀ f ∈ fields, Spelled f.2) : Spelled (.obj fields)
  | unpaired : Spelled .unpaired

/-! ### Scans -/

namespace Scan

variable {s s' : Scan} {ts : List Token} {c : Char} {cs : List Char}

/-- The scan after some more characters. -/
def read (s : Scan) (cs : List Char) : Option Scan := cs.foldlM step s

theorem read_nil : s.read [] = some s := rfl

theorem read_cons (h : s.step c = some s') : s.read (c :: cs) = s'.read cs := foldlM_cons_some h

theorem read_append {ds : List Char} (h : s.read cs = some s') : s.read (cs ++ ds) = s'.read ds :=
  foldlM_append_some h

/-- Whether a scan has read these tokens, the last of them first. The last one may be a word that the
next character ends. -/
inductive Holds : Scan → List Token → Prop
  | between (ts : List Token) : Holds ⟨.between, ts⟩ ts
  | word {read : List Char} {v : Json} (h : word? read.reverse = some v) (ts : List Token) :
    Holds ⟨.word read, ts⟩ (.scalar v :: ts)

/-- A character that ends a word goes on behind the tokens that were read. -/
theorem Holds.step (h : s.Holds ts) (hc : endsWord c = true) :
    s.step c = some (stepBetween ts c) := by
  cases h with
  | between => rfl
  | word h => simp [Scan.step, hc, h]

theorem Holds.finish (h : s.Holds ts) : s.finish = some ts.reverse := by
  cases h with
  | between => rfl
  | word h => simp [Scan.finish, h]

/-! ### Words -/

theorem step_between_of_not_endsWord (h : endsWord c = false) :
    (⟨.between, ts⟩ : Scan).step c = some ⟨.word [c], ts⟩ := by
  rw [endsWord, Bool.or_eq_false_iff, Bool.or_eq_false_iff, decide_eq_false_iff_not,
    Option.isSome_eq_false_iff, Option.isNone_iff_eq_none] at h
  simp [Scan.step, stepBetween, h]

theorem read_word (h : ∀ c ∈ cs, endsWord c = false) (done : List Char) :
    (⟨.word done, ts⟩ : Scan).read cs = some ⟨.word (cs.reverse ++ done), ts⟩ := by
  induction cs generalizing done with
  | nil => rfl
  | cons c cs ih =>
    have hc : (⟨.word done, ts⟩ : Scan).step c = some ⟨.word (c :: done), ts⟩ := by
      simp [Scan.step, h c List.mem_cons_self]
    rw [read_cons hc, ih fun d hd => h d (List.mem_cons_of_mem _ hd), List.reverse_cons,
      List.append_assoc]
    rfl

/-- A word scans to the value that it spells. -/
theorem holds_word {v : Json} (h : IsWord cs v) (ts : List Token) :
    ∃ s, (⟨.between, ts⟩ : Scan).read cs = some s ∧ s.Holds (.scalar v :: ts) := by
  obtain ⟨c, ds, rfl⟩ := List.exists_cons_of_ne_nil h.ne_nil
  obtain ⟨hc, hds⟩ := List.forall_mem_cons.1 h.unbroken
  refine ⟨⟨.word (ds.reverse ++ [c]), ts⟩, ?_, .word ?_ ts⟩
  · rw [read_cons (step_between_of_not_endsWord hc), read_word hds]
  · rw [List.reverse_append, List.reverse_reverse]
    exact h.spells

/-! ### Blanks and single characters -/

theorem read_spaces (n : Nat) (ts : List Token) :
    (⟨.between, ts⟩ : Scan).read (List.replicate n ' ') = some ⟨.between, ts⟩ := by
  induction n with
  | zero => rfl
  | succ n ih => rw [List.replicate_succ, read_cons rfl]; exact ih

/-- A line break leaves what was read as it is. -/
theorem Holds.lineBreak (h : s.Holds ts) (layout : Layout) (level : Nat) :
    ∃ s', s.read (layout.lineBreak level) = some s' ∧ s'.Holds ts := by
  cases layout with
  | compact => exact ⟨s, rfl, h⟩
  | indented width =>
    refine ⟨⟨.between, ts⟩, ?_, .between ts⟩
    rw [Layout.lineBreak, read_cons (h.step rfl)]
    exact read_spaces _ ts

theorem read_lineBreak (layout : Layout) (level : Nat) (ts : List Token) :
    (⟨.between, ts⟩ : Scan).read (layout.lineBreak level) = some ⟨.between, ts⟩ := by
  cases layout with
  | compact => rfl
  | indented width =>
    rw [Layout.lineBreak, read_cons rfl]
    exact read_spaces _ ts

theorem read_colon (layout : Layout) (ts : List Token) :
    (⟨.between, ts⟩ : Scan).read layout.colon = some ⟨.between, .colon :: ts⟩ := by
  cases layout <;> rfl

end Scan

/-! ### Strings -/

theorem hexValue?_hexDigit : ∀ n < 16, hexValue? (hexDigit n) = some n := by decide

/-- The third digit of an escape, and the fourth, which completes a code. -/
theorem read_lastDigits {high low : Nat} (hhigh : high < 16) (hlow : low < 16) (codes : List Nat)
    (ts : List Token) :
    (⟨.unit codes 2 0, ts⟩ : Scan).read [hexDigit high, hexDigit low] =
      some ⟨.string ((high * 16 + low) :: codes), ts⟩ := by
  have hthird : (⟨.unit codes 2 0, ts⟩ : Scan).step (hexDigit high) =
      some ⟨.unit codes 3 high, ts⟩ := by
    simp [Scan.step, hexValue?_hexDigit high hhigh]
  have hfourth : (⟨.unit codes 3 high, ts⟩ : Scan).step (hexDigit low) =
      some ⟨.string ((high * 16 + low) :: codes), ts⟩ := by
    simp [Scan.step, hexValue?_hexDigit low hlow]
  rw [Scan.read_cons hthird, Scan.read_cons hfourth, Scan.read_nil]

/-- A character of a string literal, escaped or not, scans to its code. -/
theorem read_escapeChar (c : Char) (codes : List Nat) (ts : List Token) :
    (⟨.string codes, ts⟩ : Scan).read (escapeChar c) = some ⟨.string (c.toNat :: codes), ts⟩ := by
  unfold escapeChar
  split_ifs with hquote hbackslash hb hf hn hr ht hcontrol
  · rw [hquote]; rfl
  · rw [hbackslash]; rfl
  · rw [hb]; rfl
  · rw [hf]; rfl
  · rw [hn]; rfl
  · rw [hr]; rfl
  · rw [ht]; rfl
  · have hcode : c.toNat / 16 * 16 + c.toNat % 16 = c.toNat := by omega
    rw [Scan.read_cons rfl, Scan.read_cons rfl, Scan.read_cons rfl, Scan.read_cons rfl]
    exact (read_lastDigits (by omega) (by omega) codes ts).trans (by rw [hcode])
  · have hstep : (⟨.string codes, ts⟩ : Scan).step c = some ⟨.string (c.toNat :: codes), ts⟩ := by
      simp [Scan.step, hquote, hbackslash, hcontrol]
    rw [Scan.read_cons hstep, Scan.read_nil]

theorem read_escaped (cs : List Char) (codes : List Nat) (ts : List Token) :
    (⟨.string codes, ts⟩ : Scan).read (cs.flatMap escapeChar) =
      some ⟨.string ((cs.map Char.toNat).reverse ++ codes), ts⟩ := by
  induction cs generalizing codes with
  | nil => rfl
  | cons c cs ih =>
    rw [List.flatMap_cons, Scan.read_append (read_escapeChar c codes ts), ih, List.map_cons,
      List.reverse_cons, List.append_assoc]
    rfl

/-- No character is half of a surrogate pair. -/
theorem not_half (c : Char) : isFirstHalf c.toNat = false ∧ isSecondHalf c.toNat = false := by
  have hvalid : c.toNat < 0xD800 ∨ 0xDFFF < c.toNat ∧ c.toNat < 0x110000 := c.valid
  simp only [isFirstHalf, isSecondHalf, Bool.and_eq_false_iff, decide_eq_false_iff_not]
  omega

/-- The codes of characters, the last of them first, spell these characters. -/
theorem spell?_codes (codes : List Char) (later : List Char) :
    spell? (codes.map Char.toNat) later = some (codes.reverse ++ later) := by
  induction codes generalizing later with
  | nil => rfl
  | cons c codes ih =>
    obtain ⟨hfirst, hsecond⟩ := not_half c
    rw [List.map_cons, spell?.eq_def]
    simp only [hfirst, hsecond, Bool.false_eq_true, if_false, Char.ofNat_toNat]
    rw [ih, List.reverse_cons, List.append_assoc]
    rfl

theorem stringOf_codes (s : String) : stringOf (s.toList.map Char.toNat).reverse = .str s := by
  rw [stringOf, ← List.map_reverse, spell?_codes, List.reverse_reverse, List.append_nil]
  exact congrArg Json.str String.ofList_toList

/-- A string literal scans to its string. -/
theorem read_quoted (s : String) (ts : List Token) :
    (⟨.between, ts⟩ : Scan).read (quoted s) = some ⟨.between, .scalar (.str s) :: ts⟩ := by
  have hopen : (⟨.between, ts⟩ : Scan).step '"' = some ⟨.string [], ts⟩ := rfl
  have hclose : (⟨.string ((s.toList.map Char.toNat).reverse ++ []), ts⟩ : Scan).step '"' =
      some ⟨.between, .scalar (.str s) :: ts⟩ := by
    rw [List.append_nil, ← stringOf_codes s]
    rfl
  rw [quoted, List.cons_append, Scan.read_cons hopen, Scan.read_append (read_escaped _ [] ts),
    Scan.read_cons hclose, Scan.read_nil]

/-! ### Numbers -/

/-- The digits of a number have no zero in front, except for zero itself. -/
theorem head?_toDigits {n : Nat} (h : 0 < n) : (Nat.toDigits 10 n).head? ≠ some '0' := by
  induction n using Nat.strong_induction_on with
  | _ n ih =>
    by_cases hn : n < 10
    · rw [Nat.toDigits_of_lt_base hn]
      interval_cases n <;> decide
    · obtain ⟨d, ds, hds⟩ := List.exists_cons_of_ne_nil (Nat.toDigits_ne_nil (n := n / 10) (b := 10))
      have hhead := ih (n / 10) (by omega) (by omega)
      rw [Nat.toDigits_of_base_le (by decide) (Nat.le_of_not_lt hn), hds]
      rwa [hds] at hhead

theorem isDigit_toDigits (n : Nat) : ∀ c ∈ Nat.toDigits 10 n, c.isDigit = true := fun _ hc =>
  Nat.isDigit_of_mem_toDigits (by decide) (by decide) hc

/-- A run of digits without a zero in front of others denotes an integer, unless it is `-0`. -/
theorem number?_toDigits (negative : Bool) (n : Nat) :
    number? negative (Nat.toDigits 10 n) =
      match negative, n with
      | false, n => some (.int n)
      | true, 0 => some (.real (String.ofList ('-' :: Nat.toDigits 10 0)))
      | true, n + 1 => some (.int (.negSucc n)) := by
  have hwhole : (Nat.toDigits 10 n).takeWhile Char.isDigit = Nat.toDigits 10 n :=
    List.takeWhile_eq_self_iff.2 (isDigit_toDigits n)
  have htail : (Nat.toDigits 10 n).dropWhile Char.isDigit = [] :=
    List.dropWhile_eq_nil_iff.2 (isDigit_toDigits n)
  have hvalue : digitsValue (Nat.toDigits 10 n) = n := Nat.ofDigitChars_ten_toDigits
  have hzero : ¬ ((Nat.toDigits 10 n).head? = some '0' ∧ 1 < (Nat.toDigits 10 n).length) := by
    rintro ⟨hhead, hlength⟩
    rcases Nat.eq_zero_or_pos n with rfl | hpos
    · rw [Nat.toDigits_zero] at hlength
      exact absurd hlength (by decide)
    · exact head?_toDigits hpos hhead
  have hvalid : ((Nat.toDigits 10 n).isEmpty ||
      ((Nat.toDigits 10 n).head? = some '0' && 1 < (Nat.toDigits 10 n).length) ||
      !isTail []) = false := by
    have hne : (Nat.toDigits 10 n).isEmpty = false := by simp [Nat.toDigits_ne_nil]
    have htail : isTail [] = true := rfl
    rw [hne, htail]
    simpa using hzero
  simp only [number?, hwhole, htail, hvalue, hvalid]
  cases negative with
  | false => rfl
  | true => cases n <;> rfl

/-- The characters that end a word. -/
def wordEnds : List Char :=
  [' ', '\n', '\r', '\t', '"', '[', ']', '\x7b', '\x7d', ',', ':']

theorem mem_wordEnds {c : Char} (h : Scan.endsWord c = true) : c ∈ wordEnds := by
  unfold Scan.endsWord punctuation? at h
  split at h <;> simp_all [isSpace, wordEnds, or_assoc]

theorem endsWord_of_isDigit {c : Char} (h : c.isDigit = true) : Scan.endsWord c = false := by
  have hnone : (wordEnds.all fun d => !d.isDigit) = true := by decide
  refine Bool.eq_false_iff.2 fun hends => ?_
  have hdigit := List.all_eq_true.1 hnone c (mem_wordEnds hends)
  rw [h] at hdigit
  cases hdigit

/-- A word that begins with a digit is a number. -/
theorem word?_of_isDigit {c : Char} {cs : List Char} (h : c.isDigit = true) :
    word? (c :: cs) = number? false (c :: cs) := by
  unfold word?
  split
  case h_5 => rfl
  all_goals
    rename_i heq
    cases heq
    cases h

theorem isWord_intChars (i : Int) : IsWord (intChars i) (.int i) := by
  cases i with
  | ofNat n =>
    refine ⟨Nat.toDigits_ne_nil, fun c hc => endsWord_of_isDigit (isDigit_toDigits n c hc), ?_⟩
    obtain ⟨c, cs, hcs⟩ := List.exists_cons_of_ne_nil (Nat.toDigits_ne_nil (n := n) (b := 10))
    have hc : c.isDigit = true := isDigit_toDigits n c (by rw [hcs]; exact List.mem_cons_self)
    rw [intChars, hcs, word?_of_isDigit hc, ← hcs]
    exact number?_toDigits false n
  | negSucc n =>
    refine ⟨List.cons_ne_nil _ _, ?_, ?_⟩
    · exact List.forall_mem_cons.2 ⟨rfl, fun c hc => endsWord_of_isDigit (isDigit_toDigits _ c hc)⟩
    · exact number?_toDigits true (n + 1)

/-! ### Values -/

section Values

variable {layout : Layout} {s : Scan} {ts leadTokens : List Token} {lead : List Char}

/-- Whether the text of a value scans to its tokens, at every level and after any others. -/
def ScansTo (layout : Layout) (v : Json) : Prop :=
  ∀ level ts, ∃ s, (⟨.between, ts⟩ : Scan).read (chars layout level v) = some s ∧
    s.Holds ((tokensOf v).reverse ++ ts)

/-- A line break and a bracket close what was read. -/
theorem read_close (hs : s.Holds ts) {c : Char} {t : Token} (hends : Scan.endsWord c = true)
    (hc : Scan.stepBetween ts c = ⟨.between, t :: ts⟩) (level : Nat) :
    s.read (layout.lineBreak level ++ [c]) = some ⟨.between, t :: ts⟩ := by
  obtain ⟨s', hread, hs'⟩ := hs.lineBreak layout level
  rw [Scan.read_append hread, Scan.read_cons (hs'.step hends), Scan.read_nil, hc]

/-- The items of an array scan to their tokens, if each of them does. Each further one comes after the
comma that ends the one before it. -/
theorem scan_items {items : List Json} (h : ∀ v ∈ items, ScansTo layout v) (level : Nat)
    (hs : s.Holds ts) (hlead : s.read lead = some ⟨.between, leadTokens.reverse ++ ts⟩) :
    ∃ s', s.read (itemChars layout level lead items) = some s' ∧
      s'.Holds ((itemTokens leadTokens items).reverse ++ ts) := by
  induction items generalizing lead leadTokens ts s with
  | nil => exact ⟨_, rfl, hs⟩
  | cons v items ih =>
    obtain ⟨hv, hitems⟩ := List.forall_mem_cons.1 h
    obtain ⟨s₁, hread, hs₁⟩ := hv level (leadTokens.reverse ++ ts)
    have hcomma : s₁.read [','] =
        some ⟨.between, [Token.comma].reverse ++ ((tokensOf v).reverse ++ (leadTokens.reverse ++ ts))⟩ := by
      rw [Scan.read_cons (hs₁.step rfl)]
      rfl
    obtain ⟨s₂, hrest, hs₂⟩ := ih hitems hs₁ hcomma
    refine ⟨s₂, ?_, ?_⟩
    · rw [itemChars, List.append_assoc, List.append_assoc, Scan.read_append hlead,
        Scan.read_append (Scan.read_lineBreak _ _ _), Scan.read_append hread, hrest]
    · simpa [itemTokens] using hs₂

/-- The fields of an object scan to their tokens, if each of their values does. -/
theorem scan_fields {fields : List (String × Json)} (h : ∀ f ∈ fields, ScansTo layout f.2)
    (level : Nat) (hs : s.Holds ts)
    (hlead : s.read lead = some ⟨.between, leadTokens.reverse ++ ts⟩) :
    ∃ s', s.read (fieldChars layout level lead fields) = some s' ∧
      s'.Holds ((fieldTokens leadTokens fields).reverse ++ ts) := by
  induction fields generalizing lead leadTokens ts s with
  | nil => exact ⟨_, rfl, hs⟩
  | cons f fields ih =>
    obtain ⟨name, v⟩ := f
    obtain ⟨hv, hfields⟩ := List.forall_mem_cons.1 h
    obtain ⟨s₁, hread, hs₁⟩ := hv level (.colon :: .scalar (.str name) :: (leadTokens.reverse ++ ts))
    have hcomma : s₁.read [','] =
        some ⟨.between, [Token.comma].reverse ++ ((tokensOf v).reverse ++
          (.colon :: .scalar (.str name) :: (leadTokens.reverse ++ ts)))⟩ := by
      rw [Scan.read_cons (hs₁.step rfl)]
      rfl
    obtain ⟨s₂, hrest, hs₂⟩ := ih hfields hs₁ hcomma
    refine ⟨s₂, ?_, ?_⟩
    · simp only [fieldChars, List.append_assoc]
      rw [Scan.read_append hlead, Scan.read_append (Scan.read_lineBreak _ _ _),
        Scan.read_append (read_quoted _ _), Scan.read_append (Scan.read_colon _ _),
        Scan.read_append hread, hrest]
    · simpa [fieldTokens] using hs₂

theorem scansTo_word {cs : List Char} {v : Json} (hchars : ∀ level, chars layout level v = cs)
    (htokens : tokensOf v = [.scalar v]) (h : IsWord cs v) : ScansTo layout v := fun level ts => by
  rw [hchars level, htokens]
  exact Scan.holds_word h ts

theorem scansTo_arr {items : List Json} (h : ∀ v ∈ items, ScansTo layout v) :
    ScansTo layout (.arr items) := by
  intro level ts
  cases hitems : items.isEmpty with
  | true =>
    obtain rfl : items = [] := List.isEmpty_iff.1 hitems
    exact ⟨_, rfl, .between _⟩
  | false =>
    have hstart : (⟨.between, .openArr :: ts⟩ : Scan).read [] =
        some ⟨.between, ([] : List Token).reverse ++ (.openArr :: ts)⟩ := rfl
    obtain ⟨s, hread, hs⟩ := scan_items h (level + 1) (.between (.openArr :: ts)) hstart
    refine ⟨_, ?_, .between _⟩
    have hopen : (⟨.between, ts⟩ : Scan).step '[' = some ⟨.between, .openArr :: ts⟩ := rfl
    rw [chars, hitems, if_neg Bool.false_ne_true, List.cons_append, List.cons_append,
      List.append_assoc, Scan.read_cons hopen, Scan.read_append hread,
      read_close hs (t := .closeArr) rfl rfl]
    simp [tokensOf]

theorem scansTo_obj {fields : List (String × Json)} (h : ∀ f ∈ fields, ScansTo layout f.2) :
    ScansTo layout (.obj fields) := by
  intro level ts
  cases hfields : fields.isEmpty with
  | true =>
    obtain rfl : fields = [] := List.isEmpty_iff.1 hfields
    exact ⟨_, rfl, .between _⟩
  | false =>
    have hstart : (⟨.between, .openObj :: ts⟩ : Scan).read [] =
        some ⟨.between, ([] : List Token).reverse ++ (.openObj :: ts)⟩ := rfl
    obtain ⟨s, hread, hs⟩ := scan_fields h (level + 1) (.between (.openObj :: ts)) hstart
    refine ⟨_, ?_, .between _⟩
    have hopen : (⟨.between, ts⟩ : Scan).step '\x7b' = some ⟨.between, .openObj :: ts⟩ := rfl
    rw [chars, hfields, if_neg Bool.false_ne_true, List.cons_append, List.cons_append,
      List.append_assoc, Scan.read_cons hopen, Scan.read_append hread,
      read_close hs (t := .closeObj) rfl rfl]
    simp [tokensOf]

/-- The text of a value scans to its tokens, in either layout. -/
theorem Spelled.scansTo {v : Json} (h : Spelled v) (layout : Layout) : ScansTo layout v := by
  induction h with
  | null => exact scansTo_word (fun _ => rfl) rfl (.of_all (by decide) (by decide) rfl)
  | bool b =>
    cases b
    · exact scansTo_word (fun _ => rfl) rfl (.of_all (by decide) (by decide) rfl)
    · exact scansTo_word (fun _ => rfl) rfl (.of_all (by decide) (by decide) rfl)
  | int i => exact scansTo_word (fun _ => rfl) rfl (isWord_intChars i)
  | real h => exact scansTo_word (fun _ => rfl) rfl h
  | str s => exact fun level ts => ⟨_, read_quoted s ts, .between _⟩
  | arr _ ih => exact scansTo_arr ih
  | obj _ ih => exact scansTo_obj ih
  | unpaired => exact fun level ts => ⟨_, rfl, .between _⟩

/-- A text that was printed has the tokens of its value. -/
theorem tokens?_chars {v : Json} (h : Spelled v) (layout : Layout) (level : Nat) :
    tokens? (chars layout level v) = some (tokensOf v) := by
  obtain ⟨s, hread, hs⟩ := h.scansTo layout level []
  have hfold : (chars layout level v).foldlM Scan.step ⟨.between, []⟩ = some s := hread
  rw [tokens?, hfold]
  exact hs.finish.trans (by simp)

end Values

end Bindery.Json
