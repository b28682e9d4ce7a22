import Bindery.Text.Blank
import Bindery.Text.Search
import Mathlib.Data.List.DropRight
import Mathlib.Data.List.Infix
/-!
Trimmed texts and tails. What is left when the blanks at both ends are dropped has no blank at an end,
and a text without one is left as it is. A tail is cut off where it begins.
-/

namespace Bindery.Text

variable {p : Char → Bool} {cs : List Char}

theorem dropTail_prefix (p : Char → Bool) (cs : List Char) : dropTail p cs <+: cs :=
  List.rdropWhile_prefix p cs

theorem dropTail_eq_self_iff : dropTail p cs = cs ↔ ∀ c ∈ cs.getLast?, p c = false := by
  refine (List.rdropWhile_eq_self_iff (l := cs)).trans ?_
  rcases List.eq_nil_or_concat cs with rfl | ⟨ds, d, rfl⟩ <;> simp

theorem getLast?_dropTail (p : Char → Bool) (cs : List Char) :
    ∀ c ∈ (dropTail p cs).getLast?, p c = false :=
  dropTail_eq_self_iff.1 (List.rdropWhile_idempotent p cs)

theorem mem_takeTail {c : Char} (h : c ∈ takeTail p cs) : p c = true :=
  List.all_eq_true.1 List.all_takeWhile c (List.mem_reverse.1 h)

/-- The longest tail on which a predicate holds begins behind the last character on which it does not. -/
theorem takeTail_append {ds : List Char} {d : Char} (hd : p d = false) (hcs : ∀ c ∈ cs, p c = true) :
    takeTail p (ds ++ d :: cs) = cs := by
  have hall : ∀ c ∈ cs.reverse, p c = true := fun c hc => hcs c (List.mem_reverse.1 hc)
  rw [takeTail, List.reverse_append, List.reverse_cons, List.append_assoc,
    List.takeWhile_append_of_pos hall, List.singleton_append, List.takeWhile_cons_of_neg (by simp [hd]),
    List.append_nil, List.reverse_reverse]

theorem dropTail_append {ds : List Char} {d : Char} (hd : p d = false) (hcs : ∀ c ∈ cs, p c = true) :
    dropTail p (ds ++ d :: cs) = ds ++ [d] := by
  have hwhole := dropTail_append_takeTail p (ds ++ d :: cs)
  rw [takeTail_append hd hcs] at hwhole
  exact List.append_cancel_right (hwhole.trans (List.append_cons ds d cs))

theorem splitAtFirst_append {c : Char} {b : List Char} : ∀ {a : List Char}, c ∉ a →
    splitAtFirst c (a ++ c :: b) = some (a, b)
  | [], _ => by simp [splitAtFirst]
  | d :: a, h => by
    obtain ⟨hd, ha⟩ := not_or.1 (mt List.mem_cons.2 h)
    rw [List.cons_append, splitAtFirst, if_neg (Ne.symm hd), splitAtFirst_append ha]
    rfl

theorem head?_dropTail {c : Char} (h : c ∈ (dropTail p cs).head?) : c ∈ cs.head? := by
  obtain ⟨ds, hds⟩ := dropTail_prefix p cs
  rw [← hds, List.head?_append]
  simp [Option.mem_def.1 h]

theorem trimFront_eq_self_iff : trimFront cs = cs ↔ ∀ c ∈ cs.head?, isBlank c = false := by
  rw [trimFront, List.dropWhile_eq_self_iff]
  cases cs <;> simp

theorem head?_trimFront (cs : List Char) : ∀ c ∈ (trimFront cs).head?, isBlank c = false :=
  trimFront_eq_self_iff.1 (List.dropWhile_idempotent isBlank cs)

/-- Whether a text has no blank at either end. -/
structure IsTrimmed (cs : List Char) : Prop where
  front : ∀ c ∈ cs.head?, isBlank c = false
  back : ∀ c ∈ cs.getLast?, isBlank c = false

theorem isTrimmed_trimChars (cs : List Char) : IsTrimmed (trimChars cs) where
  front c hc := head?_trimFront cs c (head?_dropTail hc)
  back := getLast?_dropTail isBlank _

theorem trimChars_eq_self_iff : trimChars cs = cs ↔ IsTrimmed cs := by
  refine ⟨fun h => h ▸ isTrimmed_trimChars cs, fun h => ?_⟩
  rw [trimChars, trimFront_eq_self_iff.2 h.front]
  exact dropTail_eq_self_iff.2 h.back

theorem trim_eq_self_iff {s : String} : trim s = s ↔ IsTrimmed s.toList := by
  rw [← trimChars_eq_self_iff, ← toList_trim, String.toList_inj]

/-- Something is left of a text that begins with no blank. -/
theorem trimChars_ne_nil (hne : cs ≠ []) (hfront : ∀ c ∈ cs.head?, isBlank c = false) :
    trimChars cs ≠ [] := by
  rw [trimChars, trimFront_eq_self_iff.2 hfront]
  intro hnil
  obtain ⟨c, rest, rfl⟩ := List.exists_cons_of_ne_nil hne
  have hblank := List.rdropWhile_eq_nil_iff.1 hnil c List.mem_cons_self
  rw [hfront c rfl] at hblank
  cases hblank

/-- A text that ends in a trimmed one and begins with no blank is trimmed. -/
theorem IsTrimmed.append {ds : List Char} (h : IsTrimmed ds) (hne : ds ≠ [])
    (hfront : ∀ c ∈ cs.head?, isBlank c = false) (hcs : cs ≠ []) : IsTrimmed (cs ++ ds) where
  front := by
    rw [List.head?_append_of_ne_nil _ hcs]
    exact hfront
  back := by
    rw [List.getLast?_append_of_ne_nil _ hne]
    exact h.back

/-- A text is found where it is a part. -/
theorem occursIn_iff {part : List Char} : ∀ {cs : List Char}, occursIn part cs = true ↔ part <:+: cs
  | [] => by rw [occursIn, List.isEmpty_iff, List.infix_nil]
  | c :: cs => by
    rw [occursIn, Bool.or_eq_true, List.isPrefixOf_iff_prefix, occursIn_iff, List.infix_cons_iff]

/-! ### Texts joined by a separator -/

theorem mem_intercalate {sep : List Char} {c : Char} : ∀ {ps : List (List Char)},
    c ∈ sep.intercalate ps → c ∈ sep ∨ ∃ p ∈ ps, c ∈ p
  | [], h => by simp at h
  | [p], h => by
    rw [List.intercalate_singleton] at h
    exact .inr ⟨p, List.mem_cons_self, h⟩
  | p :: q :: ps, h => by
    rw [List.intercalate_cons_cons, List.mem_append, List.mem_append] at h
    rcases h with (h | h) | h
    · exact .inr ⟨p, List.mem_cons_self, h⟩
    · exact .inl h
    · exact (mem_intercalate h).imp_right fun ⟨r, hr, hc⟩ => ⟨r, .tail _ hr, hc⟩

theorem mem_intercalate_of_mem {sep : List Char} {c : Char} {p : List Char} (hc : c ∈ p) :
    ∀ {ps : List (List Char)}, p ∈ ps → c ∈ sep.intercalate ps
  | [q], h => by
    rw [List.intercalate_singleton, ← List.mem_singleton.1 h]
    exact hc
  | q :: r :: ps, h => by
    rw [List.intercalate_cons_cons, List.append_assoc, List.mem_append, List.mem_append]
    rcases List.mem_cons.1 h with rfl | h
    · exact .inl hc
    · exact .inr (.inr (mem_intercalate_of_mem hc h))

theorem intercalate_ne_nil {sep : List Char} : ∀ {ps : List (List Char)}, ps ≠ [] →
    (∀ p ∈ ps, p ≠ []) → sep.intercalate ps ≠ []
  | [], h, _ => absurd rfl h
  | [p], _, h => by
    rw [List.intercalate_singleton]
    exact h p List.mem_cons_self
  | p :: q :: ps, _, h => by
    rw [List.intercalate_cons_cons, List.append_assoc]
    exact List.append_ne_nil_of_left_ne_nil (h p List.mem_cons_self) _

theorem isTrimmed_intercalate {sep : List Char} : ∀ {ps : List (List Char)},
    (∀ p ∈ ps, p ≠ [] ∧ IsTrimmed p) → IsTrimmed (sep.intercalate ps)
  | [], _ => ⟨by simp, by simp⟩
  | [p], h => by
    rw [List.intercalate_singleton]
    exact (h p List.mem_cons_self).2
  | p :: q :: ps, h => by
    obtain ⟨⟨hne, hp⟩, hrest⟩ := List.forall_mem_cons.1 h
    rw [List.intercalate_cons_cons]
    refine (isTrimmed_intercalate hrest).append
      (intercalate_ne_nil (by simp) fun r hr => (hrest r hr).1) ?_ (by simp [hne])
    rw [List.head?_append_of_ne_nil _ hne]
    exact hp.front

end Bindery.Text
