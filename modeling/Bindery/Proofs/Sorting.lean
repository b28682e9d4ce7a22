import Bindery.Manifest.Build
import Mathlib.Data.List.Nodup
/-!
Sorting. Names are compared as texts and pairs of names by the first, then by the second. Sorting by
either gives an ascending list, and a strictly ascending one when no two keys are the same. Sorting
is stable: entries that were in order already stay in that order among themselves, whatever stands
between them. By a key that no two entries share the outcome does not depend on the order in which the
entries came, and a list without one of its entries is sorted as it is with the entry, but for it.
-/

namespace Bindery

/-! ### Stability -/

/-- A part of a list that is in order already comes out of the sort as it went in. -/
theorem filter_mergeSort {α : Type} {le : α → α → Bool} {p : α → Bool} {l : List α}
    (trans : ∀ a b c, le a b → le b c → le a c) (total : ∀ a b, le a b || le b a)
    (h : (l.filter p).Pairwise fun a b => le a b) :
    (l.mergeSort le).filter p = l.filter p := by
  have hsub : (l.filter p).Sublist ((l.mergeSort le).filter p) := by
    have hs := (List.sublist_mergeSort trans total h List.filter_sublist).filter p
    rwa [List.filter_filter, show (fun a => p a && p a) = p from by simp] at hs
  have hlen : (l.filter p).length = ((l.mergeSort le).filter p).length :=
    ((List.mergeSort_perm l le).filter p).length_eq.symm
  exact (hsub.eq_of_length hlen).symm

section Deletion

variable {α : Type} {le : α → α → Bool} (trans : ∀ a b c, le a b → le b c → le a c)
  (total : ∀ a b, le a b || le b a)
include trans total

/-- Sorting puts the head of a list behind the entries that are less, and before all others. -/
theorem mergeSort_cons_eq (a : α) (l : List α) :
    (a :: l).mergeSort le =
      ((l.mergeSort le).filter fun b => !le a b) ++ a :: (l.mergeSort le).filter (le a) := by
  obtain ⟨l₁, l₂, hcons, hl, hless⟩ := List.mergeSort_cons trans total a l
  have hsorted := List.pairwise_mergeSort trans total (a :: l)
  rw [hcons, List.pairwise_append] at hsorted
  have hafter : ∀ b ∈ l₂, le a b = true := (List.pairwise_cons.1 hsorted.2.1).1
  have hnone : (l₂.filter fun b => !le a b) = [] := by
    rw [List.filter_eq_nil_iff]
    intro b hb
    simp [hafter b hb]
  have hnone' : l₁.filter (le a) = [] := by
    rw [List.filter_eq_nil_iff]
    intro b hb
    simpa using hless b hb
  rw [hcons, hl, List.filter_append, List.filter_append, hnone, hnone', List.append_nil,
    List.nil_append, List.filter_eq_self.2 hless, List.filter_eq_self.2 hafter]

/-- A list without one of its entries is sorted as it is with the entry, but for the entry. What stood
before the entry and is not greater still does. -/
theorem mergeSort_without (a : α) (l₂ : List α) : ∀ l₁ : List α, ∃ m₁ m₂,
    (l₁ ++ a :: l₂).mergeSort le = m₁ ++ a :: m₂ ∧ (l₁ ++ l₂).mergeSort le = m₁ ++ m₂ ∧
      ∀ b ∈ l₁, le b a = true → b ∈ m₁
  | [] => by
    obtain ⟨m₁, m₂, hcons, hl, -⟩ := List.mergeSort_cons trans total a l₂
    exact ⟨m₁, m₂, hcons, hl, by simp⟩
  | c :: l₁ => by
    obtain ⟨m₁, m₂, hwith, hwithout, hbefore⟩ := mergeSort_without a l₂ l₁
    rw [List.cons_append, List.cons_append, mergeSort_cons_eq trans total, hwith,
      mergeSort_cons_eq trans total, hwithout]
    by_cases hca : le c a = true
    · refine ⟨((m₁ ++ m₂).filter fun b => !le c b) ++ c :: m₁.filter (le c), m₂.filter (le c),
        by simp [hca], by simp, ?_⟩
      intro b hb hba
      rcases List.mem_cons.1 hb with rfl | hb
      · simp
      · by_cases hcb : le c b = true <;> simp [hcb, hbefore b hb hba]
    · refine ⟨m₁.filter fun b => !le c b,
        (m₂.filter fun b => !le c b) ++ c :: (m₁ ++ m₂).filter (le c), by simp [hca], by simp, ?_⟩
      intro b hb hba
      rcases List.mem_cons.1 hb with rfl | hb
      · exact absurd hba hca
      · have hcb : ¬ le c b = true := fun hcb => hca (trans c b a hcb hba)
        simp [hcb, hbefore b hb hba]

end Deletion

/-! ### Order of arrival -/

/-- A sort forgets in which order its entries came, if no two of them are equal for it. -/
theorem mergeSort_eq_of_perm {α : Type} {le : α → α → Bool} {l l' : List α}
    (trans : ∀ a b c, le a b → le b c → le a c) (total : ∀ a b, le a b || le b a)
    (antisymm : ∀ a ∈ l, ∀ b ∈ l, le a b → le b a → a = b) (h : l.Perm l') :
    l.mergeSort le = l'.mergeSort le := by
  have hperm : (l.mergeSort le).Perm (l'.mergeSort le) :=
    (List.mergeSort_perm l le).trans (h.trans (List.mergeSort_perm l' le).symm)
  refine hperm.eq_of_pairwise ?_ (List.pairwise_mergeSort trans total l)
    (List.pairwise_mergeSort trans total l')
  intro a b ha hb
  exact antisymm a (List.mem_mergeSort.1 ha) b (h.mem_iff.2 (List.mem_mergeSort.1 hb))

/-! ### Texts -/

theorem textLe_trans (a b c : String) (hab : decide (a ≤ b) = true) (hbc : decide (b ≤ c) = true) :
    decide (a ≤ c) = true := by
  rw [decide_eq_true_iff] at hab hbc ⊢
  exact String.le_trans hab hbc

theorem textLe_total (a b : String) : (decide (a ≤ b) || decide (b ≤ a)) = true := by
  rcases String.le_total a b with h | h <;> simp [h]

/-- Entries sorted by a key that is a text are in ascending order of it. -/
theorem pairwise_mergeSort_text {α : Type} (key : α → String) (l : List α) :
    (l.mergeSort fun a b => key a ≤ key b).Pairwise fun a b => key a ≤ key b := by
  refine (List.pairwise_mergeSort ?_ ?_ l).imp of_decide_eq_true
  · intro a b c
    exact textLe_trans _ _ _
  · intro a b
    exact textLe_total _ _

/-- Entries with distinct texts as keys are sorted alike in whatever order they came. -/
theorem mergeSort_text_eq_of_perm {α : Type} (key : α → String) {l l' : List α}
    (hkeys : (l.map key).Nodup) (h : l.Perm l') :
    (l.mergeSort fun a b => key a ≤ key b) = l'.mergeSort fun a b => key a ≤ key b := by
  refine mergeSort_eq_of_perm ?_ ?_ ?_ h
  · exact fun _ _ _ => textLe_trans _ _ _
  · exact fun _ _ => textLe_total _ _
  · intro a ha b hb hab hba
    have e : key a = key b := String.le_antisymm (of_decide_eq_true hab) (of_decide_eq_true hba)
    exact List.inj_on_of_nodup_map hkeys ha hb e

/-- Sorted by a key that is a text, a list is the same without one of its entries, but for the entry;
an entry that is less comes before it, and so does an equal one that stood before it. -/
theorem mergeSort_text_without {α : Type} (key : α → String) (l : List α) {i : Nat}
    (hi : i < l.length) : ∃ m₁ m₂,
      (l.mergeSort fun a b => key a ≤ key b) = m₁ ++ l[i] :: m₂ ∧
      ((l.eraseIdx i).mergeSort fun a b => key a ≤ key b) = m₁ ++ m₂ ∧
      ∀ (j : Nat) (hj : j < l.length), key l[j] < key l[i] ∨ key l[j] = key l[i] ∧ j < i →
        l[j] ∈ m₁ := by
  obtain ⟨m₁, m₂, hwith, hwithout, hbefore⟩ := mergeSort_without
    (fun a b c => textLe_trans (key a) (key b) (key c)) (fun a b => textLe_total (key a) (key b))
    l[i] (l.drop (i + 1)) (l.take i)
  rw [← List.drop_eq_getElem_cons hi, List.take_append_drop] at hwith
  rw [← List.eraseIdx_eq_take_drop_succ] at hwithout
  refine ⟨m₁, m₂, hwith, hwithout, fun j hj h => ?_⟩
  rcases h with hless | ⟨hsame, hji⟩
  · have hsorted := pairwise_mergeSort_text key l
    have hmem : l[j] ∈ l.mergeSort fun a b => key a ≤ key b :=
      List.mem_mergeSort.2 (List.getElem_mem hj)
    rw [hwith] at hsorted hmem
    refine (List.mem_append.1 hmem).resolve_right fun hlater => String.not_le.2 hless ?_
    rcases List.mem_cons.1 hlater with e | hlater
    · exact e ▸ String.le_refl _
    · exact (List.pairwise_cons.1 (List.pairwise_append.1 hsorted).2.1).1 _ hlater
  · refine hbefore _ (List.mem_take_iff_getElem.2 ⟨j, by omega, rfl⟩) (decide_eq_true ?_)
    exact hsame ▸ String.le_refl _

/-- Two strictly ascending lists of the same texts are the same. -/
theorem eq_of_ascending {l l' : List String} (hl : l.Pairwise (· < ·)) (hl' : l'.Pairwise (· < ·))
    (h : ∀ a, a ∈ l ↔ a ∈ l') : l = l' := by
  have hperm : l.Perm l' :=
    (List.perm_ext_iff_of_nodup (hl.imp String.ne_of_lt) (hl'.imp String.ne_of_lt)).2 h
  exact hperm.eq_of_pairwise (fun _ _ _ _ hab hba => absurd hba (String.lt_asymm hab)) hl hl'

/-- What is left without repetition has none. -/
theorem nodup_eraseDups : ∀ l : List String, l.eraseDups.Nodup
  | [] => .nil
  | a :: l => by
    rw [List.eraseDups_cons, List.nodup_cons, List.mem_eraseDups]
    exact ⟨by simp, nodup_eraseDups _⟩
termination_by l => l.length
decreasing_by
  rw [List.length_cons]
  exact Nat.lt_succ_of_le (List.length_filter_le _ l)

/-- Texts without repetition, sorted, are in strictly ascending order. -/
theorem strictly_mergeSort_text {l : List String} (h : l.Nodup) :
    (l.mergeSort fun a b => a ≤ b).Pairwise (· < ·) := by
  have hn : (l.mergeSort fun a b => a ≤ b).Pairwise (· ≠ ·) := (List.mergeSort_perm l _).nodup_iff.2 h
  exact (pairwise_mergeSort_text id l).imp₂ (fun a b hle hne =>
    String.not_le.1 fun hba => hne (String.le_antisymm hle hba)) hn

/-! ### Pairs of texts -/

namespace Manifest

/-- The strict order of pairs of names: by the first, then by the second. -/
def PairLt (a b : String × String) : Prop := a.1 < b.1 ∨ a.1 = b.1 ∧ a.2 < b.2

theorem PairLt.asymm {a b : String × String} (h : PairLt a b) : ¬ PairLt b a := by
  rintro (h' | ⟨e', h'⟩) <;> rcases h with h | ⟨e, h⟩
  · exact String.lt_asymm h h'
  · exact String.lt_irrefl _ (e ▸ h')
  · exact String.lt_irrefl _ (e' ▸ h)
  · exact String.lt_asymm h h'

theorem pairLe_iff {a b : String × String} :
    pairLe a b = true ↔ a.1 < b.1 ∨ a.1 = b.1 ∧ a.2 ≤ b.2 := by
  simp [pairLe]

theorem pairLe_trans (a b c : String × String) (hab : pairLe a b = true) (hbc : pairLe b c = true) :
    pairLe a c = true := by
  rw [pairLe_iff] at hab hbc ⊢
  rcases hab with h | ⟨h, h'⟩ <;> rcases hbc with k | ⟨k, k'⟩
  · exact .inl (String.lt_trans h k)
  · exact .inl (k ▸ h)
  · exact .inl (h ▸ k)
  · exact .inr ⟨h.trans k, String.le_trans h' k'⟩

theorem pairLe_total (a b : String × String) : (pairLe a b || pairLe b a) = true := by
  rw [Bool.or_eq_true, pairLe_iff, pairLe_iff]
  by_cases h : a.1 = b.1
  · exact (String.le_total a.2 b.2).imp (fun k => .inr ⟨h, k⟩) fun k => .inr ⟨h.symm, k⟩
  · by_cases k : a.1 < b.1
    · exact .inl (.inl k)
    · have hne : b.1 ≠ a.1 := fun e => h e.symm
      exact .inr (.inl (String.not_le.1 fun hab => hne (String.le_antisymm (String.not_lt.1 k) hab)))

theorem pairLe_antisymm {a b : String × String} (hab : pairLe a b = true) (hba : pairLe b a = true) :
    a = b := by
  rcases pairLe_iff.1 hab with h | ⟨h, h'⟩ <;> rcases pairLe_iff.1 hba with k | ⟨k, k'⟩
  · exact absurd k (String.lt_asymm h)
  · exact absurd h (k ▸ String.lt_irrefl _)
  · exact absurd k (h ▸ String.lt_irrefl _)
  · exact Prod.ext h (String.le_antisymm h' k')

/-- Pairs in order that differ are strictly in order. -/
theorem pairLt_of_pairLe {a b : String × String} (h : pairLe a b = true) (hne : a ≠ b) :
    PairLt a b := by
  rcases pairLe_iff.1 h with h | ⟨h, h'⟩
  · exact .inl h
  · refine .inr ⟨h, String.not_le.1 fun hba => hne ?_⟩
    exact Prod.ext h (String.le_antisymm h' hba)

/-- Entries sorted by a key that is a pair of texts are in ascending order of it. -/
theorem pairwise_mergeSort_pair {α : Type} (key : α → String × String) (l : List α) :
    (l.mergeSort fun a b => pairLe (key a) (key b)).Pairwise fun a b =>
      pairLe (key a) (key b) = true := by
  refine List.pairwise_mergeSort ?_ ?_ l
  · intro a b c
    exact pairLe_trans _ _ _
  · intro a b
    exact pairLe_total _ _

end Manifest

end Bindery
