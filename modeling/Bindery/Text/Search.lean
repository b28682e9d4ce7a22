/-!
Looking for a text inside another one.
-/

namespace Bindery.Text

/-- Whether `part` occurs somewhere in a list of characters. -/
def occursIn (part : List Char) : List Char → Bool
  | [] => part.isEmpty
  | c :: cs => part.isPrefixOf (c :: cs) || occursIn part cs

/-- Whether `part` occurs somewhere in a string. -/
def contains (s part : String) : Bool := occursIn part.toList s.toList

/-- What precedes the first occurrence of `c`, and what follows it. -/
def splitAtFirst (c : Char) : List Char → Option (List Char × List Char)
  | [] => none
  | d :: ds => if d = c then some ([], ds) else (splitAtFirst c ds).map fun (a, b) => (d :: a, b)

theorem splitAtFirst_eq_some {c : Char} : ∀ {cs a b : List Char},
    splitAtFirst c cs = some (a, b) → cs = a ++ c :: b ∧ c ∉ a
  | [], _, _, h => by simp [splitAtFirst] at h
  | d :: ds, a, b, h => by
    rw [splitAtFirst] at h
    split at h
    · rename_i e
      simp only [Option.some.injEq, Prod.mk.injEq] at h
      simp [← h.1, ← h.2, e]
    · rename_i e
      obtain ⟨⟨a', b'⟩, h', e'⟩ := Option.map_eq_some_iff.1 h
      simp only [Prod.mk.injEq] at e'
      have := splitAtFirst_eq_some h'
      refine ⟨by rw [← e'.1, ← e'.2, List.cons_append, ← this.1], ?_⟩
      rw [← e'.1, List.mem_cons, not_or]
      exact ⟨fun x => e x.symm, this.2⟩

end Bindery.Text
