import Bindery.Proofs.Text
/-!
Slices of texts by bytes. A text is cut at byte positions, and a cut is refused where it would be beyond
the end of the text or within a character. Positions come from the characters with the bytes at which
they begin; where a character or a tail begins is a place at which a text may be cut, and the slices
on both sides are what is before and behind it.
-/

namespace Bindery.Text

variable {p : Char → Bool} {c : Char} {cs a b : List Char} {i j n : Nat}

/-- The number of bytes of a text in UTF-8. -/
def byteLength (cs : List Char) : Nat := (String.ofList cs).utf8ByteSize

@[simp] theorem byteLength_nil : byteLength [] = 0 := rfl

@[simp] theorem byteLength_append (a b : List Char) :
    byteLength (a ++ b) = byteLength a + byteLength b := by
  simp [byteLength, String.ofList_append]

@[simp] theorem byteLength_singleton (c : Char) : byteLength [c] = c.utf8Size := by
  rw [byteLength, ← String.singleton_eq_ofList, String.utf8ByteSize_singleton]

@[simp] theorem byteLength_cons (c : Char) (cs : List Char) :
    byteLength (c :: cs) = c.utf8Size + byteLength cs := by
  rw [← List.singleton_append, byteLength_append, byteLength_singleton]

theorem byteLength_eq_zero : byteLength cs = 0 ↔ cs = [] := by
  cases cs with
  | nil => simp
  | cons c cs =>
    have hpos := c.utf8Size_pos
    simp
    omega

/-! ### Cuts -/

/-- A text cut in two behind its first `n` bytes, unless this is beyond its end or within a
character. -/
def cutAt? : Nat → List Char → Option (List Char × List Char)
  | 0, cs => some ([], cs)
  | _ + 1, [] => none
  | n + 1, c :: cs =>
    if c.utf8Size ≤ n + 1 then
      (cutAt? (n + 1 - c.utf8Size) cs).map fun (a, b) => (c :: a, b)
    else none

/-- A cut leaves what has the bytes in front of it, and the rest. -/
theorem cutAt?_eq_some : ∀ {cs a b : List Char} {n : Nat},
    cutAt? n cs = some (a, b) ↔ cs = a ++ b ∧ byteLength a = n
  | cs, a, b, 0 => by
    rw [cutAt?, byteLength_eq_zero]
    constructor
    · intro h
      cases h
      exact ⟨rfl, rfl⟩
    · rintro ⟨rfl, rfl⟩
      rfl
  | [], a, b, n + 1 => by
    rw [cutAt?]
    constructor
    · intro h
      cases h
    · rintro ⟨hnil, hlength⟩
      rw [(List.append_eq_nil_iff.1 hnil.symm).1] at hlength
      cases hlength
  | c :: cs, a, b, n + 1 => by
    have hpos := c.utf8Size_pos
    rw [cutAt?]
    constructor
    · intro h
      split at h
      · obtain ⟨⟨a', b'⟩, hcut, hab⟩ := Option.map_eq_some_iff.1 h
        obtain ⟨rfl, hlength⟩ := cutAt?_eq_some.1 hcut
        cases hab
        refine ⟨rfl, ?_⟩
        rw [byteLength_cons]
        omega
      · cases h
    · rintro ⟨hwhole, hlength⟩
      cases a with
      | nil => cases hlength
      | cons d a =>
        obtain ⟨rfl, hrest⟩ := List.cons.inj hwhole
        rw [byteLength_cons] at hlength
        have hcut : cutAt? (n + 1 - c.utf8Size) cs = some (a, b) :=
          cutAt?_eq_some.2 ⟨hrest, by omega⟩
        rw [if_pos (by omega), hcut]
        rfl

/-- The part of a text from byte `i` up to byte `j`, unless one of them is beyond its end or within a
character, or they are in the wrong order. -/
def slice? (i j : Nat) (cs : List Char) : Option (List Char) := do
  let (front, _) ← cutAt? j cs
  let (_, part) ← cutAt? i front
  return part

theorem slice?_eq_some : slice? i j cs = some b ↔
    ∃ a c, cs = a ++ b ++ c ∧ byteLength a = i ∧ byteLength (a ++ b) = j := by
  rw [slice?]
  constructor
  · intro h
    obtain ⟨⟨front, c⟩, hfront, h⟩ := Option.bind_eq_some_iff.1 h
    obtain ⟨⟨a, part⟩, hpart, h⟩ := Option.bind_eq_some_iff.1 h
    cases h
    obtain ⟨rfl, hj⟩ := cutAt?_eq_some.1 hfront
    obtain ⟨rfl, hi⟩ := cutAt?_eq_some.1 hpart
    exact ⟨a, c, rfl, hi, hj⟩
  · rintro ⟨a, c, rfl, hi, hj⟩
    have hfront : cutAt? j (a ++ b ++ c) = some (a ++ b, c) := cutAt?_eq_some.2 ⟨rfl, hj⟩
    have hpart : cutAt? i (a ++ b) = some (a, b) := cutAt?_eq_some.2 ⟨rfl, hi⟩
    simp only [hfront, hpart, Option.bind_eq_bind, Option.bind_some]
    rfl

/-- The difference of two numbers of bytes, unless it is below zero. -/
def minus? (m n : Nat) : Option Nat := if n ≤ m then some (m - n) else none

theorem minus?_add (m n : Nat) : minus? (m + n) n = some m := by
  rw [minus?, if_pos (Nat.le_add_left n m), Nat.add_sub_cancel]

/-! ### Positions -/

/-- The characters of a text with the bytes at which they begin, the first of them at byte `i`. -/
def charIndices : Nat → List Char → List (Nat × Char)
  | _, [] => []
  | i, c :: cs => (i, c) :: charIndices (i + c.utf8Size) cs

theorem charIndices_append : ∀ (i : Nat) (a b : List Char),
    charIndices i (a ++ b) = charIndices i a ++ charIndices (i + byteLength a) b
  | i, [], b => by simp [charIndices]
  | i, c :: a, b => by
    rw [List.cons_append, charIndices, charIndices_append, charIndices, byteLength_cons, Nat.add_assoc,
      List.cons_append]

theorem snd_mem_of_mem_charIndices : ∀ {cs : List Char} {i : Nat} {e : Nat × Char},
    e ∈ charIndices i cs → e.2 ∈ cs
  | c :: cs, i, e, h => by
    rcases List.mem_cons.1 h with rfl | h
    · exact List.mem_cons_self
    · exact List.mem_cons_of_mem _ (snd_mem_of_mem_charIndices h)

/-- The byte at which a character first stands. -/
def indexOf? (c : Char) (cs : List Char) : Option Nat :=
  ((charIndices 0 cs).find? fun e => e.2 = c).map (·.1)

/-- A character first stands behind the text before its first occurrence. -/
theorem indexOf?_eq (c : Char) (cs : List Char) :
    indexOf? c cs = (splitAtFirst c cs).map fun (a, _) => byteLength a := by
  have hfrom : ∀ (cs : List Char) (i : Nat),
      ((charIndices i cs).find? fun e => e.2 = c).map (·.1) =
        (splitAtFirst c cs).map fun (a, _) => i + byteLength a := by
    intro cs
    induction cs with
    | nil => exact fun _ => rfl
    | cons d ds ih =>
      intro i
      rw [charIndices, splitAtFirst, List.find?_cons]
      by_cases h : d = c
      · simp [h]
      · simp [h, ih, Nat.add_assoc, Function.comp_def]
  rw [indexOf?, hfrom]
  simp

/-- The byte at which the longest tail begins on which `p` holds: that of the last character met when
the text is read from behind while `p` holds, or the end of the text. -/
def tailIndex (p : Char → Bool) (cs : List Char) : Nat :=
  (((charIndices 0 cs).reverse.takeWhile fun e => p e.2).getLast?.map (·.1)).getD (byteLength cs)

/-- A tail begins behind what is left without it. -/
theorem tailIndex_eq (p : Char → Bool) (cs : List Char) :
    tailIndex p cs = byteLength (dropTail p cs) := by
  have hwhole := dropTail_append_takeTail p cs
  generalize hfront : dropTail p cs = front at hwhole
  generalize htail : takeTail p cs = tail at hwhole
  have hall : ∀ e ∈ (charIndices (0 + byteLength front) tail).reverse, p e.2 = true := by
    intro e he
    exact mem_takeTail (htail ▸ snd_mem_of_mem_charIndices (List.mem_reverse.1 he))
  have hstop : (charIndices 0 front).reverse.takeWhile (fun e => p e.2) = [] := by
    rcases List.eq_nil_or_concat front with rfl | ⟨ds, d, rfl⟩
    · rfl
    · have hd : p d = false := getLast?_dropTail p cs d (by simp [hfront])
      rw [List.concat_eq_append, charIndices_append, List.reverse_append, charIndices, charIndices,
        List.reverse_singleton, List.singleton_append, List.takeWhile_cons_of_neg (by simp [hd])]
  rw [tailIndex, ← hwhole, charIndices_append, List.reverse_append,
    List.takeWhile_append_of_pos hall, hstop, List.append_nil, List.getLast?_reverse]
  cases tail with
  | nil => simp [charIndices]
  | cons c tail => simp [charIndices]

/-! ### Slices at positions -/

/-- A text can be cut where a tail begins: behind the cut is the tail. -/
theorem slice?_tail (p : Char → Bool) (cs : List Char) :
    slice? (tailIndex p cs) (byteLength cs) cs = some (takeTail p cs) := by
  have hwhole := dropTail_append_takeTail p cs
  rw [slice?_eq_some]
  exact ⟨dropTail p cs, [], by rw [hwhole, List.append_nil], (tailIndex_eq p cs).symm, by rw [hwhole]⟩

/-- In front of the cut is what is left without the tail. -/
theorem slice?_front (a b : List Char) : slice? 0 (byteLength a) (a ++ b) = some a :=
  slice?_eq_some.2 ⟨[], b, rfl, rfl, rfl⟩

theorem slice?_middle (a b c : List Char) :
    slice? (byteLength a) (byteLength a + byteLength b) (a ++ b ++ c) = some b :=
  slice?_eq_some.2 ⟨a, c, rfl, rfl, byteLength_append a b⟩

end Bindery.Text
