import Bindery.TypeMap
import Mathlib.Data.List.Nodup
import Mathlib.Data.List.Perm.Basic
/-!
What a type map holds. Looking up a name gives the entry called so, and there is at most one; so two
maps in which every look-up gives the same have the same entries, in some order. An entry that is
inserted takes the place of the one called so.
-/

namespace Bindery.TypeMap

variable {m n : TypeMap} {t : TypeEntry} {name : String}

theorem get?_eq_some : m.get? name = some t ↔ t ∈ m.entries ∧ t.name = name := by
  have hfound {u : TypeEntry} (h : m.get? name = some u) : u ∈ m.entries ∧ u.name = name :=
    ⟨List.mem_of_find?_eq_some h, by simpa using List.find?_some h⟩
  refine ⟨hfound, ?_⟩
  rintro ⟨ht, hname⟩
  cases h : m.get? name with
  | none => exact absurd hname (by simpa using List.find?_eq_none.1 h t ht)
  | some u =>
    obtain ⟨hu, huname⟩ := hfound h
    rw [List.inj_on_of_nodup_map m.nodup hu ht (huname.trans hname.symm)]

theorem get?_name (ht : t ∈ m.entries) : m.get? t.name = some t := get?_eq_some.2 ⟨ht, rfl⟩

theorem name_of_get? (h : m.get? name = some t) : t.name = name := (get?_eq_some.1 h).2

theorem mem_entries : t ∈ m.entries ↔ m.get? t.name = some t := by simp [get?_eq_some]

theorem mem_names : name ∈ m.names ↔ (m.get? name).isSome = true := by
  rw [names, List.mem_map, Option.isSome_iff_exists]
  exact exists_congr fun t => get?_eq_some.symm

theorem entries_nodup (m : TypeMap) : m.entries.Nodup := .of_map _ m.nodup

/-- A map is known by its look-ups, up to the order of its entries. -/
theorem perm_of_get?_eq (h : ∀ name, m.get? name = n.get? name) : m.entries.Perm n.entries := by
  rw [List.perm_ext_iff_of_nodup m.entries_nodup n.entries_nodup]
  intro t
  rw [mem_entries, mem_entries, h]

/-- Of a list without repeated keys, inserting an element of a key that is there replaces the element
of this key. -/
theorem upsertBy_eq_map {α : Type} {key : α → String} {a : α} : ∀ {bs : List α},
    (bs.map key).Nodup → key a ∈ bs.map key →
      TypeEntry.upsertBy key a bs = bs.map fun b => if key b = key a then a else b
  | b :: bs, hnodup, hmem => by
    obtain ⟨hb, hbs⟩ := List.nodup_cons.1 hnodup
    rw [TypeEntry.upsertBy, List.map_cons]
    by_cases e : key b = key a
    · have hrest : ∀ c ∈ bs, (if key c = key a then a else c) = c := by
        intro c hc
        refine if_neg fun hca => hb ?_
        rw [e, ← hca]
        exact List.mem_map_of_mem hc
      rw [if_pos e, if_pos e, List.map_congr_left hrest, List.map_id']
    · have hmem : key a ∈ bs.map key := (List.mem_cons.1 hmem).resolve_left (Ne.symm e)
      rw [if_neg e, if_neg e, upsertBy_eq_map hbs hmem]

/-- Inserting an entry of a name that is there replaces the entry of this name. -/
theorem entries_insert (h : t.name ∈ m.names) :
    (m.insert t).entries = m.entries.map fun u => if u.name = t.name then t else u :=
  upsertBy_eq_map m.nodup h

end Bindery.TypeMap
