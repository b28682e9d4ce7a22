import Bindery.Entry.TypeEntry
/-!
Types by name. A type map holds at most one entry for each name. Its entries come in some order, on
which nothing that is generated depends; `sorted` gives them by name.
-/

namespace Bindery

/-- Types by name. -/
structure TypeMap where
  entries : List TypeEntry
  /-- No two entries have the same name. -/
  nodup : (entries.map (·.name)).Nodup := by simp

namespace TypeMap

/-- The map without entries. -/
def empty : TypeMap := ⟨[], by simp⟩

instance : Inhabited TypeMap := ⟨empty⟩

/-- The entry called `name`. -/
def get? (m : TypeMap) (name : String) : Option TypeEntry := m.entries.find? fun t => t.name = name

def contains (m : TypeMap) (name : String) : Bool := (m.get? name).isSome

def size (m : TypeMap) : Nat := m.entries.length

def isEmpty (m : TypeMap) : Bool := m.entries.isEmpty

/-- The names, in the order of the entries. -/
def names (m : TypeMap) : List String := m.entries.map (·.name)

theorem names_upsertBy (t : TypeEntry) : ∀ ts : List TypeEntry,
    (TypeEntry.upsertBy (·.name) t ts).map (·.name) =
      if t.name ∈ ts.map (·.name) then ts.map (·.name) else ts.map (·.name) ++ [t.name]
  | [] => by simp [TypeEntry.upsertBy]
  | u :: ts => by
    by_cases h : u.name = t.name
    · simp [TypeEntry.upsertBy, h]
    · rw [TypeEntry.upsertBy, if_neg h, List.map_cons, names_upsertBy t ts]
      have h' : t.name ≠ u.name := fun e => h e.symm
      split <;> simp_all

/-- Insert an entry, in place of the one with its name. -/
def insert (m : TypeMap) (t : TypeEntry) : TypeMap where
  entries := TypeEntry.upsertBy (·.name) t m.entries
  nodup := by
    rw [names_upsertBy]
    split
    · exact m.nodup
    · rename_i h
      rw [List.nodup_append]
      refine ⟨m.nodup, by simp, ?_⟩
      intro a ha b hb e
      rw [List.mem_singleton] at hb
      exact h (hb ▸ e ▸ ha)

@[simp] theorem get?_empty (name : String) : empty.get? name = none := rfl

theorem find?_upsertBy (t : TypeEntry) (name : String) : ∀ ts : List TypeEntry,
    (TypeEntry.upsertBy (·.name) t ts).find? (fun u => u.name = name) =
      if t.name = name then some t else ts.find? fun u => u.name = name
  | [] => by
    by_cases h : t.name = name <;> simp [TypeEntry.upsertBy, h]
  | u :: ts => by
    by_cases hu : u.name = t.name
    · by_cases h : t.name = name <;> simp [TypeEntry.upsertBy, hu, h]
    · have ih := find?_upsertBy t name ts
      rw [TypeEntry.upsertBy, if_neg hu, List.find?_cons, List.find?_cons, ih]
      by_cases h : u.name = name
      · simp [h, show t.name ≠ name from fun e => hu (h.trans e.symm)]
      · simp [h]

/-- Inserting an entry changes what is found under its name only. -/
theorem get?_insert (m : TypeMap) (t : TypeEntry) (name : String) :
    (m.insert t).get? name = if t.name = name then some t else m.get? name :=
  find?_upsertBy t name m.entries

/-- The map of a list of entries, in which a later entry replaces an earlier one of its name. -/
def ofList (ts : List TypeEntry) : TypeMap := ts.foldl insert empty

/-- The entries whose names satisfy `p`. -/
def filter (m : TypeMap) (p : String → Bool) : TypeMap where
  entries := m.entries.filter fun t => p t.name
  nodup := m.nodup.sublist (List.filter_sublist.map _)

/-- The entries in ascending order of their names. -/
def sorted (m : TypeMap) : List TypeEntry := m.entries.mergeSort fun a b => a.name ≤ b.name

/-- The names in ascending order. -/
def sortedNames (m : TypeMap) : List String := m.names.mergeSort fun a b => a ≤ b

/-- Whether two maps have the same names, with the same metadata for each of them. -/
def sameMetadata (m n : TypeMap) : Bool :=
  m.size = n.size && m.entries.all fun t =>
    match n.get? t.name with
    | some u => t.sameMetadata u
    | none => false

end TypeMap

end Bindery
