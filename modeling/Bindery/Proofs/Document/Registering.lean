import Bindery.Proofs.Document.Reading
import Bindery.Proofs.Registry.History
import Bindery.Proofs.Sorting
/-!
Registering a document. In a new registry, which has no shells, each type of a document takes the place
of the earlier one of its name, so the registry holds the last type of each name; the document of that
registry has them in the order of their names. A registry that came about by registrations has no type
without a name, and at most one of each, so its document makes the same registry again.
-/

namespace Bindery

variable {ts : List TypeEntry} {t : TypeEntry} {name : String}

/-! ### Last entries -/

namespace TypeEntry

/-- The last entry of each name, in their order. -/
def lastOfEach : List TypeEntry → List TypeEntry
  | [] => []
  | t :: ts => if t.name ∈ ts.map (·.name) then lastOfEach ts else t :: lastOfEach ts

theorem names_lastOfEach : ∀ {ts : List TypeEntry},
    name ∈ (lastOfEach ts).map (·.name) ↔ name ∈ ts.map (·.name)
  | [] => .rfl
  | t :: ts => by
    rw [lastOfEach, List.map_cons, List.mem_cons]
    split
    · rename_i hlater
      rw [names_lastOfEach, or_iff_right_of_imp]
      rintro rfl
      exact hlater
    · rw [List.map_cons, List.mem_cons, names_lastOfEach]

theorem lastOfEach_nodup : ∀ ts : List TypeEntry, ((lastOfEach ts).map (·.name)).Nodup
  | [] => .nil
  | t :: ts => by
    rw [lastOfEach]
    split
    · exact lastOfEach_nodup ts
    · rename_i hlast
      exact List.nodup_cons.2 ⟨mt names_lastOfEach.1 hlast, lastOfEach_nodup ts⟩

/-- Entries with distinct names are the last ones of their names. -/
theorem lastOfEach_of_nodup (h : (ts.map (·.name)).Nodup) : lastOfEach ts = ts := by
  induction ts with
  | nil => rfl
  | cons t ts ih =>
    obtain ⟨hfresh, hts⟩ := List.nodup_cons.1 h
    rw [lastOfEach, if_neg hfresh, ih hts]

/-- A change that keeps names keeps which entries are the last ones. -/
theorem lastOfEach_map {f : TypeEntry → TypeEntry} (hf : ∀ t, (f t).name = t.name) :
    ∀ ts, lastOfEach (ts.map f) = (lastOfEach ts).map f
  | [] => rfl
  | t :: ts => by
    have hnames : (ts.map f).map (·.name) = ts.map (·.name) := by simp [hf]
    rw [List.map_cons, lastOfEach, lastOfEach, hf, hnames, lastOfEach_map hf ts]
    split <;> rfl

/-- Entries in the order of their names. -/
def byName (ts : List TypeEntry) : List TypeEntry := ts.mergeSort fun a b => a.name ≤ b.name

theorem byName_map {f : TypeEntry → TypeEntry} (hf : ∀ t, (f t).name = t.name)
    (ts : List TypeEntry) : byName (ts.map f) = (byName ts).map f :=
  (List.map_mergeSort fun a _ b _ => by simp [hf]).symm

end TypeEntry

open TypeEntry (lastOfEach byName)

/-- Inserting entries in turn leaves the last one of each name, and what was there under other
names. -/
theorem TypeMap.get?_foldl_insert (m : TypeMap) (ts : List TypeEntry) (name : String) :
    (ts.foldl TypeMap.insert m).get? name =
      ((lastOfEach ts).find? fun t => t.name = name).or (m.get? name) := by
  induction ts generalizing m with
  | nil => rfl
  | cons t ts ih =>
    rw [List.foldl_cons, ih, TypeMap.get?_insert, lastOfEach]
    by_cases hlater : t.name ∈ ts.map (·.name)
    · rw [if_pos hlater]
      by_cases hname : t.name = name
      · obtain ⟨u, hu, huname⟩ := List.mem_map.1 (TypeEntry.names_lastOfEach.2 hlater)
        have hfound : ((lastOfEach ts).find? fun t => t.name = name).isSome = true :=
          List.find?_isSome.2 ⟨u, hu, by simpa using huname.trans hname⟩
        rw [Option.or_of_isSome hfound, Option.or_of_isSome hfound]
      · rw [if_neg hname]
    · rw [if_neg hlater]
      by_cases hname : t.name = name
      · have hmissing : ((lastOfEach ts).find? fun t => t.name = name) = none := by
          refine List.find?_eq_none.2 fun u hu huname => hlater ?_
          rw [hname, ← of_decide_eq_true huname, ← TypeEntry.names_lastOfEach]
          exact List.mem_map_of_mem hu
        simp [hname, hmissing]
      · simp [hname]

/-- The map of a list of entries, sorted, has the last entry of each name. -/
theorem TypeMap.sorted_ofList (ts : List TypeEntry) :
    (TypeMap.ofList ts).sorted = byName (lastOfEach ts) := by
  have hget (name : String) : (TypeMap.ofList ts).get? name =
      TypeMap.get? ⟨lastOfEach ts, TypeEntry.lastOfEach_nodup ts⟩ name :=
    (TypeMap.get?_foldl_insert .empty ts name).trans Option.or_none
  exact mergeSort_text_eq_of_perm (·.name) (TypeMap.ofList ts).nodup (TypeMap.perm_of_get?_eq hget)

namespace Document

/-! ### New registries -/

theorem name_hostType (t : TypeEntry) : (hostType t).name = t.name := rfl

theorem erase_hostType (t : TypeEntry) : (hostType t).erase = t.erase := by
  have herase (f : FunctionEntry) : (hostFunction f).erase = f.erase := by
    rw [hostFunction]
    split <;> rfl
  simp [hostType, TypeEntry.erase, herase]

/-- A registry without shells takes each type as it is. -/
theorem registerTypes_eq (h : ∀ t ∈ ts, t.name ≠ "") (m : TypeMap) :
    registerTypes { types := m } ts =
      (.ok (), { types := (ts.map hostType).foldl TypeMap.insert m }) := by
  induction ts generalizing m with
  | nil => rfl
  | cons t ts ih =>
    obtain ⟨ht, hts⟩ := List.forall_mem_cons.1 h
    have hnext : registerNext { types := m } t = .ok { types := m.insert (hostType t) } := by
      rw [registerNext, Registry.registerType, name_hostType, if_neg ht]
      rfl
    rw [registerTypes, hnext]
    exact ih hts (m.insert (hostType t))

theorem registerInto_empty {d : Document} (h : ∀ t ∈ d.types, t.name ≠ "") :
    d.registerInto .empty =
      (.ok d.types.length, { types := .ofList (d.types.map hostType) }) := by
  rw [registerInto, Registry.empty, registerTypes_eq h]
  rfl

/-- The document of a new registry that a document was registered in has the last type of each
name. -/
theorem sameMetadata_registered (ts : List TypeEntry) :
    (ofRegistry { types := .ofList (ts.map hostType) }).sameMetadata
      { types := byName (lastOfEach ts) } = true := by
  have htypes : (ofRegistry { types := .ofList (ts.map hostType) }).types =
      (byName (lastOfEach ts)).map hostType :=
    calc (TypeMap.ofList (ts.map hostType)).sorted
        = byName (lastOfEach (ts.map hostType)) := TypeMap.sorted_ofList _
      _ = byName ((lastOfEach ts).map hostType) := by rw [TypeEntry.lastOfEach_map name_hostType]
      _ = (byName (lastOfEach ts)).map hostType := TypeEntry.byName_map name_hostType _
  rw [sameMetadata, erase, htypes]
  simp [erase, ofRegistry, Function.comp_def, erase_hostType]

/-! ### Documents of registries -/

theorem types_ofRegistry_ascending (r : Registry) :
    (ofRegistry r).types.Pairwise fun t u => t.name < u.name := by
  have hdistinct : (r.types.sorted.map (·.name)).Nodup :=
    (((List.mergeSort_perm _ _).map _).nodup_iff).2 r.types.nodup
  refine (pairwise_mergeSort_text (·.name) r.types.entries).imp₂ (fun t u hle hne => ?_)
    (List.pairwise_map.1 hdistinct)
  exact String.not_le.1 fun hge => hne (String.le_antisymm hle hge)

theorem mem_types_ofRegistry {r : Registry} :
    t ∈ (ofRegistry r).types ↔ r.lookup? t.name = some t := by
  rw [Registry.lookup?, ← TypeMap.mem_entries]
  exact List.mem_mergeSort

/-- No registration leaves a type without a name. -/
theorem lookup?_empty_name (history : List Registry.Action) :
    (Registry.after history).lookup? "" = none := by
  rw [(Registry.reflects_after history).lookup, Registry.entryOf_eq_none, Registry.relevant,
    List.filter_eq_nil_iff]
  intro a ha
  have hclear := List.mem_rtakeWhile_imp ha
  cases a <;> simp_all [Registry.Action.concerns, Registry.Action.isAccepted,
    Registry.Action.touches, Registry.Action.isClear]

theorem ne_empty_of_mem_types {history : List Registry.Action}
    (h : t ∈ (ofRegistry (Registry.after history)).types) : t.name ≠ "" := by
  intro hname
  have hfound := mem_types_ofRegistry.1 h
  rw [hname, lookup?_empty_name] at hfound
  cases hfound

/-- The types in the document of a registry are the last ones of their names, in order. -/
theorem byName_types_ofRegistry (r : Registry) :
    byName (lastOfEach (ofRegistry r).types) = (ofRegistry r).types := by
  have hdistinct : ((ofRegistry r).types.map (·.name)).Nodup :=
    List.pairwise_map.2 ((types_ofRegistry_ascending r).imp String.ne_of_lt)
  rw [TypeEntry.lastOfEach_of_nodup hdistinct]
  exact mergeSort_text_eq_of_perm TypeEntry.name hdistinct (List.mergeSort_perm _ _)

theorem sameMetadata_erase (d : Document) : d.erase.sameMetadata d = true := by
  have hfunction (f : FunctionEntry) : f.erase.erase = f.erase := rfl
  have hproperty (p : PropertyEntry) : p.erase.erase = p.erase := rfl
  have htype (t : TypeEntry) : t.erase.erase = t.erase := by
    simp [TypeEntry.erase, hfunction, hproperty]
  simp [sameMetadata, erase, htype]

/-- A document is read back with its metadata. The document of a registry that registrations led to
lists its types in strictly ascending order, and makes a registry of the same document. Registering a
document whose types have names makes a registry whose document has the last type of each name. -/
theorem round_trips :
    (∀ d : Document, (∀ s ∈ d.semanticTypes, s.HasLabel) →
      ∃ e, Document.read? d.render = some e ∧ e.sameMetadata d = true) ∧
    (∀ history,
      let r := Registry.after history
      let d := ofRegistry r
      d.types.Pairwise (fun t u => t.name < u.name) ∧
      (∀ t, t ∈ d.types ↔ r.lookup? t.name = some t) ∧
      ∃ r', d.registerInto .empty = (.ok r.size, r') ∧ (ofRegistry r').sameMetadata d = true) ∧
    ∀ d : Document, (∀ t ∈ d.types, t.name ≠ "") →
      ∃ r', d.registerInto .empty = (.ok d.types.length, r') ∧
        (ofRegistry r').sameMetadata { types := byName (lastOfEach d.types) } = true := by
  refine ⟨fun d h => ?_, fun history => ?_, fun d h => ?_⟩
  · exact ⟨d.erase, read?_render h, sameMetadata_erase d⟩
  · refine ⟨types_ofRegistry_ascending _, fun t => mem_types_ofRegistry, ?_⟩
    have hregistered := registerInto_empty (d := ofRegistry (Registry.after history))
      fun t ht => ne_empty_of_mem_types ht
    have hsize : (ofRegistry (Registry.after history)).types.length =
        (Registry.after history).size := List.length_mergeSort _
    have hsame := sameMetadata_registered (ofRegistry (Registry.after history)).types
    rw [byName_types_ofRegistry] at hsame
    rw [hsize] at hregistered
    exact ⟨_, hregistered, hsame⟩
  · exact ⟨_, registerInto_empty h, sameMetadata_registered d.types⟩

/-- A document that states the type Widget twice, the second time with a function that is not
exported and a property without a default value. -/
def widgets : Document where
  types := [
    { name := "Widget", kind := .object, functions := [{ name := "paint" }] },
    { name := "Shape", kind := .enum, enumerators := [⟨"Round", -1⟩] },
    { name := "Widget", kind := .object, doc := "Second.",
      properties := [{ name := "shape", type := .enum "Shape" }],
      functions := [{ name := "reset", exported := false, callable? := some .host }] }]

theorem round_trips_widgets :
    ((∀ s ∈ widgets.semanticTypes, s.HasLabel) ∧ ∀ t ∈ widgets.types, t.name ≠ "") ∧
      (∃ e, Document.read? widgets.render = some e ∧ e.sameMetadata widgets = true) ∧
      ∃ r', widgets.registerInto .empty = (.ok 3, r') ∧
        (ofRegistry r').sameMetadata { types := byName (lastOfEach widgets.types) } = true := by
  have hlabels : ∀ s ∈ widgets.semanticTypes, s.HasLabel := by decide
  have hnames : ∀ t ∈ widgets.types, t.name ≠ "" := by decide
  exact ⟨⟨hlabels, hnames⟩, round_trips.1 widgets hlabels, round_trips.2.2 widgets hnames⟩

end Document

end Bindery
