import Bindery.Proofs.Manifest.Account
import Bindery.Proofs.Types
/-!
What is left out of a manifest leaves nothing else behind. A function that cannot be bound, or that
gives way to another one of its symbol, could as well not be there: without it the manifest is the same
and only its error is missing. A type of an unknown kind contributes an error about its kind, whatever
it has besides the labels that decide this. Replacing an entry by one with the same labels changes what
this entry contributes and nothing else, since other functions see no more of it than its name and its
kind. A stable sort without one of its entries is the same sort without it, and keeping the first of
each symbol passes over one that is not the first.
-/

namespace Bindery

namespace TypeEntry

/-- Whether two entries have the same name, kind, file stem and subject kind. -/
structure SameLabels (t t' : TypeEntry) : Prop where
  name : t'.name = t.name
  kind : t'.kind = t.kind
  fileStem : t'.fileStem = t.fileStem
  subjectKind? : t'.subjectKind? = t.subjectKind?

theorem SameLabels.module {t t' : TypeEntry} (h : t.SameLabels t') : t'.module = t.module := by
  rw [TypeEntry.module, TypeEntry.module, h.fileStem, h.name]

/-- The functions without the one at a position among those that are exported. -/
def eraseExported : List FunctionEntry → Nat → List FunctionEntry
  | [], _ => []
  | f :: fs, i =>
    if f.exported then
      match i with
      | 0 => fs
      | i + 1 => f :: eraseExported fs i
    else f :: eraseExported fs i

/-- The exported functions lose the one at the position. -/
theorem filter_eraseExported : ∀ (fs : List FunctionEntry) (i : Nat),
    (eraseExported fs i).filter (·.exported) = (fs.filter (·.exported)).eraseIdx i
  | [], _ => rfl
  | f :: fs, i => by
    by_cases hf : f.exported = true
    · cases i with
      | zero => simp [eraseExported, hf]
      | succ i => simp [eraseExported, hf, filter_eraseExported fs i]
    · simp [eraseExported, hf, filter_eraseExported fs i]

/-- The entry without the function at a position among those that are exported. -/
def withoutExported (t : TypeEntry) (i : Nat) : TypeEntry :=
  { t with functions := eraseExported t.functions i }

theorem sameLabels_withoutExported (t : TypeEntry) (i : Nat) :
    t.SameLabels (t.withoutExported i) := ⟨rfl, rfl, rfl, rfl⟩

theorem exportedFunctions_withoutExported (t : TypeEntry) (i : Nat) :
    (t.withoutExported i).exportedFunctions = t.exportedFunctions.eraseIdx i :=
  filter_eraseExported t.functions i

end TypeEntry

namespace Manifest

/-- The types without one occurrence of a function. -/
def Occurrence.removedFrom (o : Occurrence) (types : TypeMap) : TypeMap :=
  types.insert (o.owner.withoutExported o.position)

variable {types : TypeMap} {catalog : Catalog} {t t' : TypeEntry} {o p : Occurrence}
  {b : FunctionBinding}

/-! ### Replacing an entry -/

section Replacing

variable (ht : t ∈ types.entries) (h : t.SameLabels t')
include ht h

theorem spelling?_insert :
    (CTypes.ofTypes (types.insert t')).spelling? = (CTypes.ofTypes types).spelling? := by
  refine CTypes.spelling?_congr (fun name => ?_) rfl
  rw [CTypes.ofTypes, CTypes.ofTypes, TypeMap.get?_insert]
  split
  · rename_i e
    rw [← e, h.name, TypeMap.get?_name ht, Option.map_some, Option.map_some, h.kind]
  · rfl

theorem sortedTypes_insert :
    sortedTypes (types.insert t') =
      (sortedTypes types).map fun u => if u.name = t'.name then t' else u := by
  have hname : t'.name ∈ types.names := h.name ▸ List.mem_map_of_mem ht
  have hkey : ∀ u ∈ types.entries, (if u.name = t'.name then t' else u).module = u.module ∧
      (if u.name = t'.name then t' else u).name = u.name := by
    intro u hu
    split
    · rename_i e
      obtain rfl : u = t := eq_of_name hu ht (e.trans h.name)
      exact ⟨h.module, h.name⟩
    · exact ⟨rfl, rfl⟩
  rw [sortedTypes, sortedTypes, TypeMap.entries_insert hname]
  refine (List.map_mergeSort fun u hu v hv => ?_).symm
  rw [(hkey u hu).1, (hkey u hu).2, (hkey v hv).1, (hkey v hv).2]

omit ht h in
/-- What a type contributes depends on how types are spelled, not on other registered types. -/
theorem contribution_congr {ctypes ctypes' : CTypes}
    (hspelling : ctypes'.spelling? = ctypes.spelling?) :
    contribution catalog ctypes' = contribution catalog ctypes := by
  funext t
  rw [contribution, contribution]
  simp only [bindFunction_congr hspelling rfl rfl]

/-- Replacing an entry changes what it contributes in its place, after what the types before it
contribute. -/
theorem contributions_insert (catalog : Catalog) : ∃ before after,
    contributions types catalog = before ++ contribution catalog (.ofTypes types) t :: after ∧
    contributions (types.insert t') catalog =
      before ++ contribution catalog (.ofTypes types) t' :: after ∧
    ∀ u ∈ types.entries, PairLt (u.module, u.name) (t.module, t.name) →
      contribution catalog (.ofTypes types) u ∈ before := by
  obtain ⟨ts, us, hsplit⟩ := List.append_of_mem (mem_sortedTypes.2 ht)
  have hascending := @sortedTypes_ascending types
  have hnames := sortedTypes_names_nodup types
  rw [hsplit, List.pairwise_append] at hascending
  rw [hsplit, List.map_append, List.map_cons, List.nodup_middle, List.nodup_cons, List.mem_append,
    not_or] at hnames
  have hkeep {vs : List TypeEntry} (hvs : t.name ∉ vs.map (·.name)) :
      vs.map (fun u => if u.name = t'.name then t' else u) = vs := by
    refine (List.map_congr_left fun u hu => if_neg fun e => hvs ?_).trans (List.map_id' vs)
    exact h.name ▸ e ▸ List.mem_map_of_mem hu
  refine ⟨ts.map (contribution catalog (.ofTypes types)), us.map (contribution catalog (.ofTypes types)),
    ?_, ?_, fun u hu hbefore => List.mem_map_of_mem ?_⟩
  · rw [contributions, hsplit, List.map_append, List.map_cons]
  · rw [contributions, sortedTypes_insert ht h, hsplit, List.map_append, List.map_cons,
      hkeep hnames.1.1, hkeep hnames.1.2, if_pos h.name.symm, List.map_append, List.map_cons,
      contribution_congr (spelling?_insert ht h)]
  · have hu := mem_sortedTypes.2 hu
    rw [hsplit, List.mem_append, List.mem_cons] at hu
    rcases hu with hu | rfl | hu
    · exact hu
    · exact absurd hbefore hbefore.asymm
    · exact absurd hbefore ((List.pairwise_cons.1 hascending.2.1).1 u hu).asymm

end Replacing

/-- Whatever a type of an unknown kind has besides its labels does not matter. -/
theorem build_insert_unknown (ht : t ∈ types.entries) (hkind : catalog.resolve? t.subjectKind? = none)
    (h : t.SameLabels t') : build (types.insert t') catalog = build types catalog := by
  obtain ⟨before, after, hwith, hinsert, -⟩ := contributions_insert ht h catalog
  have hsame : contribution catalog (.ofTypes types) t' = contribution catalog (.ofTypes types) t := by
    rw [contribution_of_unknown (h.subjectKind? ▸ hkind), contribution_of_unknown hkind, h.name,
      h.subjectKind?]
  rw [build, build, hinsert, hsame, hwith]

/-! ### Removing an occurrence -/

/-- The functions of a type are bound without the removed one, and those before it still come first. -/
theorem candidates_removed (ho : o ∈ occurrences types catalog) : ∃ fs gs,
    candidates o.owner = fs ++ o.function :: gs ∧
    candidates (o.owner.withoutExported o.position) = fs ++ gs ∧
    ∀ p ∈ occurrences types catalog, p.owner = o.owner → p.Before o → p.function ∈ fs := by
  obtain ⟨-, hbinds, hget⟩ := mem_occurrences.1 ho
  have hkind : o.owner.kind ≠ .enum := by
    rw [bindsFunctions, Bool.and_eq_true, decide_eq_true_iff] at hbinds
    exact hbinds.2
  obtain ⟨hlt, hget⟩ := List.getElem?_eq_some_iff.1 hget
  obtain ⟨fs, gs, hwith, hwithout, hbefore⟩ :=
    mergeSort_text_without FunctionEntry.name o.owner.exportedFunctions hlt
  rw [hget] at hwith hbefore
  refine ⟨fs, gs, ?_, ?_, ?_⟩
  · rw [candidates, if_neg hkind, hwith]
  · rw [candidates, TypeEntry.exportedFunctions_withoutExported]
    exact (if_neg hkind).trans hwithout
  · intro p hp howner hpo
    obtain ⟨-, -, hpget⟩ := mem_occurrences.1 hp
    rw [howner] at hpget
    obtain ⟨hplt, hpget⟩ := List.getElem?_eq_some_iff.1 hpget
    rw [← hpget]
    refine hbefore p.position hplt ?_
    rw [hpget]
    rcases hpo with hpo | ⟨-, hpo⟩
    · rw [howner] at hpo
      exact absurd hpo hpo.asymm
    · exact hpo

/-- What a type contributes without an occurrence: what the occurrence comes to is missing. -/
theorem contribution_removed (ho : o ∈ occurrences types catalog) : ∃ fs gs es es',
    (contribution catalog (.ofTypes types) o.owner).functions =
        fs ++ (partition [o.bound types catalog]).1 ++ gs ∧
    (contribution catalog (.ofTypes types) o.owner).errors =
        es ++ (partition [o.bound types catalog]).2 ++ es' ∧
    contribution catalog (.ofTypes types) (o.owner.withoutExported o.position) =
      { contribution catalog (.ofTypes types) o.owner with functions := fs ++ gs, errors := es ++ es' } ∧
    ∀ p ∈ occurrences types catalog, p.owner = o.owner → p.Before o →
      ∀ c, p.bound types catalog = .ok c → c ∈ fs := by
  obtain ⟨-, hbinds, -⟩ := mem_occurrences.1 ho
  obtain ⟨kind, hkind⟩ : ∃ kind, catalog.resolve? o.owner.subjectKind? = some kind := by
    rw [bindsFunctions, Bool.and_eq_true] at hbinds
    exact Option.isSome_iff_exists.1 hbinds.1
  have hkind' : catalog.resolve? (o.owner.withoutExported o.position).subjectKind? = some kind := hkind
  obtain ⟨bind, hbind⟩ : ∃ bind, bindFunction catalog (.ofTypes types) o.owner kind = bind := ⟨_, rfl⟩
  have hbind' : bindFunction catalog (.ofTypes types) (o.owner.withoutExported o.position) kind = bind := by
    rw [← hbind]
    exact bindFunction_congr rfl rfl rfl
  have hbound {p : Occurrence} (hp : p.owner = o.owner) : p.bound types catalog = bind p.function := by
    rw [Occurrence.bound, hp, hkind, ← hbind]
  obtain ⟨fs, gs, hwith, hwithout, hearlier⟩ := candidates_removed ho
  have hparts : partition ((candidates o.owner).map bind) =
      ((partition (fs.map bind)).1 ++ (partition [o.bound types catalog]).1 ++
          (partition (gs.map bind)).1,
        (partition (fs.map bind)).2 ++ (partition [o.bound types catalog]).2 ++
          (partition (gs.map bind)).2) := by
    rw [hwith, List.append_cons, List.map_append, List.map_append, partition_append, partition_append,
      List.map_singleton, ← hbound rfl]
  rw [contribution_of_known hkind, contribution_of_known hkind', hbind, hbind', hparts, hwithout,
    List.map_append, partition_append]
  refine ⟨_, _, _, _, rfl, rfl, rfl, ?_⟩
  intro p hp howner hpo c hc
  rw [hbound howner] at hc
  exact mem_partition_ok.2 (hc ▸ List.mem_map_of_mem (hearlier p hp howner hpo))

/-- A function that can be bound is among those that its type contributes. -/
theorem mem_contribution (hp : p ∈ occurrences types catalog)
    (hb : p.bound types catalog = .ok b) :
    b ∈ (contribution catalog (.ofTypes types) p.owner).functions := by
  obtain ⟨-, hbinds, hget⟩ := mem_occurrences.1 hp
  rw [(contribution_eq p.owner).1, mem_partition_ok, ← hb]
  exact List.mem_map_of_mem (arrangedOf_perm.symm.subset (mem_occurrencesOf.2 ⟨hbinds, rfl, hget⟩))

/-- How what a manifest is made from changes when an occurrence is removed: what it comes to is
missing. -/
structure Removal (types types' : TypeMap) (catalog : Catalog) (o : Occurrence)
    (before after : List FunctionBinding) (errors errors' : List BindingError) : Prop where
  listed : typeBindings types' catalog = typeBindings types catalog
  bound : accepted types catalog = before ++ (partition [o.bound types catalog]).1 ++ after
  bound_without : accepted types' catalog = before ++ after
  refused : (contributions types catalog).flatMap (·.errors) =
    errors ++ (partition [o.bound types catalog]).2 ++ errors'
  refused_without : (contributions types' catalog).flatMap (·.errors) = errors ++ errors'
  /-- What comes before the occurrence still does. -/
  earlier : ∀ p ∈ occurrences types catalog, p.Before o →
    ∀ c, p.bound types catalog = .ok c → c ∈ before

theorem removal (ho : o ∈ occurrences types catalog) : ∃ before after errors errors',
    Removal types (o.removedFrom types) catalog o before after errors errors' := by
  obtain ⟨howner, -, -⟩ := mem_occurrences.1 ho
  obtain ⟨fs, gs, es, es', hfunctions, herrors, hwithout, hwithin⟩ := contribution_removed ho
  obtain ⟨cs, ds, hcontributions, hremoved, hacross⟩ := contributions_insert howner
    (TypeEntry.sameLabels_withoutExported o.owner o.position) catalog
  rw [hwithout] at hremoved
  refine ⟨cs.flatMap (·.functions) ++ fs, gs ++ ds.flatMap (·.functions),
    cs.flatMap (·.errors) ++ es, es' ++ ds.flatMap (·.errors), ?_⟩
  constructor
  case listed =>
    rw [typeBindings, typeBindings, hcontributions, Occurrence.removedFrom, hremoved]
    simp only [List.filterMap_append, List.filterMap_cons]
  case bound => simp [accepted, hcontributions, hfunctions]
  case bound_without => simp [accepted, Occurrence.removedFrom, hremoved]
  case refused => simp [hcontributions, herrors]
  case refused_without => simp [Occurrence.removedFrom, hremoved]
  case earlier =>
    intro p hp hpo c hc
    rw [List.mem_append]
    have hmem := (mem_occurrences.1 hp).1
    rcases hpo with hpo | hpo
    · exact .inl (List.mem_flatMap.2 ⟨_, hacross p.owner hmem hpo, mem_contribution hp hc⟩)
    · have hsame : p.owner = o.owner := eq_of_name hmem howner hpo.1.2
      exact .inr (hwithin p hp hsame (.inr hpo) c hc)

/-! ### Giving way -/

/-- Keeping the first function of each symbol passes over one whose symbol was met before, but for the
error that names the owner of the first. -/
theorem dedup_without {f : FunctionBinding} (gs : List FunctionBinding) {owner : String} :
    ∀ {fs : List FunctionBinding} {seen : List (String × String)},
      (seen.lookup f.symbol).or ((fs.find? fun g => g.symbol = f.symbol).map (·.owner)) = some owner →
        ∃ errors errors', (dedup seen (fs ++ gs)).2 = errors ++ errors' ∧
          dedup seen (fs ++ f :: gs) = ((dedup seen (fs ++ gs)).1,
            errors ++ .duplicateSymbol f.symbol owner f.owner :: errors')
  | [], seen, h => by
    rw [List.find?_nil, Option.map_none, Option.or_none] at h
    exact ⟨[], _, rfl, dedup_of_seen h gs⟩
  | g :: fs, seen, h => by
    rw [List.cons_append, List.cons_append]
    cases hg : seen.lookup g.symbol with
    | some met =>
      have hrest : (seen.lookup f.symbol).or
          ((fs.find? fun g => g.symbol = f.symbol).map (·.owner)) = some owner := by
        by_cases e : g.symbol = f.symbol
        · rw [← e, hg] at h ⊢
          exact h
        · rwa [List.find?_cons_of_neg (by simpa using e)] at h
      obtain ⟨errors, errors', hwithout, hwith⟩ := dedup_without gs hrest
      refine ⟨.duplicateSymbol g.symbol met g.owner :: errors, errors', ?_, ?_⟩
      · rw [dedup_of_seen hg, hwithout, List.cons_append]
      · rw [dedup_of_seen hg, hwith, dedup_of_seen hg, List.cons_append]
    | none =>
      have hrest : (((g.symbol, g.owner) :: seen).lookup f.symbol).or
          ((fs.find? fun g => g.symbol = f.symbol).map (·.owner)) = some owner := by
        by_cases e : g.symbol = f.symbol
        · rw [← e, hg, List.find?_cons_of_pos (by simp)] at h
          rw [← e, List.lookup_cons_self]
          exact h
        · rw [List.find?_cons_of_neg (by simpa using e)] at h
          rwa [List.lookup_cons, beq_false_of_ne (Ne.symm e)]
      obtain ⟨errors, errors', hwithout, hwith⟩ := dedup_without gs hrest
      refine ⟨errors, errors', ?_, ?_⟩
      · rw [dedup_of_unseen hg, hwithout]
      · rw [dedup_of_unseen hg, hwith, dedup_of_unseen hg]

/-- The first of the sorted functions with a symbol is that of the first occurrence. -/
theorem find?_sortFunctions {symbol : String} (h : IsFirst types catalog symbol o)
    (hb : o.bound types catalog = .ok b) :
    ((sortFunctions (accepted types catalog)).find? fun f => f.symbol = symbol) = some b := by
  have hfirst := firstOf_of_isFirst h hb
  rw [← firstOf_sorted, firstOf] at hfirst
  rw [← sorted_bindable_snd, List.find?_map]
  exact congrArg (Option.map (·.2)) hfirst

section Built

variable {types' : TypeMap} {before after : List FunctionBinding} {errors errors' : List BindingError}

theorem manifest_congr (hlisted : typeBindings types' catalog = typeBindings types catalog)
    (hkept : (dedup [] (sortFunctions (accepted types' catalog))).1 =
      (dedup [] (sortFunctions (accepted types catalog))).1) :
    (build types' catalog).manifest = (build types catalog).manifest := by
  rw [typeBindings, typeBindings] at hlisted
  rw [accepted, accepted] at hkept
  rw [build, build]
  simp only [hlisted, hkept]

/-- Removing an occurrence that cannot be bound. -/
theorem Removal.of_refused {e : BindingError}
    (h : Removal types types' catalog o before after errors errors')
    (he : o.bound types catalog = .error e) : ∃ es es', (build types catalog).errors = es ++ e :: es' ∧
      build types' catalog = ⟨(build types catalog).manifest, es ++ es'⟩ := by
  have haccepted : accepted types' catalog = accepted types catalog := by
    rw [h.bound, h.bound_without, he]
    simp [partition]
  refine ⟨errors, errors' ++ (dedup [] (sortFunctions (accepted types catalog))).2, ?_, ?_⟩
  · rw [errors_build, h.refused, he]
    simp [partition]
  · have hmanifest := manifest_congr h.listed (congrArg (fun fs => (dedup [] (sortFunctions fs)).1) haccepted)
    rw [← hmanifest, ← List.append_assoc, ← h.refused_without, ← haccepted, ← errors_build]

/-- Removing an occurrence that gives way to another one of its symbol. -/
theorem Removal.of_displaced (h : Removal types types' catalog o before after errors errors')
    (ho : o ∈ occurrences types catalog) (hb : o.bound types catalog = .ok b)
    (hfirst : IsFirst types catalog b.symbol p) (hne : p ≠ o) :
    ∃ es es', (build types catalog).errors =
        es ++ .duplicateSymbol b.symbol p.owner.name o.owner.name :: es' ∧
      build types' catalog = ⟨(build types catalog).manifest, es ++ es'⟩ := by
  obtain ⟨⟨hp, c, hc, hsymbol⟩, hleast⟩ := hfirst
  have hbefore : p.Before o := (hleast o ho b hb rfl).resolve_left (Ne.symm hne)
  obtain ⟨fs, gs, hwith, hwithout, hkeeps⟩ := mergeSort_without
    (fun f g h : FunctionBinding =>
      pairLe_trans (f.module, f.symbol) (g.module, g.symbol) (h.module, h.symbol))
    (fun f g => pairLe_total (f.module, f.symbol) (g.module, g.symbol)) b after before
  have hsorted : sortFunctions (accepted types catalog) = fs ++ b :: gs := by
    rw [h.bound, hb, List.append_assoc]
    exact hwith
  have hsorted' : sortFunctions (accepted types' catalog) = fs ++ gs := by
    rw [h.bound_without]
    exact hwithout
  -- The first function of the symbol comes before the removed one, so that it is met first.
  have hmet : c ∈ fs :=
    hkeeps c (h.earlier p hp hbefore c hc) (pairLe_of_before hc hb hsymbol hbefore)
  have hfind : (fs.find? fun g => g.symbol = b.symbol) = some c := by
    have hfind := find?_sortFunctions ⟨⟨hp, c, hc, hsymbol⟩, hleast⟩ hc
    rw [hsorted, List.find?_append] at hfind
    cases hfs : fs.find? fun g => g.symbol = b.symbol with
    | none => exact absurd hsymbol (by simpa using List.find?_eq_none.1 hfs c hmet)
    | some d => rwa [hfs, Option.some_or] at hfind
  have howner : (([] : List (String × String)).lookup b.symbol).or
      ((fs.find? fun g => g.symbol = b.symbol).map (·.owner)) = some p.owner.name := by
    rw [hfind, ← (bound_names hc).2.1]
    rfl
  obtain ⟨es, es', herrors, hdedup⟩ := dedup_without gs howner
  have hmanifest : (build types' catalog).manifest = (build types catalog).manifest := by
    refine manifest_congr h.listed ?_
    rw [hsorted, hsorted', hdedup]
  refine ⟨errors ++ errors' ++ es, es', ?_, ?_⟩
  · rw [errors_build, hsorted, hdedup, h.refused, hb, (bound_names hb).2.1]
    simp [partition]
  · rw [← hmanifest, List.append_assoc, ← herrors, ← hsorted', ← h.refused_without, ← errors_build]

end Built

/-- What is left out of a manifest leaves nothing else behind. -/
structure Isolated (types : TypeMap) (catalog : Catalog) : Prop where
  /-- Without an occurrence of a function that is reported, the manifest is the same, and so are the
  errors but for the one about the occurrence. -/
  functions : ∀ o ∈ occurrences types catalog, ∀ e, Settled types catalog o (.error e) →
    ∃ es es', (build types catalog).errors = es ++ e :: es' ∧
      build (o.removedFrom types) catalog = ⟨(build types catalog).manifest, es ++ es'⟩
  /-- Whatever a type of an unknown kind has besides its labels, the manifest and the errors are the
  same. -/
  types : ∀ t ∈ types.entries, catalog.resolve? t.subjectKind? = none → ∀ t', t.SameLabels t' →
    build (types.insert t') catalog = build types catalog

/-- What cannot be bound is isolated in the manifest, whatever the types and the subject kinds. -/
theorem skipped_isolated (types : TypeMap) (catalog : Catalog) : Isolated types catalog where
  functions := by
    intro o ho e h
    obtain ⟨before, after, errors, errors', hremoval⟩ := removal ho
    cases h with
    | refused he names => exact hremoval.of_refused he
    | displaced hb hfirst hne => exact hremoval.of_displaced ho hb hfirst hne
  types := fun _ ht hkind _ h => build_insert_unknown ht hkind h

end Manifest

end Bindery
