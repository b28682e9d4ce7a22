import Bindery.Proofs.Manifest.Occurrence
/-!
The account of a manifest. Every type is listed or reported, and every occurrence of a function is
bound or accounts for one error. Functions are sorted by module and symbol before the first of each
symbol is kept; functions that share a symbol are in order of their modules already, so the sort
leaves them in the order of their occurrences, and the first of them is kept whatever its module is.
-/

namespace Bindery

/-- Whether an error is about a function rather than about a type. -/
def BindingError.isOfFunction : BindingError → Bool
  | .unknownFunctionSubjectKind _ _ _ => true
  | .missingCallable _ _ => true
  | .unmappableType _ _ _ => true
  | .malformedSignature _ _ _ _ => true
  | .duplicateSymbol _ _ _ => true
  | _ => false

/-- Whether an error says that the kind of a type is unknown. -/
def BindingError.isUnknownKindOf (type : String) : BindingError → Bool
  | .unknownSubjectKind name _ => name = type
  | _ => false

theorem BindingError.isUnknownKindOf_eq_false {e : BindingError} (h : e.isOfFunction = true)
    (name : String) : e.isUnknownKindOf name = false := by
  cases e with
  | unknownSubjectKind type kind => cases h
  | _ => rfl

namespace Manifest

variable {types : TypeMap} {catalog : Catalog} {o p : Occurrence} {b c : FunctionBinding}

/-! ### Functions with one symbol -/

/-- The first function with a symbol. -/
def firstOf (all : List (Occurrence × FunctionBinding)) (symbol : String) :
    Option (Occurrence × FunctionBinding) :=
  all.find? fun y => y.2.symbol = symbol

/-- What becomes of a function that can be bound, among all of them: the first of its symbol is kept,
any other one gives way to it. -/
def verdict (all : List (Occurrence × FunctionBinding)) (x : Occurrence × FunctionBinding) :
    Except BindingError FunctionBinding :=
  match firstOf all x.2.symbol with
  | some y =>
    if y.1 = x.1 then .ok x.2 else .error (.duplicateSymbol x.2.symbol y.2.owner x.2.owner)
  | none => .ok x.2

variable {x y : Occurrence × FunctionBinding} {met rest all : List (Occurrence × FunctionBinding)}

theorem firstOf_append (symbol : String) :
    firstOf (met ++ rest) symbol = (firstOf met symbol).or (firstOf rest symbol) := List.find?_append

theorem firstOf_singleton (symbol : String) :
    firstOf [x] symbol = if x.2.symbol = symbol then some x else none := by
  by_cases h : x.2.symbol = symbol <;> simp [firstOf, h]

theorem firstOf_some {symbol : String} (h : firstOf all symbol = some y) :
    y ∈ all ∧ y.2.symbol = symbol :=
  ⟨List.mem_of_find?_eq_some h, by simpa using List.find?_some h⟩

theorem exists_firstOf (h : x ∈ all) : ∃ y, firstOf all x.2.symbol = some y := by
  have hsome : (firstOf all x.2.symbol).isSome = true := List.find?_isSome.2 ⟨x, h, by simp⟩
  exact Option.isSome_iff_exists.1 hsome

theorem verdict_eq (h : firstOf all x.2.symbol = some y) :
    verdict all x =
      if y.1 = x.1 then .ok x.2 else .error (.duplicateSymbol x.2.symbol y.2.owner x.2.owner) := by
  rw [verdict, h]

/-- Keeping the first of each symbol is giving every function its verdict, provided that `seen` holds
the first of each symbol among those that were met. -/
theorem dedup_eq : ∀ {rest met : List (Occurrence × FunctionBinding)} {seen : List (String × String)},
    ((met ++ rest).map (·.1)).Nodup →
      (∀ symbol, seen.lookup symbol = (firstOf met symbol).map fun y => y.2.owner) →
      dedup seen (rest.map (·.2)) = partition (rest.map (verdict (met ++ rest)))
  | [], _, _, _, _ => rfl
  | x :: rest, met, seen, hnodup, hseen => by
    have happend : met ++ x :: rest = (met ++ [x]) ++ rest := by simp
    have hfirst : firstOf (met ++ x :: rest) x.2.symbol = (firstOf met x.2.symbol).or (some x) := by
      rw [happend, firstOf_append, firstOf_append, firstOf_singleton, if_pos rfl]
      cases firstOf met x.2.symbol <;> rfl
    rw [List.map_cons, List.map_cons]
    cases hx : firstOf met x.2.symbol with
    | some y =>
      rw [hx] at hfirst
      have hlookup : seen.lookup x.2.symbol = some y.2.owner := by rw [hseen, hx]; rfl
      have hne : y.1 ≠ x.1 := by
        rw [List.map_append, List.nodup_append] at hnodup
        exact hnodup.2.2 _ (List.mem_map_of_mem (firstOf_some hx).1) _ (by simp)
      have hstep : ∀ symbol, seen.lookup symbol =
          (firstOf (met ++ [x]) symbol).map fun y => y.2.owner := by
        intro symbol
        rw [hseen, firstOf_append, firstOf_singleton]
        by_cases h : x.2.symbol = symbol
        · subst h
          rw [hx]
          rfl
        · rw [if_neg h, Option.or_none]
      have ih := dedup_eq (happend ▸ hnodup) hstep
      rw [← happend] at ih
      rw [verdict_eq hfirst, if_neg hne, dedup_of_seen hlookup, ih, partition]
    | none =>
      rw [hx] at hfirst
      have hlookup : seen.lookup x.2.symbol = none := by rw [hseen, hx]; rfl
      have hstep : ∀ symbol, ((x.2.symbol, x.2.owner) :: seen).lookup symbol =
          (firstOf (met ++ [x]) symbol).map fun y => y.2.owner := by
        intro symbol
        rw [List.lookup_cons, firstOf_append, firstOf_singleton, hseen]
        by_cases h : x.2.symbol = symbol
        · subst h
          simp [hx]
        · have hbeq : (symbol == x.2.symbol) = false := beq_false_of_ne fun e => h e.symm
          rw [if_neg h, Option.or_none, hbeq]
      have ih := dedup_eq (happend ▸ hnodup) hstep
      rw [← happend] at ih
      rw [verdict_eq hfirst, if_pos rfl, dedup_of_unseen hlookup, ih, partition]

/-- The first function with a symbol comes before all others that have it. -/
theorem firstOf_before : ∀ {all : List (Occurrence × FunctionBinding)} {symbol : String},
    (all.Pairwise fun x y => x.1.Before y.1) → firstOf all symbol = some y → x ∈ all →
      x.2.symbol = symbol → x = y ∨ y.1.Before x.1
  | z :: all, symbol, hpair, hfirst, hx, hsymbol => by
    obtain ⟨hz, hpair⟩ := List.pairwise_cons.1 hpair
    rw [← List.singleton_append, firstOf_append, firstOf_singleton] at hfirst
    by_cases h : z.2.symbol = symbol
    · rw [if_pos h, Option.some_or] at hfirst
      cases hfirst
      exact (List.mem_cons.1 hx).imp id (hz x)
    · rw [if_neg h, Option.none_or] at hfirst
      rcases List.mem_cons.1 hx with rfl | hx
      · exact absurd hsymbol h
      · exact firstOf_before hpair hfirst hx hsymbol

/-! ### The functions of a manifest -/

/-- The occurrences that can be bound, in their order, each with its binding. -/
def bindable (types : TypeMap) (catalog : Catalog) : List (Occurrence × FunctionBinding) :=
  withResult (Occurrence.bound types catalog) (arranged types catalog)

theorem mem_bindable :
    (o, b) ∈ bindable types catalog ↔
      o ∈ occurrences types catalog ∧ o.bound types catalog = .ok b := by
  rw [bindable, mem_withResult, (arranged_perm types catalog).mem_iff]

theorem bindable_snd : (bindable types catalog).map (·.2) = accepted types catalog := by
  rw [bindable, withResult_snd, accepted_eq]

theorem bindable_pairwise : (bindable types catalog).Pairwise fun x y => x.1.Before y.1 :=
  List.pairwise_map.1 (arranged_pairwise.sublist (withResult_fst_sublist _))

theorem ne_of_before (h : o.Before p) : o ≠ p := by
  rintro rfl
  rcases h with (h | ⟨-, h⟩) | ⟨-, h | ⟨-, h⟩⟩
  · exact String.lt_irrefl _ h
  · exact String.lt_irrefl _ h
  · exact String.lt_irrefl _ h
  · exact Nat.lt_irrefl _ h

/-- A binding has the names of its occurrence. -/
theorem bound_names (h : o.bound types catalog = .ok b) :
    b.name = o.function.name ∧ b.owner = o.owner.name ∧ b.module = o.owner.module := by
  rw [Occurrence.bound] at h
  split at h
  · cases h
  · obtain ⟨hname, howner, hmodule, -⟩ := bindFunction_names h
    exact ⟨hname, howner, hmodule⟩

/-- Functions of one symbol that come one before the other are in order of module and symbol. -/
theorem pairLe_of_before (hb : o.bound types catalog = .ok b) (hc : p.bound types catalog = .ok c)
    (hsymbol : b.symbol = c.symbol) (h : o.Before p) :
    pairLe (b.module, b.symbol) (c.module, c.symbol) = true := by
  obtain ⟨-, -, hbm⟩ := bound_names hb
  obtain ⟨-, -, hcm⟩ := bound_names hc
  rw [pairLe_iff, hbm, hcm, hsymbol]
  rcases h with (h | ⟨h, -⟩) | ⟨⟨h, -⟩, -⟩
  · exact .inl h
  · exact .inr ⟨h, String.le_refl _⟩
  · exact .inr ⟨h, String.le_refl _⟩

/-- Sorting by module and symbol does not change which function with a symbol is the first: those
that have it are in order of their modules already. -/
theorem firstOf_sorted (symbol : String) :
    firstOf ((bindable types catalog).mergeSort fun x y =>
      pairLe (x.2.module, x.2.symbol) (y.2.module, y.2.symbol)) symbol =
      firstOf (bindable types catalog) symbol := by
  rw [firstOf, firstOf, ← List.head?_filter, ← List.head?_filter, filter_mergeSort]
  · exact fun _ _ _ => pairLe_trans _ _ _
  · exact fun _ _ => pairLe_total _ _
  · refine (bindable_pairwise.filter _).imp_of_mem ?_
    rintro ⟨o, b⟩ ⟨p, c⟩ hx hy h
    obtain ⟨hx, hb⟩ := List.mem_filter.1 hx
    obtain ⟨hy, hc⟩ := List.mem_filter.1 hy
    exact pairLe_of_before (mem_bindable.1 hx).2 (mem_bindable.1 hy).2
      ((of_decide_eq_true hb).trans (of_decide_eq_true hc).symm) h

theorem sorted_bindable_snd (types : TypeMap) (catalog : Catalog) :
    ((bindable types catalog).mergeSort fun x y =>
      pairLe (x.2.module, x.2.symbol) (y.2.module, y.2.symbol)).map (·.2) =
      sortFunctions (accepted types catalog) := by
  rw [← bindable_snd]
  exact List.map_mergeSort fun _ _ _ _ => rfl

/-- Keeping the first function of each symbol gives each its verdict. -/
theorem dedup_perm (types : TypeMap) (catalog : Catalog) :
    (dedup [] (sortFunctions (accepted types catalog))).1.Perm
        (partition ((bindable types catalog).map (verdict (bindable types catalog)))).1 ∧
      (dedup [] (sortFunctions (accepted types catalog))).2.Perm
        (partition ((bindable types catalog).map (verdict (bindable types catalog)))).2 := by
  let sorted := (bindable types catalog).mergeSort fun x y =>
    pairLe (x.2.module, x.2.symbol) (y.2.module, y.2.symbol)
  have hperm : sorted.Perm (bindable types catalog) := List.mergeSort_perm _ _
  have hsnd : sorted.map (·.2) = sortFunctions (accepted types catalog) :=
    sorted_bindable_snd types catalog
  have hnodup : (([] ++ sorted).map Prod.fst).Nodup := by
    refine (hperm.map Prod.fst).nodup_iff.2 ?_
    exact List.pairwise_map.2 (bindable_pairwise.imp ne_of_before)
  have hverdict : verdict ([] ++ sorted) = verdict (bindable types catalog) := by
    funext x
    rw [verdict, verdict, List.nil_append, firstOf_sorted]
  have hnone : ∀ symbol, ([] : List (String × String)).lookup symbol =
      (firstOf [] symbol).map fun y => y.2.owner := fun _ => rfl
  have hdedup := dedup_eq hnodup hnone
  rw [hsnd, hverdict] at hdedup
  rw [hdedup]
  exact perm_partition (hperm.map _)

/-! ### The account -/

/-- Whether an occurrence is the first of those that can be bound with a symbol. -/
def IsFirst (types : TypeMap) (catalog : Catalog) (symbol : String) (o : Occurrence) : Prop :=
  (o ∈ occurrences types catalog ∧ ∃ b, o.bound types catalog = .ok b ∧ b.symbol = symbol) ∧
    ∀ p ∈ occurrences types catalog, ∀ c, p.bound types catalog = .ok c → c.symbol = symbol →
      p = o ∨ o.Before p

theorem Occurrence.Before.asymm (h : o.Before p) : ¬ p.Before o := by
  rintro (h' | ⟨⟨hmodule', hname'⟩, h'⟩) <;> rcases h with h | ⟨⟨hmodule, hname⟩, h⟩
  · exact h.asymm h'
  · rw [hmodule, hname] at h'
    exact h'.asymm h'
  · rw [hmodule', hname'] at h
    exact h.asymm h
  · rcases h with h | ⟨e, h⟩ <;> rcases h' with h' | ⟨e', h'⟩
    · exact String.lt_asymm h h'
    · exact String.lt_irrefl _ (e' ▸ h)
    · exact String.lt_irrefl _ (e ▸ h')
    · exact Nat.lt_asymm h h'

/-- The first of the functions with a symbol that can be bound is that of a first occurrence. -/
theorem isFirst_of_firstOf {symbol : String}
    (h : firstOf (bindable types catalog) symbol = some (p, c)) :
    IsFirst types catalog symbol p ∧ p.bound types catalog = .ok c := by
  obtain ⟨hmem, hsymbol⟩ := firstOf_some h
  obtain ⟨hp, hc⟩ := mem_bindable.1 hmem
  refine ⟨⟨⟨hp, c, hc, hsymbol⟩, ?_⟩, hc⟩
  intro q hq d hd hqs
  exact (firstOf_before bindable_pairwise h (mem_bindable.2 ⟨hq, hd⟩) hqs).imp
    (congrArg Prod.fst) id

/-- A function that can be bound has a symbol of which one occurrence is the first. -/
theorem exists_isFirst (ho : o ∈ occurrences types catalog) (hb : o.bound types catalog = .ok b) :
    ∃ p c, firstOf (bindable types catalog) b.symbol = some (p, c) ∧
      IsFirst types catalog b.symbol p ∧ p.bound types catalog = .ok c := by
  have hmem : (o, b) ∈ bindable types catalog := mem_bindable.2 ⟨ho, hb⟩
  obtain ⟨⟨p, c⟩, hfirst⟩ := exists_firstOf hmem
  exact ⟨p, c, hfirst, isFirst_of_firstOf hfirst⟩

/-- The first occurrence is that of the first of the functions with its symbol that can be bound. -/
theorem firstOf_of_isFirst {symbol : String} (h : IsFirst types catalog symbol o)
    (hb : o.bound types catalog = .ok b) : firstOf (bindable types catalog) symbol = some (o, b) := by
  obtain ⟨⟨ho, b', hb', hsymbol⟩, hleast⟩ := h
  obtain rfl : b = b' := Except.ok.inj (hb.symm.trans hb')
  obtain ⟨p, c, hfirst, hp, hc⟩ := exists_isFirst ho hb
  rw [hsymbol] at hfirst hp
  obtain ⟨⟨hpmem, c', hc', hcs⟩, hpleast⟩ := hp
  have e : o = p := (hpleast o ho b hb hsymbol).elim id fun hpo =>
    (hleast p hpmem c' hc' hcs).elim Eq.symm fun hop => absurd hop hpo.asymm
  subst e
  rw [hfirst, Except.ok.inj (hb.symm.trans hc)]

/-- What an occurrence is settled with: an error that names it if it cannot be bound, else its binding
if it is the first of its symbol, and an error that names the owner of the first if it is not. -/
inductive Settled (types : TypeMap) (catalog : Catalog) (o : Occurrence) :
    Except BindingError FunctionBinding → Prop where
  | refused {e : BindingError} (h : o.bound types catalog = .error e)
      (names : e.Refuses o.owner.name o.function.name) : Settled types catalog o (.error e)
  | kept {b : FunctionBinding} (h : o.bound types catalog = .ok b)
      (first : IsFirst types catalog b.symbol o) : Settled types catalog o (.ok b)
  | displaced {b : FunctionBinding} {p : Occurrence} (h : o.bound types catalog = .ok b)
      (first : IsFirst types catalog b.symbol p) (hne : p ≠ o) :
      Settled types catalog o (.error (.duplicateSymbol b.symbol p.owner.name o.owner.name))

/-- What an occurrence is settled with, computed. -/
def settle (types : TypeMap) (catalog : Catalog) (o : Occurrence) :
    Except BindingError FunctionBinding :=
  o.bound types catalog >>= fun b => verdict (bindable types catalog) (o, b)

theorem settled_settle (ho : o ∈ occurrences types catalog) :
    Settled types catalog o (settle types catalog o) := by
  rw [settle]
  cases h : o.bound types catalog with
  | error e =>
    refine .refused h ?_
    have hbinds := (mem_occurrences.1 ho).2.1
    rw [Occurrence.bound] at h
    split at h
    · rename_i hnone
      simp [bindsFunctions, hnone] at hbinds
    · exact bindFunction_refuses h
  | ok b =>
    obtain ⟨p, c, hfirst, hleast, hc⟩ := exists_isFirst ho h
    change Settled types catalog o (verdict (bindable types catalog) (o, b))
    rw [verdict_eq hfirst]
    by_cases e : p = o
    · rw [if_pos e]
      exact .kept h (e ▸ hleast)
    · rw [if_neg e, (bound_names hc).2.1, (bound_names h).2.1]
      exact .displaced h hleast e

/-- An occurrence is only ever settled with an error about a function. -/
theorem Settled.isOfFunction {e : BindingError} (h : Settled types catalog o (.error e)) :
    e.isOfFunction = true := by
  cases h with
  | refused _ names => cases e <;> first | rfl | exact names.elim
  | displaced _ _ _ => rfl

/-- The bindings and the errors of a manifest are what the occurrences are settled with, and the
errors about the kinds of types. -/
theorem build_perm :
    (build types catalog).manifest.functions.Perm
        (partition ((occurrences types catalog).map (settle types catalog))).1 ∧
      (build types catalog).errors.Perm
        ((sortedTypes types).flatMap (kindErrors catalog) ++
          (partition ((occurrences types catalog).map (settle types catalog))).2) := by
  obtain ⟨hkept, hdisplaced⟩ := dedup_perm types catalog
  obtain ⟨hfunctions, herrors⟩ := partition_bind (f := Occurrence.bound types catalog)
    (verdict (bindable types catalog)) (arranged types catalog)
  obtain ⟨hfst, hsnd⟩ := perm_partition
    ((arranged_perm types catalog).map (settle types catalog))
  constructor
  · rw [functions_build]
    exact hkept.trans ((hfunctions ▸ .refl _ : List.Perm _ _).trans hfst)
  · rw [errors_build]
    refine (errors_perm.append hdisplaced).trans ?_
    rw [List.append_assoc]
    exact (herrors.symm.trans hsnd).append_left _

/-- The functions of a manifest are those of the first occurrences of their symbols. -/
theorem mem_functions_build :
    b ∈ (build types catalog).manifest.functions ↔
      ∃ o, IsFirst types catalog b.symbol o ∧ o.bound types catalog = .ok b := by
  rw [build_perm.1.mem_iff, mem_partition_ok, List.mem_map]
  constructor
  · rintro ⟨o, ho, hsettle⟩
    have hsettled := settled_settle ho
    rw [hsettle] at hsettled
    cases hsettled with
    | kept h first => exact ⟨o, first, h⟩
  · rintro ⟨o, hfirst, hb⟩
    refine ⟨o, hfirst.1.1, ?_⟩
    have hverdict : verdict (bindable types catalog) (o, b) = .ok b := by
      rw [verdict_eq (firstOf_of_isFirst hfirst hb), if_pos rfl]
    rw [settle, hb]
    exact hverdict

/-! ### Errors -/

theorem of_mem_kindErrors {t : TypeEntry} {e : BindingError} (h : e ∈ kindErrors catalog t) :
    e.isOfFunction = false ∧ e.isUnknownKindOf t.name = true := by
  unfold kindErrors at h
  split at h
  · rw [List.mem_singleton] at h
    subst h
    exact ⟨rfl, decide_eq_true rfl⟩
  · cases h

theorem isOfFunction_of_mem {e : BindingError}
    (h : e ∈ (partition ((occurrences types catalog).map (settle types catalog))).2) :
    e.isOfFunction = true := by
  obtain ⟨o, ho, he⟩ := List.mem_map.1 (mem_partition_error.1 h)
  have hsettled := settled_settle ho
  rw [he] at hsettled
  exact hsettled.isOfFunction

/-- The errors about functions are those that the occurrences are settled with. -/
theorem errors_ofFunction :
    ((build types catalog).errors.filter BindingError.isOfFunction).Perm
      (partition ((occurrences types catalog).map (settle types catalog))).2 := by
  have hnone : ((sortedTypes types).flatMap (kindErrors catalog)).filter
      BindingError.isOfFunction = [] := by
    rw [List.filter_eq_nil_iff]
    intro e he
    obtain ⟨t, -, he⟩ := List.mem_flatMap.1 he
    rw [(of_mem_kindErrors he).1]
    simp
  refine (build_perm.2.filter _).trans ?_
  rw [List.filter_append, hnone, List.nil_append, List.filter_eq_self.2 fun e => isOfFunction_of_mem]

theorem filter_kindErrors (name : String) : ∀ ts : List TypeEntry,
    (ts.flatMap (kindErrors catalog)).filter (BindingError.isUnknownKindOf name) =
      (ts.filter fun t => t.name = name).flatMap (kindErrors catalog)
  | [] => rfl
  | t :: ts => by
    have ht : (kindErrors catalog t).filter (BindingError.isUnknownKindOf name) =
        if t.name = name then kindErrors catalog t else [] := by
      unfold kindErrors
      split
      · by_cases h : t.name = name <;> simp [BindingError.isUnknownKindOf, h]
      · simp
    rw [List.flatMap_cons, List.filter_append, filter_kindErrors name ts, ht]
    by_cases h : t.name = name
    · rw [if_pos h, List.filter_cons_of_pos (by simpa using h), List.flatMap_cons]
    · rw [if_neg h, List.filter_cons_of_neg (by simpa using h), List.nil_append]

/-- The errors about the kind of a type are those that the type itself gives. -/
theorem errors_unknownKind (catalog : Catalog) {t : TypeEntry} (ht : t ∈ types.entries) :
    ((build types catalog).errors.filter (BindingError.isUnknownKindOf t.name)).Perm
      (kindErrors catalog t) := by
  have hnone : (partition ((occurrences types catalog).map (settle types catalog))).2.filter
      (BindingError.isUnknownKindOf t.name) = [] := by
    rw [List.filter_eq_nil_iff]
    intro e he
    rw [BindingError.isUnknownKindOf_eq_false (isOfFunction_of_mem he)]
    simp
  have hone := filter_key_eq (sortedTypes_names_nodup types) (mem_sortedTypes.2 ht)
  refine (build_perm.2.filter _).trans ?_
  rw [List.filter_append, hnone, List.append_nil, filter_kindErrors, hone]
  simp

/-- A type is listed once if its kind is known, and not at all otherwise. -/
theorem filter_types_build {t : TypeEntry} (ht : t ∈ types.entries) :
    ((build types catalog).manifest.types.filter fun b => b.name = t.name).length =
      if (catalog.resolve? t.subjectKind?).isSome then 1 else 0 := by
  have hname : ((build types catalog).manifest.types.filter fun b => b.name = t.name).length =
      ((typeBindings types catalog).filter fun b => b.name = t.name).length := by
    rw [types_build, List.filter_map, List.length_map]
    rfl
  rw [hname]
  cases hkind : catalog.resolve? t.subjectKind? with
  | some kind =>
    have hmem : bindType t kind ∈ typeBindings types catalog :=
      mem_typeBindings.2 ⟨t, ht, kind, hkind, rfl⟩
    have hone := filter_key_eq typeBindings_names_nodup hmem
    exact congrArg List.length hone
  | none =>
    have hnone : ((typeBindings types catalog).filter fun b => b.name = t.name) = [] := by
      rw [List.filter_eq_nil_iff]
      intro b hb e
      obtain ⟨u, hu, kind, hsome, rfl⟩ := mem_typeBindings.1 hb
      have hut : u = t := eq_of_name hu ht (of_decide_eq_true e)
      rw [hut, hkind] at hsome
      cases hsome
    rw [hnone]
    rfl

/-- The account of a manifest that is made: nothing is lost, and nothing is reported twice. -/
structure Accounted (types : TypeMap) (catalog : Catalog) (built : Built) : Prop where
  /-- A type of a known kind is listed once. -/
  listed : ∀ t ∈ types.entries, (catalog.resolve? t.subjectKind?).isSome = true →
    (built.manifest.types.filter fun b => b.name = t.name).length = 1 ∧
      built.errors.filter (BindingError.isUnknownKindOf t.name) = []
  /-- A type of an unknown kind is reported once. -/
  reported : ∀ t ∈ types.entries, catalog.resolve? t.subjectKind? = none →
    (built.manifest.types.filter fun b => b.name = t.name).length = 0 ∧
      built.errors.filter (BindingError.isUnknownKindOf t.name) =
        [.unknownSubjectKind t.name (t.subjectKind?.getD "")]
  /-- What is not about a function is about the kind of a type. -/
  other_errors : ∀ e ∈ built.errors, e.isOfFunction = false →
    ∃ t ∈ types.entries, e.isUnknownKindOf t.name = true
  /-- The occurrences are the exported functions of types of a known kind that are no enums. -/
  occurs : ∀ o, o ∈ occurrences types catalog ↔
    o.owner ∈ types.entries ∧ (catalog.resolve? o.owner.subjectKind?).isSome = true ∧
      o.owner.kind ≠ .enum ∧ o.owner.exportedFunctions[o.position]? = some o.function
  occurs_once : (occurrences types catalog).Nodup
  /-- Bindings and errors about functions are what the occurrences are settled with, each once. -/
  settled : ∃ outcomes, List.Forall₂ (Settled types catalog) (occurrences types catalog) outcomes ∧
    (partition outcomes).1.Perm built.manifest.functions ∧
    (partition outcomes).2.Perm (built.errors.filter BindingError.isOfFunction)
  total : built.manifest.functions.length + (built.errors.filter BindingError.isOfFunction).length =
    (occurrences types catalog).length

/-- Every type is listed or reported, and every function that is to be bound is bound or accounts for
one error; of those that share a symbol the first is bound. -/
theorem nothing_lost (types : TypeMap) (catalog : Catalog) :
    Accounted types catalog (build types catalog) where
  listed := by
    intro t ht hkind
    refine ⟨by rw [filter_types_build ht, if_pos hkind], ?_⟩
    obtain ⟨kind, hkind⟩ := Option.isSome_iff_exists.1 hkind
    have hperm := errors_unknownKind catalog ht
    rw [kindErrors, hkind] at hperm
    exact hperm.eq_nil
  reported := by
    intro t ht hkind
    refine ⟨by rw [filter_types_build ht, hkind]; rfl, ?_⟩
    have hperm := errors_unknownKind catalog ht
    rw [kindErrors, hkind] at hperm
    exact hperm.eq_singleton
  other_errors := by
    intro e he hother
    rcases List.mem_append.1 (build_perm.2.subset he) with he | he
    · obtain ⟨t, ht, he⟩ := List.mem_flatMap.1 he
      exact ⟨t, mem_sortedTypes.1 ht, (of_mem_kindErrors he).2⟩
    · rw [isOfFunction_of_mem he] at hother
      cases hother
  occurs := by
    intro o
    rw [mem_occurrences, bindsFunctions, Bool.and_eq_true, decide_eq_true_iff, and_assoc]
  occurs_once := (arranged_perm types catalog).nodup_iff.1 (arranged_pairwise.imp ne_of_before)
  settled := by
    refine ⟨(occurrences types catalog).map (settle types catalog), ?_, build_perm.1.symm,
      errors_ofFunction.symm⟩
    rw [List.forall₂_map_right_iff, List.forall₂_same]
    exact fun o => settled_settle
  total := by
    rw [build_perm.1.length_eq, errors_ofFunction.length_eq, length_partition, List.length_map]

end Manifest

end Bindery
