import Bindery.Proofs.Manifest.Contents
import Mathlib.Data.List.Perm.Basic
/-!
Occurrences of functions. A function that is to be bound occurs at a position among the exported
functions of its type; a type may have several functions of one name. Making a manifest goes through
all occurrences in one strict order: by module, type and function name, and among functions of one
name by position, because the functions of a type are sorted by a stable sort. So the functions that
can be bound, and the reasons why others cannot, are those of the occurrences arranged in this order.
-/

namespace Bindery

/-! ### Outcomes -/

theorem partition_flatMap {ε α β : Type} (f : α → List (Except ε β)) : ∀ l : List α,
    partition (l.flatMap f) =
      (l.flatMap fun a => (partition (f a)).1, l.flatMap fun a => (partition (f a)).2)
  | [] => rfl
  | a :: l => by
    rw [List.flatMap_cons, partition_append, partition_flatMap f l, List.flatMap_cons,
      List.flatMap_cons]

/-- Results and errors do not depend on the order of the outcomes. -/
theorem perm_partition {ε α : Type} {os ps : List (Except ε α)} (h : os.Perm ps) :
    (partition os).1.Perm (partition ps).1 ∧ (partition os).2.Perm (partition ps).2 := by
  induction h with
  | nil => exact ⟨.nil, .nil⟩
  | cons o _ ih =>
    cases o with
    | ok a => exact ⟨ih.1.cons a, ih.2⟩
    | error e => exact ⟨ih.1, ih.2.cons e⟩
  | swap o p _ =>
    cases o <;> cases p
    · exact ⟨.refl _, .swap _ _ _⟩
    · exact ⟨.refl _, .refl _⟩
    · exact ⟨.refl _, .refl _⟩
    · exact ⟨.swap _ _ _, .refl _⟩
  | trans _ _ ih ih' => exact ⟨ih.1.trans ih'.1, ih.2.trans ih'.2⟩

/-- The elements with a result, each with it. -/
def withResult {ε α β : Type} (f : α → Except ε β) : List α → List (α × β)
  | [] => []
  | a :: l =>
    match f a with
    | .ok b => (a, b) :: withResult f l
    | .error _ => withResult f l

section WithResult

variable {ε α β γ : Type} {f : α → Except ε β} {a : α} {b : β}

theorem withResult_ok (h : f a = .ok b) (l : List α) :
    withResult f (a :: l) = (a, b) :: withResult f l := by
  rw [withResult, h]

theorem withResult_error {e : ε} (h : f a = .error e) (l : List α) :
    withResult f (a :: l) = withResult f l := by
  rw [withResult, h]

/-- The elements with a result are those for which there is one, in their order. -/
theorem withResult_fst : ∀ l : List α, (withResult f l).map (·.1) = l.filter fun a => (f a).isOk
  | [] => rfl
  | a :: l => by
    have ih := withResult_fst l
    cases h : f a with
    | ok b => simp [withResult_ok h, ih, h, Except.isOk, Except.toBool]
    | error e => simp [withResult_error h, ih, h, Except.isOk, Except.toBool]

theorem withResult_fst_sublist (l : List α) : ((withResult f l).map (·.1)).Sublist l := by
  rw [withResult_fst]
  exact List.filter_sublist

/-- If every element has a result, none is lost. -/
theorem withResult_fst_of_ok {l : List α} (h : ∀ a ∈ l, ∃ b, f a = .ok b) :
    (withResult f l).map (·.1) = l := by
  rw [withResult_fst]
  refine List.filter_eq_self.2 fun a ha => ?_
  obtain ⟨b, hb⟩ := h a ha
  rw [hb]
  rfl

/-- Elements are chosen before or after their results are known. -/
theorem filter_withResult (p : α → Bool) : ∀ l : List α,
    (withResult f l).filter (fun x => p x.1) = withResult f (l.filter p)
  | [] => rfl
  | a :: l => by
    have ih := filter_withResult p l
    cases h : f a with
    | ok b => by_cases hp : p a = true <;> simp [withResult_ok h, hp, ih]
    | error e => by_cases hp : p a = true <;> simp [withResult_error h, hp, ih]

theorem mem_withResult : ∀ {l : List α}, (a, b) ∈ withResult f l ↔ a ∈ l ∧ f a = .ok b
  | [] => by simp [withResult]
  | a' :: l => by
    have ih : (a, b) ∈ withResult f l ↔ a ∈ l ∧ f a = .ok b := mem_withResult
    cases h : f a' with
    | ok b' =>
      rw [withResult_ok h, List.mem_cons, List.mem_cons, ih, Prod.mk.injEq]
      constructor
      · rintro (⟨rfl, rfl⟩ | ⟨ha, hf⟩)
        · exact ⟨.inl rfl, h⟩
        · exact ⟨.inr ha, hf⟩
      · rintro ⟨rfl | ha, hf⟩
        · rw [h] at hf
          cases hf
          exact .inl ⟨rfl, rfl⟩
        · exact .inr ⟨ha, hf⟩
    | error e =>
      rw [withResult_error h, List.mem_cons, ih]
      constructor
      · rintro ⟨ha, hf⟩
        exact ⟨.inr ha, hf⟩
      · rintro ⟨rfl | ha, hf⟩
        · rw [h] at hf
          cases hf
        · exact ⟨ha, hf⟩

theorem withResult_snd : ∀ l : List α, (withResult f l).map (·.2) = (partition (l.map f)).1
  | [] => rfl
  | a :: l => by
    have ih := withResult_snd l
    cases h : f a with
    | ok b => rw [withResult_ok h, List.map_cons, List.map_cons, h, partition, ih]
    | error e => rw [withResult_error h, List.map_cons, h, partition, ih]

/-- There is one error for each element without a result. -/
theorem partition_errors : ∀ l : List α,
    List.Forall₂ (fun a e => f a = .error e) (l.filter fun a => !(f a).isOk) (partition (l.map f)).2
  | [] => .nil
  | a :: l => by
    have ih := partition_errors l
    rw [List.map_cons]
    cases h : f a with
    | ok b => simpa [h, Except.isOk, Except.toBool, partition] using ih
    | error e => simpa [h, Except.isOk, Except.toBool, partition] using ih

/-- Outcomes that are decided in two steps: the errors are those of the first step and those of the
second. -/
theorem partition_bind (next : α × β → Except ε γ) : ∀ l : List α,
    (partition (l.map fun a => f a >>= fun b => next (a, b))).1 =
        (partition ((withResult f l).map next)).1 ∧
      (partition (l.map fun a => f a >>= fun b => next (a, b))).2.Perm
        ((partition (l.map f)).2 ++ (partition ((withResult f l).map next)).2)
  | [] => ⟨rfl, .nil⟩
  | a :: l => by
    obtain ⟨hok, herror⟩ := partition_bind next l
    rw [List.map_cons, List.map_cons]
    cases h : f a with
    | error e =>
      rw [withResult_error h]
      exact ⟨hok, herror.cons e⟩
    | ok b =>
      rw [withResult_ok h, List.map_cons]
      change (partition (next (a, b) :: _)).1 = _ ∧ (partition (next (a, b) :: _)).2.Perm _
      cases next (a, b) with
      | ok c => exact ⟨congrArg (c :: ·) hok, herror⟩
      | error e => exact ⟨hok, (herror.cons e).trans List.perm_middle.symm⟩

end WithResult

namespace Manifest

/-! ### Occurrences -/

/-- A function at its position among the exported functions of a type. -/
structure Occurrence where
  owner : TypeEntry
  function : FunctionEntry
  position : Nat
deriving DecidableEq

/-- The order of occurrences: by module, type, function name, and position. -/
def Occurrence.Before (o p : Occurrence) : Prop :=
  PairLt (o.owner.module, o.owner.name) (p.owner.module, p.owner.name) ∨
    (o.owner.module = p.owner.module ∧ o.owner.name = p.owner.name) ∧
      (o.function.name < p.function.name ∨
        o.function.name = p.function.name ∧ o.position < p.position)

/-- Whether functions of a type are to be bound: its kind is known and it is no enum. -/
def bindsFunctions (catalog : Catalog) (t : TypeEntry) : Bool :=
  (catalog.resolve? t.subjectKind?).isSome && t.kind ≠ .enum

/-- The occurrences in one type. -/
def occurrencesOf (catalog : Catalog) (t : TypeEntry) : List Occurrence :=
  if bindsFunctions catalog t then t.exportedFunctions.zipIdx.map fun (f, i) => ⟨t, f, i⟩ else []

/-- The occurrences in all types. -/
def occurrences (types : TypeMap) (catalog : Catalog) : List Occurrence :=
  types.entries.flatMap (occurrencesOf catalog)

/-- The order by name of functions, and by position of those with one name. -/
def functionLe : FunctionEntry × Nat → FunctionEntry × Nat → Bool :=
  List.zipIdxLE fun f g => f.name ≤ g.name

/-- The occurrences in one type, in their order. -/
def arrangedOf (catalog : Catalog) (t : TypeEntry) : List Occurrence :=
  if bindsFunctions catalog t then
    (t.exportedFunctions.zipIdx.mergeSort functionLe).map fun (f, i) => ⟨t, f, i⟩
  else []

/-- The occurrences in all types, in their order. -/
def arranged (types : TypeMap) (catalog : Catalog) : List Occurrence :=
  (sortedTypes types).flatMap (arrangedOf catalog)

/-- What binding a function comes to, all by itself. -/
def Occurrence.bound (types : TypeMap) (catalog : Catalog) (o : Occurrence) :
    Except BindingError FunctionBinding :=
  match catalog.resolve? o.owner.subjectKind? with
  | none => .error (.unknownSubjectKind o.owner.name (o.owner.subjectKind?.getD ""))
  | some kind => bindFunction catalog (.ofTypes types) o.owner kind o.function

variable {types : TypeMap} {catalog : Catalog} {t : TypeEntry} {o : Occurrence}

theorem mem_occurrencesOf :
    o ∈ occurrencesOf catalog t ↔
      bindsFunctions catalog t = true ∧ o.owner = t ∧
        t.exportedFunctions[o.position]? = some o.function := by
  rw [occurrencesOf]
  split
  · rename_i h
    rw [List.mem_map]
    constructor
    · rintro ⟨⟨f, i⟩, hmem, rfl⟩
      exact ⟨h, rfl, List.mk_mem_zipIdx_iff_getElem?.1 hmem⟩
    · rintro ⟨-, rfl, hget⟩
      exact ⟨(o.function, o.position), List.mk_mem_zipIdx_iff_getElem?.2 hget, rfl⟩
  · rename_i h
    simp [h]

/-- An occurrence is an exported function of a registered type of a known kind that is no enum. -/
theorem mem_occurrences :
    o ∈ occurrences types catalog ↔
      o.owner ∈ types.entries ∧ bindsFunctions catalog o.owner = true ∧
        o.owner.exportedFunctions[o.position]? = some o.function := by
  rw [occurrences, List.mem_flatMap]
  constructor
  · rintro ⟨t, ht, ho⟩
    obtain ⟨hbinds, rfl, hget⟩ := mem_occurrencesOf.1 ho
    exact ⟨ht, hbinds, hget⟩
  · rintro ⟨ht, hbinds, hget⟩
    exact ⟨o.owner, ht, mem_occurrencesOf.2 ⟨hbinds, rfl, hget⟩⟩

/-! ### Arranging them -/

theorem arrangedOf_perm : (arrangedOf catalog t).Perm (occurrencesOf catalog t) := by
  rw [arrangedOf, occurrencesOf]
  split
  · exact (List.mergeSort_perm _ _).map _
  · exact .nil

theorem arranged_perm (types : TypeMap) (catalog : Catalog) :
    (arranged types catalog).Perm (occurrences types catalog) :=
  (List.mergeSort_perm _ _).flatMap fun _ _ => arrangedOf_perm

/-- The functions of a type come in the order in which they are bound. -/
theorem arrangedOf_functions (h : bindsFunctions catalog t = true) :
    (arrangedOf catalog t).map (·.function) = candidates t := by
  have hkind : t.kind ≠ .enum := by
    rw [bindsFunctions, Bool.and_eq_true, decide_eq_true_iff] at h
    exact h.2
  have hsort : (t.exportedFunctions.zipIdx.mergeSort functionLe).map (·.1) =
      t.exportedFunctions.mergeSort fun f g => f.name ≤ g.name := List.mergeSort_zipIdx
  rw [arrangedOf, if_pos h, candidates, if_neg hkind, List.map_map, ← hsort]
  rfl

/-- Functions in order that are not at the same position are strictly in order. -/
theorem before_of_functionLe {a b : FunctionEntry × Nat} (h : functionLe a b = true)
    (hne : a.2 ≠ b.2) : a.1.name < b.1.name ∨ a.1.name = b.1.name ∧ a.2 < b.2 := by
  rw [functionLe, List.zipIdxLE] at h
  split at h
  · rename_i hab
    split at h
    · rename_i hba
      exact .inr ⟨String.le_antisymm (by simpa using hab) (by simpa using hba),
        Nat.lt_of_le_of_ne (by simpa using h) hne⟩
    · rename_i hba
      exact .inl (String.not_le.1 (by simpa using hba))
  · cases h

theorem arrangedOf_pairwise : (arrangedOf catalog t).Pairwise Occurrence.Before := by
  have hle : (t.exportedFunctions.zipIdx.mergeSort functionLe).Pairwise fun a b =>
      functionLe a b = true := by
    refine List.pairwise_mergeSort ?_ ?_ _
    · exact List.zipIdxLE_trans fun _ _ _ => textLe_trans _ _ _
    · exact List.zipIdxLE_total fun _ _ => textLe_total _ _
  have hne : (t.exportedFunctions.zipIdx.mergeSort functionLe).Pairwise fun a b => a.2 ≠ b.2 := by
    refine List.pairwise_map.1 (((List.mergeSort_perm _ _).map Prod.snd).nodup_iff.2 ?_)
    rw [List.zipIdx_map_snd]
    exact List.nodup_range'
  rw [arrangedOf]
  split
  · refine List.pairwise_map.2 (hle.imp₂ ?_ hne)
    intro a b h hn
    exact .inr ⟨⟨rfl, rfl⟩, before_of_functionLe h hn⟩
  · exact .nil

/-- The occurrences are arranged in strict order. -/
theorem arranged_pairwise : (arranged types catalog).Pairwise Occurrence.Before := by
  refine List.pairwise_flatMap.2 ⟨fun t _ => arrangedOf_pairwise, ?_⟩
  refine sortedTypes_ascending.imp ?_
  intro t u h o ho p hp
  obtain ⟨-, rfl, -⟩ := mem_occurrencesOf.1 (arrangedOf_perm.subset ho)
  obtain ⟨-, rfl, -⟩ := mem_occurrencesOf.1 (arrangedOf_perm.subset hp)
  exact .inl h

/-! ### What they contribute -/

/-- The error about a type of an unknown kind. -/
def kindErrors (catalog : Catalog) (t : TypeEntry) : List BindingError :=
  match catalog.resolve? t.subjectKind? with
  | none => [.unknownSubjectKind t.name (t.subjectKind?.getD "")]
  | some _ => []

/-- A type contributes what its occurrences come to, and nothing else but an error about its kind. -/
theorem contribution_eq (t : TypeEntry) :
    (contribution catalog (.ofTypes types) t).functions =
        (partition ((arrangedOf catalog t).map (Occurrence.bound types catalog))).1 ∧
      (contribution catalog (.ofTypes types) t).errors =
        kindErrors catalog t ++
          (partition ((arrangedOf catalog t).map (Occurrence.bound types catalog))).2 := by
  cases hkind : catalog.resolve? t.subjectKind? with
  | none =>
    have hnone : arrangedOf catalog t = [] := by simp [arrangedOf, bindsFunctions, hkind]
    rw [contribution_of_unknown hkind, hnone, kindErrors, hkind]
    exact ⟨rfl, rfl⟩
  | some kind =>
    rw [contribution_of_known hkind, kindErrors, hkind, List.nil_append]
    have hmap : (candidates t).map (bindFunction catalog (.ofTypes types) t kind) =
        (arrangedOf catalog t).map (Occurrence.bound types catalog) := by
      by_cases henum : t.kind = .enum
      · simp [candidates, arrangedOf, bindsFunctions, henum]
      · have hbinds : bindsFunctions catalog t = true := by simp [bindsFunctions, hkind, henum]
        rw [← arrangedOf_functions hbinds, List.map_map]
        refine List.map_congr_left fun o ho => ?_
        obtain ⟨-, rfl, -⟩ := mem_occurrencesOf.1 (arrangedOf_perm.subset ho)
        rw [Function.comp_apply, Occurrence.bound, hkind]
    rw [hmap]
    exact ⟨rfl, rfl⟩

/-- The functions that can be bound are those of the occurrences in their order. -/
theorem accepted_eq :
    accepted types catalog =
      (partition ((arranged types catalog).map (Occurrence.bound types catalog))).1 := by
  rw [accepted, contributions, arranged, List.map_flatMap, partition_flatMap, List.flatMap_map]
  exact List.flatMap_congr fun t _ => (contribution_eq t).1

/-- All reasons why something is left out of the types come from their kinds and the occurrences. -/
theorem errors_perm :
    ((contributions types catalog).flatMap (·.errors)).Perm
      ((sortedTypes types).flatMap (kindErrors catalog) ++
        (partition ((arranged types catalog).map (Occurrence.bound types catalog))).2) := by
  rw [contributions, arranged, List.map_flatMap, partition_flatMap, List.flatMap_map]
  refine .trans ?_ (List.flatMap_append_perm _ _ _).symm
  rw [List.flatMap_congr fun t _ => (contribution_eq t).2]

/-- An occurrence is left out because of a type just as its function is. -/
theorem bound_eq_unmappable {s : SemanticType} (ho : o ∈ occurrences types catalog) :
    o.bound types catalog = .error (unmappable o.owner o.function s) ↔
      GetsToTypes catalog o.function ∧ (CTypes.ofTypes types).unmapped? o.function = some s := by
  obtain ⟨-, hbinds, -⟩ := mem_occurrences.1 ho
  rw [Occurrence.bound]
  cases hkind : catalog.resolve? o.owner.subjectKind? with
  | none => simp [bindsFunctions, hkind] at hbinds
  | some kind => exact bindFunction_eq_unmappable

/-- Every reason why a function is not bound is among the errors. -/
theorem mem_errors_of_bound {e : BindingError} (ho : o ∈ occurrences types catalog)
    (h : o.bound types catalog = .error e) : e ∈ (build types catalog).errors := by
  rw [errors_build]
  refine List.mem_append_left _ (errors_perm.symm.subset (List.mem_append_right _ ?_))
  rw [mem_partition_error, ← h]
  exact List.mem_map_of_mem ((arranged_perm types catalog).symm.subset ho)

end Manifest

end Bindery
