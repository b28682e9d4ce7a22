import Bindery.Entry.Function
import Mathlib.Data.List.Induction
/-!
Parameter names beside parameter types. A function is made by steps, some of which add a parameter with a
name or set all parameters without names. Names and types are two lists, and the names may end early. The
missing ones are filled in before a name is added, each with the name that the parameter has without one,
so filling in renames no parameter, and a new name stands where the new type does. So at each position is
the name that was given to the parameter there, if it was given one.
-/

namespace Bindery.FunctionEntry

variable {f : FunctionEntry} {name given : String} {type : SemanticType} {i n : Nat}

/-! ### Names -/

theorem paramName_of_missing (h : f.paramNames[i]?.getD "" = "") :
    f.paramName i = defaultParamName i := by
  rw [paramName]
  cases hname : f.paramNames[i]? with
  | none => rfl
  | some name =>
    obtain rfl : name = "" := by simpa [hname] using h
    rfl

theorem paramName_of_stated (h : f.paramNames[i]? = some name)
    (hne : name ≠ "") : f.paramName i = name := by
  rw [paramName, h]
  split
  · rename_i heq
    cases heq
  · rename_i heq
    exact absurd (Option.some.inj heq) hne
  · rename_i heq
    exact (Option.some.inj heq).symm

/-- The name of a parameter is made of nothing but what stands at its position. -/
theorem paramName_congr {g : FunctionEntry} (h : f.paramNames[i]? = g.paramNames[i]?) :
    f.paramName i = g.paramName i := by
  rw [paramName, paramName, h]

/-- One more name is that of one position, and no other parameter is renamed. -/
theorem paramName_push (f : FunctionEntry) (given : String) (i : Nat) :
    { f with paramNames := f.paramNames ++ [given] }.paramName i =
      if i = f.paramNames.length then if given = "" then defaultParamName i else given
      else f.paramName i := by
  by_cases hi : i = f.paramNames.length
  · have hgiven : (f.paramNames ++ [given])[i]? = some given := by simp [hi]
    rw [if_pos hi]
    split
    · rename_i hempty
      exact paramName_of_missing (by rw [hgiven, Option.getD_some, hempty])
    · rename_i hne
      exact paramName_of_stated hgiven hne
  · rw [if_neg hi]
    refine paramName_congr ?_
    rcases Nat.lt_or_gt_of_ne hi with hlt | hgt
    · exact List.getElem?_append_left hlt
    · have hend : (f.paramNames ++ [given]).length ≤ i := by simpa using Nat.succ_le_of_lt hgt
      rw [List.getElem?_eq_none hend, List.getElem?_eq_none (Nat.le_of_lt hgt)]

/-! ### Filling in -/

theorem padNames_of_le {names : List String} (h : n ≤ names.length) : padNames names n = names := by
  simp [padNames, Nat.sub_eq_zero_of_le h]

/-- As long as names are missing, the next one is that of the position behind the names. -/
theorem padNames_of_lt {names : List String} (h : names.length < n) :
    padNames names n = padNames (names ++ [defaultParamName names.length]) n := by
  obtain ⟨k, rfl⟩ := Nat.exists_eq_add_of_lt h
  have hbefore : names.length + k + 1 - names.length = k + 1 := by omega
  have hafter : names.length + k + 1 - (names.length + 1) = k := by omega
  rw [padNames, padNames, List.length_append, List.length_singleton, hbefore, hafter,
    List.range'_succ, List.map_cons, List.append_assoc]
  rfl

theorem length_padNames {names : List String} (h : names.length ≤ n) :
    (padNames names n).length = n := by
  simp [padNames]
  omega

/-- A parameter whose name is filled in has that name already. -/
theorem paramName_padNames (f : FunctionEntry) (n i : Nat) :
    { f with paramNames := padNames f.paramNames n }.paramName i = f.paramName i := by
  -- one more name in each round, until there are `n`
  induction hk : n - f.paramNames.length generalizing f with
  | zero => rw [padNames_of_le (by omega)]
  | succ k ih =>
    have hround := ih { f with paramNames := f.paramNames ++ [defaultParamName f.paramNames.length] }
      (by simp; omega)
    rw [padNames_of_lt (by omega)]
    refine hround.trans ?_
    rw [paramName_push]
    split
    · rename_i hi
      subst hi
      rw [ite_eq_right_iff.2 (by simp), paramName_of_missing (by simp)]
    · rfl

theorem paramName_withParam (h : f.paramNames.length ≤ f.paramTypes.length) (given : String)
    (type : SemanticType) (i : Nat) :
    (f.withParam given type).paramName i =
      if i = f.paramTypes.length then if given = "" then defaultParamName i else given
      else f.paramName i := by
  have hpush := paramName_push { f with paramNames := padNames f.paramNames f.paramTypes.length } given i
  rw [length_padNames h, paramName_padNames] at hpush
  exact hpush

/-! ### Steps -/

/-- A step in the making of a function. -/
inductive Step where
  | param (name : String) (type : SemanticType)
  | params (types : List SemanticType)
  | returns (type : SemanticType)
  | nativeSignature (text : String)
  | symbol (name : String)
  | prototype (text : String)
  | doc (text : String)
  | subjectKind (name : String)
  | callable (callable : Callable)
  | static
  | unexported

/-- A function after a step. -/
def Step.apply (f : FunctionEntry) : Step → FunctionEntry
  | .param name type => f.withParam name type
  | .params types => f.withParams types
  | .returns type => { f with returnType := type }
  | .nativeSignature text => { f with nativeSignature := text }
  | .symbol name => { f with symbol? := some name }
  | .prototype text => { f with prototype? := some text }
  | .doc text => { f with doc := text }
  | .subjectKind name => { f with subjectKind? := some name }
  | .callable c => { f with callable? := some c }
  | .static => { f with isStatic := true }
  | .unexported => { f with exported := false }

/-- The function of a name that some steps make, from one without parameters. -/
def built (name : String) (steps : List Step) : FunctionEntry := steps.foldl Step.apply { name }

/-- Whether the parameter at a position is one that a step added with a name: there were as many
parameters in front of it, and the parameters were not set again since. -/
def AddedAs (name : String) (steps : List Step) (i : Nat) (given : String) (type : SemanticType) : Prop :=
  ∃ before after, steps = before ++ .param given type :: after ∧
    (built name before).paramTypes.length = i ∧ ∀ types, .params types ∉ after

variable {steps : List Step} {s : Step}

theorem built_concat (name : String) (steps : List Step) (s : Step) :
    built name (steps ++ [s]) = s.apply (built name steps) := by
  rw [built, List.foldl_append]
  rfl

/-- One more step adds a parameter or leaves those that were added, unless it sets them. -/
theorem addedAs_concat : AddedAs name (steps ++ [s]) i given type ↔
    (s = .param given type ∧ (built name steps).paramTypes.length = i) ∨
      ((∀ types, s ≠ .params types) ∧ AddedAs name steps i given type) := by
  constructor
  · rintro ⟨before, after, hsteps, hposition, hkept⟩
    rcases List.eq_nil_or_concat after with rfl | ⟨after, last, rfl⟩
    · obtain ⟨rfl, rfl⟩ := List.append_singleton_inj.1 hsteps
      exact .inl ⟨rfl, hposition⟩
    · rw [List.concat_eq_append] at hsteps hkept
      rw [← List.cons_append, ← List.append_assoc] at hsteps
      obtain ⟨rfl, rfl⟩ := List.append_singleton_inj.1 hsteps
      refine .inr ⟨fun types hs => hkept types (by simp [hs]), before, after, rfl, hposition, ?_⟩
      exact fun types hmem => hkept types (List.mem_append_left _ hmem)
  · rintro (⟨rfl, hposition⟩ | ⟨hs, before, after, rfl, hposition, hkept⟩)
    · exact ⟨steps, [], rfl, hposition, by simp⟩
    · refine ⟨before, after ++ [s], by simp, hposition, fun types hmem => ?_⟩
      rcases List.mem_append.1 hmem with hmem | hmem
      · exact hkept types hmem
      · exact hs types (List.mem_singleton.1 hmem).symm

/-! ### Many steps -/

theorem length_paramNames_le (name : String) (steps : List Step) :
    (built name steps).paramNames.length ≤ (built name steps).paramTypes.length := by
  induction steps using List.reverseRecOn with
  | nil => exact Nat.le_refl 0
  | append_singleton steps s ih =>
    rw [built_concat]
    cases s with
    | param given type => simp [Step.apply, withParam, length_padNames ih]
    | params types => exact Nat.zero_le _
    | _ => exact ih

theorem paramName_built_param (name : String) (steps : List Step) (given : String) (type : SemanticType)
    (i : Nat) : (built name (steps ++ [.param given type])).paramName i =
      if i = (built name steps).paramTypes.length then if given = "" then defaultParamName i else given
      else (built name steps).paramName i := by
  rw [built_concat]
  exact paramName_withParam (length_paramNames_le name steps) given type i

theorem paramName_of_addedAs (h : AddedAs name steps i given type) :
    (built name steps).paramTypes[i]? = some type ∧
      (built name steps).paramName i = if given = "" then defaultParamName i else given := by
  induction steps using List.reverseRecOn with
  | nil =>
    obtain ⟨before, after, hsteps, -⟩ := h
    simp at hsteps
  | append_singleton steps s ih =>
    rcases addedAs_concat.1 h with ⟨rfl, rfl⟩ | ⟨hs, h⟩
    · rw [paramName_built_param, if_pos rfl, built_concat]
      exact ⟨List.getElem?_concat_length, rfl⟩
    · obtain ⟨htype, hname⟩ := ih h
      cases s with
      | params types => exact absurd rfl (hs types)
      | param added other =>
        obtain ⟨hi, -⟩ := List.getElem?_eq_some_iff.1 htype
        rw [paramName_built_param, if_neg (Nat.ne_of_lt hi), built_concat]
        exact ⟨(List.getElem?_append_left hi).trans htype, hname⟩
      | _ =>
        rw [built_concat]
        exact ⟨htype, hname⟩

theorem paramName_of_not_addedAs (h : ∀ given type, ¬ AddedAs name steps i given type) :
    (built name steps).paramName i = defaultParamName i := by
  induction steps using List.reverseRecOn with
  | nil => rfl
  | append_singleton steps s ih =>
    have hbefore (hs : ∀ types, s ≠ .params types) :
        (built name steps).paramName i = defaultParamName i :=
      ih fun given type hadded => h given type (addedAs_concat.2 (.inr ⟨hs, hadded⟩))
    cases s with
    | params types =>
      rw [built_concat]
      rfl
    | param given type =>
      rw [paramName_built_param, if_neg, hbefore (by simp)]
      rintro rfl
      exact h given type (addedAs_concat.2 (.inl ⟨rfl, rfl⟩))
    | _ =>
      rw [built_concat]
      exact hbefore (by simp)

/-- How the names of parameters stand beside their types. -/
structure NamesAligned (name : String) (steps : List Step) : Prop where
  le : (built name steps).paramNames.length ≤ (built name steps).paramTypes.length
  /-- A parameter that was added with a name has it, together with the type that came with it. -/
  added : ∀ i given type, AddedAs name steps i given type →
    (built name steps).paramTypes[i]? = some type ∧
      (given ≠ "" → (built name steps).paramName i = given) ∧
      (given = "" → (built name steps).paramName i = "arg" ++ toString i)
  others : ∀ i, (∀ given type, ¬ AddedAs name steps i given type) →
    (built name steps).paramName i = "arg" ++ toString i
  beyond : ∀ i, (built name steps).paramTypes.length ≤ i →
    (built name steps).paramName i = "arg" ++ toString i
  /-- No step that adds a parameter renames one in front of it. -/
  earlier : ∀ given type i, i < (built name steps).paramTypes.length →
    (built name (steps ++ [.param given type])).paramName i = (built name steps).paramName i

/-- Whatever steps make a function, the names of its parameters are those that were given with their
types. -/
theorem names_aligned (name : String) (steps : List Step) : NamesAligned name steps where
  le := length_paramNames_le name steps
  added i given type h := by
    obtain ⟨htype, hname⟩ := paramName_of_addedAs h
    refine ⟨htype, fun hne => ?_, fun hempty => ?_⟩
    · rw [hname, if_neg hne]
    · rw [hname, if_pos hempty, defaultParamName]
  others i h := paramName_of_not_addedAs h
  beyond i hi := by
    refine paramName_of_not_addedAs fun given type h => ?_
    obtain ⟨hlt, -⟩ := List.getElem?_eq_some_iff.1 (paramName_of_addedAs h).1
    omega
  earlier given type i hi := by
    rw [paramName_built_param, if_neg (Nat.ne_of_lt hi)]

/-- The name of the first parameter is filled in when the second one is added. -/
example : (List.range 3).map (built "move" [.params [.int32], .static, .param "dy" .int32]).paramName =
    ["arg0", "dy", "arg2"] := by decide

end Bindery.FunctionEntry
