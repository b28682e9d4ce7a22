import Bindery.Entry.TypeEntry
import Mathlib.Data.List.Basic
/-!
Taking over the members of another entry. The loop looks for each member in a list that it changes as
it goes, so a member may complete one that was taken over a moment ago. Seen from one member of the list
the loop is simple: the member is completed by those of its name, in their order, and the others pass it
by. So the members keep their places and their metadata, each name that is new comes once, and what is
attached to the first member of a name is its own, or else the first that is offered under the name.
Taking over the same members again changes nothing.
-/

namespace Bindery.TypeEntry

section Members

variable {α β : Type} {key : α → String} {fill : α → α → α} {what : α → Option β} {b c : α}
  {bs : List α} {name : String}

/-- What the members of a name offer: the first thing that one of them has. -/
def offered (key : α → String) (what : α → Option β) (name : String) (cs : List α) : Option β :=
  (cs.filter (key · = name)).findSome? what

theorem findSome?_cons_eq (what : α → Option β) (c : α) (cs : List α) :
    (c :: cs).findSome? what = (what c).or (cs.findSome? what) := by
  rw [List.findSome?_cons]
  cases what c <;> rfl

/-- The members of one name are also among those that do not have another one. -/
theorem filter_filter_ne {other : String} (h : name ≠ other) (cs : List α) :
    (cs.filter (key · ≠ other)).filter (key · = name) = cs.filter (key · = name) := by
  rw [List.filter_filter]
  refine List.filter_congr fun c _ => ?_
  by_cases hc : key c = name <;> simp [hc, h]

theorem length_filter_lt_cons (p : α → Bool) (c : α) (cs : List α) :
    (cs.filter p).length < (c :: cs).length := Nat.lt_succ_of_le (List.length_filter_le _ _)

variable (hkey : ∀ b c, key (fill b c) = key b)
include hkey

theorem key_foldl (b : α) (cs : List α) : key (cs.foldl fill b) = key b := by
  induction cs generalizing b with
  | nil => rfl
  | cons c cs ih => rw [List.foldl_cons, ih, hkey]

/-- The first member is completed by those of its name, and the others do not know of it. -/
theorem foldl_fillBy_cons (b : α) (bs cs : List α) :
    cs.foldl (fillBy key fill) (b :: bs) =
      (cs.filter (key · = key b)).foldl fill b ::
        (cs.filter (key · ≠ key b)).foldl (fillBy key fill) bs := by
  induction cs generalizing b bs with
  | nil => rfl
  | cons c cs ih =>
    by_cases h : key b = key c
    · rw [List.foldl_cons, fillBy, if_pos h, ih, hkey, List.filter_cons_of_pos (by simp [h]),
        List.filter_cons_of_neg (by simp [h]), List.foldl_cons]
    · rw [List.foldl_cons, fillBy, if_neg h, ih, List.filter_cons_of_neg (by simp [Ne.symm h]),
        List.filter_cons_of_pos (by simp [Ne.symm h]), List.foldl_cons]

/-- Where there are no members yet, the first of each name is taken over and then completed. -/
theorem foldl_fillBy_nil (c : α) (cs : List α) :
    (c :: cs).foldl (fillBy key fill) [] =
      (cs.filter (key · = key c)).foldl fill c ::
        (cs.filter (key · ≠ key c)).foldl (fillBy key fill) [] :=
  foldl_fillBy_cons hkey c [] cs

/-! ### Names -/

theorem keys_foldl_fillBy_nil (cs : List α) :
    (cs.foldl (fillBy key fill) []).map key = (cs.map key).eraseDups := by
  match cs with
  | [] => rfl
  | c :: cs =>
    have hothers : (cs.filter (key · ≠ key c)).map key =
        (cs.map key).filter fun k => !k == key c := by
      rw [List.filter_map]
      congr 1
      refine List.filter_congr fun d _ => ?_
      simp only [Function.comp_apply, ne_eq, decide_not]
      rfl
    rw [foldl_fillBy_nil hkey, List.map_cons, key_foldl hkey, List.map_cons, List.eraseDups_cons,
      keys_foldl_fillBy_nil (cs.filter (key · ≠ key c)), hothers]
termination_by cs.length
decreasing_by exact length_filter_lt_cons _ c cs

/-- The names stay, and those that are new follow, each once, in the order in which they come first. -/
theorem keys_foldl_fillBy (bs cs : List α) :
    (cs.foldl (fillBy key fill) bs).map key =
      bs.map key ++ ((cs.map key).filter (· ∉ bs.map key)).eraseDups := by
  induction bs generalizing cs with
  | nil => simp [keys_foldl_fillBy_nil hkey]
  | cons b bs ih =>
    have hothers : ((cs.filter (key · ≠ key b)).map key).filter (· ∉ bs.map key) =
        (cs.map key).filter (· ∉ (b :: bs).map key) := by
      rw [List.filter_map, List.filter_map, List.filter_filter]
      congr 1
      refine List.filter_congr fun d _ => ?_
      simp only [Function.comp_apply, List.map_cons, List.mem_cons, not_or, Bool.decide_and]
      exact Bool.and_comm _ _
    rw [foldl_fillBy_cons hkey, List.map_cons, key_foldl hkey, ih, hothers, List.map_cons,
      List.cons_append]

/-! ### Members -/

/-- Every member keeps its place. The first of its name is completed by those that are taken over under
it, and the others of the name stay as they are. -/
theorem getElem?_foldl_fillBy {i : Nat} (h : bs[i]? = some b) (cs : List α) :
    (cs.foldl (fillBy key fill) bs)[i]? =
      some (if key b ∈ (bs.take i).map key then b else (cs.filter (key · = key b)).foldl fill b) := by
  induction bs generalizing i cs with
  | nil => cases h
  | cons d bs ih =>
    rw [foldl_fillBy_cons hkey]
    cases i with
    | zero =>
      obtain rfl : d = b := Option.some.inj h
      rfl
    | succ i =>
      rw [List.getElem?_cons_succ, ih h _, List.take_succ_cons, List.map_cons]
      by_cases hd : key b = key d
      · -- the members of this name have all gone to the one in front
        have hnone : (cs.filter (key · ≠ key d)).filter (key · = key b) = [] := by
          simp [List.filter_filter, hd]
        rw [if_pos (List.mem_cons.2 (.inl hd)), hnone]
        simp
      · rw [filter_filter_ne hd]
        simp only [List.mem_cons, hd, false_or]

section

variable (hsame : ∀ c, fill c c = c)
include hsame

theorem find?_foldl_fillBy_nil (name : String) (cs : List α) :
    (cs.foldl (fillBy key fill) []).find? (key · = name) =
      (cs.filter (key · = name)).head?.map fun c => (cs.filter (key · = name)).foldl fill c := by
  match cs with
  | [] => rfl
  | c :: cs =>
    rw [foldl_fillBy_nil hkey]
    by_cases h : key c = name
    · have hfirst : key ((cs.filter (key · = key c)).foldl fill c) = name := (key_foldl hkey c _).trans h
      rw [List.find?_cons_of_pos (by simpa using hfirst), List.filter_cons_of_pos (by simpa using h),
        List.head?_cons, Option.map_some, List.foldl_cons, hsame, h]
    · have hfirst : ¬ key ((cs.filter (key · = key c)).foldl fill c) = name := by rwa [key_foldl hkey]
      rw [List.find?_cons_of_neg (by simpa using hfirst), List.filter_cons_of_neg (by simpa using h),
        find?_foldl_fillBy_nil name (cs.filter (key · ≠ key c)), filter_filter_ne (Ne.symm h)]
termination_by cs.length
decreasing_by exact length_filter_lt_cons _ c cs

/-- A member of a new name is the first that is taken over under it, completed by all of them. -/
theorem find?_foldl_fillBy (hnew : name ∉ bs.map key) (cs : List α) :
    (cs.foldl (fillBy key fill) bs).find? (key · = name) =
      (cs.filter (key · = name)).head?.map fun c => (cs.filter (key · = name)).foldl fill c := by
  induction bs generalizing cs with
  | nil => exact find?_foldl_fillBy_nil hkey hsame name cs
  | cons b bs ih =>
    obtain ⟨hb, hbs⟩ := not_or.1 (mt List.mem_cons.2 hnew)
    have hfirst : ¬ key ((cs.filter (key · = key b)).foldl fill b) = name := by
      rw [key_foldl hkey]
      exact Ne.symm hb
    rw [foldl_fillBy_cons hkey, List.find?_cons_of_neg (by simpa using hfirst), ih hbs,
      filter_filter_ne hb]

variable (hagain : ∀ b (cs : List α), cs.foldl fill (cs.foldl fill b) = cs.foldl fill b)
include hagain

theorem foldl_fillBy_again_nil (cs : List α) :
    cs.foldl (fillBy key fill) (cs.foldl (fillBy key fill) []) = cs.foldl (fillBy key fill) [] := by
  match cs with
  | [] => rfl
  | c :: cs =>
    -- in the second round the member that was taken over first is completed by itself as well
    have hfirst (ds : List α) : (c :: ds).foldl fill (ds.foldl fill c) = ds.foldl fill c := by
      have hstart : (c :: ds).foldl fill c = ds.foldl fill c := by rw [List.foldl_cons, hsame]
      have hself := hagain c (c :: ds)
      rwa [hstart] at hself
    rw [foldl_fillBy_nil hkey, foldl_fillBy_cons hkey, key_foldl hkey,
      List.filter_cons_of_pos (by simp), List.filter_cons_of_neg (by simp), hfirst,
      foldl_fillBy_again_nil (cs.filter (key · ≠ key c))]
termination_by cs.length
decreasing_by exact length_filter_lt_cons _ c cs

/-- If it makes no difference to complete a member again, it makes none to take over members again. -/
theorem foldl_fillBy_again (bs cs : List α) :
    cs.foldl (fillBy key fill) (cs.foldl (fillBy key fill) bs) = cs.foldl (fillBy key fill) bs := by
  induction bs generalizing cs with
  | nil => exact foldl_fillBy_again_nil hkey hsame hagain cs
  | cons b bs ih => rw [foldl_fillBy_cons hkey, foldl_fillBy_cons hkey, key_foldl hkey, hagain, ih]

end

end Members

/-! ### What is attached -/

/-- A function is completed by the first callable that there is. -/
theorem foldl_fillFrom_function (f : FunctionEntry) (gs : List FunctionEntry) :
    gs.foldl .fillFrom f = { f with callable? := f.callable?.or (gs.findSome? (·.callable?)) } := by
  induction gs generalizing f with
  | nil => simp
  | cons g gs ih =>
    rw [List.foldl_cons, ih, findSome?_cons_eq, ← Option.or_assoc]
    rfl

/-- A property is completed by the first getter that there is, and by the first setter unless it is
read-only. -/
theorem foldl_fillFrom_property (p : PropertyEntry) (qs : List PropertyEntry) :
    qs.foldl .fillFrom p = { p with
      getter? := p.getter?.or (qs.findSome? (·.getter?))
      setter? := if p.readOnly then p.setter? else p.setter?.or (qs.findSome? (·.setter?)) } := by
  induction qs generalizing p with
  | nil => simp
  | cons q qs ih =>
    rw [List.foldl_cons, ih, findSome?_cons_eq, findSome?_cons_eq, ← Option.or_assoc, ← Option.or_assoc]
    cases h : p.readOnly <;> simp [PropertyEntry.fillFrom, h]

theorem name_fillFrom_function (f g : FunctionEntry) : (f.fillFrom g).name = f.name := rfl

theorem fillFrom_function_self (f : FunctionEntry) : f.fillFrom f = f := by
  rw [FunctionEntry.fillFrom, Option.or_self]

theorem foldl_fillFrom_function_again (f : FunctionEntry) (gs : List FunctionEntry) :
    gs.foldl .fillFrom (gs.foldl .fillFrom f) = gs.foldl .fillFrom f := by
  simp [foldl_fillFrom_function, Option.or_assoc]

theorem name_fillFrom_property (p q : PropertyEntry) : (p.fillFrom q).name = p.name := rfl

theorem fillFrom_property_self (p : PropertyEntry) : p.fillFrom p = p := by
  rw [PropertyEntry.fillFrom, Option.or_self, Option.or_self, ite_self]

theorem foldl_fillFrom_property_again (p : PropertyEntry) (qs : List PropertyEntry) :
    qs.foldl .fillFrom (qs.foldl .fillFrom p) = qs.foldl .fillFrom p := by
  cases h : p.readOnly <;> simp [foldl_fillFrom_property, Option.or_assoc, h]

/-! ### Entries -/

/-- The function with what is offered to it under its name. -/
def completedFunction (s : TypeEntry) (f : FunctionEntry) : FunctionEntry :=
  { f with callable? := f.callable?.or (offered (·.name) (·.callable?) f.name s.functions) }

/-- The property with what is offered to it under its name. -/
def completedProperty (s : TypeEntry) (p : PropertyEntry) : PropertyEntry :=
  { p with
    getter? := p.getter?.or (offered (·.name) (·.getter?) p.name s.properties)
    setter? := if p.readOnly then p.setter?
      else p.setter?.or (offered (·.name) (·.setter?) p.name s.properties) }

/-- What an entry `d` becomes when it takes over the members of `s`. -/
structure Merges (d s r : TypeEntry) : Prop where
  /-- Nothing but members is taken over. -/
  others : r = { d with functions := r.functions, properties := r.properties }
  functionNames : r.functions.map (·.name) = d.functions.map (·.name) ++
    ((s.functions.map (·.name)).filter (· ∉ d.functions.map (·.name))).eraseDups
  propertyNames : r.properties.map (·.name) = d.properties.map (·.name) ++
    ((s.properties.map (·.name)).filter (· ∉ d.properties.map (·.name))).eraseDups
  /-- The metadata of the members stays. -/
  functionMetadata : d.functions.map (·.erase) <+: r.functions.map (·.erase)
  propertyMetadata : d.properties.map (·.erase) <+: r.properties.map (·.erase)
  /-- The first member of a name is completed, and the others of the name stay as they are. -/
  functions : ∀ i f, d.functions[i]? = some f → r.functions[i]? =
    some (if f.name ∈ (d.functions.take i).map (·.name) then f else completedFunction s f)
  properties : ∀ i p, d.properties[i]? = some p → r.properties[i]? =
    some (if p.name ∈ (d.properties.take i).map (·.name) then p else completedProperty s p)
  /-- A member of a new name is the first that there is of it, completed in the same way. -/
  newFunctions : ∀ name ∉ d.functions.map (·.name),
    r.function? name = (s.function? name).map (completedFunction s)
  newProperties : ∀ name ∉ d.properties.map (·.name),
    r.property? name = (s.property? name).map (completedProperty s)

section

variable (d s : TypeEntry) {name : String}

theorem getElem?_functions_absorb {i : Nat} {f : FunctionEntry} (h : d.functions[i]? = some f) :
    (d.absorb s).functions[i]? =
      some (if f.name ∈ (d.functions.take i).map (·.name) then f else completedFunction s f) := by
  have hmember := getElem?_foldl_fillBy name_fillFrom_function h s.functions
  rwa [foldl_fillFrom_function] at hmember

theorem getElem?_properties_absorb {i : Nat} {p : PropertyEntry} (h : d.properties[i]? = some p) :
    (d.absorb s).properties[i]? =
      some (if p.name ∈ (d.properties.take i).map (·.name) then p else completedProperty s p) := by
  have hmember := getElem?_foldl_fillBy name_fillFrom_property h s.properties
  rwa [foldl_fillFrom_property] at hmember

theorem function?_absorb (hnew : name ∉ d.functions.map (·.name)) :
    (d.absorb s).function? name = (s.function? name).map (completedFunction s) := by
  have hfound : s.function? name = (s.functions.filter (·.name = name)).head? := List.head?_filter.symm
  refine (find?_foldl_fillBy name_fillFrom_function fillFrom_function_self hnew s.functions).trans ?_
  rw [hfound]
  refine Option.map_congr fun f hf => ?_
  have hname : f.name = name := of_decide_eq_true (List.mem_filter.1 (List.mem_of_head? hf)).2
  rw [foldl_fillFrom_function, completedFunction, offered, hname]

theorem property?_absorb (hnew : name ∉ d.properties.map (·.name)) :
    (d.absorb s).property? name = (s.property? name).map (completedProperty s) := by
  have hfound : s.property? name = (s.properties.filter (·.name = name)).head? := List.head?_filter.symm
  refine (find?_foldl_fillBy name_fillFrom_property fillFrom_property_self hnew s.properties).trans ?_
  rw [hfound]
  refine Option.map_congr fun p hp => ?_
  have hname : p.name = name := of_decide_eq_true (List.mem_filter.1 (List.mem_of_head? hp)).2
  rw [foldl_fillFrom_property, completedProperty, offered, offered, hname]

end

/-- Lists whose elements stay in their places, up to some function, begin alike up to it. -/
theorem map_prefix_map {α β : Type} {f : α → β} {as bs : List α}
    (h : ∀ (i : Nat) a, as[i]? = some a → ∃ b, bs[i]? = some b ∧ f b = f a) :
    as.map f <+: bs.map f := by
  rw [List.prefix_iff_getElem?]
  intro i hi
  rw [List.length_map] at hi
  obtain ⟨b, hb, heq⟩ := h i as[i] (List.getElem?_eq_getElem hi)
  rw [List.getElem?_map, hb, List.getElem_map, ← heq]
  rfl

/-- Taking over members is a merge that prefers the members that are there and loses none of the others,
and to do it again with the same members changes nothing. -/
theorem absorb_merges (d s : TypeEntry) :
    Merges d s (d.absorb s) ∧ (d.absorb s).absorb s = d.absorb s := by
  constructor
  · constructor
    case others => rfl
    case functionNames => exact keys_foldl_fillBy name_fillFrom_function d.functions s.functions
    case propertyNames => exact keys_foldl_fillBy name_fillFrom_property d.properties s.properties
    case functionMetadata =>
      refine map_prefix_map fun i f h => ⟨_, getElem?_functions_absorb d s h, ?_⟩
      split <;> rfl
    case propertyMetadata =>
      refine map_prefix_map fun i p h => ⟨_, getElem?_properties_absorb d s h, ?_⟩
      split <;> rfl
    case functions => exact fun _ _ => getElem?_functions_absorb d s
    case properties => exact fun _ _ => getElem?_properties_absorb d s
    case newFunctions => exact fun _ => function?_absorb d s
    case newProperties => exact fun _ => property?_absorb d s
  · have hfunctions := foldl_fillBy_again name_fillFrom_function fillFrom_function_self
      foldl_fillFrom_function_again d.functions s.functions
    have hproperties := foldl_fillBy_again name_fillFrom_property fillFrom_property_self
      foldl_fillFrom_property_again d.properties s.properties
    simp only [absorb, hfunctions, hproperties]

/-- The first of two members of a new name is taken over, and the second completes it. -/
example :
    ((ofName "Window" .object).absorb { ofName "Window" .object with
      functions := [{ name := "show", doc := "shows it" }, { name := "show", callable? := some .host }] }
    ).functions = [{ name := "show", doc := "shows it", callable? := some .host }] := rfl

end Bindery.TypeEntry
