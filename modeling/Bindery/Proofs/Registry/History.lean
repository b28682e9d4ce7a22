import Bindery.Proofs.Registry.Action
import Mathlib.Data.List.DropRight
import Mathlib.Data.List.Induction
/-!
The history of a registry. What is found under a name is decided by the accepted actions on this name
since the registry was cleared last: nothing without such actions, a shell with the attached members
while the type is not declared, then the declaration with the members of the shell, and from there on
each declaration in place of the whole entry and each attachment in the entry. The registry keeps the
entries and the names of the shells apart; the invariant is that the shells are the names to which
something is attached and which were not declared.
-/

namespace Bindery.Registry

namespace Action

def isClear : Action → Bool
  | .clear => true
  | _ => false

/-- Whether an action is about a name. Clearing is about all of them. -/
def touches (name : String) : Action → Bool
  | .declare t => t.name = name
  | .attachFunction type _ _ => type = name
  | .attachProperty type _ _ _ => type = name
  | .clear => true

/-- Whether an action has an effect on a name. -/
def concerns (name : String) (a : Action) : Bool := a.isAccepted && a.touches name

variable {name : String} {a : Action}

theorem isDeclaration_of_attachesTo (h : a.attachesTo name = true) : a.isDeclaration = false := by
  cases a <;> first | rfl | cases h

theorem isClear_of_attachesTo (h : a.attachesTo name = true) : a.isClear = false := by
  cases a <;> first | rfl | cases h

theorem touches_of_attachesTo (h : a.attachesTo name = true) (other : String) :
    a.touches other = decide (name = other) := by
  cases a with
  | attachFunction type f callable => rw [touches, of_decide_eq_true h]
  | attachProperty type p getter setter? => rw [touches, of_decide_eq_true h]
  | _ => cases h

end Action

/-- The registry after a history. -/
def after (history : List Action) : Registry := Registry.empty.run history

theorem after_concat (history : List Action) (a : Action) :
    after (history ++ [a]) = ((after history).perform a).2 := by
  rw [after, run_append]
  rfl

/-- The accepted actions on a name since the registry was cleared last. -/
def relevant (name : String) (history : List Action) : List Action :=
  (history.rtakeWhile fun a => !a.isClear).filter fun a => a.concerns name

/-- The entry of a name after some actions on it. What comes before the first declaration is attached
to a shell, which the declaration takes over; what comes after it changes the entry. -/
def entryOf (name : String) (actions : List Action) : Option TypeEntry :=
  let attached := actions.takeWhile fun a => !a.isDeclaration
  let shell := attached.foldl Action.change (.shell name)
  match actions.dropWhile fun a => !a.isDeclaration with
  | .declare d :: rest => some (rest.foldl Action.change (d.absorb shell))
  | _ => if attached.isEmpty then none else some shell

variable {name other : String} {history actions rest : List Action} {a : Action} {d t : TypeEntry}
  {r : Registry}

/-! ### Entries -/

/-- Whether actions attach members only. -/
def NoDeclaration (actions : List Action) : Prop := ∀ a ∈ actions, a.isDeclaration = false

instance : Decidable (NoDeclaration actions) := inferInstanceAs (Decidable (∀ a ∈ actions, _))

theorem entryOf_attached (h : NoDeclaration actions) :
    entryOf name actions =
      if actions.isEmpty then none else some (actions.foldl Action.change (.shell name)) := by
  have hall : ∀ a ∈ actions, (!a.isDeclaration) = true := fun a ha => by rw [h a ha]; rfl
  rw [entryOf, List.takeWhile_eq_self_iff.2 hall, List.dropWhile_eq_nil_iff.2 hall]

theorem entryOf_declared (h : NoDeclaration actions) :
    entryOf name (actions ++ .declare d :: rest) =
      some (rest.foldl Action.change (d.absorb (actions.foldl Action.change (.shell name)))) := by
  have hall : ∀ a ∈ actions, (!a.isDeclaration) = true := fun a ha => by rw [h a ha]; rfl
  rw [entryOf, List.takeWhile_append_of_pos hall, List.dropWhile_append_of_pos hall]
  simp [Action.isDeclaration]

/-- Actions attach members only, or one of them is the first declaration. -/
theorem exists_first_declaration : ∀ actions : List Action, NoDeclaration actions ∨
    ∃ attached d rest, actions = attached ++ .declare d :: rest ∧ NoDeclaration attached
  | [] => .inl (by simp [NoDeclaration])
  | a :: actions => by
    rcases exists_first_declaration actions with h | ⟨attached, d, rest, rfl, h⟩
    · cases a with
      | declare d => exact .inr ⟨[], d, actions, rfl, by simp [NoDeclaration]⟩
      | _ => exact .inl (List.forall_mem_cons.2 ⟨rfl, h⟩)
    · cases a with
      | declare d' => exact .inr ⟨[], d', _, rfl, by simp [NoDeclaration]⟩
      | _ => exact .inr ⟨_ :: attached, d, rest, rfl, List.forall_mem_cons.2 ⟨rfl, h⟩⟩

theorem not_noDeclaration : ¬ NoDeclaration (actions ++ .declare d :: rest) := fun h =>
  Bool.noConfusion (h (.declare d) (by simp))

theorem noDeclaration_concat (ha : a.isDeclaration = false) :
    NoDeclaration (actions ++ [a]) ↔ NoDeclaration actions := by
  simp [NoDeclaration, or_imp, forall_and, ha]

theorem entryOf_eq_none : entryOf name actions = none ↔ actions = [] := by
  rcases exists_first_declaration actions with h | ⟨attached, d, rest, rfl, h⟩
  · rw [entryOf_attached h]
    cases actions <;> simp
  · simp [entryOf_declared h]

/-- One more attachment changes the entry, or a shell if there is none. -/
theorem entryOf_attach (hattach : a.attachesTo name = true) :
    entryOf name (actions ++ [a]) =
      some (a.change ((entryOf name actions).getD (.shell name))) := by
  have ha := Action.isDeclaration_of_attachesTo hattach
  rcases exists_first_declaration actions with h | ⟨attached, d, rest, rfl, h⟩
  · rw [entryOf_attached ((noDeclaration_concat ha).2 h), entryOf_attached h, List.foldl_concat]
    cases actions <;> rfl
  · rw [List.append_assoc, List.cons_append, entryOf_declared h, entryOf_declared h,
      List.foldl_concat]
    rfl

/-- One more declaration takes over the shell if it is the first, and else replaces the entry. -/
theorem entryOf_declare :
    entryOf name (actions ++ [.declare d]) =
      if NoDeclaration actions then
        some (d.absorb (actions.foldl Action.change (.shell name)))
      else some d := by
  rcases exists_first_declaration actions with h | ⟨attached, d', rest, rfl, h⟩
  · rw [if_pos h, entryOf_declared h]
    rfl
  · rw [if_neg not_noDeclaration, List.append_assoc, List.cons_append, entryOf_declared h,
      List.foldl_concat]
    rfl

/-! ### Histories -/

theorem relevant_clear : relevant name (history ++ [.clear]) = [] := by
  rw [relevant, List.rtakeWhile_concat]
  rfl

theorem relevant_of_not (h : a.concerns name = false) :
    relevant name (history ++ [a]) = relevant name history := by
  have hclear : a.isClear = false := by
    cases a with
    | clear => cases h
    | _ => rfl
  rw [relevant, List.rtakeWhile_concat, hclear, Bool.not_false, if_pos rfl, List.filter_append,
    List.filter_cons_of_neg (Bool.eq_false_iff.1 h), List.filter_nil, List.append_nil]
  rfl

theorem relevant_concat (hclear : a.isClear = false) (h : a.concerns name = true) :
    relevant name (history ++ [a]) = relevant name history ++ [a] := by
  rw [relevant, List.rtakeWhile_concat, hclear, Bool.not_false, if_pos rfl, List.filter_append,
    List.filter_cons_of_pos h, List.filter_nil]
  rfl

/-- What matters for a name in a history are the actions that concern it. -/
theorem relevant_filter (name : String) (history : List Action) :
    relevant name (history.filter fun a => a.concerns name) = relevant name history := by
  induction history using List.reverseRecOn with
  | nil => rfl
  | append_singleton history a ih =>
    rw [List.filter_append]
    by_cases ha : a.concerns name = true
    · rw [List.filter_cons_of_pos ha, List.filter_nil]
      rcases a.clear_or_declare_or_attach with rfl | ⟨d, rfl⟩ | ⟨type, hattach⟩
      · rw [relevant_clear, relevant_clear]
      · rw [relevant_concat rfl ha, relevant_concat rfl ha, ih]
      · have hclear := Action.isClear_of_attachesTo hattach
        rw [relevant_concat hclear ha, relevant_concat hclear ha, ih]
    · rw [List.filter_cons_of_neg ha, List.filter_nil, List.append_nil, ih,
        relevant_of_not (Bool.eq_false_iff.2 ha)]

/-- Whether a registry is what a history leads to: the entry of each name is that of the actions on
it, and the shells are the names that something is attached to and that were not declared. -/
structure Reflects (r : Registry) (history : List Action) : Prop where
  lookup : ∀ name, r.lookup? name = entryOf name (relevant name history)
  shells : ∀ name, name ∈ r.shells ↔
    relevant name history ≠ [] ∧ NoDeclaration (relevant name history)
  nodup : r.shells.Nodup

theorem reflects_empty : Reflects .empty [] where
  lookup _ := rfl
  shells name := by simp [Registry.empty, relevant]
  nodup := .nil

theorem Reflects.refused (h : Reflects r history) (ha : a.isAccepted = false) :
    Reflects (r.perform a).2 (history ++ [a]) := by
  obtain ⟨what, hrefused⟩ := perform_refused r ha
  have hrelevant (name : String) : relevant name (history ++ [a]) = relevant name history :=
    relevant_of_not (by rw [Action.concerns, ha, Bool.false_and])
  rw [hrefused]
  exact ⟨fun name => by rw [hrelevant, h.lookup], fun name => by rw [hrelevant, h.shells], h.nodup⟩

theorem Reflects.clear (r : Registry) (history : List Action) :
    Reflects (r.perform .clear).2 (history ++ [.clear]) where
  lookup name := by
    rw [relevant_clear]
    rfl
  shells name := by
    rw [relevant_clear]
    simp [perform, Registry.clear, Registry.empty]
  nodup := .nil

/-- A declaration takes over what was attached to its name before, if nothing declared it. -/
theorem Reflects.declared_eq (h : Reflects r history) (d : TypeEntry) :
    r.declared d =
      if NoDeclaration (relevant d.name history) then
        d.absorb ((relevant d.name history).foldl Action.change (.shell d.name))
      else d := by
  rw [declared, h.lookup]
  by_cases hnone : NoDeclaration (relevant d.name history)
  · rw [if_pos hnone, entryOf_attached hnone]
    cases hpast : relevant d.name history with
    | nil =>
      rw [if_neg (by simp [h.shells, hpast])]
      rfl
    | cons b past =>
      rw [if_pos ((h.shells _).2 ⟨by simp [hpast], hnone⟩)]
      rfl
  · rw [if_neg hnone, if_neg fun hshell => hnone ((h.shells _).1 hshell).2]

theorem Reflects.declare (h : Reflects r history) (hd : d.name ≠ "") :
    Reflects (r.perform (.declare d)).2 (history ++ [.declare d]) := by
  have haccepted : (Action.declare d).isAccepted = true := decide_eq_true hd
  have hself : relevant d.name (history ++ [.declare d]) = relevant d.name history ++ [.declare d] :=
    relevant_concat rfl (by
      rw [Action.concerns, haccepted]
      exact decide_eq_true rfl)
  have hother {name : String} (hne : d.name ≠ name) :
      relevant name (history ++ [.declare d]) = relevant name history :=
    relevant_of_not (by simp [Action.concerns, Action.touches, hne])
  refine ⟨fun name => ?_, fun name => ?_, ?_⟩
  · rw [lookup?_declare r hd]
    by_cases hname : d.name = name
    · subst hname
      rw [if_pos rfl, hself, entryOf_declare, h.declared_eq]
      split <;> rfl
    · rw [if_neg hname, hother hname, h.lookup]
  · rw [shells_declare r hd]
    by_cases hname : d.name = name
    · subst hname
      rw [hself]
      exact ⟨fun hmem => absurd hmem h.nodup.not_mem_erase, fun hnone => absurd hnone.2 not_noDeclaration⟩
    · rw [hother hname, List.mem_erase_of_ne (Ne.symm hname), h.shells]
  · rw [shells_declare r hd]
    exact h.nodup.erase _

theorem Reflects.attach (h : Reflects r history) (hattach : a.attachesTo name = true)
    (haccepted : a.isAccepted = true) : Reflects (r.perform a).2 (history ++ [a]) := by
  have hself : relevant name (history ++ [a]) = relevant name history ++ [a] :=
    relevant_concat (Action.isClear_of_attachesTo hattach) (by
      rw [Action.concerns, haccepted, Action.touches_of_attachesTo hattach, decide_eq_true rfl]
      rfl)
  have hother {other : String} (hne : name ≠ other) :
      relevant other (history ++ [a]) = relevant other history :=
    relevant_of_not (by
      rw [Action.concerns, Action.touches_of_attachesTo hattach, decide_eq_false hne,
        Bool.and_false])
  refine ⟨fun other => ?_, fun other => ?_, ?_⟩
  · rw [lookup?_attach r hattach haccepted]
    by_cases hname : name = other
    · subst hname
      rw [if_pos rfl, hself, entryOf_attach hattach, h.lookup]
    · rw [if_neg hname, hother hname, h.lookup]
  · rw [shells_attach r hattach haccepted]
    by_cases hname : name = other
    · subst hname
      rw [hself, noDeclaration_concat (Action.isDeclaration_of_attachesTo hattach)]
      split
      · rename_i hnone
        rw [h.lookup, entryOf_eq_none] at hnone
        simp [hnone, NoDeclaration]
      · rename_i hsome
        rw [h.lookup, entryOf_eq_none] at hsome
        rw [h.shells]
        exact and_congr_left' (iff_of_true hsome (by simp))
    · rw [hother hname, ← h.shells]
      split
      · exact List.mem_cons.trans (or_iff_right (Ne.symm hname))
      · rfl
  · rw [shells_attach r hattach haccepted]
    split
    · rename_i hnone
      rw [h.lookup, entryOf_eq_none] at hnone
      exact h.nodup.cons fun hshell => ((h.shells name).1 hshell).1 hnone
    · exact h.nodup

/-- One action more keeps the registry in step with its history. -/
theorem Reflects.perform (h : Reflects r history) (a : Action) :
    Reflects (r.perform a).2 (history ++ [a]) := by
  by_cases haccepted : a.isAccepted = true
  · rcases a.clear_or_declare_or_attach with rfl | ⟨d, rfl⟩ | ⟨name, hattach⟩
    · exact .clear r history
    · exact h.declare (of_decide_eq_true haccepted)
    · exact h.attach hattach haccepted
  · exact h.refused (Bool.eq_false_iff.2 haccepted)

/-- A registry is what its history makes of it. -/
theorem reflects_after (history : List Action) : Reflects (after history) history := by
  induction history using List.reverseRecOn with
  | nil => exact reflects_empty
  | append_singleton history a ih =>
    rw [after_concat]
    exact ih.perform a

/-! ### Answers -/

/-- The first declaration replaces nothing, since what was attached before is a shell. -/
theorem Reflects.answer_first (h : Reflects r history) (hd : d.name ≠ "")
    (hfirst : NoDeclaration (relevant d.name history)) :
    (r.perform (.declare d)).1 = .ok none := by
  rw [answer_declare _ hd]
  split
  · rfl
  · rename_i hshell
    have hpast : relevant d.name history = [] := by
      by_contra hpast
      exact hshell ((h.shells _).2 ⟨hpast, hfirst⟩)
    rw [h.lookup, entryOf_eq_none.2 hpast]

/-- A later declaration replaces the entry that is found. -/
theorem Reflects.answer_later (h : Reflects r history) (hd : d.name ≠ "")
    (hlater : ¬ NoDeclaration (relevant d.name history)) :
    ∃ previous, r.lookup? d.name = some previous ∧
      (r.perform (.declare d)).1 = .ok (some previous) := by
  have hpast : r.lookup? d.name ≠ none := by
    rw [h.lookup, Ne, entryOf_eq_none]
    intro hnil
    exact hlater (by simp [hnil, NoDeclaration])
  obtain ⟨previous, hprevious⟩ := Option.ne_none_iff_exists'.1 hpast
  refine ⟨previous, hprevious, ?_⟩
  rw [answer_declare _ hd, if_neg fun hshell => hlater ((h.shells _).1 hshell).2, hprevious]

end Bindery.Registry
