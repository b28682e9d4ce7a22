import Bindery.Proofs.Types
import Bindery.Registry.Basic
/-!
What is done to a registry. A type is declared, a member is attached to a type, or the registry is
cleared. An action with an empty name is refused and leaves the registry alone. An attachment changes
the entry of one name, or a shell if there is none, and a declaration replaces the entry of one name;
what is found under the other names, and which of them are shells, stays.
-/

namespace Bindery.Registry

/-- Something done to a registry. -/
inductive Action where
  | declare (t : TypeEntry)
  | attachFunction (type : String) (f : FunctionEntry) (callable : Callable)
  | attachProperty (type : String) (p : PropertyEntry) (getter : Callable) (setter? : Option Callable)
  | clear

namespace Action

/-- Whether no name in an action is empty. -/
def isAccepted : Action → Bool
  | .declare t => t.name ≠ ""
  | .attachFunction type f _ => type ≠ "" && f.name ≠ ""
  | .attachProperty type p _ _ => type ≠ "" && p.name ≠ ""
  | .clear => true

/-- Whether an action attaches a member to the type called `name`. -/
def attachesTo (name : String) : Action → Bool
  | .attachFunction type _ _ => type = name
  | .attachProperty type _ _ _ => type = name
  | _ => false

def isDeclaration : Action → Bool
  | .declare _ => true
  | _ => false

/-- What an action makes of the entry that it is about. -/
def change (t : TypeEntry) : Action → TypeEntry
  | .declare d => d
  | .attachFunction _ f callable => t.upsertFunction { f with callable? := some callable }
  | .attachProperty _ p getter setter? => t.upsertProperty (withAccessors p getter setter?)
  | .clear => t

/-- An action clears, declares a type, or attaches a member to one. -/
theorem clear_or_declare_or_attach (a : Action) :
    a = .clear ∨ (∃ d, a = .declare d) ∨ ∃ name, a.attachesTo name = true := by
  cases a with
  | declare d => exact .inr (.inl ⟨d, rfl⟩)
  | attachFunction type f callable => exact .inr (.inr ⟨type, decide_eq_true rfl⟩)
  | attachProperty type p getter setter? => exact .inr (.inr ⟨type, decide_eq_true rfl⟩)
  | clear => exact .inl rfl

theorem name_change {name : String} {a : Action} (h : a.attachesTo name = true) (t : TypeEntry) :
    (change t a).name = t.name := by
  cases a <;> first | rfl | cases h

end Action

/-- Perform an action, and tell which declared entry it replaces. A refused action leaves the registry
as it is. -/
def perform (r : Registry) : Action → Except RegistryError (Option TypeEntry) × Registry
  | .declare t =>
    match r.registerType t with
    | .ok (previous?, r') => (.ok previous?, r')
    | .error e => (.error e, r)
  | .attachFunction type f callable =>
    match r.registerFunction type f callable with
    | .ok r' => (.ok none, r')
    | .error e => (.error e, r)
  | .attachProperty type p getter setter? =>
    match r.registerProperty type p getter setter? with
    | .ok r' => (.ok none, r')
    | .error e => (.error e, r)
  | .clear => (.ok none, r.clear)

/-- The registry after some actions. -/
def run (r : Registry) (actions : List Action) : Registry :=
  actions.foldl (fun r a => (r.perform a).2) r

variable {r : Registry} {a : Action} {t : TypeEntry} {name other : String}

theorem run_append (r : Registry) (as bs : List Action) : r.run (as ++ bs) = (r.run as).run bs :=
  List.foldl_append

theorem run_cons (r : Registry) (a : Action) (as : List Action) :
    r.run (a :: as) = (r.perform a).2.run as := rfl

/-- An action with an empty name is refused for it. -/
theorem perform_refused (r : Registry) (h : a.isAccepted = false) :
    ∃ what, r.perform a = (.error (.emptyName what), r) := by
  cases a with
  | declare t =>
    have ht : t.name = "" := by simpa [Action.isAccepted] using h
    exact ⟨"type", by simp [perform, registerType, ht]⟩
  | attachFunction type f callable =>
    by_cases htype : type = ""
    · exact ⟨"type", by simp [perform, registerFunction, htype]⟩
    · have hf : f.name = "" := by simpa [Action.isAccepted, htype] using h
      exact ⟨"function", by simp [perform, registerFunction, htype, hf]⟩
  | attachProperty type p getter setter? =>
    by_cases htype : type = ""
    · exact ⟨"type", by simp [perform, registerProperty, htype]⟩
    · have hp : p.name = "" := by simpa [Action.isAccepted, htype] using h
      exact ⟨"property", by simp [perform, registerProperty, htype, hp]⟩
  | clear => cases h

/-! ### Attaching -/

theorem perform_attach (r : Registry) (hattach : a.attachesTo name = true)
    (h : a.isAccepted = true) :
    r.perform a = (.ok none, r.updateEntry name fun t => a.change t) := by
  cases a with
  | declare t => cases hattach
  | clear => cases hattach
  | attachFunction type f callable =>
    obtain rfl : type = name := of_decide_eq_true hattach
    obtain ⟨htype, hf⟩ : type ≠ "" ∧ f.name ≠ "" := by simpa [Action.isAccepted] using h
    rw [perform, registerFunction, if_neg htype, if_neg hf]
    rfl
  | attachProperty type p getter setter? =>
    obtain rfl : type = name := of_decide_eq_true hattach
    obtain ⟨htype, hp⟩ : type ≠ "" ∧ p.name ≠ "" := by simpa [Action.isAccepted] using h
    rw [perform, registerProperty, if_neg htype, if_neg hp]
    rfl

/-- An attachment changes the entry of its type, or a shell, and no other entry. -/
theorem lookup?_attach (r : Registry) (hattach : a.attachesTo name = true)
    (h : a.isAccepted = true) (other : String) :
    (r.perform a).2.lookup? other =
      if name = other then some (a.change ((r.lookup? name).getD (.shell name)))
      else r.lookup? other := by
  rw [perform_attach r hattach h]
  simp only [updateEntry, lookup?]
  cases hget : r.types.get? name with
  | none =>
    have hname : (a.change (.shell name)).name = name := Action.name_change hattach _
    simp only [TypeMap.get?_insert, hname, Option.getD_none]
  | some t =>
    have hname : (a.change t).name = name :=
      (Action.name_change hattach t).trans (TypeMap.name_of_get? hget)
    simp only [TypeMap.get?_insert, hname, Option.getD_some]

/-- An attachment to a name without an entry makes it a shell. -/
theorem shells_attach (r : Registry) (hattach : a.attachesTo name = true)
    (h : a.isAccepted = true) :
    (r.perform a).2.shells = if r.lookup? name = none then name :: r.shells else r.shells := by
  rw [perform_attach r hattach h, updateEntry]
  split
  · rename_i hget
    simp [lookup?, hget]
  · rename_i hget
    simp [lookup?, hget]

/-! ### Declaring -/

theorem perform_declare (r : Registry) (h : t.name ≠ "") :
    r.perform (.declare t) =
      if t.name ∈ r.shells then
        (.ok none, {
          types := r.types.insert (((r.lookup? t.name).map t.absorb).getD t)
          shells := r.shells.erase t.name })
      else (.ok (r.lookup? t.name), { r with types := r.types.insert t }) := by
  rw [perform, registerType, if_neg h]
  by_cases hshell : t.name ∈ r.shells
  · have hc : r.shells.contains t.name = true := List.contains_iff_mem.2 hshell
    rw [if_pos hc, if_pos hshell, lookup?]
    cases r.types.get? t.name <;> rfl
  · have hc : ¬ r.shells.contains t.name = true := mt List.contains_iff_mem.1 hshell
    rw [if_neg hc, if_neg hshell]
    rfl

/-- The entry that a declaration leaves: a shell's members are taken over. -/
def declared (r : Registry) (t : TypeEntry) : TypeEntry :=
  if t.name ∈ r.shells then ((r.lookup? t.name).map t.absorb).getD t else t

theorem name_declared : (r.declared t).name = t.name := by
  rw [declared]
  split
  · cases r.lookup? t.name <;> rfl
  · rfl

/-- A declaration replaces the entry of its name and no other. -/
theorem lookup?_declare (r : Registry) (h : t.name ≠ "") (other : String) :
    (r.perform (.declare t)).2.lookup? other =
      if t.name = other then some (r.declared t) else r.lookup? other := by
  have hinsert : (r.perform (.declare t)).2.types = r.types.insert (r.declared t) := by
    rw [perform_declare r h, declared]
    split <;> rfl
  rw [lookup?, hinsert, TypeMap.get?_insert, name_declared]
  rfl

theorem shells_declare (r : Registry) (h : t.name ≠ "") :
    (r.perform (.declare t)).2.shells = r.shells.erase t.name := by
  rw [perform_declare r h]
  split
  · rfl
  · rename_i hshell
    exact (List.erase_of_not_mem hshell).symm

theorem answer_declare (r : Registry) (h : t.name ≠ "") :
    (r.perform (.declare t)).1 = .ok (if t.name ∈ r.shells then none else r.lookup? t.name) := by
  rw [perform_declare r h]
  split <;> rfl

/-- An action without an empty name succeeds. -/
theorem perform_accepted (r : Registry) (h : a.isAccepted = true) :
    ∃ previous?, (r.perform a).1 = .ok previous? := by
  rcases a.clear_or_declare_or_attach with rfl | ⟨d, rfl⟩ | ⟨name, hattach⟩
  · exact ⟨none, rfl⟩
  · exact ⟨_, answer_declare r (of_decide_eq_true h)⟩
  · exact ⟨none, by rw [perform_attach r hattach h]⟩

end Bindery.Registry
