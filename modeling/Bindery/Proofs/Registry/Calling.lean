import Bindery.Proofs.Registry.Action
import Bindery.Registry.Call
/-!
What is done through a registry while routines act on it. A routine may register types and members
itself, and have others run that do; all that this comes to for the registry is a list of actions. So
whatever calls are made, what they do to the registry is a list of actions, and a call that fails has
not run anything: it leaves everything as it was.
-/

namespace Bindery.Registry

/-- Something that is done with a registry: an action on it, or a call of what is attached in it. -/
inductive Call where
  | act (a : Action)
  | invoke (type function : String) (args : List Value)
  | get (type property : String) (object : Handle)
  | set (type property : String) (object : Handle) (value : Value)

/-- Make a call, in a state that holds a registry and whatever else routines act on. -/
def make {ω : Type} (host : Callable.Host (Registry × ω)) (s : Registry × ω) :
    Call → Except RegistryError Unit × (Registry × ω)
  | .act a => ((s.1.perform a).1.map fun _ => (), ((s.1.perform a).2, s.2))
  | .invoke type function args =>
    let (answer, s') := Registry.invoke Prod.fst host type function args s
    (answer.map fun _ => (), s')
  | .get type property object =>
    let (answer, s') := Registry.get Prod.fst host type property object s
    (answer.map fun _ => (), s')
  | .set type property object value => Registry.set Prod.fst host type property object value s

/-- The state after some calls. -/
def makeAll {ω : Type} (host : Callable.Host (Registry × ω)) (s : Registry × ω)
    (calls : List Call) : Registry × ω :=
  calls.foldl (fun s c => (make host s c).2) s

variable {ω : Type} {host : Callable.Host (Registry × ω)} {s : Registry × ω} {c : Call}
  {e : RegistryError} {allowed : Action → Prop}

/-! ### Calls that fail -/

theorem map_eq_error {ε α β : Type} {x : Except ε α} {f : α → β} {e : ε}
    (h : x.map f = .error e) : x = .error e := by
  cases x with
  | ok a => cases h
  | error e' =>
    cases h
    rfl

/-- An action that fails is a refused one, which leaves the registry as it is. -/
theorem perform_failed {r : Registry} {a : Action} (h : (r.perform a).1 = .error e) :
    (r.perform a).2 = r := by
  by_cases haccepted : a.isAccepted = true
  · obtain ⟨previous?, hok⟩ := perform_accepted r haccepted
    rw [hok] at h
    cases h
  · obtain ⟨what, hrefused⟩ := perform_refused r (Bool.eq_false_iff.2 haccepted)
    rw [hrefused]

/-- A call that fails, because nothing is found or because what is found refuses it, runs no routine. -/
theorem callFound_failed {σ : Type} {host : Callable.Host σ} {found : Except RegistryError Callable}
    {args : List Value} {state : σ} (h : (callFound host found args state).1 = .error e) :
    (callFound host found args state).2 = state := by
  cases found with
  | error e' => rfl
  | ok callable =>
    rw [callFound, Callable.call] at h ⊢
    cases haccept : callable.accept args with
    | error cause => rfl
    | ok routine =>
      rw [haccept] at h
      cases h

/-- A call that fails leaves everything as it was. -/
theorem make_failed (h : (make host s c).1 = .error e) : (make host s c).2 = s := by
  cases c with
  | act a => exact Prod.ext (perform_failed (map_eq_error h)) rfl
  | invoke type function args => exact callFound_failed (map_eq_error h)
  | get type property object => exact callFound_failed (map_eq_error h)
  | set type property object value => exact callFound_failed (map_eq_error h)

/-! ### What calls do to the registry -/

/-- Whether the routines of a host do nothing to the registry but actions that are allowed. -/
def ActsBy (allowed : Action → Prop) (host : Callable.Host (Registry × ω)) : Prop :=
  ∀ routine args s, ∃ actions : List Action,
    (∀ a ∈ actions, allowed a) ∧ (host routine args s).2.1 = s.1.run actions

/-- Whether a call is a call of a routine or an action that is allowed. -/
def Call.IsAllowed (allowed : Action → Prop) : Call → Prop
  | .act a => allowed a
  | _ => True

theorem callFound_acts (hhost : ActsBy allowed host) (found : Except RegistryError Callable)
    (args : List Value) (s : Registry × ω) :
    ∃ actions : List Action,
      (∀ a ∈ actions, allowed a) ∧ (callFound host found args s).2.1 = s.1.run actions := by
  have hnothing : ∃ actions : List Action,
      (∀ a ∈ actions, allowed a) ∧ s.1 = s.1.run actions := ⟨[], by simp, rfl⟩
  cases found with
  | error e => exact hnothing
  | ok callable =>
    rw [callFound, Callable.call]
    cases callable.accept args with
    | error cause => exact hnothing
    | ok routine => exact hhost routine args s

/-- A call does allowed actions to the registry, if the routines do. -/
theorem make_acts (hhost : ActsBy allowed host) (hc : c.IsAllowed allowed) (s : Registry × ω) :
    ∃ actions : List Action,
      (∀ a ∈ actions, allowed a) ∧ (make host s c).2.1 = s.1.run actions := by
  cases c with
  | act a => exact ⟨[a], List.forall_mem_singleton.2 hc, rfl⟩
  | invoke type function args => exact callFound_acts hhost _ _ s
  | get type property object => exact callFound_acts hhost _ _ s
  | set type property object value => exact callFound_acts hhost _ _ s

/-- Calls do allowed actions to the registry, one after the other. -/
theorem makeAll_acts (hhost : ActsBy allowed host) :
    ∀ {calls : List Call}, (∀ c ∈ calls, c.IsAllowed allowed) → ∀ s : Registry × ω,
      ∃ actions : List Action,
        (∀ a ∈ actions, allowed a) ∧ (makeAll host s calls).1 = s.1.run actions
  | [], _, s => ⟨[], by simp, rfl⟩
  | c :: calls, hcalls, s => by
    obtain ⟨hc, hcalls⟩ := List.forall_mem_cons.1 hcalls
    obtain ⟨actions, hactions, hfirst⟩ := make_acts hhost hc s
    obtain ⟨later, hlater, hrest⟩ := makeAll_acts hhost hcalls (make host s c).2
    refine ⟨actions ++ later, ?_, ?_⟩
    · simpa [or_imp, forall_and] using ⟨hactions, hlater⟩
    · rw [run_append, ← hfirst, ← hrest]
      rfl

end Bindery.Registry
