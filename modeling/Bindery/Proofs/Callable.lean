import Bindery.Callable
import Mathlib.Data.List.Basic
/-!
Calls of what is attached. A callable refuses arguments for the first of three reasons: it is the
host's, it takes another number of arguments, or the receiver among them is no handle. Otherwise its
routine runs once, with the arguments in their order. Here the arguments are also read one by one, each
at its position; a position past the last argument would be refused, and none ever is, because every
shape reads as many arguments as its arity says.
-/

namespace Bindery.Callable

variable {σ : Type} {c : Callable} {args : List Value} {e : CallError} {routine : Routine}

/-- Whether a call needs a receiver. -/
def NeedsReceiver (c : Callable) : Prop := c.shape = .getter ∨ c.shape = .setter

/-- Why a callable refuses some arguments. A reason stands only where none of those before it does. -/
inductive Refuses (c : Callable) (args : List Value) : CallError → Prop where
  | hostBound (host : c = .host) : Refuses c args .hostBound
  | arityMismatch {expected : Nat} (arity : c.arity? = some expected) (other : args.length ≠ expected) :
    Refuses c args (.arityMismatch expected args.length)
  | expectedHandle {v : Value} (arity : c.arity? = some args.length) (receiver : c.NeedsReceiver)
      (first : args[0]? = some v) (unfit : v.handle? = none) :
    Refuses c args (.expectedHandle v.kindName)

/-- Whether a callable accepts some arguments, for its routine to run with them. -/
structure Accepts (c : Callable) (args : List Value) (routine : Routine) : Prop where
  routine : c.routine? = some routine
  arity : c.arity? = some args.length
  receiver : c.NeedsReceiver → ∃ h, args[0]? = some (.handle h)

theorem eq_handle_of_handle? {v : Value} {h : Handle} (hv : v.handle? = some h) : v = .handle h := by
  cases v with
  | handle h' =>
    cases hv
    rfl
  | _ => cases hv

theorem takesReceiver_iff : c.shape.takesReceiver = true ↔ c.NeedsReceiver := by
  simp [CallShape.takesReceiver, NeedsReceiver]

/-- Only the host's callables have no routine, and they alone have no arity. -/
theorem host_or_routine (c : Callable) :
    c = .host ∨ ∃ routine expected, c.routine? = some routine ∧ c.arity? = some expected := by
  cases c with
  | host => exact .inl rfl
  | _ => exact .inr ⟨_, _, rfl, rfl⟩

theorem acceptReceiver_cons (v : Value) (rest : List Value) :
    acceptReceiver (v :: rest) =
      if v.handle? = none then .error (.expectedHandle v.kindName) else .ok () := by
  cases v <;> rfl

/-- A call that needs a receiver has a first argument, if it has as many as it should. -/
theorem NeedsReceiver.exists_first (h : c.NeedsReceiver) (harity : c.arity? = some args.length) :
    ∃ v rest, args = v :: rest := by
  refine List.exists_cons_of_ne_nil fun hnil => ?_
  rw [hnil, arity?] at harity
  rcases h with h | h <;> rw [h] at harity <;> cases harity

/-- What is accepted of a callable with a routine, if the number of arguments is right. -/
theorem accept_of_arity (hroutine : c.routine? = some routine) (harity : c.arity? = some args.length) :
    c.accept args =
      if c.shape.takesReceiver then (acceptReceiver args).map fun _ => routine else .ok routine := by
  rw [accept, hroutine, harity]
  exact if_neg (not_not_intro rfl)

theorem Refuses.accept_eq (h : c.Refuses args e) : c.accept args = .error e := by
  rcases h with rfl | ⟨harity, hother⟩ | ⟨harity, hreceiver, hfirst, hunfit⟩
  · rfl
  · rcases host_or_routine c with rfl | ⟨routine, _, hroutine, -⟩
    · cases harity
    · rw [accept, hroutine, harity]
      exact if_pos hother
  · rcases host_or_routine c with rfl | ⟨routine, _, hroutine, -⟩
    · cases harity
    · obtain ⟨v, rest, rfl⟩ := hreceiver.exists_first harity
      cases hfirst
      rw [accept_of_arity hroutine harity, if_pos (takesReceiver_iff.2 hreceiver),
        acceptReceiver_cons, if_pos hunfit]
      rfl

theorem Accepts.accept_eq (h : c.Accepts args routine) : c.accept args = .ok routine := by
  obtain ⟨hroutine, harity, hhandle⟩ := h
  rw [accept_of_arity hroutine harity]
  split
  · rename_i htakes
    have hreceiver : c.NeedsReceiver := takesReceiver_iff.1 htakes
    obtain ⟨v, rest, rfl⟩ := hreceiver.exists_first harity
    obtain ⟨h, hfirst⟩ := hhandle hreceiver
    cases hfirst
    rfl
  · rfl

/-- Arguments are refused or accepted. -/
theorem refuses_or_accepts (c : Callable) (args : List Value) :
    (∃ e, c.Refuses args e) ∨ ∃ routine, c.Accepts args routine := by
  rcases host_or_routine c with rfl | ⟨routine, expected, hroutine, harity⟩
  · exact .inl ⟨_, .hostBound rfl⟩
  · by_cases hlength : args.length = expected
    · subst hlength
      by_cases hreceiver : c.NeedsReceiver
      · obtain ⟨v, rest, rfl⟩ := hreceiver.exists_first harity
        cases hv : v.handle? with
        | none => exact .inl ⟨_, .expectedHandle harity hreceiver rfl hv⟩
        | some h =>
          have hfirst : (v :: rest)[0]? = some (.handle h) := congrArg some (eq_handle_of_handle? hv)
          exact .inr ⟨routine, hroutine, harity, fun _ => ⟨h, hfirst⟩⟩
      · exact .inr ⟨routine, hroutine, harity, fun h => absurd h hreceiver⟩
    · exact .inl ⟨_, .arityMismatch harity hlength⟩

/-- Arguments are refused for a reason if and only if it is one, and the first. -/
theorem accept_eq_error : c.accept args = .error e ↔ c.Refuses args e := by
  refine ⟨fun h => ?_, Refuses.accept_eq⟩
  rcases refuses_or_accepts c args with ⟨e', hrefuses⟩ | ⟨routine, haccepts⟩
  · cases hrefuses.accept_eq.symm.trans h
    exact hrefuses
  · cases haccepts.accept_eq.symm.trans h

/-! ### Calls -/

/-- What a call answers when its routine returned a value: a setter returns nothing. -/
def answer (c : Callable) (value : Value) : Value := if c.shape = .setter then .void else value

theorem call_of_refuses (host : Host σ) (state : σ) (h : c.Refuses args e) :
    c.call host args state = (.error e, state) := by
  rw [call, h.accept_eq]

theorem call_of_accepts (host : Host σ) (state : σ) (h : c.Accepts args routine) :
    c.call host args state =
      (.ok (c.answer (host routine args state).1), (host routine args state).2) := by
  rw [call, h.accept_eq]
  rfl

/-- A call fails with an error if and only if its arguments are refused for it. -/
theorem call_eq_error (host : Host σ) (state : σ) :
    (c.call host args state).1 = .error e ↔ c.Refuses args e := by
  rw [← accept_eq_error, call]
  cases c.accept args with
  | error cause => simp only [Except.error.injEq]
  | ok routine => simp only [reduceCtorEq]

/-! ### Arguments by their positions -/

/-- The object that the first argument refers to. -/
def receiverAt? (args : List Value) : Option (Except CallError Handle) :=
  args[0]?.map fun v =>
    match v.handle? with
    | some h => .ok h
    | none => .error (.expectedHandle v.kindName)

/-- Call a callable, with each argument read at its position; nothing if that is past the last one. -/
def indexedCall? (host : Host σ) (c : Callable) (args : List Value) (state : σ) :
    Option (Except CallError Value × σ) :=
  match c.arity? with
  | none => some (.error .hostBound, state)
  | some expected =>
    if args.length ≠ expected then some (.error (.arityMismatch expected args.length), state)
    else match c with
      | .getter routine => do
        match ← receiverAt? args with
        | .error e => return (.error e, state)
        | .ok object =>
          let (value, state') := host routine [.handle object] state
          return (.ok value, state')
      | .setter routine => do
        match ← receiverAt? args with
        | .error e => return (.error e, state)
        | .ok object =>
          let (_, state') := host routine [.handle object, ← args[1]?] state
          return (.ok .void, state')
      | .nullary routine =>
        let (value, state') := host routine [] state
        some (.ok value, state')
      | .unary routine => do
        let (value, state') := host routine [← args[0]?] state
        return (.ok value, state')
      | .binary routine => do
        let (value, state') := host routine [← args[0]?, ← args[1]?] state
        return (.ok value, state')
      | .host => some (.error .hostBound, state)

/-- Reading the arguments by their positions comes to the same, and no position is past the last one. -/
theorem indexedCall?_eq (host : Host σ) (c : Callable) (args : List Value) (state : σ) :
    c.indexedCall? host args state = some (c.call host args state) := by
  by_cases hlength : c.arity? = some args.length
  · -- Each shape reads exactly the arguments that there are.
    cases c with
    | getter routine =>
      obtain ⟨v, rfl⟩ := List.length_eq_one_iff.1 (Option.some.inj hlength).symm
      cases v <;> rfl
    | setter routine =>
      obtain ⟨v, w, rfl⟩ := List.length_eq_two.1 (Option.some.inj hlength).symm
      cases v <;> rfl
    | nullary routine =>
      obtain rfl := List.length_eq_zero_iff.1 (Option.some.inj hlength).symm
      rfl
    | unary routine =>
      obtain ⟨v, rfl⟩ := List.length_eq_one_iff.1 (Option.some.inj hlength).symm
      rfl
    | binary routine =>
      obtain ⟨v, w, rfl⟩ := List.length_eq_two.1 (Option.some.inj hlength).symm
      rfl
    | host => cases hlength
  · rcases host_or_routine c with rfl | ⟨routine, expected, -, harity⟩
    · rfl
    · have hother : args.length ≠ expected := fun h => hlength (h ▸ harity)
      rw [call_of_refuses host state (.arityMismatch harity hother), indexedCall?.eq_def, harity]
      exact if_pos hother

end Bindery.Callable
