import Bindery.Proofs.Callable
import Bindery.Proofs.Registry.Calling
/-!
Calls that fail. A call through the registry names a type and a member, and goes through checks in a
fixed order: the type is registered, it has the member, the member may be written, something is
attached to it, and what is attached accepts the arguments. The call fails for the first check that
does, and then nothing has happened: neither the registry nor what routines keep has changed. If all
checks pass, the routine runs once. So in any sequence of calls those that fail can be left out, and the
routines that run are those of the other calls, each once and in their order.
-/

namespace Bindery.Registry

/-! ### The checks -/

/-- What is asked of a member: to call it as a function, or to read or write it as a property. -/
inductive Access where
  | invoke (args : List Value)
  | get (object : Handle)
  | set (object : Handle) (value : Value)

/-- What a member offers to an access. -/
structure Slot where
  isLocked : Bool
  callable? : Option Callable

/-- What is found at a member: its lock is looked at before what is attached. -/
def Slot.found (slot : Slot) (type member : String) : Except RegistryError Callable :=
  if slot.isLocked then .error (.readOnlyProperty type member)
  else match slot.callable? with
    | none => .error (.noCallable type member)
    | some c => .ok c

namespace Access

/-- The access to a member of a type as a call. -/
def call (type member : String) : Access → Call
  | .invoke args => .invoke type member args
  | .get object => .get type member object
  | .set object value => .set type member object value

/-- The arguments with which what is attached to the member is called. -/
def args : Access → List Value
  | .invoke args => args
  | .get object => [.handle object]
  | .set object value => [.handle object, value]

/-- What a member of a type offers, if there is such a member. Only writing is locked, by properties
that are read-only. -/
def slot? (t : TypeEntry) (member : String) : Access → Option Slot
  | .invoke _ => (t.function? member).map fun f => ⟨false, f.callable?⟩
  | .get _ => (t.property? member).map fun p => ⟨false, p.getter?⟩
  | .set _ _ => (t.property? member).map fun p => ⟨p.readOnly, p.setter?⟩

/-- That there is no such member. -/
def notFound (type member : String) : Access → RegistryError
  | .invoke _ => .functionNotFound type member
  | .get _ => .propertyNotFound type member
  | .set _ _ => .propertyNotFound type member

/-- What is attached to the member for the access. -/
def found (r : Registry) (type member : String) : Access → Except RegistryError Callable
  | .invoke _ => r.functionCallable type member
  | .get _ => r.getter type member
  | .set _ _ => r.setter type member

end Access

/-- Why an access to a member fails: the first check that does. -/
inductive Fails (r : Registry) (type member : String) (a : Access) : RegistryError → Prop where
  | typeNotFound (missing : r.lookup? type = none) : Fails r type member a (.typeNotFound type)
  | memberNotFound {t : TypeEntry} (found : r.lookup? type = some t)
      (missing : a.slot? t member = none) : Fails r type member a (a.notFound type member)
  | readOnly {t : TypeEntry} {slot : Slot} (found : r.lookup? type = some t)
      (offers : a.slot? t member = some slot) (locked : slot.isLocked = true) :
    Fails r type member a (.readOnlyProperty type member)
  | noCallable {t : TypeEntry} {slot : Slot} (found : r.lookup? type = some t)
      (offers : a.slot? t member = some slot) (unlocked : slot.isLocked = false)
      (unattached : slot.callable? = none) : Fails r type member a (.noCallable type member)
  | refused {t : TypeEntry} {slot : Slot} {c : Callable} {cause : CallError}
      (found : r.lookup? type = some t) (offers : a.slot? t member = some slot)
      (unlocked : slot.isLocked = false) (attached : slot.callable? = some c)
      (refuses : c.Refuses a.args cause) : Fails r type member a (.call cause)

/-- Whether an access to a member reaches a callable: all checks before the call itself pass. -/
inductive Reaches (r : Registry) (type member : String) (a : Access) (c : Callable) : Prop where
  | intro {t : TypeEntry} {slot : Slot} (found : r.lookup? type = some t)
      (offers : a.slot? t member = some slot) (unlocked : slot.isLocked = false)
      (attached : slot.callable? = some c)

variable {r : Registry} {type member : String} {a : Access} {c : Callable} {e : RegistryError}
  {routine : Routine}

theorem found_of_no_type (h : r.lookup? type = none) :
    a.found r type member = .error (.typeNotFound type) := by
  cases a with
  | invoke args => simp only [Access.found, functionCallable, h]
  | get object => simp only [Access.found, getter, property, h]
  | set object value => simp only [Access.found, setter, property, h]

theorem found_of_no_member {t : TypeEntry} (ht : r.lookup? type = some t)
    (h : a.slot? t member = none) : a.found r type member = .error (a.notFound type member) := by
  cases a with
  | invoke args =>
    have hmember : t.function? member = none := Option.map_eq_none_iff.1 h
    simp only [Access.found, functionCallable, ht, hmember, Access.notFound]
  | get object =>
    have hmember : t.property? member = none := Option.map_eq_none_iff.1 h
    simp only [Access.found, getter, property, ht, hmember, Access.notFound]
  | set object value =>
    have hmember : t.property? member = none := Option.map_eq_none_iff.1 h
    simp only [Access.found, setter, property, ht, hmember, Access.notFound]

theorem found_of_slot {t : TypeEntry} {slot : Slot} (ht : r.lookup? type = some t)
    (h : a.slot? t member = some slot) : a.found r type member = slot.found type member := by
  cases a with
  | invoke args =>
    obtain ⟨f, hf, rfl⟩ := Option.map_eq_some_iff.1 h
    simp only [Access.found, functionCallable, ht, hf]
    rfl
  | get object =>
    obtain ⟨p, hp, rfl⟩ := Option.map_eq_some_iff.1 h
    simp only [Access.found, getter, property, ht, hp]
    rfl
  | set object value =>
    obtain ⟨p, hp, rfl⟩ := Option.map_eq_some_iff.1 h
    simp only [Access.found, setter, property, ht, hp]
    rfl

theorem Reaches.found_eq (h : Reaches r type member a c) : a.found r type member = .ok c := by
  obtain ⟨ht, hoffers, hunlocked, hattached⟩ := h
  rw [found_of_slot ht hoffers, Slot.found, hunlocked, hattached]
  rfl

/-- An access fails, or it reaches a callable that accepts its arguments. -/
theorem fails_or_reaches (r : Registry) (type member : String) (a : Access) :
    (∃ e, Fails r type member a e) ∨
      ∃ c routine, Reaches r type member a c ∧ c.Accepts a.args routine := by
  cases ht : r.lookup? type with
  | none => exact .inl ⟨_, .typeNotFound ht⟩
  | some t =>
    cases hoffers : a.slot? t member with
    | none => exact .inl ⟨_, .memberNotFound ht hoffers⟩
    | some slot =>
      cases hlock : slot.isLocked with
      | true => exact .inl ⟨_, .readOnly ht hoffers hlock⟩
      | false =>
        cases hattached : slot.callable? with
        | none => exact .inl ⟨_, .noCallable ht hoffers hlock hattached⟩
        | some c =>
          rcases c.refuses_or_accepts a.args with ⟨cause, hrefuses⟩ | ⟨routine, haccepts⟩
          · exact .inl ⟨_, .refused ht hoffers hlock hattached hrefuses⟩
          · exact .inr ⟨c, routine, ⟨ht, hoffers, hlock, hattached⟩, haccepts⟩

/-! ### One call -/

section

variable {σ : Type} (host : Callable.Host σ) (s : σ)

/-- An access that fails changes nothing. -/
theorem Fails.callFound_eq (h : Fails r type member a e) :
    callFound host (a.found r type member) a.args s = (.error e, s) := by
  cases h with
  | typeNotFound ht => rw [found_of_no_type ht, callFound]
  | memberNotFound ht hmember => rw [found_of_no_member ht hmember, callFound]
  | readOnly ht hoffers hlock => rw [found_of_slot ht hoffers, Slot.found, if_pos hlock, callFound]
  | noCallable ht hoffers hlock hattached =>
    rw [found_of_slot ht hoffers, Slot.found, hlock, hattached]
    rfl
  | refused ht hoffers hlock hattached hrefuses =>
    rw [Reaches.found_eq ⟨ht, hoffers, hlock, hattached⟩, callFound,
      Callable.call_of_refuses host s hrefuses]
    rfl

/-- An access that does not fail runs one routine, with the arguments of the access. -/
theorem Reaches.callFound_eq (h : Reaches r type member a c) (haccepts : c.Accepts a.args routine) :
    callFound host (a.found r type member) a.args s =
      (.ok (c.answer (host routine a.args s).1), (host routine a.args s).2) := by
  rw [h.found_eq, callFound, Callable.call_of_accepts host s haccepts]
  rfl

/-- An access fails with an error if and only if it is that of the first check that fails. -/
theorem callFound_eq_error :
    (callFound host (a.found r type member) a.args s).1 = .error e ↔ Fails r type member a e := by
  refine ⟨fun h => ?_, fun h => by rw [h.callFound_eq host s]⟩
  rcases fails_or_reaches r type member a with ⟨e', hfails⟩ | ⟨c, routine, hreaches, haccepts⟩
  · rw [hfails.callFound_eq host s] at h
    cases h
    exact hfails
  · rw [hreaches.callFound_eq host s haccepts] at h
    cases h

end

variable {ω : Type} (host : Callable.Host (Registry × ω)) (s : Registry × ω)

theorem make_call (type member : String) (a : Access) :
    make host s (a.call type member) =
      ((callFound host (a.found s.1 type member) a.args s).1.map fun _ => (),
        (callFound host (a.found s.1 type member) a.args s).2) := by
  cases a <;> rfl

theorem Fails.make_eq (h : Fails s.1 type member a e) :
    make host s (a.call type member) = (.error e, s) := by
  rw [make_call, h.callFound_eq host s]
  rfl

theorem Reaches.make_eq (h : Reaches s.1 type member a c) (haccepts : c.Accepts a.args routine) :
    make host s (a.call type member) = (.ok (), (host routine a.args s).2) := by
  rw [make_call, h.callFound_eq host s haccepts]
  rfl

theorem act_or_access (call : Call) :
    (∃ action, call = .act action) ∨ ∃ (a : Access) (type member : String), call = a.call type member := by
  cases call with
  | act action => exact .inl ⟨action, rfl⟩
  | invoke type function args => exact .inr ⟨.invoke args, type, function, rfl⟩
  | get type property object => exact .inr ⟨.get object, type, property, rfl⟩
  | set type property object value => exact .inr ⟨.set object value, type, property, rfl⟩

/-! ### Sequences of calls -/

/-- A run of a routine. -/
structure Run where
  routine : Routine
  args : List Value

/-- What is done by a sequence of calls: which routines run, and what state is left. A call that fails
runs nothing and leaves the state as it is; any other runs one routine, once. -/
inductive Runs (host : Callable.Host (Registry × ω)) :
    Registry × ω → List Call → List Run → Registry × ω → Prop where
  | nil {s : Registry × ω} : Runs host s [] [] s
  | act {s s' : Registry × ω} {action : Action} {calls : List Call} {runs : List Run}
      (rest : Runs host ((s.1.perform action).2, s.2) calls runs s') :
    Runs host s (.act action :: calls) runs s'
  | failed {s s' : Registry × ω} {type member : String} {a : Access} {e : RegistryError}
      {calls : List Call} {runs : List Run} (fails : Fails s.1 type member a e)
      (rest : Runs host s calls runs s') : Runs host s (a.call type member :: calls) runs s'
  | ran {s s' : Registry × ω} {type member : String} {a : Access} {c : Callable} {routine : Routine}
      {calls : List Call} {runs : List Run} (reaches : Reaches s.1 type member a c)
      (accepts : c.Accepts a.args routine) (rest : Runs host (host routine a.args s).2 calls runs s') :
    Runs host s (a.call type member :: calls) (⟨routine, a.args⟩ :: runs) s'

/-- The host with a record of the routines that are run for calls, each with its arguments. -/
def recording (host : Callable.Host (Registry × ω)) : Callable.Host (Registry × ω × List Run) :=
  fun routine args s =>
    let (value, r, world) := host routine args (s.1, s.2.1)
    (value, r, world, s.2.2 ++ [⟨routine, args⟩])

/-- Calls leave the state that they should, and those routines have run that should have. -/
theorem runs_makeAll (calls : List Call) (s : Registry × ω) (record : List Run) :
    ∃ runs, Runs host s calls runs (makeAll host s calls) ∧
      makeAll (recording host) (s.1, s.2, record) calls =
        ((makeAll host s calls).1, (makeAll host s calls).2, record ++ runs) := by
  induction calls generalizing s record with
  | nil => exact ⟨[], .nil, by rw [List.append_nil]; rfl⟩
  | cons call calls ih =>
    rcases act_or_access call with ⟨action, rfl⟩ | ⟨a, type, member, rfl⟩
    · obtain ⟨runs, hruns, hrecord⟩ := ih ((s.1.perform action).2, s.2) record
      exact ⟨runs, .act hruns, hrecord⟩
    · rcases fails_or_reaches s.1 type member a with ⟨e, hfails⟩ | ⟨c, routine, hreaches, haccepts⟩
      · obtain ⟨runs, hruns, hrecord⟩ := ih s record
        have hrecording : Fails (s.1, s.2, record).1 type member a e := hfails
        refine ⟨runs, ?_, ?_⟩
        · rw [makeAll, List.foldl_cons, hfails.make_eq host s]
          exact .failed hfails hruns
        · rw [makeAll, List.foldl_cons, hrecording.make_eq (recording host), makeAll, List.foldl_cons,
            hfails.make_eq host s]
          exact hrecord
      · obtain ⟨runs, hruns, hrecord⟩ :=
          ih (host routine a.args s).2 (record ++ [⟨routine, a.args⟩])
        have hrecording : Reaches (s.1, s.2, record).1 type member a c := hreaches
        refine ⟨⟨routine, a.args⟩ :: runs, ?_, ?_⟩
        · rw [makeAll, List.foldl_cons, hreaches.make_eq host s haccepts]
          exact .ran hreaches haccepts hruns
        · rw [makeAll, List.foldl_cons, hrecording.make_eq (recording host) _ haccepts, makeAll,
            List.foldl_cons, hreaches.make_eq host s haccepts, List.append_cons]
          exact hrecord

/-- The calls of a sequence that do not fail where they stand. -/
def succeeding (host : Callable.Host (Registry × ω)) : Registry × ω → List Call → List Call
  | _, [] => []
  | s, call :: calls =>
    match make host s call with
    | (.ok _, s') => call :: succeeding host s' calls
    | (.error _, s') => succeeding host s' calls

/-- Calls that fail can be left out. -/
theorem makeAll_succeeding (s : Registry × ω) (calls : List Call) :
    makeAll host s (succeeding host s calls) = makeAll host s calls := by
  induction calls generalizing s with
  | nil => rfl
  | cons call calls ih =>
    rw [succeeding, makeAll, makeAll, List.foldl_cons]
    split
    · rename_i s' hmake
      rw [List.foldl_cons, hmake]
      exact ih s'
    · rename_i e s' hmake
      obtain rfl : s' = s := by
        have hfailed := make_failed (congrArg Prod.fst hmake)
        rwa [hmake] at hfailed
      rw [hmake]
      exact ih s'

/-- How calls fail, and what they do otherwise. -/
structure FailsInOrder (host : Callable.Host (Registry × ω)) : Prop where
  invoke : ∀ s type function args e,
    (Registry.invoke Prod.fst host type function args s).1 = .error e ↔
      Fails s.1 type function (.invoke args) e
  get : ∀ s type property object e,
    (Registry.get Prod.fst host type property object s).1 = .error e ↔
      Fails s.1 type property (.get object) e
  set : ∀ s type property object value e,
    (Registry.set Prod.fst host type property object value s).1 = .error e ↔
      Fails s.1 type property (.set object value) e
  callable : ∀ (c : Callable) args s e, (c.call host args s).1 = .error e ↔ c.Refuses args e
  /-- A callable that is called alone refuses the arguments and does nothing, or its routine runs. -/
  refused_or_run : ∀ (c : Callable) args s,
    (∃ e, c.Refuses args e ∧ c.call host args s = (.error e, s)) ∨
      ∃ routine, c.Accepts args routine ∧
        c.call host args s = (.ok (c.answer (host routine args s).1), (host routine args s).2)
  /-- No argument is read at a position past the last one. -/
  positions : ∀ (c : Callable) args s, c.indexedCall? host args s = some (c.call host args s)
  /-- In a sequence of calls one routine runs for each access that does not fail, and no other. -/
  sequence : ∀ calls s record, ∃ runs, Runs host s calls runs (makeAll host s calls) ∧
    makeAll (recording host) (s.1, s.2, record) calls =
      ((makeAll host s calls).1, (makeAll host s calls).2, record ++ runs)
  left_out : ∀ s calls, makeAll host s (succeeding host s calls) = makeAll host s calls

/-- Calls fail for the first check that does, and do nothing then; the others run one routine each. -/
theorem fails_in_order (host : Callable.Host (Registry × ω)) : FailsInOrder host where
  invoke s type function args e := callFound_eq_error (a := .invoke args) host s
  get s type property object e := callFound_eq_error (a := .get object) host s
  set s type property object value e := by
    rw [← callFound_eq_error (a := .set object value) host s]
    exact ⟨map_eq_error, fun h => congrArg (Except.map fun _ => ()) h⟩
  callable c args s e := Callable.call_eq_error host s
  refused_or_run c args s := by
    rcases c.refuses_or_accepts args with ⟨e, hrefuses⟩ | ⟨routine, haccepts⟩
    · exact .inl ⟨e, hrefuses, Callable.call_of_refuses host s hrefuses⟩
    · exact .inr ⟨routine, haccepts, Callable.call_of_accepts host s haccepts⟩
  positions := Callable.indexedCall?_eq host
  sequence := runs_makeAll host
  left_out := makeAll_succeeding host

/-- A getter may have any shape: one that takes two arguments is refused the object alone. -/
example :
    ((Registry.get id (fun _ _ s => (.void, s.clear)) "Window" "title" .null
      { types := ⟨[{ TypeEntry.ofName "Window" .object with
          properties := [{ name := "title", type := .string, getter? := some (.binary ⟨0⟩) }] }],
        by decide⟩ }).1) = .error (.call (.arityMismatch 2 1)) := rfl

end Bindery.Registry
