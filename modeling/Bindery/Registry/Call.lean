import Bindery.Registry.Basic
/-!
Calls through the registry. A call first finds what is attached to the member, which can fail at each
step of the way, and only then calls it. Calls act on a state of any type in which `view` finds the
registry; the routines that run may change that state, and a call that is refused does not.
-/

namespace Bindery.Registry

/-- What is attached to a function. -/
def functionCallable (r : Registry) (type function : String) : Except RegistryError Callable :=
  match r.lookup? type with
  | none => .error (.typeNotFound type)
  | some t =>
    match t.function? function with
    | none => .error (.functionNotFound type function)
    | some f =>
      match f.callable? with
      | none => .error (.noCallable type function)
      | some c => .ok c

/-- The property of a registered type. -/
def property (r : Registry) (type property : String) : Except RegistryError PropertyEntry :=
  match r.lookup? type with
  | none => .error (.typeNotFound type)
  | some t =>
    match t.property? property with
    | none => .error (.propertyNotFound type property)
    | some p => .ok p

/-- The getter of a property. -/
def getter (r : Registry) (type property : String) : Except RegistryError Callable :=
  match r.property type property with
  | .error e => .error e
  | .ok p =>
    match p.getter? with
    | none => .error (.noCallable type property)
    | some c => .ok c

/-- The setter of a property that is not read-only. -/
def setter (r : Registry) (type property : String) : Except RegistryError Callable :=
  match r.property type property with
  | .error e => .error e
  | .ok p =>
    if p.readOnly then .error (.readOnlyProperty type property)
    else match p.setter? with
      | none => .error (.noCallable type property)
      | some c => .ok c

section

variable {σ : Type} (view : σ → Registry) (host : Callable.Host σ)

/-- Call what was found, if anything was. -/
def callFound (found : Except RegistryError Callable) (args : List Value) (state : σ) :
    Except RegistryError Value × σ :=
  match found with
  | .error e => (.error e, state)
  | .ok c =>
    let (result, state') := c.call host args state
    (result.mapError .call, state')

/-- Call a function with arguments. -/
def invoke (type function : String) (args : List Value) (state : σ) :
    Except RegistryError Value × σ :=
  callFound host ((view state).functionCallable type function) args state

/-- Read a property of an object. -/
def get (type property : String) (object : Handle) (state : σ) : Except RegistryError Value × σ :=
  callFound host ((view state).getter type property) [.handle object] state

/-- Write a property of an object. -/
def set (type property : String) (object : Handle) (value : Value) (state : σ) :
    Except RegistryError Unit × σ :=
  let (result, state') :=
    callFound host ((view state).setter type property) [.handle object, value] state
  (result.map fun _ => (), state')

end

end Bindery.Registry
