import Bindery.Value
/-!
Callables: what is attached to a function or a property so that it can be called. A callable is the
number of a routine, which the embedding host keeps, together with a shape that says how many
arguments the routine takes and whether the first one is an object. `Callable.accept` decides whether
a call may go ahead; only then does the routine run.
-/

namespace Bindery

/-- A routine, by the number under which the host keeps it. -/
structure Routine where
  number : Nat
deriving DecidableEq, Repr

/-- How a routine is called. -/
inductive CallShape where
  | getter
  | setter
  | nullary
  | unary
  | binary
  | host
deriving DecidableEq, Repr

namespace CallShape

/-- The name of a shape in diagnostics. -/
def name : CallShape → String
  | .getter => "Getter"
  | .setter => "Setter"
  | .nullary => "Nullary"
  | .unary => "Unary"
  | .binary => "Binary"
  | .host => "Host"

/-- The number of arguments; a callable of the host takes none through the registry. -/
def arity? : CallShape → Option Nat
  | .nullary => some 0
  | .getter => some 1
  | .unary => some 1
  | .setter => some 2
  | .binary => some 2
  | .host => none

/-- Whether the first argument must be the handle of an object. -/
def takesReceiver (shape : CallShape) : Bool := shape = .getter || shape = .setter

end CallShape

/-- A routine attached to a member. -/
inductive Callable where
  /-- Reads a property of an object. -/
  | getter (routine : Routine)
  /-- Writes a property of an object; it returns nothing. -/
  | setter (routine : Routine)
  | nullary (routine : Routine)
  | unary (routine : Routine)
  | binary (routine : Routine)
  /-- Known to the host alone, and reached only through generated bindings. -/
  | host
deriving DecidableEq, Repr

/-- Why a call was refused. -/
inductive CallError where
  | arityMismatch (expected found : Nat)
  /-- A receiver of another kind than a handle. -/
  | expectedHandle (found : String)
  | hostBound
deriving DecidableEq, Repr

def CallError.message : CallError → String
  | .arityMismatch expected found =>
    "expected " ++ toString expected ++ " argument(s), found " ++ toString found
  | .expectedHandle found => "expected an object handle as receiver, found " ++ found
  | .hostBound => "callable is bound by the host runtime"

namespace Callable

/-- The shape of a callable. -/
def shape : Callable → CallShape
  | .getter _ => .getter
  | .setter _ => .setter
  | .nullary _ => .nullary
  | .unary _ => .unary
  | .binary _ => .binary
  | .host => .host

/-- The routine of a callable that is not the host's. -/
def routine? : Callable → Option Routine
  | .getter r => some r
  | .setter r => some r
  | .nullary r => some r
  | .unary r => some r
  | .binary r => some r
  | .host => none

/-- The number of arguments of a callable. -/
def arity? (c : Callable) : Option Nat := c.shape.arity?

/-- A callable in diagnostics. -/
def describe (c : Callable) : String := "Callable(" ++ c.shape.name ++ ")"

/-- Whether the receiver of a call is a handle. -/
def acceptReceiver : List Value → Except CallError Unit
  | .handle _ :: _ => .ok ()
  | v :: _ => .error (.expectedHandle v.kindName)
  | [] => .ok ()

/-- The routine to run for a call with these arguments: first the host's callables are refused, then
a wrong number of arguments, then a receiver that is no handle. -/
def accept (c : Callable) (args : List Value) : Except CallError Routine :=
  match c.routine?, c.arity? with
  | some r, some expected =>
    if args.length ≠ expected then .error (.arityMismatch expected args.length)
    else if c.shape.takesReceiver then (acceptReceiver args).map fun _ => r
    else .ok r
  | _, _ => .error .hostBound

/-- The behaviour of a host's routines on a state of type `σ`. -/
abbrev Host (σ : Type) := Routine → List Value → σ → Value × σ

/-- Call a callable. A refused call leaves the state alone; a setter returns nothing whatever its
routine returns. -/
def call {σ : Type} (host : Host σ) (c : Callable) (args : List Value) (state : σ) :
    Except CallError Value × σ :=
  match c.accept args with
  | .error e => (.error e, state)
  | .ok r =>
    let (value, state') := host r args state
    (.ok (if c.shape = .setter then .void else value), state')

end Callable

end Bindery
