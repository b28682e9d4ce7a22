import Bindery.TypeMap
/-!
The registry of types. A member may be registered before its type: then an empty entry stands in for
the type, a shell, until the type is declared. The declaration replaces the shell and takes over its
members, so that declaring a type and attaching members commute. A declared type that is declared
again is replaced, members included.
-/

namespace Bindery

/-- Why the registry refused a registration or a call. -/
inductive RegistryError where
  /-- A name that must not be empty; `what` says whose. -/
  | emptyName (what : String)
  | typeNotFound (type : String)
  | functionNotFound (type function : String)
  | propertyNotFound (type property : String)
  | noCallable (type member : String)
  | readOnlyProperty (type property : String)
  /-- The call itself was refused. -/
  | call (cause : CallError)
deriving DecidableEq, Repr

def RegistryError.message : RegistryError → String
  | .emptyName what => "empty " ++ what ++ " name"
  | .typeNotFound type => "type not found: " ++ type
  | .functionNotFound type function => "function not found: " ++ type ++ "::" ++ function
  | .propertyNotFound type property => "property not found: " ++ type ++ "::" ++ property
  | .noCallable type member => "no callable bound for " ++ type ++ "::" ++ member
  | .readOnlyProperty type property => "property " ++ type ++ "::" ++ property ++ " is read-only"
  | .call cause => cause.message

/-- The registered types, and the names of those that are only shells. -/
structure Registry where
  types : TypeMap := .empty
  shells : List String := []
deriving Inhabited

namespace Registry

/-- The registry without types. -/
def empty : Registry := {}

/-! ### Registration -/

/-- Register a type, and tell which declared entry it replaces. A shell is not told: its members are
taken over. -/
def registerType (r : Registry) (t : TypeEntry) :
    Except RegistryError (Option TypeEntry × Registry) :=
  if t.name = "" then .error (.emptyName "type")
  else if r.shells.contains t.name then
    let merged := match r.types.get? t.name with
      | some shell => t.absorb shell
      | none => t
    .ok (none, { types := r.types.insert merged, shells := r.shells.erase t.name })
  else .ok (r.types.get? t.name, { r with types := r.types.insert t })

/-- Change the entry called `name`, beginning with a shell when there is none. -/
def updateEntry (r : Registry) (name : String) (change : TypeEntry → TypeEntry) : Registry :=
  match r.types.get? name with
  | some t => { r with types := r.types.insert (change t) }
  | none => { types := r.types.insert (change (.shell name)), shells := name :: r.shells }

/-- Attach a function to the type called `type`. -/
def registerFunction (r : Registry) (type : String) (f : FunctionEntry) (callable : Callable) :
    Except RegistryError Registry :=
  if type = "" then .error (.emptyName "type")
  else if f.name = "" then .error (.emptyName "function")
  else .ok (r.updateEntry type fun t => t.upsertFunction { f with callable? := some callable })

/-- A property with exactly these accessors, without the setter if it is read-only. -/
def withAccessors (p : PropertyEntry) (getter : Callable) (setter? : Option Callable) :
    PropertyEntry :=
  let bare := { p with getter? := some getter, setter? := none }
  match setter? with
  | some setter => bare.withSetter setter
  | none => bare

/-- Attach a property to the type called `type`. -/
def registerProperty (r : Registry) (type : String) (p : PropertyEntry) (getter : Callable)
    (setter? : Option Callable) : Except RegistryError Registry :=
  if type = "" then .error (.emptyName "type")
  else if p.name = "" then .error (.emptyName "property")
  else .ok (r.updateEntry type fun t => t.upsertProperty (withAccessors p getter setter?))

/-- Remove every type. -/
def clear (_ : Registry) : Registry := empty

/-! ### Queries -/

/-- The entry called `name`. -/
def lookup? (r : Registry) (name : String) : Option TypeEntry := r.types.get? name

def contains (r : Registry) (name : String) : Bool := r.types.contains name

/-- The registered names, in no particular order. -/
def names (r : Registry) : List String := r.types.names

/-- The number of registered types. -/
def size (r : Registry) : Nat := r.types.size

/-- The types as they are now. -/
def snapshot (r : Registry) : TypeMap := r.types

end Registry

end Bindery
