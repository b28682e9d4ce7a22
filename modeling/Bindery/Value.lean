/-!
Values that cross the boundary between the registry and the routines attached to it. A double is kept
by its bits, so that every value, NaNs included, is told apart from every other; `Value.same` is the
comparison of values, in which a NaN differs from itself and both zeros are equal.
-/

namespace Bindery

/-- A reference to a live object. The number 0 refers to none. -/
structure Handle where
  number : UInt64
deriving DecidableEq, Repr

namespace Handle

/-- The handle that refers to no object. -/
def null : Handle := ⟨0⟩

def isNull (h : Handle) : Bool := h = null

instance : ToString Handle := ⟨fun h => "#" ++ toString h.number⟩

end Handle

/-- A value passed to a routine or returned by it. -/
inductive Value where
  | void
  | bool (b : Bool)
  | int (i : Int64)
  | uint (n : UInt64)
  /-- A double, by its bits. -/
  | float (bits : UInt64)
  | string (s : String)
  | handle (h : Handle)
  | pointer (address : UInt64)
deriving DecidableEq, Repr

namespace Value

/-- The name of the kind of a value. -/
def kindName : Value → String
  | .void => "void"
  | .bool _ => "bool"
  | .int _ => "int"
  | .uint _ => "uint"
  | .float _ => "float"
  | .string _ => "string"
  | .handle _ => "handle"
  | .pointer _ => "pointer"

def isVoid (v : Value) : Bool := v = .void

def bool? : Value → Option Bool
  | .bool b => some b
  | _ => none

/-- The signed integer of a value; an unsigned one counts if it fits. -/
def int? : Value → Option Int64
  | .int i => some i
  | .uint n => if n.toNat < 0x8000000000000000 then some (Int64.ofNat n.toNat) else none
  | _ => none

/-- The bits of a double. -/
def float? : Value → Option UInt64
  | .float bits => some bits
  | _ => none

def string? : Value → Option String
  | .string s => some s
  | _ => none

def handle? : Value → Option Handle
  | .handle h => some h
  | _ => none

/-- The bits of a double without its sign. -/
def magnitude (bits : UInt64) : UInt64 := bits &&& 0x7FFFFFFFFFFFFFFF

/-- Whether the bits of a double are those of a NaN. -/
def isNaN (bits : UInt64) : Bool := 0x7FF0000000000000 < magnitude bits

/-- Whether two values are equal, doubles by their numeric value. -/
def same : Value → Value → Bool
  | .float a, .float b =>
    !isNaN a && !isNaN b && (a = b || (magnitude a = 0 && magnitude b = 0))
  | a, b => a = b

end Value

end Bindery
