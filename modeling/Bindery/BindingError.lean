import Bindery.Prototype
/-!
Why a type, a function or a part of one was left out of what is generated. Such an error never stops
a run: it is reported, and the rest is generated without it.
-/

namespace Bindery

/-- What has no counterpart in C. -/
inductive Unmappable where
  | type (t : SemanticType)
  /-- A constant that does not fit into 32 bits with a sign. -/
  | constant (value : Int)
  /-- An alias that stands for nothing. -/
  | noTarget
deriving DecidableEq, Repr

def Unmappable.label : Unmappable → String
  | .type t => t.label
  | .constant value => "i64 (" ++ toString value ++ ")"
  | .noTarget => "none"

/-- Why a unit was left out. -/
inductive BindingError where
  | unknownSubjectKind (type kind : String)
  | unknownFunctionSubjectKind (type function kind : String)
  /-- Neither is anything attached to the function nor is its prototype stated. -/
  | missingCallable (type function : String)
  | unmappableType (owner member : String) (what : Unmappable)
  | malformedSignature (type function signature : String) (fault : Prototype.Fault)
  /-- Two functions have one symbol; the function of `keptOwner` keeps it. -/
  | duplicateSymbol (symbol keptOwner duplicateOwner : String)
  | noCustomEmitter (kind symbol : String)
  | emitterFailed (symbol : String)
  /-- The header of a module would replace another file of the run. -/
  | reservedModuleName (module file : String)
deriving DecidableEq, Repr

def BindingError.message : BindingError → String
  | .unknownSubjectKind type kind =>
    "type '" ++ type ++ "' declares unknown subject kind '" ++ kind ++ "'"
  | .unknownFunctionSubjectKind type function kind =>
    "function '" ++ type ++ "::" ++ function ++ "' declares unknown subject kind '" ++ kind ++ "'"
  | .missingCallable type function =>
    "function '" ++ type ++ "::" ++ function ++
      "' has no callable and no explicit C signature"
  | .unmappableType owner member what =>
    "'" ++ owner ++ "::" ++ member ++ "' uses type '" ++ what.label ++ "' which has no C mapping"
  | .malformedSignature type function signature fault =>
    "function '" ++ type ++ "::" ++ function ++ "' has malformed C signature '" ++ signature ++
      "': " ++ fault.message
  | .duplicateSymbol symbol keptOwner duplicateOwner =>
    "C symbol '" ++ symbol ++ "' from '" ++ duplicateOwner ++ "' collides with '" ++ keptOwner ++ "'"
  | .noCustomEmitter kind symbol =>
    "no custom emitter registered for subject kind '" ++ kind ++ "' (function '" ++ symbol ++ "')"
  | .emitterFailed symbol => "custom emitter for '" ++ symbol ++ "' failed"
  | .reservedModuleName module file =>
    "module '" ++ module ++ "' would overwrite generated file '" ++ file ++ "'"

end Bindery
