import Bindery.Callable
import Bindery.SemanticType
/-!
Properties of a registered type. A property that is read-only never has a setter: `asReadOnly` drops
it and `withSetter` does not attach one.
-/

namespace Bindery

open Json (always textUnlessEmpty ifPresent)

/-- A property of a registered type. -/
structure PropertyEntry where
  name : String
  type : SemanticType
  readOnly : Bool := false
  /-- The default value, as text. -/
  defaultValue? : Option String := none
  doc : String := ""
  getter? : Option Callable := none
  setter? : Option Callable := none
deriving DecidableEq, Repr

namespace PropertyEntry

/-- Make the property read-only, which drops its setter. -/
def asReadOnly (p : PropertyEntry) : PropertyEntry := { p with readOnly := true, setter? := none }

/-- Attach a setter, unless the property is read-only. -/
def withSetter (p : PropertyEntry) (setter : Callable) : PropertyEntry :=
  if p.readOnly then p else { p with setter? := some setter }

/-- The property without what is attached to it. -/
def erase (p : PropertyEntry) : PropertyEntry := { p with getter? := none, setter? := none }

/-- Whether two properties have the same metadata. -/
def sameMetadata (p q : PropertyEntry) : Bool := p.erase = q.erase

/-- Attach the getter and the setter of `other` where there are none yet; a read-only property takes
no setter. -/
def fillFrom (p other : PropertyEntry) : PropertyEntry :=
  { p with
    getter? := p.getter?.or other.getter?
    setter? := if p.readOnly then p.setter? else p.setter?.or other.setter? }

/-- The names of the fields in JSON, in their order. -/
def fieldNames : List String := ["name", "type", "read_only", "default_value", "doc"]

/-- The metadata of a property in JSON. -/
def toJson (p : PropertyEntry) : Json :=
  .record [
    always "name" (.str p.name),
    always "type" p.type.toJson,
    always "read_only" (.bool p.readOnly),
    ifPresent "default_value" .str p.defaultValue?,
    textUnlessEmpty "doc" p.doc]

/-- A property, with nothing attached, from its metadata in JSON. -/
def ofJson? : Json.Decoder PropertyEntry := fun j => do
  let r ← Json.Record.ofJson? fieldNames j
  return {
    name := ← r.required "name" .string
    type := ← r.required "type" SemanticType.ofJson?
    readOnly := ← r.orElse "read_only" false .bool
    defaultValue? := ← r.optional "default_value" .string
    doc := ← r.orElse "doc" "" .string }

end PropertyEntry

end Bindery
