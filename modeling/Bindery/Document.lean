import Bindery.Json.Printer
import Bindery.Json.Reader
import Bindery.Registry.Basic
import Bindery.SubjectKind
/-!
Metadata documents: the types of a registry and the subject kinds of an application in JSON. The
functions of a document are implemented by the host, so loading a document attaches the host's
callable to every exported function that has none.
-/

namespace Bindery

open Json (always listUnlessEmpty)

/-- Types and subject kinds to be registered. -/
structure Document where
  subjectKinds : List SubjectKind := []
  types : List TypeEntry
deriving DecidableEq, Repr

namespace Document

/-- The names of the fields in JSON, in their order. -/
def fieldNames : List String := ["subject_kinds", "types"]

def toJson (d : Document) : Json :=
  .record [
    listUnlessEmpty "subject_kinds" (d.subjectKinds.map (·.toJson)),
    always "types" (.arr (d.types.map (·.toJson)))]

def ofJson? : Json.Decoder Document := fun j => do
  let r ← Json.Record.ofJson? fieldNames j
  return {
    subjectKinds := ← r.orElse "subject_kinds" [] (.list SubjectKind.ofJson?)
    types := ← r.required "types" (.list TypeEntry.ofJson?) }

/-- The text of a document, indented by two. -/
def render (d : Document) : String := d.toJson.render (.indented 2)

/-- The document that a text stands for. -/
def read? (text : String) : Option Document := (Json.read? text).bind ofJson?

/-- The document without what is attached to the members of its types. -/
def erase (d : Document) : Document := { d with types := d.types.map (·.erase) }

/-- Whether two documents have the same metadata. -/
def sameMetadata (d e : Document) : Bool := d.erase = e.erase

/-- The types of a registry by name, without any subject kinds. -/
def ofRegistry (r : Registry) : Document := { types := r.snapshot.sorted }

/-- A function that the host implements, if it is exported and nothing is attached to it. -/
def hostFunction (f : FunctionEntry) : FunctionEntry :=
  if f.exported then { f with callable? := f.callable?.or (some .host) } else f

/-- A type whose exported functions can be called. -/
def hostType (t : TypeEntry) : TypeEntry := { t with functions := t.functions.map hostFunction }

/-- Register one more type of a document. -/
def registerNext (r : Registry) (t : TypeEntry) : Except RegistryError Registry :=
  (r.registerType (hostType t)).map (·.2)

/-- Register the types of a document in order, up to the first that is refused. The types before it
stay registered. -/
def registerTypes (r : Registry) : List TypeEntry → Except RegistryError Unit × Registry
  | [] => (.ok (), r)
  | t :: ts =>
    match registerNext r t with
    | .ok r' => registerTypes r' ts
    | .error e => (.error e, r)

/-- Register the types of a document, and tell how many they are. -/
def registerInto (d : Document) (r : Registry) : Except RegistryError Nat × Registry :=
  let (result, r') := registerTypes r d.types
  (result.map fun _ => d.types.length, r')

/-- The registry of a document alone. -/
def registry (d : Document) : Except RegistryError Registry :=
  match d.registerInto .empty with
  | (.ok _, r) => .ok r
  | (.error e, _) => .error e

/-- The catalog with the kinds of a document. -/
def catalog (d : Document) : Except CatalogError Catalog :=
  Catalog.builtin.declareAll d.subjectKinds

end Document

end Bindery
