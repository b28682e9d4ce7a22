import Bindery.Json.Record
/-!
Subject kinds and dispatch families. A subject kind says how a function reaches the object it acts
on; its dispatch family is the calling convention that generated bodies follow. The catalog holds four
builtin kinds, which nothing replaces, and those that an application declares.
-/

namespace Bindery

open Json (always)

/-- The calling convention of a generated body. -/
inductive DispatchFamily where
  /-- Resolve a handle to an object and call through its method table. -/
  | methodTable
  /-- Call the one object of its kind. -/
  | singleton
  /-- Hand the call over to the event dispatch. -/
  | eventRouter
  /-- The body comes from an emitter of the application. -/
  | custom
deriving DecidableEq, Repr

namespace DispatchFamily

/-- The families in their order. -/
def all : List DispatchFamily := [.methodTable, .singleton, .eventRouter, .custom]

def name : DispatchFamily → String
  | .methodTable => "MethodTable"
  | .singleton => "Singleton"
  | .eventRouter => "EventRouter"
  | .custom => "Custom"

instance : ToString DispatchFamily := ⟨name⟩

/-- The family called `name`. -/
def ofName? (name : String) : Option DispatchFamily := all.find? fun f => f.name = name

def toJson (f : DispatchFamily) : Json := .str f.name

def ofJson? : Json.Decoder DispatchFamily := .name ofName?

end DispatchFamily

/-- A way of reaching the object that a function acts on. -/
structure SubjectKind where
  name : String
  family : DispatchFamily
  /-- Whether objects are passed as handles. -/
  usesHandle : Bool := false
  /-- Whether every object has a method table of its own. -/
  ownsMethodTable : Bool := false
deriving DecidableEq, Repr

namespace SubjectKind

/-- A kind whose bodies come from an emitter of the application. -/
def custom (name : String) : SubjectKind := { name := name, family := .custom }

/-- The names of the fields in JSON, in their order. -/
def fieldNames : List String := ["name", "dispatch_family", "uses_handle", "owns_method_table"]

def toJson (k : SubjectKind) : Json :=
  .record [
    always "name" (.str k.name),
    always "dispatch_family" k.family.toJson,
    always "uses_handle" (.bool k.usesHandle),
    always "owns_method_table" (.bool k.ownsMethodTable)]

def ofJson? : Json.Decoder SubjectKind := fun j => do
  let r ← Json.Record.ofJson? fieldNames j
  return {
    name := ← r.required "name" .string
    family := ← r.required "dispatch_family" DispatchFamily.ofJson?
    usesHandle := ← r.required "uses_handle" .bool
    ownsMethodTable := ← r.required "owns_method_table" .bool }

end SubjectKind

/-- Why a declaration of a kind or of an emitter was refused. -/
inductive CatalogError where
  | unknownDispatchFamily (label : String)
  | unknownSubjectKind (kind : String)
  /-- An emitter for a kind whose bodies are generated. -/
  | notCustomKind (kind : String) (family : DispatchFamily)
  | builtinRedeclared (kind : String)
deriving DecidableEq, Repr

def CatalogError.message : CatalogError → String
  | .unknownDispatchFamily label => "unknown dispatch family: '" ++ label ++ "'"
  | .unknownSubjectKind kind => "unknown subject kind: '" ++ kind ++ "'"
  | .notCustomKind kind family =>
    "subject kind '" ++ kind ++ "' uses " ++ family.name ++
      " dispatch and cannot take a custom emitter"
  | .builtinRedeclared kind => "subject kind '" ++ kind ++ "' is builtin and cannot be redeclared"

/-- The family that a label names. -/
def DispatchFamily.parse (label : String) : Except CatalogError DispatchFamily :=
  match ofName? label with
  | some f => .ok f
  | none => .error (.unknownDispatchFamily label)

/-- The known subject kinds, in strictly ascending order of their names. -/
structure Catalog where
  kinds : List SubjectKind
  ascending : kinds.Pairwise fun a b => a.name < b.name

namespace Catalog

/-- The kinds that every catalog starts with. -/
def builtinKinds : List SubjectKind :=
  [.custom "Custom",
    { name := "EventRouter", family := .eventRouter },
    { name := "Object", family := .methodTable, usesHandle := true, ownsMethodTable := true },
    { name := "Singleton", family := .singleton }]

/-- The catalog of the builtin kinds. -/
def builtin : Catalog := ⟨builtinKinds, by decide⟩

instance : Inhabited Catalog := ⟨builtin⟩

/-- The kind of types that do not state one. -/
def defaultKind : String := "Object"

def isBuiltin (name : String) : Bool := builtinKinds.any fun k => k.name = name

/-- Put a kind where its name belongs, in place of one with the same name. -/
def place (k : SubjectKind) : List SubjectKind → List SubjectKind
  | [] => [k]
  | l :: ls =>
    if k.name < l.name then k :: l :: ls
    else if l.name < k.name then l :: place k ls
    else k :: ls

theorem mem_place {k x : SubjectKind} : ∀ {ls : List SubjectKind}, x ∈ place k ls → x = k ∨ x ∈ ls
  | [], h => by simpa [place] using h
  | l :: ls, h => by
    rw [place] at h
    split at h
    · simpa using h
    · split at h
      · rcases List.mem_cons.1 h with h | h
        · exact .inr (by simp [h])
        · exact (mem_place h).imp id fun m => List.mem_cons_of_mem _ m
      · rcases List.mem_cons.1 h with h | h
        · exact .inl h
        · exact .inr (List.mem_cons_of_mem _ h)

theorem ascending_place (k : SubjectKind) : ∀ {ls : List SubjectKind},
    ls.Pairwise (fun a b => a.name < b.name) → (place k ls).Pairwise fun a b => a.name < b.name
  | [], _ => by simp [place]
  | l :: ls, h => by
    have ⟨hl, hls⟩ := List.pairwise_cons.1 h
    rw [place]
    split
    · rename_i hk
      refine List.pairwise_cons.2 ⟨fun x hx => ?_, h⟩
      rcases List.mem_cons.1 hx with rfl | hx
      · exact hk
      · exact String.lt_trans hk (hl x hx)
    · split
      · rename_i hk
        refine List.pairwise_cons.2 ⟨fun x hx => ?_, ascending_place k hls⟩
        rcases mem_place hx with rfl | hx
        · exact hk
        · exact hl x hx
      · rename_i h1 h2
        have e : k.name = l.name :=
          String.le_antisymm (String.not_lt.1 h2) (String.not_lt.1 h1)
        exact List.pairwise_cons.2 ⟨fun x hx => e ▸ hl x hx, hls⟩

/-- Declare a kind. A builtin kind cannot be declared again; any other replaces the earlier one of
its name. -/
def declare (c : Catalog) (k : SubjectKind) : Except CatalogError Catalog :=
  if isBuiltin k.name then .error (.builtinRedeclared k.name)
  else .ok ⟨place k c.kinds, ascending_place k c.ascending⟩

/-- Declare kinds in order, up to the first that is refused. -/
def declareAll (c : Catalog) (ks : List SubjectKind) : Except CatalogError Catalog :=
  ks.foldlM declare c

/-- The kind called `name`. -/
def get? (c : Catalog) (name : String) : Option SubjectKind := c.kinds.find? fun k => k.name = name

/-- The kind that a type states, or the default one when it states none. -/
def resolve? (c : Catalog) (stated : Option String) : Option SubjectKind :=
  c.get? (stated.getD defaultKind)

def size (c : Catalog) : Nat := c.kinds.length

def isEmpty (c : Catalog) : Bool := c.kinds.isEmpty

end Catalog

end Bindery
