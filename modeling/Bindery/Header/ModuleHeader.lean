import Bindery.Entry.TypeEntry
import Bindery.Header.Guard
import Bindery.SubjectKind
import Bindery.Text.Comment
/-!
Module headers: what the header of a module declares, and its text. A header declares the enums,
structs and aliases of its module and the functions that are bound, and names the subjects in
comments. Every struct is declared before the body of any.
-/

namespace Bindery

/-- A file that a header includes. -/
inductive Include where
  | stdint
  | runtime (fileName : String)
  | module (name : String)
deriving DecidableEq, Repr

def Include.line : Include → String
  | .stdint => "#include <stdint.h>"
  | .runtime fileName => "#include \"" ++ fileName ++ "\""
  | .module name => "#include \"" ++ name ++ ".h\""

/-- A comment line about a declared name, if there is anything to say. -/
def docLines (name doc : String) : List String :=
  if doc = "" then [] else [Text.commentLine (name ++ ": " ++ Text.comment doc)]

/-- An enum, with its constants. -/
structure EnumDecl where
  name : String
  doc : String
  constants : List (String × Int)
deriving DecidableEq, Repr

namespace EnumDecl

/-- The lines of constants, separated by commas. -/
def constantLines (enum : String) : List (String × Int) → List String
  | [] => []
  | [(name, value)] => ["    " ++ enum ++ "_" ++ name ++ " = " ++ toString value]
  | (name, value) :: rest =>
    ("    " ++ enum ++ "_" ++ name ++ " = " ++ toString value ++ ",") :: constantLines enum rest

/-- The lines of an enum: its type, and a block of its constants if it has any. -/
def lines (e : EnumDecl) : List String :=
  docLines e.name e.doc ++ ["typedef int32_t " ++ e.name ++ ";"] ++
    (if e.constants.isEmpty then []
      else ["enum \x7b"] ++ constantLines e.name e.constants ++ ["\x7d;"]) ++ [""]

end EnumDecl

/-- A struct, with the C types and names of its fields. A struct without fields is opaque. -/
structure StructDecl where
  name : String
  doc : String
  fields : List (String × String)
deriving DecidableEq, Repr

namespace StructDecl

/-- The line that declares a struct without its fields. -/
def forward (s : StructDecl) : String := "typedef struct " ++ s.name ++ " " ++ s.name ++ ";"

/-- The lines that define a struct, none if it is opaque. -/
def bodyLines (s : StructDecl) : List String :=
  if s.fields.isEmpty then []
  else docLines s.name s.doc ++ ["struct " ++ s.name ++ " \x7b"] ++
    (s.fields.map fun (cType, name) => "    " ++ cType ++ " " ++ name ++ ";") ++ ["\x7d;", ""]

end StructDecl

/-- An alias, with the C type it stands for if it has one. -/
structure AliasDecl where
  name : String
  doc : String
  cType? : Option String
deriving DecidableEq, Repr

/-- The lines of an alias, none if it has no C type. -/
def AliasDecl.lines (a : AliasDecl) : List String :=
  match a.cType? with
  | none => []
  | some cType => docLines a.name a.doc ++ ["typedef " ++ cType ++ " " ++ a.name ++ ";"]

/-- A type that functions act on. -/
structure SubjectNote where
  name : String
  kind : EntryKind
  family : DispatchFamily
  doc : String
deriving DecidableEq, Repr

/-- The comment about a subject. -/
def SubjectNote.line (s : SubjectNote) : String :=
  let about := s.name ++ " (" ++ s.kind.name ++ ", " ++ s.family.name ++ ")"
  Text.commentLine (if s.doc = "" then about else about ++ ": " ++ Text.comment s.doc)

/-- A function that is declared. -/
structure FunctionDecl where
  doc : String
  signature : String
deriving DecidableEq, Repr

def FunctionDecl.lines (f : FunctionDecl) : List String :=
  (if f.doc = "" then [] else [Text.commentLine (Text.comment f.doc)]) ++ [f.signature ++ ";"]

/-- What the header of a module declares. -/
structure ModuleHeader where
  /-- The name of the module. -/
  name : String
  brief? : Option String
  includes : List Include
  enums : List EnumDecl
  structs : List StructDecl
  aliases : List AliasDecl
  subjects : List SubjectNote
  functions : List FunctionDecl
deriving DecidableEq, Repr

namespace ModuleHeader

/-- The file of the header of a module. -/
def fileOf (module : String) : String := module ++ ".h"

/-- The comment that names the module. -/
def titleLine (h : ModuleHeader) : String :=
  Text.commentLine ("Module: " ++ h.name ++
    match h.brief? with
    | some brief => " - " ++ Text.comment brief
    | none => "")

/-- A part of the header under a title, left out when it is about nothing. -/
def sectionLines (title : String) (isEmpty : Bool) (body : List String) : List String :=
  if isEmpty then [] else ["", Text.commentLine ("---- " ++ title ++ " ----"), ""] ++ body

/-- The lines of a part that is not left out are lines of the part. -/
theorem mem_sectionLines {α : Type} {title l : String} {ds : List α} {d : α} {body : List String}
    (hd : d ∈ ds) (hl : l ∈ body) : l ∈ sectionLines title ds.isEmpty body := by
  have hne : ds.isEmpty = false := List.isEmpty_eq_false_iff.2 (List.ne_nil_of_mem hd)
  rw [sectionLines, hne, if_neg Bool.false_ne_true]
  exact List.mem_append_right _ hl

def includeLines (h : ModuleHeader) : List String :=
  if h.includes.isEmpty then [] else h.includes.map (·.line) ++ [""]

def enumLines (h : ModuleHeader) : List String :=
  sectionLines "Enums" h.enums.isEmpty (h.enums.flatMap (·.lines))

/-- The structs: first all of them without fields, then those that have fields. -/
def structLines (h : ModuleHeader) : List String :=
  sectionLines "Structs" h.structs.isEmpty
    (h.structs.map (·.forward) ++ [""] ++ h.structs.flatMap (·.bodyLines))

def aliasLines (h : ModuleHeader) : List String :=
  sectionLines "Aliases" h.aliases.isEmpty (h.aliases.flatMap (·.lines))

def subjectLines (h : ModuleHeader) : List String :=
  sectionLines "Subjects" h.subjects.isEmpty (h.subjects.map (·.line))

def functionLines (h : ModuleHeader) : List String :=
  sectionLines "Functions" h.functions.isEmpty (h.functions.flatMap (·.lines))

/-- The lines of the header. -/
def lines (h : ModuleHeader) : List String :=
  [Header.banner, h.titleLine, ""] ++ Header.openGuard (fileOf h.name) ++ [""] ++ h.includeLines ++
    Header.openLinkage ++ h.enumLines ++ h.structLines ++ h.aliasLines ++ h.subjectLines ++
    h.functionLines ++ [""] ++ Header.closeLinkage ++ ["", Header.closeGuard (fileOf h.name)]

/-- The text of the header. -/
def text (h : ModuleHeader) : String := Text.ofLines h.lines

end ModuleHeader

end Bindery
