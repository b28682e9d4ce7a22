import Bindery.SemanticType
import Bindery.Text.Search
/-!
C prototypes. A prototype is derived from the C types of a function, or it is stated as text. Of a
stated prototype only the symbol and the names of the parameters are read, so that a generated body
can refer to its arguments: the text before the first parenthesis must end in the symbol and state a
result type, and each parameter must be a type followed by a name.
-/

namespace Bindery

open Json (always)

/-- A parameter of a C prototype. -/
structure CParam where
  name : String
  /-- The C type, as it is spelled in a derived prototype. -/
  cType : String
  type : SemanticType
deriving DecidableEq, Repr

namespace CParam

def toJson (p : CParam) : Json :=
  .record [always "name" (.str p.name), always "c_type" (.str p.cType), always "type" p.type.toJson]

def ofJson? : Json.Decoder CParam := fun j => do
  let r ← Json.Record.ofJson? ["name", "c_type", "type"] j
  return {
    name := ← r.required "name" .string
    cType := ← r.required "c_type" .string
    type := ← r.required "type" SemanticType.ofJson? }

end CParam

namespace Prototype

/-! ### Derived prototypes -/

/-- The declaration of a parameter. -/
def declaration (cType name : String) : String := cType ++ " " ++ name

/-- The prototype of a function with an optional receiver in front of its parameters. A list of no
parameters is written `void`. -/
def derive (returnType symbol : String) (receiver? : Option (String × String))
    (params : List CParam) : String :=
  let parts := (receiver?.toList.map fun (cType, name) => declaration cType name) ++
    params.map fun p => declaration p.cType p.name
  let inner := if parts.isEmpty then "void" else String.intercalate ", " parts
  returnType ++ " " ++ symbol ++ "(" ++ inner ++ ")"

/-! ### Stated prototypes -/

/-- A stated prototype without the blanks around it and without semicolons at its end. -/
def normalizeChars (cs : List Char) : List Char :=
  Text.trimBack (Text.dropTail (· = ';') (Text.trimChars cs))

/-- A stated prototype without the blanks around it and without semicolons at its end. -/
def normalize (text : String) : String := String.ofList (normalizeChars text.toList)

/-- The characters of C identifiers. -/
def isIdentChar (c : Char) : Bool :=
  ('a' ≤ c && c ≤ 'z') || ('A' ≤ c && c ≤ 'Z') || ('0' ≤ c && c ≤ '9') || c = '_'

/-- What is wrong with a stated prototype. -/
inductive Fault where
  | missingParameterList
  | textAfterParameterList
  /-- The text before the parameter list does not end in the symbol. -/
  | otherSymbol (symbol : String)
  | missingReturnType
  /-- A parenthesis within the parameter list. -/
  | functionPointer
  /-- The parameter at this position, counted from one, has no name or no type. -/
  | unnamedParameter (position : Nat)
  | parameterCount (expected found : Nat)
deriving DecidableEq, Repr

def Fault.message : Fault → String
  | .missingParameterList => "missing parameter list"
  | .textAfterParameterList => "text after parameter list"
  | .otherSymbol symbol => "does not declare '" ++ symbol ++ "'"
  | .missingReturnType => "missing return type"
  | .functionPointer => "function pointer parameters are not supported"
  | .unnamedParameter position => "parameter " ++ toString position ++ " has no name"
  | .parameterCount expected found =>
    "expected " ++ toString expected ++ " parameter(s), found " ++ toString found

/-- A reversed text without the pairs of brackets in front. -/
def dropBracketPairs : List Char → List Char
  | ']' :: '[' :: cs => dropBracketPairs cs
  | cs => cs

/-- A parameter without the blanks around it and without pairs of brackets at its end. -/
def parameterText (cs : List Char) : List Char :=
  Text.trimBack (dropBracketPairs (Text.trimChars cs).reverse).reverse

/-- The name of a parameter, if it has a type and a name. -/
def parameterName? (cs : List Char) : Option String :=
  let text := parameterText cs
  let name := Text.takeTail isIdentChar text
  let type := Text.trimChars (Text.dropTail isIdentChar text)
  if name.isEmpty || type.isEmpty then none else some (String.ofList name)

/-- The names of parameters, of which the first has the given position. -/
def parameterNames (position : Nat) : List (List Char) → Except Fault (List String)
  | [] => .ok []
  | p :: ps =>
    match parameterName? p with
    | none => .error (.unnamedParameter position)
    | some name => (parameterNames (position + 1) ps).map (name :: ·)

/-- The names of the parameters in the text between the parentheses. -/
def parseInner (inner : List Char) : Except Fault (List String) :=
  let inner := Text.trimChars inner
  if inner.contains '(' || inner.contains ')' then .error .functionPointer
  else if inner.isEmpty || inner = ['v', 'o', 'i', 'd'] then .ok []
  else parameterNames 1 (inner.splitOnP (· = ','))

/-- The names of the parameters of a stated prototype of `symbol`. -/
def parameters (text symbol : String) : Except Fault (List String) :=
  match Text.splitAtFirst '(' (normalizeChars text.toList) with
  | none => .error .missingParameterList
  | some (before, rest) =>
    if rest.getLast? ≠ some ')' then .error .textAfterParameterList
    else
      let head := Text.trimBack before
      if Text.takeTail isIdentChar head ≠ symbol.toList then .error (.otherSymbol symbol)
      else if head = symbol.toList then .error .missingReturnType
      else parseInner rest.dropLast

end Prototype

end Bindery
