import Bindery.CType
import Bindery.Manifest.Basic
import Bindery.Text.Lines
/-!
Function bodies of the builtin dispatch families. A body packs its arguments, calls one entry point of
the bridge, and unpacks the result. The families differ in what they do with the handle and in the
entry point: method tables resolve the handle first and return early when it is stale, the other two
only mark it as used.
-/

namespace Bindery

/-- The call of a body: an entry point of the bridge with what it is told before the arguments. -/
inductive BridgeCall where
  /-- Through the method table of `target`, which is a C expression. -/
  | invokeMethod (target : String)
  | invokeSingleton
  | routeEvent
deriving DecidableEq, Repr

/-- The text of a call up to the arguments. -/
def BridgeCall.opening : BridgeCall → String
  | .invokeMethod target => "DomBind_InvokeMethod(" ++ target ++ ", "
  | .invokeSingleton => "DomBind_InvokeSingleton("
  | .routeEvent => "DomBind_RouteEvent("

/-- A statement of a body. -/
inductive Statement where
  /-- Declare `instance` as what the handle refers to. -/
  | resolve (handle : String)
  /-- Return early, with a value if there is one, when `instance` is not there. -/
  | returnIfStale (value? : Option String)
  /-- Mark a parameter as used. -/
  | discard (param : String)
  /-- Declare `args` for this many arguments. -/
  | declareArgs (count : Nat)
  | assignArg (position : Nat) (expr : String)
  /-- Call the bridge; `keep` declares `result` as what it returns. -/
  | call (keep : Bool) (bridge : BridgeCall) (owner name : String) (count : Nat)
  | returnValue (expr : String)
deriving DecidableEq, Repr

namespace Statement

/-- The lines of a statement. -/
def lines : Statement → List String
  | .resolve handle => ["    void* instance = DomBind_ResolveHandle(" ++ handle ++ ");"]
  | .returnIfStale value? =>
    ["    if (instance == NULL) \x7b",
      match value? with
      | some value => "        return " ++ value ++ ";"
      | none => "        return;",
      "    \x7d"]
  | .discard param => ["    (void)" ++ param ++ ";"]
  | .declareArgs count => ["    DomBind_Value args[" ++ toString count ++ "];"]
  | .assignArg position expr => ["    args[" ++ toString position ++ "] = " ++ expr ++ ";"]
  | .call keep bridge owner name count =>
    ["    " ++ (if keep then "DomBind_Value result = " else "") ++ bridge.opening ++ "\"" ++ owner ++
      "\", \"" ++ name ++ "\", " ++ (if count = 0 then "NULL" else "args") ++ ", " ++
      toString count ++ ");"]
  | .returnValue expr => ["    return " ++ expr ++ ";"]

/-- The name that a statement declares. -/
def declared? : Statement → Option String
  | .resolve _ => some "instance"
  | .declareArgs _ => some "args"
  | .call true _ _ _ _ => some "result"
  | _ => none

end Statement

/-- The definition of a function. -/
structure Definition where
  signature : String
  body : List Statement
deriving DecidableEq, Repr

namespace Definition

def lines (d : Definition) : List String :=
  [d.signature, "\x7b"] ++ d.body.flatMap (·.lines) ++ ["\x7d"]

/-- The text of a definition. -/
def text (d : Definition) : String := Text.ofLines d.lines

/-- The statements that pack the arguments. -/
def packArgs (params : List CParam) : List Statement :=
  if params.isEmpty then []
  else .declareArgs params.length ::
    params.mapIdx fun i p => .assignArg i (CType.pack p.type p.name)

/-- The statements that call the bridge and return what it returns. -/
def callBridge (f : FunctionBinding) (bridge : BridgeCall) : List Statement :=
  if f.returnType.isVoid then [.call false bridge f.owner f.name f.params.length]
  else [.call true bridge f.owner f.name f.params.length,
    .returnValue (CType.unpack f.returnType f.returnCType)]

/-- A body that calls through the method table of the object behind the handle, or of the type when
there is no handle. -/
def methodTable (f : FunctionBinding) : Definition where
  signature := f.signature
  body :=
    match f.handleParam? with
    | some handle =>
      [.resolve handle, .returnIfStale (CType.fallback? f.returnType)] ++ packArgs f.params ++
        callBridge f (.invokeMethod "instance")
    | none => packArgs f.params ++ callBridge f (.invokeMethod "NULL")

/-- A body that hands the call over without looking at the handle. -/
def forwarding (f : FunctionBinding) (bridge : BridgeCall) : Definition where
  signature := f.signature
  body := (f.handleParam?.toList.map .discard) ++ packArgs f.params ++ callBridge f bridge

/-- The definition of a function of a builtin family. -/
def ofBinding? (f : FunctionBinding) : Option Definition :=
  match f.family with
  | .methodTable => some (methodTable f)
  | .singleton => some (forwarding f .invokeSingleton)
  | .eventRouter => some (forwarding f .routeEvent)
  | .custom => none

end Definition

end Bindery
