import Bindery.Header.Guard
import Bindery.Module
import Bindery.Source.Body
/-!
Source files. The body of a function is that of its dispatch family; functions of the custom family
take theirs from an emitter that the application registered for their subject kind.
-/

namespace Bindery

/-- What an emitter is told about the function it writes. -/
structure EmitContext where
  /-- The registered function, if its type is among the generated ones. -/
  function? : Option FunctionEntry
  binding : FunctionBinding
  module : Module
  subject : TypeBinding

/-- Writes the whole definition of a function, signature included, or fails. -/
abbrev Emitter := EmitContext → Option String

/-- The registered emitters, by subject kind. -/
abbrev Emitters := List (String × Emitter)

namespace Source

/-- The text of the definition of a function. -/
def emit (emitters : Emitters) (types : TypeMap) (module : Module) (subject : TypeBinding)
    (f : FunctionBinding) : Except BindingError String :=
  match Definition.ofBinding? f with
  | some d => .ok d.text
  | none =>
    match emitters.lookup f.subjectKind with
    | none => .error (.noCustomEmitter f.subjectKind f.symbol)
    | some emitter =>
      match emitter { function? := f.source? types, binding := f, module, subject } with
      | some text => .ok text
      | none => .error (.emitterFailed f.symbol)

/-- The text of the source file of a module: each definition after an empty line. -/
def text (module : String) (bodies : List String) : String :=
  Text.ofLines [Header.banner, "/* Module: " ++ module ++ " */", "",
    "#include \"" ++ module ++ ".h\""] ++ String.join (bodies.map fun b => "\n" ++ b)

end Source

end Bindery
