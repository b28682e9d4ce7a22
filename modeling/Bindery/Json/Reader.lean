import Bindery.Json.Token
/-!
Reading JSON. The tokens of a text are taken one at a time: `Parse.step` takes the state after some
tokens to the state after one more, and the containers that are still open wait on a stack. Values may
be nested to any depth.
-/

namespace Bindery.Json

/-- A field of an object. Its name may denote no text. -/
abbrev Field := Option String × Json

/-- The object with these fields, each of whose names must denote a text. -/
def objectOf (fields : List Field) : Json :=
  match fields.mapM fun (name, value) => name.map fun n => (n, value) with
  | some fs => .obj fs
  | none => .unpaired

/-- A container that is still open, with what it holds so far, last first. -/
inductive Frame where
  | items (done : List Json)
  /-- An object that waits for the value of the field `name`. -/
  | fields (done : List Field) (name : Option String)
deriving Inhabited, Repr, BEq

/-- What a parse expects next, inside the open containers `stack`. -/
inductive Parse where
  | value (stack : List Frame)
  /-- The first item of an array, or its end. -/
  | firstItem (stack : List Frame)
  /-- A further item of an array after a comma, or its end. -/
  | afterItem (done : List Json) (stack : List Frame)
  /-- The first field of an object, or its end. -/
  | firstField (stack : List Frame)
  /-- The name of a further field. -/
  | fieldName (done : List Field) (stack : List Frame)
  | colon (done : List Field) (name : Option String) (stack : List Frame)
  /-- A further field of an object after a comma, or its end. -/
  | afterField (done : List Field) (stack : List Frame)
  /-- Nothing more: the whole value has been read. -/
  | complete (value : Json)
deriving Inhabited, Repr, BEq

namespace Parse

/-- Put a finished value where the innermost open container expects it. -/
def deliver (value : Json) : List Frame → Parse
  | [] => .complete value
  | .items done :: stack => .afterItem (value :: done) stack
  | .fields done name :: stack => .afterField ((name, value) :: done) stack

/-- Begin a value with the given token. -/
def beginValue (stack : List Frame) : Token → Option Parse
  | .scalar v => some (deliver v stack)
  | .openArr => some (.firstItem stack)
  | .openObj => some (.firstField stack)
  | _ => none

/-- Begin a field with the given token, which must be a string literal. -/
def beginField (done : List Field) (stack : List Frame) : Token → Option Parse
  | .scalar (.str name) => some (.colon done (some name) stack)
  | .scalar .unpaired => some (.colon done none stack)
  | _ => none

/-- Take one more token. -/
def step : Parse → Token → Option Parse
  | .value stack, t => beginValue stack t
  | .firstItem stack, .closeArr => some (deliver (.arr []) stack)
  | .firstItem stack, t => beginValue (.items [] :: stack) t
  | .afterItem done stack, .comma => some (.value (.items done :: stack))
  | .afterItem done stack, .closeArr => some (deliver (.arr done.reverse) stack)
  | .firstField stack, .closeObj => some (deliver (.obj []) stack)
  | .firstField stack, t => beginField [] stack t
  | .fieldName done stack, t => beginField done stack t
  | .colon done name stack, .colon => some (.value (.fields done name :: stack))
  | .afterField done stack, .comma => some (.fieldName done stack)
  | .afterField done stack, .closeObj => some (deliver (objectOf done.reverse) stack)
  | _, _ => none

/-- The value, when a parse is complete. -/
def result? : Parse → Option Json
  | .complete v => some v
  | _ => none

end Parse

/-- The value that a sequence of tokens spells. -/
def ofTokens? (ts : List Token) : Option Json := ts.foldlM Parse.step (.value []) >>= Parse.result?

/-- Read a text. -/
def read? (text : String) : Option Json := tokens? text.toList >>= ofTokens?

end Bindery.Json
