/-!
Arguments of a command. A table of options says what each one is called and whether it takes a value.
Options are read from left to right: a long one as `--name value` or `--name=value`, a short one as
`-n value`, `-nvalue` or `-n=value`, and several short ones without values may stand in one argument.
No option may be given twice, and a value that is an argument of its own must not look like an option.
-/

namespace Bindery.Command

/-- Why reading arguments stopped. -/
inductive Stop where
  | usage
  | help
  | version
deriving DecidableEq, Repr

/-- What a given option means. -/
inductive Role where
  | flag
  /-- An option with a value, which must be valid. -/
  | value (isValid : String → Bool)
  | stop (why : Stop)

/-- An option. -/
structure OptionSpec where
  name : String
  short? : Option Char := none
  role : Role

/-- The options that were given, with their values. -/
abbrev Given := List (String × String)

namespace Given

/-- Note an option with its value, once. -/
def note (g : Given) (name value : String) : Except Stop Given :=
  if (g.lookup name).isSome then .error .usage else .ok (g ++ [(name, value)])

/-- Note an option that takes a value, if the value is valid. -/
def noteValue (g : Given) (o : OptionSpec) (value : String) : Except Stop Given :=
  match o.role with
  | .value isValid => if isValid value then g.note o.name value else .error .usage
  | _ => .error .usage

end Given

/-- What one argument leads to: the options noted so far, and the option that still waits for its
value, which is then the next argument. -/
abbrev Progress := Given × Option OptionSpec

/-- Read an argument that begins with two dashes. -/
def readLong (specs : List OptionSpec) (text : List Char) (g : Given) : Except Stop Progress :=
  let name := String.ofList (text.takeWhile (· ≠ '='))
  match specs.find? (fun o => o.name = name), text.dropWhile (· ≠ '=') with
  | none, _ => .error .usage
  | some o, [] =>
    match o.role with
    | .stop why => .error why
    | .flag => (g.note o.name "").map fun g' => (g', none)
    | .value _ => .ok (g, some o)
  | some o, _ :: value => (g.noteValue o (String.ofList value)).map fun g' => (g', none)

/-- Read the letters of an argument that begins with one dash. -/
def readShort (specs : List OptionSpec) : List Char → Given → Except Stop Progress
  | [], g => .ok (g, none)
  | c :: cs, g =>
    match specs.find? fun o => o.short? = some c with
    | none => .error .usage
    | some o =>
      match o.role with
      | .stop why => .error why
      | .flag =>
        match g.note o.name "" with
        | .error e => .error e
        | .ok g' => readShort specs cs g'
      | .value _ =>
        match cs with
        | [] => .ok (g, some o)
        | '=' :: value => (g.noteValue o (String.ofList value)).map fun g' => (g', none)
        | value => (g.noteValue o (String.ofList value)).map fun g' => (g', none)

/-- Whether an argument looks like an option. A single dash does not. -/
def looksLikeOption (arg : String) : Bool :=
  match arg.toList with
  | '-' :: _ :: _ => true
  | _ => false

/-- Read an argument that looks like an option. -/
def readOption (specs : List OptionSpec) (arg : String) (g : Given) : Except Stop Progress :=
  match arg.toList with
  | '-' :: '-' :: text => readLong specs text g
  | '-' :: text => readShort specs text g
  | _ => .error .usage

/-- Read options up to the first argument that is none; that one and those after it are left. -/
def readOptions (specs : List OptionSpec) : List String → Given → Except Stop (Given × List String)
  | [], g => .ok (g, [])
  | arg :: rest, g =>
    if !looksLikeOption arg || arg = "--" then .ok (g, arg :: rest)
    else match readOption specs arg g with
      | .error e => .error e
      | .ok (g', none) => readOptions specs rest g'
      | .ok (g', some o) =>
        match rest with
        | [] => .error .usage
        | value :: rest' =>
          if looksLikeOption value then .error .usage
          else match g'.noteValue o value with
            | .error e => .error e
            | .ok g'' => readOptions specs rest' g''

/-- The number that a text of decimal digits stands for, with an optional plus in front, if it fits
into 64 bits. -/
def natural? (text : String) : Option Nat :=
  let digits := match text.toList with
    | '+' :: ds => ds
    | ds => ds
  let n := Nat.ofDigitChars 10 digits 0
  if !digits.isEmpty && digits.all Char.isDigit && n < 0x10000000000000000 then some n else none

end Bindery.Command
