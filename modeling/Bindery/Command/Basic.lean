import Bindery.Command.Arguments
import Bindery.Generate.Run
/-!
The command line. `generate` writes the bindings of a metadata document, and `manifest` prints its
manifest. A command is parsed from its arguments, prepared from the text of its document, and carried
out; `carryOut` does all three.
-/

namespace Bindery

/-- A command. -/
inductive Command where
  | generate (metadata : String) (config : RunConfig) (denyWarnings : Bool)
  | manifest (metadata : String) (indent : Nat)

namespace Command

/-! ### Parsing -/

def verbose : OptionSpec := { name := "verbose", short? := some 'v', role := .flag }

def help : OptionSpec := { name := "help", short? := some 'h', role := .stop .help }

def version : OptionSpec := { name := "version", short? := some 'V', role := .stop .version }

/-- An option whose value is a path, which is not empty. -/
def pathOption (name : String) (short? : Option Char) : OptionSpec :=
  { name, short?, role := .value fun v => v ≠ "" }

/-- An option whose value is a number. -/
def numberOption (name : String) : OptionSpec :=
  { name, role := .value fun v => (natural? v).isSome }

/-- The options in front of the name of a command. -/
def globalOptions : List OptionSpec := [verbose, help, version]

/-- The options of `generate`. -/
def generateOptions : List OptionSpec :=
  [pathOption "metadata" (some 'm'), pathOption "header-dir" none, pathOption "source-dir" none,
    { name := "source-ext", role := .value fun v => v = "c" || v = "cpp" },
    numberOption "manifest-indent", pathOption "legacy-header" none,
    { name := "deny-warnings", role := .flag }, verbose, help]

/-- The options of `manifest`. -/
def manifestOptions : List OptionSpec :=
  [pathOption "metadata" (some 'm'), numberOption "indent", verbose, help]

/-- Read the arguments of a command that takes options only. -/
def onlyOptions (specs : List OptionSpec) (args : List String) : Except Stop Given :=
  match readOptions specs args [] with
  | .error e => .error e
  | .ok (given, []) => .ok given
  | .ok (given, ["--"]) => .ok given
  | .ok _ => .error .usage

/-- An option that must be given. -/
def needed (given : Given) (name : String) : Except Stop String :=
  match given.lookup name with
  | some value => .ok value
  | none => .error .usage

/-- A number that is two unless it is given. -/
def numberOrTwo (given : Given) (name : String) : Nat :=
  ((given.lookup name).bind natural?).getD 2

/-- The command `generate` with these options. -/
def ofGenerate (given : Given) : Except Stop Command := do
  let metadata ← needed given "metadata"
  let headerDir ← needed given "header-dir"
  let sourceDir ← needed given "source-dir"
  let options : Options := {
    sourceExtension := (given.lookup "source-ext").getD "c"
    manifestIndent := numberOrTwo given "manifest-indent" }
  let config : RunConfig := {
    headerDir := .ofText headerDir
    sourceDir := .ofText sourceDir
    legacyDir? := (given.lookup "legacy-header").map .ofText
    options }
  return .generate metadata config (given.lookup "deny-warnings").isSome

/-- The command `manifest` with these options. -/
def ofManifest (given : Given) : Except Stop Command := do
  return .manifest (← needed given "metadata") (numberOrTwo given "indent")

/-- The commands that help can be asked about. -/
def helpTopics : List (List String) := [[], ["generate"], ["manifest"], ["help"]]

/-- The command that arguments stand for. -/
def parse (args : List String) : Except Stop Command :=
  match readOptions globalOptions args [] with
  | .error e => .error e
  | .ok (_, "generate" :: rest) => onlyOptions generateOptions rest >>= ofGenerate
  | .ok (_, "manifest" :: rest) => onlyOptions manifestOptions rest >>= ofManifest
  | .ok (_, "help" :: rest) => .error (if helpTopics.contains rest then .help else .usage)
  | .ok _ => .error .usage

/-! ### Preparing -/

/-- What a command has to do once its document is loaded. -/
inductive Task where
  | run (jobs : List Job) (denyWarnings : Bool)
  | print (manifest : Manifest.Built) (indent : Nat)

/-- The file with the metadata of a command. -/
def metadata : Command → String
  | .generate metadata _ _ => metadata
  | .manifest metadata _ => metadata

/-- Why a command cannot be carried out. -/
inductive Refusal where
  /-- There is no such file, or its text is not a document. -/
  | notLoaded (metadata : String)
  | type (cause : RegistryError)
  | subjectKind (cause : CatalogError)
deriving DecidableEq, Repr

def Refusal.message : Refusal → String
  | .notLoaded metadata => "loading " ++ metadata
  | .type cause => cause.message
  | .subjectKind cause => cause.message

/-- The task of a command whose file holds `text?`, unless the document is refused, or a type in it,
or a subject kind. -/
def prepare (c : Command) (text? : Option String) : Except Refusal Task :=
  match text?.bind Document.read? with
  | none => .error (.notLoaded c.metadata)
  | some document => do
    let registry ← document.registry.mapError .type
    match c with
    | .generate _ config denyWarnings =>
      let g ← (config.cApi document).mapError .subjectKind
      return .run (config.jobs g registry.snapshot) denyWarnings
    | .manifest _ indent =>
      let catalog ← document.catalog.mapError .subjectKind
      return .print (Manifest.build registry.snapshot catalog) indent

/-! ### Reporting -/

/-- What a command leaves behind, files aside. -/
structure Finish where
  exitCode : Nat
  stdout : String := ""
  stderr : String := ""
deriving DecidableEq, Repr

/-- A warning for each thing that was left out. -/
def warningLines (errors : List BindingError) : List String :=
  errors.map fun e => "warning: " ++ e.message

/-- The end of a run: it fails if a generator did, or if warnings are denied and there are any. -/
def finishRun (summary : Summary) (denyWarnings : Bool) : Finish where
  exitCode :=
    if !summary.succeeded || (denyWarnings && !summary.bindingErrors.isEmpty) then 1 else 0
  stderr := Text.ofLines <|
    (summary.failures.map fun (name, e) => "error: " ++ name ++ ": " ++ e.message) ++
      warningLines summary.bindingErrors

/-- The end of printing a manifest. -/
def finishPrint (built : Manifest.Built) (indent : Nat) : Finish where
  exitCode := 0
  stdout := built.manifest.render indent ++ "\n"
  stderr := Text.ofLines (warningLines built.errors)

/-- The end of a command that cannot be carried out. -/
def finishRefused (r : Refusal) : Finish where
  exitCode := 1
  stderr := "Error: " ++ r.message ++ "\n"

/-- The text that `--help` prints. -/
def helpText : String := Text.ofLines [
  "Generate C API bindings from display-object metadata",
  "",
  "Usage: dombind [OPTIONS] <COMMAND>",
  "",
  "Commands:",
  "  generate  Write per-module headers, sources, the runtime header and the manifest",
  "  manifest  Print the binding manifest for a metadata document",
  "  help      Print this message or the help of the given subcommand(s)",
  "",
  "Options:",
  "  -v, --verbose  Log debug output to stderr",
  "  -h, --help     Print help",
  "  -V, --version  Print version"]

/-- The end of a command line that is no command. -/
def finishStop : Stop → Finish
  | .usage => { exitCode := 2, stderr := "error: invalid arguments\n\n" ++ helpText }
  | .help => { exitCode := 0, stdout := helpText }
  | .version => { exitCode := 0, stdout := "dombind 0.1.0\n" }

/-- Carry out a command line. -/
def carryOut {m : Type → Type} [Monad m] (files : FileOperations m) (args : List String) : m Finish :=
  match parse args with
  | .error stop => return finishStop stop
  | .ok command => do
    match command.prepare (← files.read? (.ofText command.metadata)) with
    | .error refusal => return finishRefused refusal
    | .ok (.run jobs denyWarnings) =>
      return finishRun (← Job.carryOutEach files {} jobs) denyWarnings
    | .ok (.print built indent) => return finishPrint built indent

/-- Carry out a command line on a file store. -/
def evaluate (args : List String) (s : FileStore) : Finish × FileStore :=
  carryOut FileStore.operations args s

theorem evaluate_eq (args : List String) (s : FileStore) :
    evaluate args s =
      match parse args with
      | .error stop => (finishStop stop, s)
      | .ok command =>
        match command.prepare (s.read? (.ofText command.metadata)) with
        | .error refusal => (finishRefused refusal, s)
        | .ok (.run jobs denyWarnings) =>
          (finishRun (Job.runAll jobs s).1 denyWarnings, (Job.runAll jobs s).2)
        | .ok (.print built indent) => (finishPrint built indent, s) := by
  rw [evaluate, carryOut]
  cases parse args with
  | error stop => rfl
  | ok command =>
    dsimp only
    rw [FileStore.bind_apply, FileStore.operations_read?]
    rcases command.prepare (s.read? (.ofText command.metadata)) with _ | ⟨_ | _⟩ <;> rfl

end Command

end Bindery
