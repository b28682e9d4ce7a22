import Bindery.BindingError
import Bindery.Files.Operations
import Bindery.SubjectKind
/-!
Plans and reports. A generator only plans: it names the directories it needs, the files it wants to
exist in the order in which they are to be written, and what it left out. Carrying out a plan stops at
the first directory that cannot be made and the first file that cannot be written; what was made and
written until then stays. A file that already holds its text is not written again. A plan is carried out
by whatever operations on files there are; on a file store its outcome comes with the store afterwards.
-/

namespace Bindery

/-- A file that is to exist. -/
structure Output where
  path : Path
  text : String
deriving DecidableEq, Repr

/-- What a generator wants to exist. -/
structure Plan where
  generator : String
  directories : List Path := []
  outputs : List Output := []
  errors : List BindingError := []
deriving DecidableEq, Repr

/-- Why a generator could not complete. -/
inductive GenerationError where
  | outputDirsNotConfigured
  | createDir (path : Path)
  | writeFile (path : Path)
deriving DecidableEq, Repr

def GenerationError.message : GenerationError → String
  | .outputDirsNotConfigured => "output directories are not configured"
  | .createDir path => "cannot create directory " ++ path.text
  | .writeFile path => "cannot write " ++ path.text

/-- What a generator produced. -/
structure Report where
  generator : String
  /-- The files that were created or changed. -/
  written : List Path := []
  /-- The files that held their text already. -/
  unchanged : List Path := []
  errors : List BindingError := []
deriving DecidableEq, Repr

namespace Report

/-- Whether nothing was left out. -/
def isClean (r : Report) : Bool := r.errors.isEmpty

/-- All files of the run. -/
def files (r : Report) : List Path := r.written ++ r.unchanged

end Report

namespace Plan

section

variable {m : Type → Type} [Monad m] (files : FileOperations m)

/-- Make directories in order, up to the first that cannot be made. -/
def makeEach : List Path → m (Except GenerationError Unit)
  | [] => return .ok ()
  | p :: ps => do
    if ← files.makeDirectory p then makeEach ps else return .error (.createDir p)

/-- Write files in order, up to the first that cannot be written, and note in the report what became
of each. -/
def writeEach (r : Report) : List Output → m (Except GenerationError Report)
  | [] => return .ok r
  | o :: os => do
    match ← files.write o.path o.text with
    | .written => writeEach { r with written := r.written ++ [o.path] } os
    | .unchanged => writeEach { r with unchanged := r.unchanged ++ [o.path] } os
    | .failed => return .error (.writeFile o.path)

/-- Carry out a plan. -/
def carryOut (p : Plan) : m (Except GenerationError Report) := do
  match ← makeEach files p.directories with
  | .error e => return .error e
  | .ok () => writeEach files { generator := p.generator, errors := p.errors } p.outputs

end

/-! ### On a file store -/

/-- Make directories of a store. -/
def makeDirectories (s : FileStore) (ps : List Path) : Except GenerationError Unit × FileStore :=
  makeEach FileStore.operations ps s

/-- Write files of a store. -/
def writeOutputs (r : Report) (s : FileStore) (os : List Output) :
    Except GenerationError Report × FileStore :=
  writeEach FileStore.operations r os s

/-- Carry out a plan on a store. -/
def execute (p : Plan) (s : FileStore) : Except GenerationError Report × FileStore :=
  p.carryOut FileStore.operations s

theorem makeDirectories_nil (s : FileStore) : makeDirectories s [] = (.ok (), s) := rfl

theorem makeDirectories_cons (s : FileStore) (p : Path) (ps : List Path) :
    makeDirectories s (p :: ps) =
      match s.makeDirectory p with
      | (true, s') => makeDirectories s' ps
      | (false, s') => (.error (.createDir p), s') := by
  rw [makeDirectories, makeEach, FileStore.bind_apply, FileStore.operations_makeDirectory]
  rcases s.makeDirectory p with ⟨_ | _, s'⟩ <;> rfl

theorem writeOutputs_nil (r : Report) (s : FileStore) : writeOutputs r s [] = (.ok r, s) := rfl

theorem writeOutputs_cons_eq (r : Report) (s : FileStore) (o : Output) (os : List Output) :
    writeOutputs r s (o :: os) =
      match s.write o.path o.text with
      | (.written, s') => writeOutputs { r with written := r.written ++ [o.path] } s' os
      | (.unchanged, s') => writeOutputs { r with unchanged := r.unchanged ++ [o.path] } s' os
      | (.failed, s') => (.error (.writeFile o.path), s') := by
  rw [writeOutputs, writeEach, FileStore.bind_apply, ← FileStore.write]
  rcases s.write o.path o.text with ⟨_ | _ | _, s'⟩ <;> rfl

theorem execute_eq (p : Plan) (s : FileStore) :
    p.execute s =
      match makeDirectories s p.directories with
      | (.error e, s') => (.error e, s')
      | (.ok (), s') =>
        writeOutputs { generator := p.generator, errors := p.errors } s' p.outputs := by
  rw [execute, carryOut, FileStore.bind_apply, ← makeDirectories]
  rcases makeDirectories s p.directories with ⟨_ | _, s'⟩ <;> rfl

end Plan

end Bindery
