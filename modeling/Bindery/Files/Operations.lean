import Bindery.Files.Store
/-!
Operations on files. All that the program does with files it does by four operations, which it is given.
So it can run on a file store and on the files of a machine, and does the same on both.
-/

namespace Bindery

/-- What became of a file that was to be written. -/
inductive FileStore.Outcome where
  | written
  /-- The file held the text already. -/
  | unchanged
  | failed
deriving DecidableEq, Repr

/-- What can be done with files. -/
structure FileOperations (m : Type → Type) where
  /-- Make a directory and those on the way to it, if they are not there yet, and tell whether it is
  there now. -/
  makeDirectory : Path → m Bool
  /-- Whether a file holds a text. One that is not there holds none; there is no answer if the file
  cannot be read. -/
  holds? : Path → String → m (Option Bool)
  /-- Put a text into a file, and tell whether that was possible. -/
  put : Path → String → m Bool
  /-- The text of a file. -/
  read? : Path → m (Option String)

/-- Make a file hold a text. The file is left alone when it does already. -/
def FileOperations.write {m : Type → Type} [Monad m] (files : FileOperations m) (p : Path)
    (text : String) : m FileStore.Outcome := do
  match ← files.holds? p text with
  | none => return .failed
  | some true => return .unchanged
  | some false => return if ← files.put p text then .written else .failed

namespace FileStore

/-- The operations of a file store. -/
def operations : FileOperations (StateM FileStore) where
  makeDirectory p s := s.makeDirectory p
  holds? p text s := (s.holds? p text, s)
  put p text s := s.put p text
  read? p s := (s.read? p, s)

@[simp] theorem operations_makeDirectory (s : FileStore) (p : Path) :
    operations.makeDirectory p s = s.makeDirectory p := rfl

@[simp] theorem operations_holds? (s : FileStore) (p : Path) (text : String) :
    operations.holds? p text s = (s.holds? p text, s) := rfl

@[simp] theorem operations_read? (s : FileStore) (p : Path) :
    operations.read? p s = (s.read? p, s) := rfl

/-- One step on a store after another. -/
theorem bind_apply {α β : Type} (x : StateM FileStore α) (f : α → StateM FileStore β)
    (s : FileStore) : (x >>= f) s = f (x s).1 (x s).2 := rfl

/-- Make a file of a store hold a text. -/
def write (s : FileStore) (p : Path) (text : String) : Outcome × FileStore :=
  operations.write p text s

/-- What is written, by what the path leads to. -/
theorem write_eq (s : FileStore) (p : Path) (text : String) :
    s.write p text =
      match s.target p with
      | .file place old =>
        if old = text then (.unchanged, s)
        else if s.refuses place (.file text) then (.failed, s)
        else (.written, s.set place (.file text))
      | .vacant place =>
        if s.refuses place (.file text) then (.failed, s)
        else (.written, s.set place (.file text))
      | .sink => (if text = "" then .unchanged else .written, s)
      | .directory | .unreachable => (.failed, s) := by
  have hwrite : s.write p text =
      match s.holds? p text with
      | none => (.failed, s)
      | some true => (.unchanged, s)
      | some false => (if (s.put p text).1 then .written else .failed, (s.put p text).2) := by
    rw [write, FileOperations.write, bind_apply, operations_holds?]
    rcases s.holds? p text with _ | _ | _ <;> rfl
  have hput (place : Place) :
      ((if (s.putAt place text).1 then Outcome.written else .failed, (s.putAt place text).2) :
        Outcome × FileStore) =
      if s.refuses place (.file text) then (.failed, s)
      else (.written, s.set place (.file text)) := by
    rw [putAt]
    cases s.refuses place (.file text) <;> rfl
  rw [hwrite, holds?, put]
  cases s.target p with
  | file place old => by_cases hsame : old = text <;> simp [hsame, hput]
  | vacant place => exact hput place
  | sink => by_cases hempty : text = "" <;> simp [hempty]
  | _ => rfl

end FileStore

end Bindery
