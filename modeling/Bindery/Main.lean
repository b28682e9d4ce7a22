import Bindery.Command.Basic
/-!
The program. It carries out its command line on the files of the machine, and prints what the command
reports.
-/

namespace Bindery

/-- The operations on the files of the machine. -/
def diskOperations : FileOperations IO where
  makeDirectory p := do
    try
      IO.FS.createDirAll p.text
      return true
    catch _ => return false
  holds? p text := do
    try
      return some ((← IO.FS.readBinFile p.text) == text.toUTF8)
    catch
      | .noFileOrDirectory .. => return some false
      | _ => return none
  put p text := do
    try
      IO.FS.writeFile p.text text
      return true
    catch _ => return false
  read? p := do
    try
      return some (← IO.FS.readFile p.text)
    catch _ => return none

end Bindery

def main (args : List String) : IO UInt32 := do
  let finish ← Bindery.Command.carryOut Bindery.diskOperations args
  (← IO.getStdout).putStr finish.stdout
  (← IO.getStderr).putStr finish.stderr
  return finish.exitCode.toUInt32
