/-!
Paths of files. A path is the sequence of segments between the slashes of its text. Empty segments
and `.` stay where they are and `..` goes up, as in any file system; a path that ends in one of these
names a directory.
-/

namespace Bindery

/-- A path, by its segments. -/
structure Path where
  segments : List String
deriving DecidableEq, Repr, Inhabited

namespace Path

/-- The path that a text spells. -/
def ofText (text : String) : Path := ⟨(text.toList.splitOnP (· = '/')).map String.ofList⟩

/-- The text of a path. -/
def text (p : Path) : String := String.intercalate "/" p.segments

/-- Whether a text spells a path that begins at the root. -/
def isAbsolute (text : String) : Bool := text.toList.head? = some '/'

/-- The segments without an empty one at the end. -/
def withoutTrailing (segments : List String) : List String :=
  if segments.getLast? = some "" then segments.dropLast else segments

/-- The path of a file in a directory. A file given from the root stays there. -/
def join (directory : Path) (file : String) : Path :=
  if isAbsolute file then ofText file
  else ⟨withoutTrailing directory.segments ++ (ofText file).segments⟩

/-- Segments that name no file of their own. -/
def isIdle (segment : String) : Bool := segment = "" || segment = "."

/-- Whether segments are the end of a path that ends at a `.`: none of them names anything, and one
of them is a `.`. -/
def isDotTail (segments : List String) : Bool := segments.all isIdle && segments.contains "."

/-- Segments without those at the end that name nothing. -/
def dropIdleTail (segments : List String) : List String :=
  (segments.reverse.dropWhile isIdle).reverse

/-- Whether a path begins at the root of the machine. -/
def isFromRoot (p : Path) : Bool :=
  match p.segments with
  | "" :: _ :: _ => true
  | _ => false

/-- The path without segments at either end that name nothing. A path from the root stays as it is. -/
def tidy (p : Path) : Path :=
  if p.isFromRoot then p else ⟨dropIdleTail (p.segments.dropWhile isIdle)⟩

end Path

end Bindery
