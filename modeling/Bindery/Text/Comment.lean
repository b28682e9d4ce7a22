import Bindery.Text.Blank
/-!
Text that is safe inside a C comment on one line: its words with one blank between each two, and a
blank between any star and a slash after it.
-/

namespace Bindery.Text

/-- Put a blank between each star and a slash right after it. -/
def openComment : List Char → List Char
  | '*' :: '/' :: cs => '*' :: ' ' :: '/' :: openComment cs
  | c :: cs => c :: openComment cs
  | [] => []

/-- A text as it stands inside a C comment. -/
def comment (s : String) : String :=
  String.ofList (openComment ([' '].intercalate (wordChars s.toList)))

/-- A comment on a line of its own. -/
def commentLine (s : String) : String := "/* " ++ s ++ " */"

end Bindery.Text
