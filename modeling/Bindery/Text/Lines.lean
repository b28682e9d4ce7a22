/-!
Texts made of lines. Every line, the last one too, ends with a line break.
-/

namespace Bindery.Text

/-- The text of some lines. -/
def ofLines (ls : List String) : String := String.join (ls.map fun l => l ++ "\n")

theorem ofLines_append (ls ms : List String) : ofLines (ls ++ ms) = ofLines ls ++ ofLines ms := by
  simp [ofLines, String.join_append]

end Bindery.Text
