/-!
Blank characters and what is cut at them. A character is blank when it has the Unicode property
`White_Space`; the definitions work on lists of characters, and `trim` and `words` at the end carry
them over to strings.
-/

namespace Bindery.Text

/-- The characters with the Unicode property `White_Space`. -/
def isBlank (c : Char) : Bool :=
  let n := c.toNat
  (0x09 ≤ n && n ≤ 0x0D) || n == 0x20 || n == 0x85 || n == 0xA0 || n == 0x1680 ||
    (0x2000 ≤ n && n ≤ 0x200A) || n == 0x2028 || n == 0x2029 || n == 0x202F || n == 0x205F ||
    n == 0x3000

/-- Drop the blanks in front. -/
def trimFront (cs : List Char) : List Char := cs.dropWhile isBlank

/-- Drop the longest tail on which `p` holds. -/
def dropTail (p : Char → Bool) (cs : List Char) : List Char := (cs.reverse.dropWhile p).reverse

/-- Keep only the longest tail on which `p` holds. -/
def takeTail (p : Char → Bool) (cs : List Char) : List Char := (cs.reverse.takeWhile p).reverse

/-- Drop the blanks at the end. -/
def trimBack (cs : List Char) : List Char := dropTail isBlank cs

/-- Drop the blanks at both ends. -/
def trimChars (cs : List Char) : List Char := trimBack (trimFront cs)

/-- The runs of characters that are not blank. -/
def wordChars (cs : List Char) : List (List Char) := (cs.splitOnP isBlank).filter (!·.isEmpty)

/-- Drop the blanks at both ends of a string. -/
def trim (s : String) : String := String.ofList (trimChars s.toList)

/-- The words of a string: its runs of characters that are not blank. -/
def words (s : String) : List String := (wordChars s.toList).map String.ofList

theorem dropTail_append_takeTail (p : Char → Bool) (cs : List Char) :
    dropTail p cs ++ takeTail p cs = cs := by
  rw [dropTail, takeTail, ← List.reverse_append, List.takeWhile_append_dropWhile, List.reverse_reverse]

@[simp] theorem toList_trim (s : String) : (trim s).toList = trimChars s.toList := by
  simp [trim]

end Bindery.Text
