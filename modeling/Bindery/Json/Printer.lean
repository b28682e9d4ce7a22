import Bindery.Json.Basic
/-!
Writing JSON. One printer serves both forms: the compact one has no blanks at all, the indented one
puts every item and field on a line of its own and a blank after each colon. Empty arrays and objects
are `[]` and `{}` in both. Within strings only the quote, the backslash and the characters below the
blank are escaped. What denotes no text is written as half of a surrogate pair, so that it reads back
as what it was.
-/

namespace Bindery.Json

/-- Where line breaks and blanks go. -/
inductive Layout where
  | compact
  /-- One line per item, each level set in by `width` blanks. -/
  | indented (width : Nat)
deriving DecidableEq, Repr

namespace Layout

/-- An indentation of zero stands for the compact form. -/
def ofIndent : Nat → Layout
  | 0 => .compact
  | n + 1 => .indented (n + 1)

/-- The break in front of an item at nesting level `level`. -/
def lineBreak (level : Nat) : Layout → List Char
  | .compact => []
  | .indented width => '\n' :: List.replicate (width * level) ' '

/-- What stands between the name of a field and its value. -/
def colon : Layout → List Char
  | .compact => [':']
  | .indented _ => [':', ' ']

end Layout

/-- The lowercase hexadecimal digit for a number below sixteen. -/
def hexDigit (n : Nat) : Char :=
  if n < 10 then Char.ofNat (48 + n) else Char.ofNat (87 + n)

/-- A character inside a string literal. -/
def escapeChar (c : Char) : List Char :=
  if c = '"' then ['\\', '"']
  else if c = '\\' then ['\\', '\\']
  else if c = '\x08' then ['\\', 'b']
  else if c = '\x0c' then ['\\', 'f']
  else if c = '\n' then ['\\', 'n']
  else if c = '\r' then ['\\', 'r']
  else if c = '\t' then ['\\', 't']
  else if c.toNat < 0x20 then ['\\', 'u', '0', '0', hexDigit (c.toNat / 16), hexDigit (c.toNat % 16)]
  else [c]

/-- A string literal. -/
def quoted (s : String) : List Char := '"' :: s.toList.flatMap escapeChar ++ ['"']

/-- The decimal literal of an integer. -/
def intChars : Int → List Char
  | .ofNat n => Nat.toDigits 10 n
  | .negSucc n => '-' :: Nat.toDigits 10 (n + 1)

mutual

/-- The text of a value whose closing bracket belongs to nesting level `level`. -/
def chars (layout : Layout) (level : Nat) : Json → List Char
  | .null => ['n', 'u', 'l', 'l']
  | .bool true => ['t', 'r', 'u', 'e']
  | .bool false => ['f', 'a', 'l', 's', 'e']
  | .int i => intChars i
  | .real literal => literal.toList
  | .str s => quoted s
  | .arr items =>
    if items.isEmpty then ['[', ']']
    else '[' :: itemChars layout (level + 1) [] items ++ layout.lineBreak level ++ [']']
  | .obj fields =>
    if fields.isEmpty then ['\x7b', '\x7d']
    else '\x7b' :: fieldChars layout (level + 1) [] fields ++ layout.lineBreak level ++ ['\x7d']
  | .unpaired => ['"', '\\', 'u', 'd', '8', '0', '0', '"']

/-- The items of an array, the first one after `lead` and each further one after a comma. -/
def itemChars (layout : Layout) (level : Nat) (lead : List Char) : List Json → List Char
  | [] => []
  | item :: items =>
    lead ++ layout.lineBreak level ++ chars layout level item ++ itemChars layout level [','] items

/-- The fields of an object, the first one after `lead` and each further one after a comma. -/
def fieldChars (layout : Layout) (level : Nat) (lead : List Char) :
    List (String × Json) → List Char
  | [] => []
  | (name, value) :: fields =>
    lead ++ layout.lineBreak level ++ quoted name ++ layout.colon ++ chars layout level value ++
      fieldChars layout level [','] fields

end

/-- The text of a value in the given layout. -/
def render (layout : Layout) (value : Json) : String := String.ofList (chars layout 0 value)

end Bindery.Json
