import Bindery.Json.Basic
/-!
The tokens of a JSON text. The text is read one character at a time: `Scan.step` takes the state
after some characters to the state after one more, and `tokens?` folds it over the whole text. A
word is a run of characters between blanks, brackets, commas, colons and quotes; it must spell
`null`, `true`, `false` or a number.
-/

namespace Bindery.Json

/-- A token of a JSON text. -/
inductive Token where
  | openArr
  | closeArr
  | openObj
  | closeObj
  | comma
  | colon
  /-- A value without parts. -/
  | scalar (value : Json)
deriving Inhabited, Repr, BEq

/-- The blanks that may stand between tokens. -/
def isSpace (c : Char) : Bool := c = ' ' || c = '\n' || c = '\r' || c = '\t'

/-- The tokens that are a single character. -/
def punctuation? : Char → Option Token
  | '[' => some .openArr
  | ']' => some .closeArr
  | '\x7b' => some .openObj
  | '\x7d' => some .closeObj
  | ',' => some .comma
  | ':' => some .colon
  | _ => none

/-! ### Words -/

/-- The number that a run of decimal digits denotes. -/
def digitsValue (ds : List Char) : Nat := Nat.ofDigitChars 10 ds 0

/-- The rest of a number after its whole part: nothing, a fraction, an exponent, or both, each with
at least one digit. -/
def isTail (cs : List Char) : Bool :=
  let afterExponent : List Char → Bool := fun cs =>
    match cs with
    | [] => true
    | e :: rest =>
      (e = 'e' || e = 'E') &&
        let digits := match rest with
          | '+' :: ds => ds
          | '-' :: ds => ds
          | ds => ds
        !digits.isEmpty && digits.all Char.isDigit
  match cs with
  | '.' :: rest =>
    !(rest.takeWhile Char.isDigit).isEmpty && afterExponent (rest.dropWhile Char.isDigit)
  | _ => afterExponent cs

/-- The value of a number literal without its sign: digits with no leading zero, then a tail. -/
def number? (negative : Bool) (cs : List Char) : Option Json :=
  let whole := cs.takeWhile Char.isDigit
  let tail := cs.dropWhile Char.isDigit
  if whole.isEmpty || (whole.head? = some '0' && 1 < whole.length) || !isTail tail then none
  else
    let literal := String.ofList (if negative then '-' :: cs else cs)
    if !tail.isEmpty then some (.real literal)
    else match negative, digitsValue whole with
      | false, n => some (.int n)
      | true, 0 => some (.real literal)
      | true, n + 1 => some (.int (.negSucc n))

/-- The value that a word spells. -/
def word? : List Char → Option Json
  | ['n', 'u', 'l', 'l'] => some .null
  | ['t', 'r', 'u', 'e'] => some (.bool true)
  | ['f', 'a', 'l', 's', 'e'] => some (.bool false)
  | '-' :: cs => number? true cs
  | cs => number? false cs

/-! ### Strings -/

/-- The value of a hexadecimal digit of either case. -/
def hexValue? (c : Char) : Option Nat :=
  let n := c.toNat
  if 48 ≤ n && n ≤ 57 then some (n - 48)
  else if 97 ≤ n && n ≤ 102 then some (n - 87)
  else if 65 ≤ n && n ≤ 70 then some (n - 55)
  else none

/-- The character that a one-letter escape stands for. -/
def shortEscape? : Char → Option Char
  | '"' => some '"'
  | '\\' => some '\\'
  | '/' => some '/'
  | 'b' => some '\x08'
  | 'f' => some '\x0c'
  | 'n' => some '\n'
  | 'r' => some '\r'
  | 't' => some '\t'
  | _ => none

/-- Whether a code is the first half of a surrogate pair. -/
def isFirstHalf (code : Nat) : Bool := 0xD800 ≤ code && code ≤ 0xDBFF

/-- Whether a code is the second half of a surrogate pair. -/
def isSecondHalf (code : Nat) : Bool := 0xDC00 ≤ code && code ≤ 0xDFFF

/-- The character that the two halves of a surrogate pair make. -/
def joinHalves (first second : Nat) : Char :=
  Char.ofNat (0x10000 + (first - 0xD800) * 0x400 + (second - 0xDC00))

/-- The characters that codes, the last of them first, spell in front of `later`. Two halves of a
surrogate pair make one character; neither half stands for one alone. -/
def spell? : List Nat → List Char → Option (List Char)
  | [], later => some later
  | code :: codes, later =>
    if isSecondHalf code then
      match codes with
      | first :: rest =>
        if isFirstHalf first then spell? rest (joinHalves first code :: later) else none
      | [] => none
    else if isFirstHalf code then none
    else spell? codes (Char.ofNat code :: later)

/-- The value of a string literal with these codes, the last of them first. -/
def stringOf (codes : List Nat) : Json :=
  match spell? codes [] with
  | some cs => .str (String.ofList cs)
  | none => .unpaired

/-- Where a scan stands. The characters of a word, the codes of a string literal and the tokens
already read are kept last first. -/
inductive Mode where
  | between
  | word (read : List Char)
  | string (read : List Nat)
  /-- After a backslash. -/
  | escape (read : List Nat)
  /-- In a `\u` escape, with `count` digits read, which denote `value`. -/
  | unit (read : List Nat) (count value : Nat)
deriving Repr

/-- A scan: where it stands and the tokens it has completed. -/
structure Scan where
  mode : Mode
  done : List Token
deriving Repr

namespace Scan

/-- Read a character that stands between tokens. -/
def stepBetween (done : List Token) (c : Char) : Scan :=
  if isSpace c then ⟨.between, done⟩
  else if c = '"' then ⟨.string [], done⟩
  else match punctuation? c with
    | some t => ⟨.between, t :: done⟩
    | none => ⟨.word [c], done⟩

/-- Whether a character ends a word. -/
def endsWord (c : Char) : Bool := isSpace c || c = '"' || (punctuation? c).isSome

/-- Read one more character. -/
def step (s : Scan) (c : Char) : Option Scan :=
  match s.mode with
  | .between => some (stepBetween s.done c)
  | .word read =>
    if endsWord c then (word? read.reverse).map fun v => stepBetween (.scalar v :: s.done) c
    else some ⟨.word (c :: read), s.done⟩
  | .string read =>
    if c = '"' then some ⟨.between, .scalar (stringOf read) :: s.done⟩
    else if c = '\\' then some ⟨.escape read, s.done⟩
    else if c.toNat < 0x20 then none
    else some ⟨.string (c.toNat :: read), s.done⟩
  | .escape read =>
    if c = 'u' then some ⟨.unit read 0 0, s.done⟩
    else (shortEscape? c).map fun e => ⟨.string (e.toNat :: read), s.done⟩
  | .unit read count value => do
    let digit ← hexValue? c
    if count = 3 then some ⟨.string ((value * 16 + digit) :: read), s.done⟩
    else some ⟨.unit read (count + 1) (value * 16 + digit), s.done⟩

/-- The tokens of a scan that has come to the end of the text, in the order of the text. -/
def finish (s : Scan) : Option (List Token) :=
  match s.mode with
  | .between => some s.done.reverse
  | .word read => (word? read.reverse).map fun v => (Token.scalar v :: s.done).reverse
  | _ => none

end Scan

/-- The tokens of a text, `none` if it has none. -/
def tokens? (cs : List Char) : Option (List Token) :=
  cs.foldlM Scan.step ⟨.between, []⟩ >>= Scan.finish

end Bindery.Json
