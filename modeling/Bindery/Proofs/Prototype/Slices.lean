import Bindery.Prototype
import Bindery.Proofs.Text.Slices
/-!
Reading prototypes by bytes. Here a stated prototype is read with slices at byte positions: up to the
first parenthesis, between the parentheses, from where an identifier begins, and up to there. Each
position is computed from what was found before, and each slice may be refused. None ever is, for
whatever text: the positions are those of parentheses, which take one byte each, and of identifiers, and
the last byte of the text is known to be a parenthesis of its own before it is cut off.
-/

namespace Bindery.Prototype

variable {cs : List Char} {text symbol : String}

/-- The identifier at the end of a text, as the slice from where it begins. -/
def identifierSlice? (cs : List Char) : Option (List Char) :=
  Text.slice? (Text.tailIndex isIdentChar cs) (Text.byteLength cs) cs

/-- The name of a parameter, with the type as the slice up to where the name begins. -/
def slicedName? (cs : List Char) : Option (Option String) := do
  let text := parameterText cs
  let name ← identifierSlice? text
  let stop ← Text.minus? (Text.byteLength text) (Text.byteLength name)
  let type := Text.trimChars (← Text.slice? 0 stop text)
  return if name.isEmpty || type.isEmpty then none else some (String.ofList name)

/-- The names of parameters, of which the first has the given position. -/
def slicedNames? (position : Nat) : List (List Char) → Option (Except Fault (List String))
  | [] => some (.ok [])
  | p :: ps => do
    match ← slicedName? p with
    | none => return .error (.unnamedParameter position)
    | some name => return (← slicedNames? (position + 1) ps).map (name :: ·)

/-- The names of the parameters in the text between the parentheses. -/
def slicedInner? (inner : List Char) : Option (Except Fault (List String)) :=
  let inner := Text.trimChars inner
  if inner.contains '(' || inner.contains ')' then some (.error .functionPointer)
  else if inner.isEmpty || inner = ['v', 'o', 'i', 'd'] then some (.ok [])
  else slicedNames? 1 (inner.splitOnP (· = ','))

/-- The names of the parameters of a stated prototype of `symbol`, read with slices; nothing if a slice
is refused. -/
def slicedParameters? (text symbol : String) : Option (Except Fault (List String)) :=
  let cs := normalizeChars text.toList
  match Text.indexOf? '(' cs with
  | none => some (.error .missingParameterList)
  | some start =>
    if cs.getLast? ≠ some ')' then some (.error .textAfterParameterList)
    else do
      let head := Text.trimBack (← Text.slice? 0 start cs)
      let name ← identifierSlice? head
      if name ≠ symbol.toList then return .error (.otherSymbol symbol)
      else if Text.byteLength head = Text.byteLength symbol.toList then return .error .missingReturnType
      else slicedInner? (← Text.slice? (start + 1) (← Text.minus? (Text.byteLength cs) 1) cs)

/-! ### No slice is refused -/

theorem identifierSlice?_eq (cs : List Char) :
    identifierSlice? cs = some (Text.takeTail isIdentChar cs) := Text.slice?_tail isIdentChar cs

theorem slicedName?_eq (cs : List Char) : slicedName? cs = some (parameterName? cs) := by
  have hwhole := Text.dropTail_append_takeTail isIdentChar (parameterText cs)
  have hstop : Text.minus? (Text.byteLength (parameterText cs))
      (Text.byteLength (Text.takeTail isIdentChar (parameterText cs))) =
      some (Text.byteLength (Text.dropTail isIdentChar (parameterText cs))) := by
    conv_lhs => rw [← hwhole, Text.byteLength_append, hwhole]
    exact Text.minus?_add _ _
  have htype : Text.slice? 0 (Text.byteLength (Text.dropTail isIdentChar (parameterText cs)))
      (parameterText cs) = some (Text.dropTail isIdentChar (parameterText cs)) := by
    have hfront := Text.slice?_front (Text.dropTail isIdentChar (parameterText cs))
      (Text.takeTail isIdentChar (parameterText cs))
    rwa [hwhole] at hfront
  simp only [slicedName?, identifierSlice?_eq, hstop, htype, Option.bind_eq_bind, Option.bind_some]
  rfl

theorem slicedNames?_eq : ∀ (position : Nat) (ps : List (List Char)),
    slicedNames? position ps = some (parameterNames position ps)
  | _, [] => rfl
  | position, p :: ps => by
    rw [slicedNames?, parameterNames, slicedName?_eq, Option.bind_eq_bind, Option.bind_some,
      slicedNames?_eq]
    cases parameterName? p <;> rfl

theorem slicedInner?_eq (inner : List Char) : slicedInner? inner = some (parseInner inner) := by
  rw [slicedInner?, parseInner, slicedNames?_eq]
  split
  · rfl
  · split <;> rfl

/-- A text with an identifier for a tail has as many bytes only if there is nothing else in it. -/
theorem byteLength_eq_iff (h : Text.takeTail isIdentChar cs = symbol.toList) :
    Text.byteLength cs = Text.byteLength symbol.toList ↔ cs = symbol.toList := by
  refine ⟨fun hlength => ?_, fun e => e ▸ rfl⟩
  have hwhole := Text.dropTail_append_takeTail isIdentChar cs
  rw [h] at hwhole
  rw [← hwhole, Text.byteLength_append, Nat.add_eq_right, Text.byteLength_eq_zero] at hlength
  rw [← hwhole, hlength, List.nil_append]

theorem getLast?_parenthesis (before rest : List Char) :
    (before ++ '(' :: rest).getLast? = some ')' ↔ rest.getLast? = some ')' := by
  rw [List.getLast?_append, List.getLast?_cons]
  cases rest.getLast? <;> simp

/-- A text can be cut behind its first parenthesis and before its last one. -/
theorem slice?_between (before inner : List Char) :
    ∃ stop, Text.minus? (Text.byteLength (before ++ '(' :: (inner ++ [')']))) 1 = some stop ∧
      Text.slice? (Text.byteLength before + 1) stop (before ++ '(' :: (inner ++ [')'])) = some inner := by
  have hopen : Text.byteLength (before ++ ['(']) = Text.byteLength before + 1 := by
    rw [Text.byteLength_append]
    rfl
  have hwhole : before ++ '(' :: (inner ++ [')']) = before ++ ['('] ++ inner ++ [')'] := by simp
  have hlength : Text.byteLength (before ++ '(' :: (inner ++ [')'])) =
      Text.byteLength (before ++ ['(']) + Text.byteLength inner + 1 := by
    rw [hwhole, Text.byteLength_append, Text.byteLength_append (before ++ ['('])]
    rfl
  refine ⟨Text.byteLength (before ++ ['(']) + Text.byteLength inner, ?_, ?_⟩
  · rw [hlength]
    exact Text.minus?_add _ 1
  · rw [hwhole, ← hopen]
    exact Text.slice?_middle _ _ _

/-- Reading with slices comes to the same, and no slice is ever refused. -/
theorem slicedParameters?_eq (text symbol : String) :
    slicedParameters? text symbol = some (parameters text symbol) := by
  rw [slicedParameters?, parameters, Text.indexOf?_eq]
  cases hsplit : Text.splitAtFirst '(' (normalizeChars text.toList) with
  | none => rfl
  | some parts =>
    obtain ⟨before, rest⟩ := parts
    obtain ⟨hwhole, -⟩ := Text.splitAtFirst_eq_some hsplit
    dsimp only [Option.map_some]
    rw [hwhole]
    by_cases hlast : rest.getLast? = some ')'
    · obtain ⟨inner, rfl⟩ := List.getLast?_eq_some_iff.1 hlast
      have hhead : Text.slice? 0 (Text.byteLength before) (before ++ '(' :: (inner ++ [')'])) = some before :=
        Text.slice?_front before _
      obtain ⟨stop, hstop, hinner⟩ := slice?_between before inner
      rw [if_neg (not_not_intro ((getLast?_parenthesis _ _).2 hlast)), if_neg (not_not_intro hlast)]
      simp only [hhead, hstop, hinner, identifierSlice?_eq, Option.bind_eq_bind, Option.bind_some,
        List.dropLast_concat, slicedInner?_eq]
      split
      · rfl
      · rename_i hsymbol
        simp only [byteLength_eq_iff (not_not.1 hsymbol)]
        split <;> rfl
    · rw [if_pos (mt (getLast?_parenthesis _ _).1 hlast), if_pos hlast]

end Bindery.Prototype
