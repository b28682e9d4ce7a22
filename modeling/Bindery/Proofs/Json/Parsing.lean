import Bindery.Json.Reader
import Bindery.Proofs.Json.Scanning
/-!
Parsing the tokens of a value. They lead a parse that expects a value to where it has been delivered,
whatever containers are open. With the scan of the printed text this is the main statement of the
format: every value whose number literals are literals reads back from its text, in either layout.
-/

namespace Bindery.Json

namespace Parse

variable {p p' : Parse} {t : Token} {ts us : List Token}

/-- The parse after some more tokens. -/
def take (p : Parse) (ts : List Token) : Option Parse := ts.foldlM step p

theorem take_nil : p.take [] = some p := rfl

theorem take_cons (h : p.step t = some p') : p.take (t :: ts) = p'.take ts := foldlM_cons_some h

theorem take_append (h : p.take ts = some p') : p.take (ts ++ us) = p'.take us :=
  foldlM_append_some h

end Parse

/-- Whether the tokens of a value are delivered as this value. -/
def ParsesTo (v : Json) : Prop :=
  ∀ stack, (Parse.value stack).take (tokensOf v) = some (Parse.deliver v stack)

/-! ### Items -/

/-- A value does not begin with the end of an array. -/
theorem tokensOf_eq_cons (v : Json) : ∃ t ts, tokensOf v = t :: ts ∧ t ≠ .closeArr := by
  cases v <;> exact ⟨_, _, rfl, by simp⟩

theorem step_firstItem {t : Token} (ht : t ≠ .closeArr) (stack : List Frame) :
    (Parse.firstItem stack).step t = (Parse.value (.items [] :: stack)).step t := by
  cases t <;> first | rfl | exact absurd rfl ht

/-- The first item of an array is taken like a value. -/
theorem take_firstItem {v : Json} (h : ParsesTo v) (stack : List Frame) :
    (Parse.firstItem stack).take (tokensOf v) = some (.afterItem [v] stack) := by
  obtain ⟨t, ts, hv, ht⟩ := tokensOf_eq_cons v
  have hvalue := h (.items [] :: stack)
  rw [hv] at hvalue ⊢
  rw [Parse.take, List.foldlM_cons, step_firstItem ht, ← List.foldlM_cons]
  exact hvalue

/-- Further items are added to those that were read. -/
theorem take_items {items : List Json} (h : ∀ v ∈ items, ParsesTo v) (done : List Json)
    (stack : List Frame) :
    (Parse.afterItem done stack).take (itemTokens [.comma] items) =
      some (.afterItem (items.reverse ++ done) stack) := by
  induction items generalizing done with
  | nil => rfl
  | cons v items ih =>
    obtain ⟨hv, hitems⟩ := List.forall_mem_cons.1 h
    rw [itemTokens, List.append_assoc, List.singleton_append, Parse.take_cons rfl,
      Parse.take_append (hv (.items done :: stack))]
    exact (ih hitems (v :: done)).trans (by simp)

theorem parsesTo_arr {items : List Json} (h : ∀ v ∈ items, ParsesTo v) : ParsesTo (.arr items) := by
  intro stack
  have hopen : (Parse.value stack).step .openArr = some (.firstItem stack) := rfl
  cases items with
  | nil => rfl
  | cons v items =>
    obtain ⟨hv, hitems⟩ := List.forall_mem_cons.1 h
    have hclose : (Parse.afterItem (items.reverse ++ [v]) stack).step .closeArr =
        some (Parse.deliver (.arr (v :: items)) stack) := by
      simp [Parse.step]
    rw [tokensOf, itemTokens, List.nil_append, List.cons_append, List.append_assoc,
      Parse.take_cons hopen, Parse.take_append (take_firstItem hv stack),
      Parse.take_append (take_items hitems [v] stack), Parse.take_cons hclose, Parse.take_nil]

/-! ### Fields -/

/-- A field whose name denotes a text. -/
def named (f : String × Json) : Field := (some f.1, f.2)

theorem objectOf_named (fields : List (String × Json)) : objectOf (fields.map named) = .obj fields := by
  have hnames : (fields.map named).mapM (fun f : Field => f.1.map fun n => (n, f.2)) = some fields := by
    induction fields with
    | nil => rfl
    | cons f fields ih => simp [named, ih]
  unfold objectOf
  rw [hnames]

/-- The tokens of a field, after which another one or the end of the object is expected. -/
theorem take_field {v : Json} (h : ParsesTo v) (name : String) (done : List Field)
    (stack : List Frame) (us : List Token) :
    (Parse.fieldName done stack).take (.scalar (.str name) :: .colon :: tokensOf v ++ us) =
      (Parse.afterField (named (name, v) :: done) stack).take us := by
  have hname : (Parse.fieldName done stack).step (.scalar (.str name)) =
      some (.colon done (some name) stack) := rfl
  have hcolon : (Parse.colon done (some name) stack).step .colon =
      some (.value (.fields done (some name) :: stack)) := rfl
  rw [List.cons_append, List.cons_append, Parse.take_cons hname, Parse.take_cons hcolon,
    Parse.take_append (h (.fields done (some name) :: stack))]
  rfl

/-- Further fields are added to those that were read. -/
theorem take_fields {fields : List (String × Json)} (h : ∀ f ∈ fields, ParsesTo f.2)
    (done : List Field) (stack : List Frame) :
    (Parse.afterField done stack).take (fieldTokens [.comma] fields) =
      some (.afterField ((fields.map named).reverse ++ done) stack) := by
  induction fields generalizing done with
  | nil => rfl
  | cons f fields ih =>
    obtain ⟨name, v⟩ := f
    obtain ⟨hv, hfields⟩ := List.forall_mem_cons.1 h
    have hcomma : (Parse.afterField done stack).step .comma = some (.fieldName done stack) := rfl
    calc (Parse.afterField done stack).take (fieldTokens [.comma] ((name, v) :: fields))
        = (Parse.fieldName done stack).take
            (.scalar (.str name) :: .colon :: tokensOf v ++ fieldTokens [.comma] fields) :=
          Parse.take_cons hcomma
      _ = (Parse.afterField (named (name, v) :: done) stack).take (fieldTokens [.comma] fields) :=
          take_field hv name done stack _
      _ = some (.afterField ((((name, v) :: fields).map named).reverse ++ done) stack) := by
          rw [ih hfields, List.map_cons, List.reverse_cons, List.append_assoc]
          rfl

theorem parsesTo_obj {fields : List (String × Json)} (h : ∀ f ∈ fields, ParsesTo f.2) :
    ParsesTo (.obj fields) := by
  intro stack
  cases fields with
  | nil => rfl
  | cons f fields =>
    obtain ⟨name, v⟩ := f
    obtain ⟨hv, hfields⟩ := List.forall_mem_cons.1 h
    have hopen : (Parse.value stack).step .openObj = some (.firstField stack) := rfl
    have hclose : (Parse.afterField ((fields.map named).reverse ++ [named (name, v)]) stack).step
        .closeObj = some (Parse.deliver (.obj ((name, v) :: fields)) stack) := by
      simp [Parse.step, ← objectOf_named]
    calc (Parse.value stack).take (tokensOf (.obj ((name, v) :: fields)))
        = (Parse.firstField stack).take (fieldTokens [] ((name, v) :: fields) ++ [.closeObj]) := by
          rw [tokensOf, List.cons_append, Parse.take_cons hopen]
      -- the first name is taken as the name of a further field is
      _ = (Parse.fieldName [] stack).take
            (.scalar (.str name) :: .colon :: tokensOf v ++
              (fieldTokens [.comma] fields ++ [.closeObj])) := by
          simp [fieldTokens]
          rfl
      _ = (Parse.afterField [named (name, v)] stack).take
            (fieldTokens [.comma] fields ++ [.closeObj]) := take_field hv name [] stack _
      _ = some (Parse.deliver (.obj ((name, v) :: fields)) stack) := by
          rw [Parse.take_append (take_fields hfields [named (name, v)] stack),
            Parse.take_cons hclose, Parse.take_nil]

/-! ### Values -/

/-- Every value is delivered from its tokens. -/
theorem Spelled.parsesTo {v : Json} (h : Spelled v) : ParsesTo v := by
  induction h with
  | null | bool _ | int _ | real _ | str _ | unpaired => exact fun _ => rfl
  | arr _ ih => exact parsesTo_arr ih
  | obj _ ih => exact parsesTo_obj ih

theorem ofTokens?_tokensOf {v : Json} (h : Spelled v) : ofTokens? (tokensOf v) = some v := by
  have hfold : (tokensOf v).foldlM Parse.step (.value []) = some (.complete v) := h.parsesTo []
  rw [ofTokens?, hfold]
  rfl

/-- A value reads back from its text, in whatever layout it was written. -/
theorem read?_render {v : Json} (h : Spelled v) (layout : Layout) :
    read? (v.render layout) = some v := by
  rw [read?, render, String.toList_ofList, tokens?_chars h layout 0]
  exact ofTokens?_tokensOf h

end Bindery.Json
