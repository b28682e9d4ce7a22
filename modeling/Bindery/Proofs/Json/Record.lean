import Bindery.Json.Record
import Bindery.Proofs.Json.Parsing
import Mathlib.Data.List.Forall2
import Mathlib.Data.List.Nodup
/-!
Reading back what was written of a record. `StandsFor` says of a JSON value that it has a text and what
a reader makes of it; texts, lists and records of values that stand for something stand for the text,
the list and the record of those. A field that was left out is read as what its absence stands for.
-/

namespace Bindery.Json

/-- Whether a value has a text and is read as `a`. -/
structure StandsFor {α : Type} (j : Json) (read : Decoder α) (a : α) : Prop where
  spelled : Spelled j
  read_eq : read j = some a

section StandsFor

variable {α β : Type} {read : Decoder α}

theorem standsFor_string (s : String) : (Json.str s).StandsFor .string s := ⟨.str s, rfl⟩

theorem standsFor_bool (b : Bool) : (Json.bool b).StandsFor .bool b := ⟨.bool b, rfl⟩

theorem standsFor_int64 (i : Int64) : (Json.int i.toInt).StandsFor .int64 i := by
  refine ⟨.int _, ?_⟩
  have hlow : -0x8000000000000000 ≤ i.toInt := i.le_toInt
  have hhigh : i.toInt < 0x8000000000000000 := i.toInt_lt
  simp [Decoder.int64, hlow, hhigh]

/-- A name that its own reader knows. -/
theorem standsFor_name {ofName? : String → Option α} {name : String} {a : α}
    (h : ofName? name = some a) : (Json.str name).StandsFor (.name ofName?) a :=
  ⟨.str name, h⟩

/-- The items of a list are read one by one. -/
theorem standsFor_list {write : β → Json} {norm : β → α} {bs : List β}
    (h : ∀ b ∈ bs, (write b).StandsFor read (norm b)) :
    (Json.arr (bs.map write)).StandsFor (.list read) (bs.map norm) := by
  refine ⟨.arr fun v hv => ?_, ?_⟩
  · obtain ⟨b, hb, rfl⟩ := List.mem_map.1 hv
    exact (h b hb).spelled
  · have hread : (bs.map write).mapM read = some (bs.map norm) := by
      induction bs with
      | nil => rfl
      | cons b bs ih =>
        obtain ⟨hb, hbs⟩ := List.forall_mem_cons.1 h
        simp [hb.read_eq, ih hbs]
    exact hread

/-- Items that stand for what they were written from. -/
theorem standsFor_items {write : α → Json} {as : List α}
    (h : ∀ a ∈ as, (write a).StandsFor read a) :
    (Json.arr (as.map write)).StandsFor (.list read) as := by
  have hlist : (Json.arr (as.map write)).StandsFor (.list read) (as.map id) := standsFor_list h
  rwa [List.map_id] at hlist

/-- A value that is not `null` is read as it would be where it must be there. -/
theorem StandsFor.nullable {j : Json} {a : α} (h : j.StandsFor read a) (hnull : j ≠ .null) :
    j.StandsFor (.nullable read) (some a) := by
  refine ⟨h.spelled, ?_⟩
  cases j with
  | null => exact absurd rfl hnull
  | _ => simp [Decoder.nullable, h.read_eq]

/-- An absent text is `null`, and `null` is an absent text. -/
theorem standsFor_orNull (s? : Option String) :
    (Json.orNull .str s?).StandsFor (.nullable .string) s? := by
  cases s? with
  | none => exact ⟨.null, rfl⟩
  | some s => exact (standsFor_string s).nullable (by simp)

end StandsFor

/-! ### Fields -/

/-- Whether what was written for the field called `name`, if anything was, has this name and a text,
and is read from any record that holds it, and nothing else of this name, as `a`. -/
structure FieldFor {α : Type} (name : String) (field? : Option (String × Json))
    (get : Record → Option α) (a : α) : Prop where
  name_eq : ∀ field ∈ field?, field.1 = name
  spelled : ∀ field ∈ field?, Spelled field.2
  get_eq : ∀ r : Record, r.lookup name = field?.map Prod.snd → get r = some a

section Fields

variable {α β : Type} {name : String} {read : Decoder α} {a : α}

/-- A field that is always written and must be there. -/
theorem FieldFor.required {v : Json} (h : v.StandsFor read a) :
    FieldFor name (always name v) (·.required name read) a where
  name_eq := by simp [always]
  spelled := by simpa [always] using h.spelled
  get_eq r hr := by simp [Record.required, hr, always, h.read_eq]

/-- A field that is always written, whatever its absence would stand for. -/
theorem FieldFor.orElse {v : Json} {missing : α} (h : v.StandsFor read a) :
    FieldFor name (always name v) (·.orElse name missing read) a where
  name_eq := by simp [always]
  spelled := by simpa [always] using h.spelled
  get_eq r hr := by simp [Record.orElse, hr, always, h.read_eq]

/-- A field that was left out is read as what its absence stands for. -/
theorem FieldFor.missing (a : α) : FieldFor name none (·.orElse name a read) a where
  name_eq := by simp
  spelled := by simp
  get_eq r hr := by simp [Record.orElse, hr]

theorem FieldFor.textUnlessEmpty (text : String) :
    FieldFor name (textUnlessEmpty name text) (·.orElse name "" .string) text := by
  rw [Json.textUnlessEmpty]
  split
  · rename_i hempty
    rw [hempty]
    exact .missing ""
  · exact .orElse (standsFor_string text)

theorem FieldFor.listUnlessEmpty {write : β → Json} {norm : β → α} {bs : List β}
    (h : ∀ b ∈ bs, (write b).StandsFor read (norm b)) :
    FieldFor name (listUnlessEmpty name (bs.map write)) (·.orElse name [] (.list read))
      (bs.map norm) := by
  cases bs with
  | nil => exact .missing []
  | cons b bs => exact .orElse (standsFor_list h)

theorem FieldFor.itemsUnlessEmpty {write : α → Json} {as : List α}
    (h : ∀ a ∈ as, (write a).StandsFor read a) :
    FieldFor name (Json.listUnlessEmpty name (as.map write)) (·.orElse name [] (.list read)) as := by
  cases as with
  | nil => exact .missing []
  | cons a as => exact .orElse (standsFor_items h)

theorem FieldFor.textsUnlessEmpty (texts : List String) :
    FieldFor name (Json.listUnlessEmpty name (texts.map .str)) (·.orElse name [] (.list .string))
      texts :=
  .itemsUnlessEmpty fun text _ => standsFor_string text

theorem FieldFor.ifPresent {write : α → Json} {a? : Option α}
    (h : ∀ a ∈ a?, (write a).StandsFor read a) (hnull : ∀ a, write a ≠ .null) :
    FieldFor name (ifPresent name write a?) (·.optional name read) a? := by
  cases a? with
  | none => exact .missing none
  | some a => exact .orElse ((h a rfl).nullable (hnull a))

/-- A text that may be absent. -/
theorem FieldFor.textIfPresent (text? : Option String) :
    FieldFor name (Json.ifPresent name .str text?) (·.optional name .string) text? :=
  .ifPresent (fun text _ => standsFor_string text) (by simp)

end Fields

/-! ### Records -/

/-- Whether the fields called `names`, in this order, were written such that `build` makes `b` of any
record that holds them. -/
structure RecordFor {β : Type} (names : List String) (fields : List (Option (String × Json)))
    (build : Record → Option β) (b : β) : Prop where
  names_eq : List.Forall₂ (fun name field? => ∀ field ∈ field?, field.1 = name) names fields
  spelled : ∀ field ∈ fields.filterMap id, Spelled field.2
  build_eq : ∀ r : Record, (∀ p ∈ names.zip fields, r.lookup p.1 = p.2.map Prod.snd) →
    build r = some b

section Records

variable {α β : Type} {names : List String} {fields : List (Option (String × Json))} {b : β}

theorem RecordFor.nil : RecordFor [] [] (fun _ => some b) b where
  names_eq := .nil
  spelled := by simp
  build_eq _ _ := rfl

/-- One more field in front, read before the others. -/
theorem RecordFor.cons {name : String} {field? : Option (String × Json)} {get : Record → Option α}
    {a : α} {rest : Record → α → Option β} (hfield : FieldFor name field? get a)
    (h : RecordFor names fields (rest · a) b) :
    RecordFor (name :: names) (field? :: fields) (fun r => get r >>= rest r) b where
  names_eq := .cons hfield.name_eq h.names_eq
  spelled := by
    cases field? with
    | none => exact h.spelled
    | some field => exact List.forall_mem_cons.2 ⟨hfield.spelled field rfl, h.spelled⟩
  build_eq r hr := by
    obtain ⟨hhead, htail⟩ := List.forall_mem_cons.1 hr
    rw [hfield.get_eq r hhead]
    exact h.build_eq r htail

/-- What was written has the names of the fields, in their order. -/
theorem names_sublist
    (h : List.Forall₂ (fun name field? => ∀ field ∈ field?, field.1 = name) names fields) :
    ((fields.filterMap id).map Prod.fst).Sublist names := by
  induction h with
  | nil => exact .slnil
  | @cons name field? names fields hfield _ ih =>
    cases field? with
    | none => exact ih.cons name
    | some field =>
      obtain rfl : field.1 = name := hfield field rfl
      exact ih.cons_cons field.1

theorem lookup_eq_none {r : Record} {name : String} (h : name ∉ r.map Prod.fst) :
    r.lookup name = none := by
  refine List.lookup_eq_none_iff.2 fun field hfield => ?_
  rw [bne_iff_ne]
  exact fun heq => h (heq ▸ List.mem_map_of_mem hfield)

/-- A field that was written is found by its name, and one that was left out is not. -/
theorem lookup_filterMap
    (h : List.Forall₂ (fun name field? => ∀ field ∈ field?, field.1 = name) names fields)
    (hnames : names.Nodup) :
    ∀ p ∈ names.zip fields, (fields.filterMap id).lookup p.1 = p.2.map Prod.snd := by
  induction h with
  | nil => simp
  | @cons name field? names fields hfield hrest ih =>
    obtain ⟨hfresh, hnames⟩ := List.nodup_cons.1 hnames
    refine List.forall_mem_cons.2 ⟨?_, fun p hp => ?_⟩
    · cases field? with
      | none => exact lookup_eq_none fun hmem => hfresh ((names_sublist hrest).subset hmem)
      | some field =>
        obtain rfl : field.1 = name := hfield field rfl
        exact List.lookup_cons_self
    · rw [← ih hnames p hp]
      cases field? with
      | none => rfl
      | some field =>
        obtain ⟨written, v⟩ := field
        obtain rfl : written = name := hfield _ rfl
        have hne : (p.1 == written) = false :=
          beq_eq_false_iff_ne.2 fun heq => hfresh (heq ▸ (List.of_mem_zip hp).1)
        simp [List.lookup_cons, hne]

theorem eraseDups_of_nodup {l : List String} (h : l.Nodup) : l.eraseDups = l := by
  induction l with
  | nil => rfl
  | cons s l ih =>
    obtain ⟨hs, hl⟩ := List.nodup_cons.1 h
    have hkept : l.filter (fun t => !t == s) = l :=
      List.filter_eq_self.2 fun t ht => by simpa using fun heq : t = s => hs (heq ▸ ht)
    rw [List.eraseDups_cons, hkept, ih hl]

/-- What was written for a record is read as the record. -/
theorem standsFor_record {build : Record → Option β} (hnames : names.Nodup)
    (h : RecordFor names fields build b) :
    (record fields).StandsFor (fun j => Record.ofJson? names j >>= build) b := by
  refine ⟨.obj h.spelled, ?_⟩
  have hsub := names_sublist h.names_eq
  have hown : (fields.filterMap id).filter (fun f => names.contains f.1) = fields.filterMap id := by
    refine List.filter_eq_self.2 fun f hf => ?_
    simpa using hsub.subset (List.mem_map_of_mem hf)
  have hread : Record.ofJson? names (record fields) = some (fields.filterMap id) := by
    rw [record, Record.ofJson?, hown, eraseDups_of_nodup (hnames.sublist hsub)]
    simp
  rw [hread]
  exact h.build_eq _ (lookup_filterMap h.names_eq hnames)

end Records

end Bindery.Json
