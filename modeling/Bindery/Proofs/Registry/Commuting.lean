import Bindery.Proofs.Registry.Action
import Mathlib.Data.List.Induction
/-!
Declaring a type and attaching members to it commute. Members that are attached to a declared type
take the place of those declared; members that are attached to a shell are taken over by the
declaration, each completing a declared member or coming after all of them. If nothing is attached in
the declaration, and the metadata of the members agrees with it, both come to the same: taking over a
list of members after one more was inserted is inserting it after they were taken over. So wherever
the declaration stands among the attachments, the entry is the declaration with the members inserted
in their order.
-/

namespace Bindery

namespace TypeEntry

section Members

variable {α : Type} {key : α → String} {fill : α → α → α} {a b c : α} {bs ds : List α}

theorem mem_keys_upsertBy {k : String} :
    k ∈ (upsertBy key a bs).map key ↔ k = key a ∨ k ∈ bs.map key := by
  induction bs with
  | nil => simp [upsertBy]
  | cons b bs ih =>
    by_cases h : key b = key a
    · simp [upsertBy, h]
    · rw [upsertBy, if_neg h, List.map_cons, List.mem_cons, ih, List.map_cons, List.mem_cons]
      tauto

/-- Inserting keeps the keys distinct. -/
theorem nodup_upsertBy (h : (bs.map key).Nodup) : ((upsertBy key a bs).map key).Nodup := by
  induction bs with
  | nil => simp [upsertBy]
  | cons b bs ih =>
    obtain ⟨hb, hbs⟩ := List.nodup_cons.1 h
    by_cases e : key b = key a
    · rw [upsertBy, if_pos e, List.map_cons, ← e]
      exact h
    · rw [upsertBy, if_neg e, List.map_cons, List.nodup_cons, mem_keys_upsertBy]
      exact ⟨not_or.2 ⟨e, hb⟩, ih hbs⟩

/-- Completing with an element is inserting it where it says all that a completed one would. -/
theorem fillBy_eq_upsertBy (hfit : ∀ d ∈ ds, key d = key a → fill d a = a) :
    fillBy key fill ds a = upsertBy key a ds := by
  induction ds with
  | nil => rfl
  | cons d ds ih =>
    by_cases h : key d = key a
    · rw [fillBy, upsertBy, if_pos h, if_pos h, hfit d List.mem_cons_self h]
    · rw [fillBy, upsertBy, if_neg h, if_neg h, ih fun e he => hfit e (List.mem_cons_of_mem _ he)]

variable (hkey : ∀ b c, key (fill b c) = key b)
include hkey

theorem mem_keys_fillBy {k : String} :
    k ∈ (fillBy key fill ds b).map key ↔ k ∈ ds.map key ∨ k = key b := by
  induction ds with
  | nil => simp [fillBy]
  | cons d ds ih =>
    by_cases h : key d = key b
    · rw [fillBy, if_pos h, List.map_cons, List.mem_cons, hkey, List.map_cons, List.mem_cons, ← h]
      tauto
    · rw [fillBy, if_neg h, List.map_cons, List.mem_cons, ih, List.map_cons, List.mem_cons, or_assoc]

/-- Only the element with the key is completed. -/
theorem mem_fillBy_of_ne {d : α} (hd : d ∈ fillBy key fill ds b) (hne : key d ≠ key b) : d ∈ ds := by
  induction ds with
  | nil =>
    rw [List.mem_singleton.1 hd] at hne
    exact absurd rfl hne
  | cons e ds ih =>
    by_cases h : key e = key b
    · rw [fillBy, if_pos h] at hd
      rcases List.mem_cons.1 hd with rfl | hd
      · exact absurd ((hkey e b).trans h) hne
      · exact List.mem_cons_of_mem _ hd
    · rw [fillBy, if_neg h] at hd
      rcases List.mem_cons.1 hd with rfl | hd
      · exact List.mem_cons_self
      · exact List.mem_cons_of_mem _ (ih hd)

/-- What was completed before an insertion under the same key is replaced by it. -/
theorem upsertBy_fillBy_self (h : key b = key a) :
    upsertBy key a (fillBy key fill ds b) = upsertBy key a ds := by
  induction ds with
  | nil => simp [fillBy, upsertBy, h]
  | cons d ds ih =>
    by_cases hd : key d = key b
    · rw [fillBy, if_pos hd, upsertBy, if_pos ((hkey d b).trans (hd.trans h)), upsertBy,
        if_pos (hd.trans h)]
    · have hda : key d ≠ key a := fun e => hd (e.trans h.symm)
      rw [fillBy, if_neg hd, upsertBy, if_neg hda, ih, upsertBy, if_neg hda]

/-- Replacing an element and completing another one can be exchanged. -/
theorem upsertBy_fillBy_comm (hne : key c ≠ key a) (hmem : key a ∈ ds.map key) :
    upsertBy key a (fillBy key fill ds c) = fillBy key fill (upsertBy key a ds) c := by
  induction ds with
  | nil => cases hmem
  | cons d ds ih =>
    by_cases hda : key d = key a
    · have hdc : key d ≠ key c := fun e => hne (e.symm.trans hda)
      rw [fillBy, if_neg hdc, upsertBy, if_pos hda, upsertBy, if_pos hda, fillBy, if_neg hne.symm]
    · by_cases hdc : key d = key c
      · rw [fillBy, if_pos hdc, upsertBy, if_neg (by rwa [hkey]), upsertBy, if_neg hda, fillBy,
          if_pos hdc]
      · have hrest : key a ∈ ds.map key := (List.mem_cons.1 hmem).resolve_left fun e => hda e.symm
        rw [fillBy, if_neg hdc, upsertBy, if_neg hda, ih hrest, upsertBy, if_neg hda, fillBy,
          if_neg hdc]

theorem upsertBy_foldl_fillBy (hfresh : key a ∉ bs.map key) (hmem : key a ∈ ds.map key) :
    upsertBy key a (bs.foldl (fillBy key fill) ds) = bs.foldl (fillBy key fill) (upsertBy key a ds) := by
  induction bs generalizing ds with
  | nil => rfl
  | cons b bs ih =>
    rw [List.map_cons, List.mem_cons, not_or] at hfresh
    have hmem' : key a ∈ (fillBy key fill ds b).map key := (mem_keys_fillBy hkey).2 (.inl hmem)
    rw [List.foldl_cons, List.foldl_cons, ih hfresh.2 hmem',
      upsertBy_fillBy_comm hkey (Ne.symm hfresh.1) hmem]

/-- Taking over elements after one more was inserted is inserting it after they were taken over. -/
theorem foldl_fillBy_upsertBy (hnodup : (bs.map key).Nodup)
    (hfit : ∀ d ∈ ds, key d = key a → fill d a = a) :
    (upsertBy key a bs).foldl (fillBy key fill) ds =
      upsertBy key a (bs.foldl (fillBy key fill) ds) := by
  induction bs generalizing ds with
  | nil => exact fillBy_eq_upsertBy hfit
  | cons b bs ih =>
    obtain ⟨hb, hbs⟩ := List.nodup_cons.1 hnodup
    by_cases h : key b = key a
    · have hmem : key a ∈ (fillBy key fill ds b).map key := (mem_keys_fillBy hkey).2 (.inr h.symm)
      rw [upsertBy, if_pos h, List.foldl_cons, List.foldl_cons,
        upsertBy_foldl_fillBy hkey (h ▸ hb) hmem, upsertBy_fillBy_self hkey h,
        fillBy_eq_upsertBy hfit]
    · rw [upsertBy, if_neg h, List.foldl_cons, List.foldl_cons]
      refine ih hbs fun d hd hda => ?_
      exact hfit d (mem_fillBy_of_ne hkey hd fun e => h (e.symm.trans hda)) hda

end Members

/-- An entry in which nothing is attached to any member. -/
structure Bare (t : TypeEntry) : Prop where
  functions : ∀ f ∈ t.functions, f.callable? = none
  properties : ∀ p ∈ t.properties, p.getter? = none ∧ p.setter? = none

/-- No two functions, and no two properties, have the same name. -/
structure Distinct (t : TypeEntry) : Prop where
  functions : (t.functions.map (·.name)).Nodup
  properties : (t.properties.map (·.name)).Nodup

theorem distinct_shell (name : String) : (shell name).Distinct := ⟨.nil, .nil⟩

end TypeEntry

namespace Registry

variable {d t : TypeEntry} {name : String} {a : Action} {r : Registry}

/-- Whether a member that is attached has the metadata that a type declares for it. -/
def Action.Agrees (d : TypeEntry) : Action → Prop
  | .attachFunction _ f _ => ∀ g ∈ d.functions, g.name = f.name → g.sameMetadata f = true
  | .attachProperty _ p _ _ => ∀ q ∈ d.properties, q.name = p.name → q.sameMetadata p = true
  | _ => True

instance (d : TypeEntry) : (a : Action) → Decidable (a.Agrees d)
  | .declare _ => inferInstanceAs (Decidable True)
  | .attachFunction _ f _ =>
    inferInstanceAs (Decidable (∀ g ∈ d.functions, g.name = f.name → g.sameMetadata f = true))
  | .attachProperty _ p _ _ =>
    inferInstanceAs (Decidable (∀ q ∈ d.properties, q.name = p.name → q.sameMetadata p = true))
  | .clear => inferInstanceAs (Decidable True)

theorem distinct_change (h : t.Distinct) (hattach : a.attachesTo name = true) :
    (a.change t).Distinct := by
  cases a with
  | declare u => cases hattach
  | clear => cases hattach
  | attachFunction type f callable => exact ⟨TypeEntry.nodup_upsertBy h.functions, h.properties⟩
  | attachProperty type p getter setter? => exact ⟨h.functions, TypeEntry.nodup_upsertBy h.properties⟩

/-- A function without a callable, completed by an attached one with its metadata, is that one. -/
theorem fillFrom_function {f g : FunctionEntry} {callable : Callable} (hbare : g.callable? = none)
    (h : g.sameMetadata f = true) :
    g.fillFrom { f with callable? := some callable } = { f with callable? := some callable } := by
  have herase : g.erase = f.erase := of_decide_eq_true h
  cases f
  cases g
  simp_all [FunctionEntry.fillFrom, FunctionEntry.erase]

/-- A property without accessors, completed by an attached one with its metadata, is that one: neither
has a setter if it is read-only. -/
theorem fillFrom_property {p q : PropertyEntry} {getter : Callable} {setter? : Option Callable}
    (hbare : q.getter? = none ∧ q.setter? = none) (h : q.sameMetadata p = true) :
    q.fillFrom (withAccessors p getter setter?) = withAccessors p getter setter? := by
  have herase : q.erase = p.erase := of_decide_eq_true h
  obtain ⟨hgetter, hsetter⟩ := hbare
  cases p with
  | mk name type readOnly defaultValue? doc getter? setter?' =>
    cases q
    cases setter? <;> cases readOnly <;>
      simp_all [PropertyEntry.fillFrom, PropertyEntry.erase, withAccessors, PropertyEntry.withSetter]

theorem name_withAccessors (p : PropertyEntry) (getter : Callable) (setter? : Option Callable) :
    (withAccessors p getter setter?).name = p.name := by
  cases setter? with
  | none => rfl
  | some setter =>
    rw [withAccessors, PropertyEntry.withSetter]
    split <;> rfl

/-- Taking over an entry to which one more member was attached is attaching it afterwards. -/
theorem absorb_change (hbare : d.Bare) (hdistinct : t.Distinct) (hattach : a.attachesTo name = true)
    (hagree : a.Agrees d) : d.absorb (a.change t) = a.change (d.absorb t) := by
  cases a with
  | declare u => cases hattach
  | clear => cases hattach
  | attachFunction type f callable =>
    let attached : FunctionEntry := { f with callable? := some callable }
    have hfit : ∀ g ∈ d.functions, g.name = attached.name → g.fillFrom attached = attached :=
      fun g hg hname => fillFrom_function (hbare.functions g hg) (hagree g hg hname)
    have hname (g g' : FunctionEntry) : (g.fillFrom g').name = g.name := rfl
    have htaken := TypeEntry.foldl_fillBy_upsertBy hname hdistinct.functions hfit
    simp only [Action.change, TypeEntry.upsertFunction, TypeEntry.absorb, attached, htaken]
  | attachProperty type p getter setter? =>
    let attached : PropertyEntry := withAccessors p getter setter?
    have hfit : ∀ q ∈ d.properties, q.name = attached.name → q.fillFrom attached = attached :=
      fun q hq hname => fillFrom_property (hbare.properties q hq)
        (hagree q hq (hname.trans (name_withAccessors p getter setter?)))
    have hname (q q' : PropertyEntry) : (q.fillFrom q').name = q.name := rfl
    have htaken := TypeEntry.foldl_fillBy_upsertBy hname hdistinct.properties hfit
    simp only [Action.change, TypeEntry.upsertProperty, TypeEntry.absorb, attached, htaken]

/-- Taking over a shell is attaching its members in their order. -/
theorem absorb_foldl (hbare : d.Bare) {actions : List Action}
    (hattach : ∀ a ∈ actions, a.attachesTo name = true) (hagree : ∀ a ∈ actions, a.Agrees d) :
    (actions.foldl Action.change (.shell name)).Distinct ∧
      d.absorb (actions.foldl Action.change (.shell name)) = actions.foldl Action.change d := by
  induction actions using List.reverseRecOn with
  | nil => exact ⟨TypeEntry.distinct_shell name, rfl⟩
  | append_singleton actions a ih =>
    obtain ⟨hdistinct, habsorb⟩ := ih (fun b hb => hattach b (List.mem_append_left _ hb))
      fun b hb => hagree b (List.mem_append_left _ hb)
    have ha : a ∈ actions ++ [a] := List.mem_append_right _ List.mem_cons_self
    rw [List.foldl_concat, List.foldl_concat, ← habsorb]
    exact ⟨distinct_change hdistinct (hattach a ha),
      absorb_change hbare hdistinct (hattach a ha) (hagree a ha)⟩

/-! ### Runs of attachments -/

/-- Attachments to one name insert their members into its entry, in their order. -/
theorem lookup?_run_attach {actions : List Action} (h : r.lookup? name = some t)
    (hattach : ∀ a ∈ actions, a.attachesTo name = true ∧ a.isAccepted = true) :
    (r.run actions).lookup? name = some (actions.foldl Action.change t) := by
  induction actions generalizing r t with
  | nil => exact h
  | cons a actions ih =>
    obtain ⟨ha, haccepted⟩ := hattach a List.mem_cons_self
    rw [run_cons, List.foldl_cons]
    refine ih ?_ fun b hb => hattach b (List.mem_cons_of_mem _ hb)
    rw [lookup?_attach r ha haccepted, if_pos rfl, h, Option.getD_some]

theorem shells_run_attach {actions : List Action} (h : name ∈ r.shells)
    (hattach : ∀ a ∈ actions, a.attachesTo name = true ∧ a.isAccepted = true) :
    name ∈ (r.run actions).shells := by
  induction actions generalizing r with
  | nil => exact h
  | cons a actions ih =>
    obtain ⟨ha, haccepted⟩ := hattach a List.mem_cons_self
    refine ih ?_ fun b hb => hattach b (List.mem_cons_of_mem _ hb)
    rw [shells_attach r ha haccepted]
    split
    · exact List.mem_cons_self
    · exact h

/-- Attachments to a name without an entry leave a shell, whose members a declaration takes over. -/
theorem declared_run_attach {actions : List Action} (hnew : r.lookup? d.name = none)
    (hattach : ∀ a ∈ actions, a.attachesTo d.name = true ∧ a.isAccepted = true) :
    (r.run actions).declared d = d.absorb (actions.foldl Action.change (.shell d.name)) := by
  cases actions with
  | nil =>
    change r.declared d = d
    rw [declared, hnew]
    split <;> rfl
  | cons a actions =>
    obtain ⟨ha, haccepted⟩ := hattach a List.mem_cons_self
    have hrest := fun b hb => hattach b (List.mem_cons_of_mem _ hb)
    have hfirst : (r.perform a).2.lookup? d.name = some (a.change (.shell d.name)) := by
      rw [lookup?_attach r ha haccepted, if_pos rfl, hnew, Option.getD_none]
    have hshell : d.name ∈ (r.perform a).2.shells := by
      rw [shells_attach r ha haccepted, if_pos hnew]
      exact List.mem_cons_self
    rw [run_cons, List.foldl_cons, declared, if_pos (shells_run_attach hshell hrest),
      lookup?_run_attach hfirst hrest]
    rfl

/-- Wherever a declaration stands among attachments to its name, the entry is the declaration with the
members attached in their order. -/
theorem declare_anywhere (r : Registry) (d : TypeEntry) (actions : List Action) (i : Nat)
    (hname : d.name ≠ "") (hnew : r.lookup? d.name = none) (hbare : d.Bare)
    (hattach : ∀ a ∈ actions, a.attachesTo d.name = true ∧ a.isAccepted = true)
    (hagree : ∀ a ∈ actions, a.Agrees d) :
    (r.run (actions.take i ++ .declare d :: actions.drop i)).lookup? d.name =
      some (actions.foldl Action.change d) := by
  have hbefore : ∀ a ∈ actions.take i, a.attachesTo d.name = true ∧ a.isAccepted = true :=
    fun a ha => hattach a (List.mem_of_mem_take ha)
  have hafter : ∀ a ∈ actions.drop i, a.attachesTo d.name = true ∧ a.isAccepted = true :=
    fun a ha => hattach a (List.mem_of_mem_drop ha)
  have habsorb := (absorb_foldl hbare (fun a ha => (hbefore a ha).1)
    fun a ha => hagree a (List.mem_of_mem_take ha)).2
  have hdeclared : ((r.run (actions.take i)).perform (.declare d)).2.lookup? d.name =
      some ((actions.take i).foldl Action.change d) := by
    rw [lookup?_declare _ hname, if_pos rfl, declared_run_attach hnew hbefore, habsorb]
  rw [run_append, run_cons, lookup?_run_attach hdeclared hafter, ← List.foldl_append,
    List.take_append_drop]

/-- A declaration with a function, a property that is read-only and one that is not. -/
def window : TypeEntry where
  name := "Window"
  kind := .object
  functions := [{ name := "show", doc := "Open it." }]
  properties := [{ name := "id", type := .uint32, readOnly := true }, { name := "title", type := .string }]

/-- Attachments of all its members, of some twice, and of a function that it does not declare. -/
def windowMembers : List Action := [
  .attachProperty "Window" { name := "title", type := .string } (.getter ⟨1⟩) (some (.setter ⟨2⟩)),
  .attachFunction "Window" { name := "hide" } .host,
  .attachFunction "Window" { name := "show", doc := "Open it." } .host,
  .attachProperty "Window" { name := "id", type := .uint32, readOnly := true } (.getter ⟨3⟩)
    (some (.setter ⟨4⟩)),
  .attachProperty "Window" { name := "title", type := .string } (.getter ⟨5⟩) none,
  .attachFunction "Window" { name := "show", doc := "Open it." } (.nullary ⟨6⟩)]

theorem declare_anywhere_window :
    (window.Bare ∧ (∀ a ∈ windowMembers, a.attachesTo "Window" = true ∧ a.isAccepted = true) ∧
      ∀ a ∈ windowMembers, a.Agrees window) ∧
    ∀ i, (Registry.empty.run
      (windowMembers.take i ++ .declare window :: windowMembers.drop i)).lookup? "Window" = some {
        window with
        functions := [{ name := "show", doc := "Open it.", callable? := some (.nullary ⟨6⟩) },
          { name := "hide", callable? := some .host }]
        properties := [{ name := "id", type := .uint32, readOnly := true, getter? := some (.getter ⟨3⟩) },
          { name := "title", type := .string, getter? := some (.getter ⟨5⟩) }] } := by
  have hbare : window.Bare := ⟨by decide, by decide⟩
  have hattach : ∀ a ∈ windowMembers, a.attachesTo "Window" = true ∧ a.isAccepted = true := by decide
  have hagree : ∀ a ∈ windowMembers, a.Agrees window := by decide
  refine ⟨⟨hbare, hattach, hagree⟩, fun i => ?_⟩
  exact declare_anywhere .empty window windowMembers i (by decide) rfl hbare hattach hagree

end Registry

end Bindery
