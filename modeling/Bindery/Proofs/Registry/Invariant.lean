import Bindery.Proofs.Registry.Calling
import Bindery.Proofs.Registry.Commuting
/-!
What holds of a registry at all times. Every entry is found under its own name, has no two members of
one name, and has no read-only property with a setter; every shell has an entry, and this entry has
nothing but members. A declaration is taken as it is, so it has to keep to the rules for members
itself; everything else follows from how members are inserted and taken over. Three places keep setters
off read-only properties: attaching accessors, and the two ways of completing a declared property.
-/

namespace Bindery

namespace TypeEntry

/-- No two members of a kind have the same name, and no read-only property has a setter. -/
structure WellFormed (t : TypeEntry) : Prop extends Distinct t where
  setters : ∀ p ∈ t.properties, p.readOnly = true → p.setter? = none

/-- Whether an entry is the shell of a name: an object whose native type is the name, with nothing but
members. -/
def IsShellOf (name : String) (t : TypeEntry) : Prop :=
  ∃ functions properties, t = { shell name with functions, properties }

section Members

variable {α : Type} {key : α → String} {fill : α → α → α} {a : α} {bs : List α} {P : α → Prop}

/-- What holds of the elements and of the inserted one holds after the insertion. -/
theorem forall_mem_upsertBy (ha : P a) (h : ∀ b ∈ bs, P b) : ∀ b ∈ upsertBy key a bs, P b := by
  induction bs with
  | nil => exact List.forall_mem_singleton.2 ha
  | cons b bs ih =>
    obtain ⟨hb, hbs⟩ := List.forall_mem_cons.1 h
    by_cases e : key b = key a
    · rw [upsertBy, if_pos e]
      exact List.forall_mem_cons.2 ⟨ha, hbs⟩
    · rw [upsertBy, if_neg e]
      exact List.forall_mem_cons.2 ⟨hb, ih hbs⟩

/-- What completing keeps, and holds of the elements and of the one taken over, holds afterwards. -/
theorem forall_mem_fillBy (hfill : ∀ b, P b → P (fill b a)) (ha : P a) (h : ∀ b ∈ bs, P b) :
    ∀ b ∈ fillBy key fill bs a, P b := by
  induction bs with
  | nil => exact List.forall_mem_singleton.2 ha
  | cons b bs ih =>
    obtain ⟨hb, hbs⟩ := List.forall_mem_cons.1 h
    by_cases e : key b = key a
    · rw [fillBy, if_pos e]
      exact List.forall_mem_cons.2 ⟨hfill b hb, hbs⟩
    · rw [fillBy, if_neg e]
      exact List.forall_mem_cons.2 ⟨hb, ih hbs⟩

theorem forall_mem_foldl_fillBy (hfill : ∀ b c, P b → P c → P (fill b c)) {cs : List α}
    (hcs : ∀ c ∈ cs, P c) (h : ∀ b ∈ bs, P b) : ∀ b ∈ cs.foldl (fillBy key fill) bs, P b := by
  induction cs generalizing bs with
  | nil => exact h
  | cons c cs ih =>
    obtain ⟨hc, hcs⟩ := List.forall_mem_cons.1 hcs
    exact ih hcs (forall_mem_fillBy (fun b hb => hfill b c hb hc) hc h)

variable (hkey : ∀ b c, key (fill b c) = key b)
include hkey

/-- Taking over an element keeps the keys distinct. -/
theorem nodup_fillBy (h : (bs.map key).Nodup) : ((fillBy key fill bs a).map key).Nodup := by
  induction bs with
  | nil => simp [fillBy]
  | cons b bs ih =>
    obtain ⟨hb, hbs⟩ := List.nodup_cons.1 h
    by_cases e : key b = key a
    · rw [fillBy, if_pos e, List.map_cons, hkey]
      exact h
    · rw [fillBy, if_neg e, List.map_cons, List.nodup_cons, mem_keys_fillBy hkey]
      exact ⟨not_or.2 ⟨hb, e⟩, ih hbs⟩

theorem nodup_foldl_fillBy (cs : List α) (h : (bs.map key).Nodup) :
    ((cs.foldl (fillBy key fill) bs).map key).Nodup := by
  induction cs generalizing bs with
  | nil => exact h
  | cons c cs ih => exact ih (nodup_fillBy hkey h)

end Members

/-- Completing a property gives it no setter if it is read-only. -/
theorem setter?_fillFrom {p q : PropertyEntry} (hp : p.readOnly = true → p.setter? = none) :
    (p.fillFrom q).readOnly = true → (p.fillFrom q).setter? = none := by
  intro h
  have hreadOnly : p.readOnly = true := h
  rw [PropertyEntry.fillFrom, if_pos hreadOnly]
  exact hp hreadOnly

variable {t u : TypeEntry}

theorem wellFormed_shell (name : String) : (shell name).WellFormed where
  toDistinct := distinct_shell name
  setters := List.forall_mem_nil _

/-- A well-formed entry stays so when it takes over the members of another one. -/
theorem WellFormed.absorb (ht : t.WellFormed) (hu : u.WellFormed) : (t.absorb u).WellFormed where
  functions := by
    have hname (f g : FunctionEntry) : (f.fillFrom g).name = f.name := rfl
    exact nodup_foldl_fillBy hname u.functions ht.functions
  properties := by
    have hname (p q : PropertyEntry) : (p.fillFrom q).name = p.name := rfl
    exact nodup_foldl_fillBy hname u.properties ht.properties
  setters := forall_mem_foldl_fillBy (fun _ _ hp _ => setter?_fillFrom hp) hu.setters ht.setters

end TypeEntry

namespace Registry

open TypeEntry

variable {r : Registry} {a : Action} {t : TypeEntry} {name : String}

/-- Attaching accessors gives a read-only property no setter. -/
theorem setter?_withAccessors (p : PropertyEntry) (getter : Callable) (setter? : Option Callable) :
    (withAccessors p getter setter?).readOnly = true →
      (withAccessors p getter setter?).setter? = none := by
  cases setter? with
  | none => exact fun _ => rfl
  | some setter =>
    rw [withAccessors, PropertyEntry.withSetter]
    split
    · exact fun _ => rfl
    · rename_i hwritable
      exact fun hreadOnly => absurd hreadOnly hwritable

/-! ### One action -/

/-- Whether an action keeps to the rules for members: only a declaration may not. -/
def Action.IsOrderly : Action → Prop
  | .declare t => t.WellFormed
  | _ => True

theorem wellFormed_change (h : t.WellFormed) (hattach : a.attachesTo name = true) :
    (a.change t).WellFormed := by
  refine ⟨distinct_change h.toDistinct hattach, ?_⟩
  cases a with
  | declare u => cases hattach
  | clear => cases hattach
  | attachFunction type f callable => exact h.setters
  | attachProperty type p getter setter? =>
    exact forall_mem_upsertBy (setter?_withAccessors p getter setter?) h.setters

/-- A shell to which a member is attached is still one. -/
theorem isShellOf_change {other : String} (h : t.IsShellOf other) (hattach : a.attachesTo name = true) :
    (a.change t).IsShellOf other := by
  obtain ⟨functions, properties, rfl⟩ := h
  cases a with
  | declare u => cases hattach
  | clear => cases hattach
  | attachFunction type f callable => exact ⟨_, properties, rfl⟩
  | attachProperty type p getter setter? => exact ⟨functions, _, rfl⟩

/-- What holds of a registry at all times. -/
structure Sound (r : Registry) : Prop where
  /-- What is found under a name has this name, which is not empty. -/
  named : ∀ name t, r.lookup? name = some t → name ≠ "" ∧ t.name = name
  wellFormed : ∀ name t, r.lookup? name = some t → t.WellFormed
  /-- Every shell has an entry, which is one. -/
  shells : ∀ name ∈ r.shells, ∃ t, r.lookup? name = some t ∧ t.IsShellOf name
  shells_nodup : r.shells.Nodup

theorem sound_empty : Sound .empty where
  named := by
    intro name t h
    cases h
  wellFormed := by
    intro name t h
    cases h
  shells := List.forall_mem_nil _
  shells_nodup := .nil

theorem Sound.declare (h : Sound r) (hname : t.name ≠ "") (ht : t.WellFormed) :
    Sound (r.perform (.declare t)).2 where
  named := by
    intro other u hu
    rw [lookup?_declare r hname] at hu
    split at hu
    · rename_i e
      cases hu
      exact ⟨e ▸ hname, name_declared.trans e⟩
    · exact h.named other u hu
  wellFormed := by
    intro other u hu
    rw [lookup?_declare r hname] at hu
    split at hu
    · cases hu
      rw [declared]
      split
      · cases hfound : r.lookup? t.name with
        | none => exact ht
        | some shell => exact ht.absorb (h.wellFormed _ _ hfound)
      · exact ht
    · exact h.wellFormed other u hu
  shells := by
    intro other hother
    rw [shells_declare r hname] at hother
    have hne : t.name ≠ other := fun e => h.shells_nodup.not_mem_erase (e ▸ hother)
    rw [lookup?_declare r hname, if_neg hne]
    exact h.shells other (List.mem_of_mem_erase hother)
  shells_nodup := by
    rw [shells_declare r hname]
    exact h.shells_nodup.erase _

theorem Sound.attach (h : Sound r) (hattach : a.attachesTo name = true)
    (haccepted : a.isAccepted = true) : Sound (r.perform a).2 := by
  have hname : name ≠ "" := by
    cases a <;> simp_all [Action.attachesTo, Action.isAccepted]
  -- The entry that the attachment changes: the one that is found, or a shell.
  have hwellFormed : ((r.lookup? name).getD (.shell name)).WellFormed := by
    cases hfound : r.lookup? name with
    | none => exact wellFormed_shell name
    | some t => exact h.wellFormed name t hfound
  have hentry : ((r.lookup? name).getD (.shell name)).name = name := by
    cases hfound : r.lookup? name with
    | none => rfl
    | some t => exact (h.named name t hfound).2
  constructor
  case named =>
    intro other u hu
    rw [lookup?_attach r hattach haccepted] at hu
    split at hu
    · rename_i e
      cases hu
      exact ⟨e ▸ hname, ((Action.name_change hattach _).trans hentry).trans e⟩
    · exact h.named other u hu
  case wellFormed =>
    intro other u hu
    rw [lookup?_attach r hattach haccepted] at hu
    split at hu
    · cases hu
      exact wellFormed_change hwellFormed hattach
    · exact h.wellFormed other u hu
  case shells =>
    intro other hother
    rw [lookup?_attach r hattach haccepted]
    rw [shells_attach r hattach haccepted] at hother
    by_cases e : name = other
    · subst e
      refine ⟨_, if_pos rfl, isShellOf_change ?_ hattach⟩
      cases hfound : r.lookup? name with
      | none => exact ⟨[], [], rfl⟩
      | some t =>
        rw [hfound, if_neg (by simp)] at hother
        obtain ⟨u, hu, hshell⟩ := h.shells name hother
        rw [hfound] at hu
        cases hu
        exact hshell
    · rw [if_neg e]
      split at hother
      · exact h.shells other ((List.mem_cons.1 hother).resolve_left (Ne.symm e))
      · exact h.shells other hother
  case shells_nodup =>
    rw [shells_attach r hattach haccepted]
    split
    · rename_i hnone
      refine h.shells_nodup.cons fun hshell => ?_
      obtain ⟨t, ht, -⟩ := h.shells name hshell
      rw [hnone] at ht
      cases ht
    · exact h.shells_nodup

/-- An action that keeps to the rules keeps the registry sound. -/
theorem Sound.perform (h : Sound r) (ha : a.IsOrderly) : Sound (r.perform a).2 := by
  by_cases haccepted : a.isAccepted = true
  · rcases a.clear_or_declare_or_attach with rfl | ⟨d, rfl⟩ | ⟨name, hattach⟩
    · exact sound_empty
    · exact h.declare (of_decide_eq_true haccepted) ha
    · exact h.attach hattach haccepted
  · obtain ⟨what, hrefused⟩ := perform_refused r (Bool.eq_false_iff.2 haccepted)
    rw [hrefused]
    exact h

/-- So do any number of them. -/
theorem Sound.run : ∀ {actions : List Action} {r : Registry}, Sound r →
    (∀ a ∈ actions, a.IsOrderly) → Sound (r.run actions)
  | [], _, h, _ => h
  | _ :: _, _, h, hactions => by
    obtain ⟨ha, hactions⟩ := List.forall_mem_cons.1 hactions
    exact (h.perform ha).run hactions

/-! ### Calls -/

/-- Whatever is done with a registry that was empty, it is sound, as long as all declarations keep to
the rules, those that routines make among them; and whatever is done with it next leaves everything as
it is if it fails. -/
theorem always_sound {ω : Type} (host : Callable.Host (Registry × ω))
    (hhost : ActsBy Action.IsOrderly host) (world : ω) (calls : List Call)
    (hcalls : ∀ c ∈ calls, c.IsAllowed Action.IsOrderly) :
    Sound (makeAll host (.empty, world) calls).1 ∧
      ∀ (c : Call) (e : RegistryError),
        (make host (makeAll host (.empty, world) calls) c).1 = .error e →
          (make host (makeAll host (.empty, world) calls) c).2 =
            makeAll host (.empty, world) calls := by
  refine ⟨?_, fun c e => make_failed⟩
  obtain ⟨actions, hactions, hrun⟩ := makeAll_acts hhost hcalls (.empty, world)
  rw [hrun]
  exact sound_empty.run hactions

/-- A host whose routines declare a panel, and count how often they do. -/
def panelHost : Callable.Host (Registry × Nat) := fun _ _ s =>
  (.void, (s.1.perform (.declare (.ofName "Panel" .object))).2, s.2 + 1)

/-- Both accessors are attached to a title that is then declared read-only, a member without a name is
attached to an unknown type, and the title is read. -/
def windowCalls : List Call := [
  .act (.attachProperty "Window" { name := "title", type := .string } (.getter ⟨0⟩)
    (some (.setter ⟨1⟩))),
  .act (.declare { TypeEntry.ofName "Window" .object with
    properties := [{ name := "title", type := .string, readOnly := true }] }),
  .act (.attachFunction "Dialog" { name := "" } .host),
  .get "Window" "title" .null]

theorem always_sound_window :
    (ActsBy Action.IsOrderly panelHost ∧ ∀ c ∈ windowCalls, c.IsAllowed Action.IsOrderly) ∧
    (Sound (makeAll panelHost (.empty, 0) windowCalls).1 ∧
      (make panelHost (makeAll panelHost (.empty, 0) windowCalls)
        (.set "Window" "title" .null (.string "main"))).2 =
          makeAll panelHost (.empty, 0) windowCalls) ∧
    (makeAll panelHost (.empty, 0) windowCalls).2 = 1 ∧
    (makeAll panelHost (.empty, 0) windowCalls).1.names = ["Window", "Panel"] ∧
    ((makeAll panelHost (.empty, 0) windowCalls).1.lookup? "Window").map (·.properties) =
      some [{ name := "title", type := .string, readOnly := true, getter? := some (.getter ⟨0⟩) }] := by
  have hhost : ActsBy Action.IsOrderly panelHost := fun _ _ _ =>
    ⟨[.declare (.ofName "Panel" .object)],
      List.forall_mem_singleton.2 ⟨⟨.nil, .nil⟩, List.forall_mem_nil _⟩, rfl⟩
  have hcalls : ∀ c ∈ windowCalls, c.IsAllowed Action.IsOrderly := by
    refine List.forall_mem_cons.2 ⟨trivial, List.forall_mem_cons.2 ⟨?_, List.forall_mem_cons.2
      ⟨trivial, List.forall_mem_singleton.2 trivial⟩⟩⟩
    exact ⟨⟨.nil, List.nodup_singleton _⟩, List.forall_mem_singleton.2 fun _ => rfl⟩
  have h := always_sound panelHost hhost 0 windowCalls hcalls
  exact ⟨⟨hhost, hcalls⟩, ⟨h.1, h.2 _ (.readOnlyProperty "Window" "title") rfl⟩, rfl, rfl, rfl⟩

end Registry

end Bindery
