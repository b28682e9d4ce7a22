import Bindery.Proofs.Source.Dispatch
import Mathlib.Data.List.Infix
/-!
Which emitters can be reached. An emitter writes the functions of its kind as long as the kind is of the
custom family, and it is registered only then. What is registered stays, and so does the name of its
kind, but a kind that is not builtin can be declared again with another family. This is the one call by
which an emitter gets out of reach, and from then on it is not asked.
-/

namespace Bindery.CApi

/-- A call that sets up a generator. -/
inductive Setup where
  | declare (k : SubjectKind)
  | register (kind : String) (emitter : Emitter)

/-- The generator that a call makes of another, or why it is refused. -/
def Setup.perform (g : CApi) : Setup → Except CatalogError CApi
  | .declare k => g.declareKind k
  | .register kind emitter => g.registerEmitter kind emitter

/-- A generator after a call. One that is refused leaves it as it is. -/
def afterCall (g : CApi) (c : Setup) : CApi := (c.perform g).toOption.getD g

/-- A generator after calls, each of them accepted or refused. -/
def afterCalls (g : CApi) (cs : List Setup) : CApi := cs.foldl afterCall g

/-- Whether the kind of an emitter is known and of the custom family. -/
def TakesEmitter (g : CApi) (kind : String) : Prop :=
  ∃ k, g.catalog.get? kind = some k ∧ k.family = .custom

/-- Whether every registered emitter can be reached. -/
def EmittersReachable (g : CApi) : Prop := ∀ kind, g.hasEmitter kind = true → g.TakesEmitter kind

/-- Whether a call gives another family to a kind that has an emitter. -/
def Setup.Strands (g : CApi) : Setup → Prop
  | .declare k =>
    Catalog.isBuiltin k.name = false ∧ k.family ≠ .custom ∧ g.hasEmitter k.name = true
  | .register _ _ => False

variable {g : CApi} {c : Setup} {cs : List Setup} {kind : String} {emitter : Emitter}
  {e : CatalogError}

/-! ### One call -/

theorem afterCall_of_refused (h : c.perform g = .error e) : g.afterCall c = g := by
  rw [afterCall, h]
  rfl

theorem hasEmitter_iff : g.hasEmitter kind = true ↔ ∃ e ∈ g.emitters, e.1 = kind := by
  rw [hasEmitter, List.lookup_isSome_iff]
  exact exists_congr fun e => and_congr_right fun _ => beq_iff_eq.trans eq_comm

/-- Declarations leave the emitters alone. -/
theorem emitters_afterDeclaration (g : CApi) (k : SubjectKind) :
    (g.afterDeclaration k).emitters = g.emitters := by
  rw [afterDeclaration, declareKind]
  cases g.catalog.declare k <;> rfl

theorem hasEmitter_afterDeclaration (g : CApi) (k : SubjectKind) :
    (g.afterDeclaration k).hasEmitter kind = g.hasEmitter kind := by
  rw [hasEmitter, emitters_afterDeclaration, hasEmitter]

/-- An emitter is refused, or it is put in place of the one of its kind, which takes an emitter. -/
theorem afterCall_register (g : CApi) (kind : String) (emitter : Emitter) :
    g.afterCall (.register kind emitter) = g ∨
      g.TakesEmitter kind ∧ g.afterCall (.register kind emitter) =
        { g with emitters := (kind, emitter) :: g.emitters.filter fun e => e.1 ≠ kind } := by
  rw [afterCall, Setup.perform, registerEmitter]
  split
  · exact .inl rfl
  · rename_i k hget
    split
    · rename_i hcustom
      exact .inr ⟨⟨k, hget, hcustom⟩, rfl⟩
    · exact .inl rfl

theorem catalog_register (g : CApi) (kind : String) (emitter : Emitter) :
    (g.afterCall (.register kind emitter)).catalog = g.catalog := by
  rcases afterCall_register g kind emitter with h | ⟨-, h⟩ <;> rw [h]

/-- A kind that has an emitter after a registration had one before, or takes one. -/
theorem hasEmitter_register {name : String}
    (h : (g.afterCall (.register name emitter)).hasEmitter kind = true) :
    g.hasEmitter kind = true ∨ g.TakesEmitter kind := by
  rcases afterCall_register g name emitter with hsame | ⟨htakes, hadded⟩
  · rw [hsame] at h
    exact .inl h
  · rw [hadded] at h
    obtain ⟨e, he, rfl⟩ := hasEmitter_iff.1 h
    rcases List.mem_cons.1 he with rfl | he
    · exact .inr htakes
    · exact .inl (hasEmitter_iff.2 ⟨e, (List.mem_filter.1 he).1, rfl⟩)

/-- The kinds of emitters stay known. -/
theorem known_afterCall (h : ∀ kind, g.hasEmitter kind = true → (g.catalog.get? kind).isSome = true)
    (c : Setup) (hhas : (g.afterCall c).hasEmitter kind = true) :
    ((g.afterCall c).catalog.get? kind).isSome = true := by
  cases c with
  | declare k =>
    change ((g.afterDeclaration k).catalog.get? kind).isSome = true
    rw [get?_afterDeclaration]
    split
    · rfl
    · exact h kind ((hasEmitter_afterDeclaration g k).symm.trans hhas)
  | register name emitter =>
    rw [catalog_register]
    rcases hasEmitter_register hhas with hbefore | ⟨k, hget, -⟩
    · exact h kind hbefore
    · rw [hget]
      rfl

/-- A call keeps the emitters in reach, unless it gives another family to the kind of one. -/
theorem reachable_afterCall (h : g.EmittersReachable) :
    (g.afterCall c).EmittersReachable ↔ ¬ c.Strands g := by
  cases c with
  | declare k =>
    have hget := get?_afterDeclaration g k
    constructor
    · rintro hafter ⟨hbuiltin, hfamily, hhas⟩
      obtain ⟨k', hk', hcustom⟩ := hafter k.name ((hasEmitter_afterDeclaration g k).trans hhas)
      obtain rfl : k = k' := Option.some.inj ((hget k.name).trans (if_pos ⟨rfl, hbuiltin⟩) ▸ hk')
      exact hfamily hcustom
    · intro hkept kind hhas
      have hbefore : g.hasEmitter kind = true := (hasEmitter_afterDeclaration g k).symm.trans hhas
      change ∃ l, (g.afterDeclaration k).catalog.get? kind = some l ∧ l.family = .custom
      rw [hget]
      split
      · rename_i hplaced
        obtain ⟨rfl, hbuiltin⟩ := hplaced
        exact ⟨k, rfl, by_contra fun hfamily => hkept ⟨hbuiltin, hfamily, hbefore⟩⟩
      · exact h kind hbefore
  | register name emitter =>
    refine iff_of_true (fun kind hhas => ?_) id
    rw [TakesEmitter, catalog_register]
    exact (hasEmitter_register hhas).elim (h kind) id

/-! ### Many calls -/

theorem afterCalls_concat (g : CApi) (cs : List Setup) (c : Setup) :
    g.afterCalls (cs ++ [c]) = (g.afterCalls cs).afterCall c := by
  rw [afterCalls, List.foldl_concat]
  rfl

theorem known_afterCalls
    (h : ∀ kind, g.hasEmitter kind = true → (g.catalog.get? kind).isSome = true) (cs : List Setup) :
    ∀ kind, (g.afterCalls cs).hasEmitter kind = true →
      ((g.afterCalls cs).catalog.get? kind).isSome = true := by
  induction cs using List.reverseRecOn with
  | nil => exact h
  | append_singleton cs c ih =>
    intro kind hhas
    rw [afterCalls_concat] at hhas ⊢
    exact known_afterCall ih c hhas

/-- Emitters stay in reach all the time if and only if no call gives another family to the kind of
one. -/
theorem reachable_afterCalls (h : g.EmittersReachable) (cs : List Setup) :
    (∀ before, before <+: cs → (g.afterCalls before).EmittersReachable) ↔
      ∀ before c, before ++ [c] <+: cs → ¬ c.Strands (g.afterCalls before) := by
  have hshorter {before : List Setup} {c : Setup} (hcut : before ++ [c] <+: cs) : before <+: cs :=
    (List.prefix_append _ _).trans hcut
  constructor
  · intro hall before c hcut
    have hafter := hall _ hcut
    rw [afterCalls_concat] at hafter
    exact (reachable_afterCall (hall before (hshorter hcut))).1 hafter
  · intro hnone before
    induction before using List.reverseRecOn with
    | nil => exact fun _ => h
    | append_singleton before c ih =>
      intro hcut
      rw [afterCalls_concat]
      exact (reachable_afterCall (ih (hshorter hcut))).2 (hnone before c hcut)

/-! ### Out of reach -/

/-- A bound function is of the family of its kind. -/
theorem family_of_built {types : TypeMap} {f : FunctionBinding} {k : SubjectKind}
    (hf : f ∈ (g.built types).functions) (hk : g.catalog.get? f.subjectKind = some k) :
    f.family = k.family := by
  obtain ⟨o, -, hbound⟩ := Manifest.exists_bound_of_mem hf
  obtain ⟨k', hget, hfollows⟩ := Manifest.follows_of_bound hbound
  rw [hfollows.subjectKind, (Manifest.mem_kinds_of_get? hget).2, hget] at hk
  cases hk
  exact hfollows.family

/-- Outside the custom family no emitter is asked. -/
theorem emit_of_not_custom {f : FunctionBinding} (h : f.family ≠ .custom) (es es' : Emitters)
    (types : TypeMap) (m : Module) (subject : TypeBinding) :
    Source.emit es types m subject f = Source.emit es' types m subject f := by
  rw [Source.emit, Source.emit, Definition.ofBinding?]
  cases hfamily : f.family with
  | custom => exact absurd hfamily h
  | _ => rfl

/-- What calls come to that set up a generator. -/
structure SetUpBy (g : CApi) (cs : List Setup) : Prop where
  /-- A call that is refused changes neither the catalog nor the emitters. -/
  refused : ∀ before c e, before ++ [c] <+: cs → c.perform (g.afterCalls before) = .error e →
    g.afterCalls (before ++ [c]) = g.afterCalls before
  /-- The kind of a registered emitter is always known. -/
  known : ∀ before, before <+: cs → ∀ kind, (g.afterCalls before).hasEmitter kind = true →
    ((g.afterCalls before).catalog.get? kind).isSome = true
  /-- Every registered emitter can be reached after each call if and only if no call gives another
  family to the kind of one. -/
  reachable_iff : (∀ before, before <+: cs → (g.afterCalls before).EmittersReachable) ↔
    ∀ before c, before ++ [c] <+: cs → ¬ c.Strands (g.afterCalls before)
  /-- An emitter of a kind that takes none is not asked: the functions of the kind are written as they
  would be with any other emitters. -/
  unasked : ∀ before, before <+: cs → ∀ kind, (g.afterCalls before).hasEmitter kind = true →
    ¬ (g.afterCalls before).TakesEmitter kind →
      ∀ types, ∀ f ∈ ((g.afterCalls before).built types).functions, f.subjectKind = kind →
        ∀ es m subject,
          Source.emit (g.afterCalls before).emitters types m subject f =
            Source.emit es types m subject f

/-- However a generator is set up, its emitters get out of reach only by a declaration that gives another
family to the kind of one. -/
theorem emitters_in_reach (dirs? : Option OutputDirs) (options : Options) (cs : List Setup) :
    SetUpBy { dirs?, options } cs where
  refused := by
    intro before c e _ hrefused
    rw [afterCalls_concat, afterCall_of_refused hrefused]
  known := fun before _ => known_afterCalls (by simp [hasEmitter]) before
  reachable_iff := reachable_afterCalls (by simp [EmittersReachable, hasEmitter]) cs
  unasked := by
    intro before _ kind hhas hnot types f hf hkind es m subject
    have hknown := known_afterCalls (g := { dirs?, options }) (by simp [hasEmitter]) before kind hhas
    obtain ⟨k, hk⟩ := Option.isSome_iff_exists.1 hknown
    have hfamily : f.family = k.family := family_of_built hf (hkind ▸ hk)
    exact emit_of_not_custom (fun hcustom => hnot ⟨k, hk, hfamily ▸ hcustom⟩) _ _ types m subject

/-! ### An emitter out of reach -/

/-- An emitter that writes an empty text for every function. -/
def silent : Emitter := fun _ => some ""

/-- A kind is declared, given an emitter, and declared again as one of the singletons. -/
def hookCalls : List Setup :=
  [.declare (.custom "Hook"), .register "Hook" silent, .declare { name := "Hook", family := .singleton }]

/-- A type of the kind, with a function. -/
def alarm : TypeMap where
  entries := [{
    name := "Alarm", kind := .object, subjectKind? := some "Hook",
    functions := [{ name := "ring", callable? := some .host }] }]
  nodup := by decide

/-- All calls are accepted, and after the last one the kind has an emitter but does not take one: what
is written for a function of the kind is not what the emitter says. -/
theorem stranded_hook :
    (∀ (i : Nat) (hi : i < hookCalls.length),
      (hookCalls[i].perform (({} : CApi).afterCalls (hookCalls.take i))).isOk = true) ∧
      (({} : CApi).afterCalls hookCalls).hasEmitter "Hook" = true ∧
      (({} : CApi).afterCalls hookCalls).catalog.get? "Hook" =
        some { name := "Hook", family := .singleton } ∧
      ¬ (({} : CApi).afterCalls hookCalls).EmittersReachable ∧
      ∃ f ∈ ((({} : CApi).afterCalls hookCalls).built alarm).functions, f.subjectKind = "Hook" ∧
        ∀ m subject, Source.emit (({} : CApi).afterCalls hookCalls).emitters alarm m subject f =
          .ok (Text.ofLines ["void Alarm_ring(void)", "\x7b",
            "    DomBind_InvokeSingleton(\"Alarm\", \"ring\", NULL, 0);", "\x7d"]) := by
  have hhas : (({} : CApi).afterCalls hookCalls).hasEmitter "Hook" = true := by decide
  have hget : (({} : CApi).afterCalls hookCalls).catalog.get? "Hook" =
      some { name := "Hook", family := .singleton } := by decide
  have hlines : ((({} : CApi).afterCalls hookCalls).built alarm).functions.map (fun f =>
      (f.subjectKind, f.family.entryPoint?, f.linesCalling "DomBind_InvokeSingleton")) =
      [("Hook", some "DomBind_InvokeSingleton", ["void Alarm_ring(void)", "\x7b",
        "    DomBind_InvokeSingleton(\"Alarm\", \"ring\", NULL, 0);", "\x7d"])] := by
    decide +kernel
  refine ⟨by decide, hhas, hget, fun hreach => ?_, ?_⟩
  · obtain ⟨k, hk, hcustom⟩ := hreach "Hook" hhas
    rw [hget] at hk
    cases hk
    cases hcustom
  · obtain ⟨f, hf, hfields⟩ := List.mem_map.1 (hlines ▸ List.mem_singleton_self _)
    obtain ⟨hkind, hrest⟩ := Prod.mk.inj hfields
    obtain ⟨hentry, hbody⟩ := Prod.mk.inj hrest
    obtain ⟨d, hd, hdlines⟩ := Definition.exists_lines hentry
    refine ⟨f, hf, hkind, fun m subject => ?_⟩
    rw [Source.emit, hd, ← hbody, ← hdlines]
    rfl

end Bindery.CApi
