import Bindery.Proofs.Registry.History
/-!
What the history of a registry decides: every answer to a query, the answer to the next action, and
the entries. Threads that act on names of their own can be interleaved in any way, since the actions on
one name are all in one thread and stay in their order.
-/

namespace Bindery.Registry

/-- How the calls of some threads can come one after the other: a thread that has a call left makes
its next one, until none is left. -/
inductive Interleaving : List (List Action) → List Action → Prop
  | done {threads : List (List Action)} (h : ∀ thread ∈ threads, thread = []) :
      Interleaving threads []
  | step (before behind : List (List Action)) (a : Action) {thread calls : List Action}
      (h : Interleaving (before ++ thread :: behind) calls) :
      Interleaving (before ++ (a :: thread) :: behind) (a :: calls)

/-- Whether no name is concerned by calls of two threads. -/
def Apart (threads : List (List Action)) : Prop :=
  threads.Pairwise fun s t =>
    ∀ name, ∀ a ∈ s, ∀ b ∈ t, ¬(a.concerns name = true ∧ b.concerns name = true)

variable {name : String} {threads before behind : List (List Action)}
  {history thread calls i j : List Action} {a : Action}

theorem Apart.of_step (h : Apart (before ++ (a :: thread) :: behind)) :
    Apart (before ++ thread :: behind) := by
  rw [Apart, List.pairwise_append, List.pairwise_cons] at h ⊢
  obtain ⟨hbefore, ⟨hthread, hbehind⟩, hcross⟩ := h
  refine ⟨hbefore, ⟨fun t ht n b hb => hthread t ht n b (.tail _ hb), hbehind⟩, fun s hs t ht => ?_⟩
  rcases List.mem_cons.1 ht with rfl | ht
  · exact fun n b hb c hc => hcross s hs _ (.head _) n b hb c (.tail _ hc)
  · exact hcross s hs t (.tail _ ht)

/-- If one thread's call concerns a name, no call of the others does. -/
theorem Apart.alone (h : Apart (before ++ (a :: thread) :: behind)) (ha : a.concerns name = true) :
    (∀ s ∈ before, s.filter (Action.concerns name) = []) ∧
      ∀ t ∈ behind, t.filter (Action.concerns name) = [] := by
  rw [Apart, List.pairwise_append, List.pairwise_cons] at h
  obtain ⟨-, ⟨hbehind, -⟩, hbefore⟩ := h
  refine ⟨fun s hs => List.filter_eq_nil_iff.2 fun b hb hname => ?_,
    fun t ht => List.filter_eq_nil_iff.2 fun b hb hname => ?_⟩
  · exact hbefore s hs _ (.head _) name b hb a (.head _) ⟨hname, ha⟩
  · exact hbehind t ht name a (.head _) b hb ⟨ha, hname⟩

/-- However threads that are apart are interleaved, the calls that concern a name are those of its
thread. -/
theorem Interleaving.filter (hcalls : Interleaving threads calls) (h : Apart threads) :
    calls.filter (Action.concerns name) = threads.flatMap (List.filter (Action.concerns name)) := by
  induction hcalls with
  | done hall =>
    rw [List.flatMap_eq_nil_iff.2 fun thread hthread => by rw [hall thread hthread]; rfl]
    rfl
  | @step before behind a thread calls _ ih =>
    have hrest := ih h.of_step
    simp only [List.flatMap_append, List.flatMap_cons] at hrest ⊢
    by_cases ha : a.concerns name = true
    · obtain ⟨hbefore, hbehind⟩ := h.alone ha
      rw [List.flatMap_eq_nil_iff.2 hbefore] at hrest ⊢
      rw [List.filter_cons_of_pos ha, List.filter_cons_of_pos ha, hrest]
      rfl
    · rw [List.filter_cons_of_neg ha, List.filter_cons_of_neg ha, hrest]

/-- After threads that are apart, a name has the same relevant actions in any order of the calls. -/
theorem relevant_interleaving (hi : Interleaving threads i) (hj : Interleaving threads j)
    (h : Apart threads) (name : String) (history : List Action) :
    relevant name (history ++ i) = relevant name (history ++ j) := by
  rw [← relevant_filter name (history ++ i), ← relevant_filter name (history ++ j),
    List.filter_append, List.filter_append, hi.filter h, hj.filter h]

/-- What the history of a registry decides. -/
structure FollowsHistory (history : List Action) : Prop where
  /-- The entry of each name is that of the accepted actions on it since the registry was cleared. -/
  lookup (name : String) : (after history).lookup? name = entryOf name (relevant name history)
  /-- An accepted action succeeds. -/
  accepted (a : Action) : a.isAccepted = true →
    ∃ previous?, ((after history).perform a).1 = .ok previous?
  /-- A refused action fails and leaves the registry alone. -/
  refused (a : Action) : a.isAccepted = false →
    (∃ e, ((after history).perform a).1 = .error e) ∧ after (history ++ [a]) = after history
  /-- The first declaration of a type replaces nothing, whatever was attached to its name. -/
  first (d : TypeEntry) : d.name ≠ "" → NoDeclaration (relevant d.name history) →
    ((after history).perform (.declare d)).1 = .ok none
  /-- Each later declaration tells the entry that it replaces. -/
  later (d : TypeEntry) : d.name ≠ "" → ¬ NoDeclaration (relevant d.name history) →
    ∃ previous, (after history).lookup? d.name = some previous ∧
      ((after history).perform (.declare d)).1 = .ok (some previous)
  /-- Exactly the names with an entry are contained. -/
  contains (name : String) :
    (after history).contains name = ((after history).lookup? name).isSome
  /-- The names are those with an entry. -/
  names (name : String) :
    name ∈ (after history).names ↔ ((after history).lookup? name).isSome = true
  /-- Each name is listed once. -/
  names_nodup : (after history).names.Nodup
  /-- The size is the number of names. -/
  size : (after history).size = (after history).names.length
  /-- The snapshot has the entries that are found. -/
  snapshot (name : String) : (after history).snapshot.get? name = (after history).lookup? name
  /-- Threads that are apart leave the same entries in whatever order their calls come. -/
  interleaved (threads : List (List Action)) (i j : List Action) : Apart threads →
    Interleaving threads i → Interleaving threads j →
      (after (history ++ i)).snapshot.entries.Perm (after (history ++ j)).snapshot.entries ∧
        ∀ name, (after (history ++ i)).lookup? name = (after (history ++ j)).lookup? name

/-- A registry follows its history. -/
theorem followsHistory (history : List Action) : FollowsHistory history := by
  have hreflects := reflects_after history
  refine {
    lookup := hreflects.lookup
    accepted := fun a ha => ?accepted
    refused := fun a ha => ?refused
    first := fun d => hreflects.answer_first
    later := fun d => hreflects.answer_later
    contains := fun name => rfl
    names := fun name => TypeMap.mem_names
    names_nodup := (after history).types.nodup
    size := (List.length_map _).symm
    snapshot := fun name => rfl
    interleaved := fun threads i j h hi hj => ?interleaved }
  case accepted =>
    rcases a.clear_or_declare_or_attach with rfl | ⟨d, rfl⟩ | ⟨name, hattach⟩
    · exact ⟨none, rfl⟩
    · exact ⟨_, answer_declare _ (of_decide_eq_true ha)⟩
    · exact ⟨none, by rw [perform_attach _ hattach ha]⟩
  case refused =>
    obtain ⟨what, hrefused⟩ := perform_refused (after history) ha
    exact ⟨⟨_, by rw [hrefused]⟩, by rw [after_concat, hrefused]⟩
  case interleaved =>
    have hlookup (name : String) :
        (after (history ++ i)).lookup? name = (after (history ++ j)).lookup? name := by
      rw [(reflects_after _).lookup, (reflects_after _).lookup, relevant_interleaving hi hj h]
    exact ⟨TypeMap.perm_of_get?_eq hlookup, hlookup⟩

/-- A type that is declared and then cleared away. -/
def gone : List Action := [.declare { name := "Window", kind := .struct }, .clear]

/-- One thread attaches to a type before it declares it, another declares a type twice and is refused
once. -/
def loading : List (List Action) := [
  [.attachFunction "Window" { name := "show" } .host, .declare (.ofName "Window" .object)],
  [.declare (.ofName "Panel" .struct), .declare (.ofName "" .object),
    .declare (.ofName "Panel" .object)]]

def oneAfterTheOther : List Action := [
  .attachFunction "Window" { name := "show" } .host, .declare (.ofName "Window" .object),
  .declare (.ofName "Panel" .struct), .declare (.ofName "" .object), .declare (.ofName "Panel" .object)]

def byTurns : List Action := [
  .declare (.ofName "Panel" .struct), .attachFunction "Window" { name := "show" } .host,
  .declare (.ofName "" .object), .declare (.ofName "Window" .object), .declare (.ofName "Panel" .object)]

theorem followsHistory_loading :
    (Apart loading ∧ Interleaving loading oneAfterTheOther ∧ Interleaving loading byTurns) ∧
    (after (gone ++ oneAfterTheOther)).snapshot.entries.Perm
      (after (gone ++ byTurns)).snapshot.entries ∧
    (after (gone ++ byTurns)).lookup? "Window" = some {
      TypeEntry.ofName "Window" .object with
      functions := [{ name := "show", callable? := some .host }] } ∧
    (after (gone ++ byTurns)).lookup? "Panel" = some (.ofName "Panel" .object) := by
  have hapart : Apart loading := by
    refine List.pairwise_pair.2 fun name a ha b hb hname => ?_
    simp only [Action.concerns, Bool.and_eq_true] at hname
    obtain ⟨⟨-, htouches⟩, haccepted, htouches'⟩ := hname
    have hwindow : "Window" = name := by
      rcases List.mem_pair.1 ha with rfl | rfl
      · exact of_decide_eq_true htouches
      · exact of_decide_eq_true htouches
    have hpanel : "Panel" = name := by
      simp only [List.mem_cons, List.not_mem_nil, or_false] at hb
      rcases hb with rfl | rfl | rfl
      · exact of_decide_eq_true htouches'
      · exact absurd haccepted (by decide)
      · exact of_decide_eq_true htouches'
    exact absurd (hwindow.trans hpanel.symm) (by decide)
  have hfirst : Interleaving loading oneAfterTheOther :=
    .step [] _ _ <| .step [] _ _ <| .step [[]] _ _ <| .step [[]] _ _ <| .step [[]] _ _ <|
      .done (by simp)
  have hsecond : Interleaving loading byTurns :=
    .step [_] _ _ <| .step [] _ _ <| .step [_] _ _ <| .step [] _ _ <| .step [[]] _ _ <|
      .done (by simp)
  have h := followsHistory (gone ++ byTurns)
  refine ⟨⟨hapart, hfirst, hsecond⟩,
    ((followsHistory gone).interleaved loading _ _ hapart hfirst hsecond).1,
    (h.lookup "Window").trans ?_, (h.lookup "Panel").trans ?_⟩
  · rfl
  · rfl

end Bindery.Registry
