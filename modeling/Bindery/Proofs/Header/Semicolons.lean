import Bindery.Proofs.Header.Complete
import Bindery.Proofs.Prototype.Normalizing
/-!
Semicolons in the legacy header. Each prototype is a line with a semicolon behind it. A derived prototype
ends in a parenthesis, so its line ends in one semicolon; a stated one is printed as normalizing leaves
it, so its line ends in two where normalizing leaves one.
-/

namespace Bindery.LegacyHeader

open Prototype (ClosesTwice Normalized normalize)

variable {types : TypeMap} {fileName : String} {p : Legacy.Prototype}

/-- The line of a prototype in the header. -/
def prototypeLine (p : Legacy.Prototype) : String := p.text ++ ";"

theorem prototypeLine_mem {h : LegacyHeader} (hp : p ∈ h.prototypes) : prototypeLine p ∈ h.lines := by
  have hsome : ¬ h.prototypes.isEmpty := by
    rw [List.isEmpty_iff]
    exact List.ne_nil_of_mem hp
  rw [lines_eq, if_neg hsome]
  exact List.mem_append_left _ (List.mem_append_right _ (.tail _ (List.mem_map_of_mem hp)))

/-- Whether a line ends in two semicolons. -/
def Doubled (line : String) : Prop := [';', ';'] <:+ line.toList

theorem doubled_prototypeLine_iff : Doubled (prototypeLine p) ↔ p.text.toList.getLast? = some ';' := by
  rw [Doubled, prototypeLine, String.toList_append, List.getLast?_eq_some_iff]
  constructor
  · rintro ⟨front, h⟩
    have hline : front ++ [';'] ++ [';'] = p.text.toList ++ [';'] := (List.append_assoc ..).trans h
    exact ⟨front, (List.append_cancel_right hline).symm⟩
  · rintro ⟨front, h⟩
    rw [h]
    exact ⟨front, (List.append_assoc front [';'] [';']).symm⟩

/-- The line of a function ends in two semicolons exactly if the function states a prototype that closes
twice. -/
theorem doubled_iff {c : CTypes} {owner : TypeEntry} {f : FunctionEntry}
    (h : Legacy.prototype c owner f = .ok p) :
    Doubled (prototypeLine p) ↔ ∃ stated, f.prototype? = some stated ∧ ClosesTwice stated.toList := by
  rw [doubled_prototypeLine_iff]
  obtain ⟨-, ⟨stated, hstated, rfl⟩ | ⟨hderived, _, _, -, -, rfl⟩⟩ := Legacy.prototype_eq_ok h
  · rw [(Prototype.normalized stated).closed, hstated]
    simp
  · rw [Prototype.getLast?_derive, hderived]
    simp

/-- How the lines of prototypes end. -/
structure ClosesLines (types : TypeMap) (fileName : String) : Prop where
  lines : ∀ p ∈ (ofTypes fileName types).prototypes, prototypeLine p ∈ (ofTypes fileName types).lines
  /-- The prototypes are listed with the functions that they are for. -/
  prototypes : (listing types).map (·.2) = (ofTypes fileName types).prototypes
  doubled : ∀ x ∈ listing types, Doubled (prototypeLine x.2) ↔
    ∃ stated, x.1.2.prototype? = some stated ∧ ClosesTwice stated.toList
  never : (∀ p ∈ (ofTypes fileName types).prototypes, ¬ Doubled (prototypeLine p)) ↔
    ∀ t ∈ types.entries, ∀ f ∈ t.exportedFunctions, ∀ stated, f.prototype? = some stated →
      ¬ ClosesTwice stated.toList

/-- An exported function that states a prototype has one in the header. -/
theorem listing_of_stated {t : TypeEntry} {f : FunctionEntry} {stated : String} (ht : t ∈ types.entries)
    (hf : f ∈ t.exportedFunctions) (hstated : f.prototype? = some stated) :
    ∃ p, ((t, f), p) ∈ listing types := by
  have hbindable : f.isBindable = true := by
    rw [FunctionEntry.isBindable, (List.mem_filter.1 hf).2, hstated]
    simp
  have hdeclarable : (t, f) ∈ declarable types :=
    List.mem_filter.2 ⟨mem_membersOf.2 ⟨List.mem_mergeSort.2 ht, hf⟩,
      decide_eq_true ⟨hbindable, .inl (hstated ▸ rfl)⟩⟩
  obtain ⟨⟨_, p⟩, hx, rfl⟩ := List.mem_map.1 ((listing_fst_perm types).mem_iff.2 hdeclarable)
  exact ⟨p, hx⟩

/-- Normalizing makes a prototype normal, and the line of a stated prototype ends in one semicolon, unless
the stated text closes twice. -/
theorem closed_once (types : TypeMap) (fileName text : String) :
    Normalized text ∧ ClosesLines types fileName := by
  refine ⟨Prototype.normalized text, ?_⟩
  have hdoubled : ∀ x ∈ listing types, Doubled (prototypeLine x.2) ↔
      ∃ stated, x.1.2.prototype? = some stated ∧ ClosesTwice stated.toList :=
    fun x hx => doubled_iff (mem_listing.1 hx).2
  constructor
  case lines => exact fun p hp => prototypeLine_mem hp
  case prototypes => exact listing_snd fileName
  case doubled => exact hdoubled
  case never =>
    rw [← listing_snd, List.forall_mem_map]
    constructor
    · intro hnever t ht f hf stated hstated hcloses
      obtain ⟨p, hp⟩ := listing_of_stated ht hf hstated
      exact hnever _ hp ((hdoubled _ hp).2 ⟨stated, hstated, hcloses⟩)
    · intro hnever x hx hline
      obtain ⟨stated, hstated, hcloses⟩ := (hdoubled x hx).1 hline
      obtain ⟨howner, hf⟩ := mem_membersOf.1 (mem_listing.1 hx).1
      exact hnever x.1.1 (List.mem_mergeSort.1 howner) x.1.2 hf stated hstated hcloses

/-- An object with a function whose stated prototype has two semicolons at its end, with a blank between
them. -/
def lamp : TypeMap where
  entries := [{
    name := "Lamp", kind := .object
    functions := [{ name := "glow", prototype? := some "void Lamp_glow(void); ;" }] }]
  nodup := by decide

theorem sorted_lamp : lamp.sorted = lamp.entries := List.mergeSort_of_pairwise (by decide)

/-- One semicolon is left, normalizing again takes it away, and the header prints two. -/
theorem closed_twice_lamp :
    normalize "void Lamp_glow(void); ;" = "void Lamp_glow(void);" ∧
      normalize (normalize "void Lamp_glow(void); ;") = "void Lamp_glow(void)" ∧
      "void Lamp_glow(void);;" ∈ (ofTypes defaultFile lamp).lines := by
  have houtcomes : (outcomes lamp).1 = [⟨"Lamp_glow", "void Lamp_glow(void);"⟩] := by
    rw [outcomes, sorted_lamp]
    decide +kernel
  have hprototypes : (ofTypes defaultFile lamp).prototypes = [⟨"Lamp_glow", "void Lamp_glow(void);"⟩] := by
    rw [ofTypes, houtcomes]
    exact List.mergeSort_singleton _
  have hprinted : (⟨"Lamp_glow", "void Lamp_glow(void);"⟩ : Legacy.Prototype) ∈
      (ofTypes defaultFile lamp).prototypes := by
    rw [hprototypes]
    exact List.mem_singleton_self _
  exact ⟨by decide, by decide, prototypeLine_mem hprinted⟩

end Bindery.LegacyHeader
