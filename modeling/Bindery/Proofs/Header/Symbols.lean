import Bindery.Proofs.Header.Complete
import Bindery.Proofs.Manifest.Signature
import Bindery.Proofs.Prototype.Grammar
/-!
The symbols of the legacy header. The manifest keeps one function of each symbol and reports the
others. The legacy header does not: it sorts the prototypes of all functions by their symbols, so those
of one symbol stand next to each other, in the order of the functions. So a symbol is declared as often
as functions resolve to it, and each symbol is declared once only if no two do.
-/

namespace Bindery

namespace Legacy

open Bindery.Prototype (IsIdentifier IsTypeText Declares)

variable {types : TypeMap} {m : Member} {p : Prototype}

theorem isTypeText_handleType : IsTypeText (ctypes types).handleType := (by decide : IsTypeText "void*")

/-- Whether the prototype of a function is one of its symbol: a stated one must declare it, and in a
derived one the names must be identifiers. -/
structure DeclaresOwn (m : Member) : Prop where
  stated : ∀ text, m.2.prototype? = some text →
    ∃ inner, Declares (Bindery.Prototype.normalize text).toList m.symbol inner
  derived : m.2.prototype? = none →
    IsIdentifier m.symbol ∧ ∀ name, m.2.returnType = .struct name → IsIdentifier name

theorem DeclaresOwn.declares (hown : DeclaresOwn m)
    (h : prototype (ctypes types) m.1 m.2 = .ok p) :
    ∃ inner, Declares p.text.toList p.symbol inner := by
  obtain ⟨-, ⟨text, hstated, rfl⟩ | ⟨hderived, returnCType, params, hresult, -, rfl⟩⟩ :=
    prototype_eq_ok h
  · exact hown.stated text hstated
  · obtain ⟨hsymbol, hstruct⟩ := hown.derived hderived
    exact ⟨_, Bindery.Prototype.declares_derive
      (CTypes.isTypeText_of_spelling? isTypeText_handleType hresult hstruct) hsymbol⟩

end Legacy

/-! ### Symbols -/

namespace LegacyHeader

open Legacy (DeclaresOwn)
open Prototype (Declares IsIdentifier)

variable {types : TypeMap} {fileName : String}

/-- Whether no two prototypes of a header declare one symbol. -/
def DeclaresOnce (h : LegacyHeader) : Prop :=
  h.prototypes.Pairwise fun p q => ∀ symbol inner inner',
    Declares p.text.toList symbol inner → ¬ Declares q.text.toList symbol inner'

/-- The prototypes of a symbol are listed in the order of their functions. -/
theorem listing_of_symbol (types : TypeMap) (symbol : String) :
    (listing types).filter (fun x => x.2.symbol = symbol) =
      withResult (outcome types) ((membersOf types.sorted).filter fun m => m.symbol = symbol) := by
  have hstable : (listing types).filter (fun x => x.2.symbol = symbol) =
      (withResult (outcome types) (membersOf types.sorted)).filter fun x => x.2.symbol = symbol := by
    refine filter_mergeSort (fun x y z => textLe_trans x.2.symbol y.2.symbol z.2.symbol)
      (fun x y => textLe_total x.2.symbol y.2.symbol) ?_
    -- among prototypes of one symbol any order is ascending
    refine List.pairwise_of_forall_mem_list fun x hx y hy => ?_
    have hxsymbol : x.2.symbol = symbol := of_decide_eq_true (List.mem_filter.1 hx).2
    have hysymbol : y.2.symbol = symbol := of_decide_eq_true (List.mem_filter.1 hy).2
    rw [hxsymbol, hysymbol]
    exact decide_eq_true (String.le_refl symbol)
  have hsymbols : ∀ x ∈ withResult (outcome types) (membersOf types.sorted),
      decide (x.2.symbol = symbol) = decide (x.1.symbol = symbol) := by
    intro x hx
    rw [show x.2.symbol = x.1.symbol from Legacy.symbol_of_prototype (mem_withResult.1 hx).2]
  rw [hstable, List.filter_congr hsymbols]
  exact filter_withResult (fun m : Member => m.symbol = symbol) _

/-- All functions that resolve to a symbol and can have a prototype have one. -/
theorem prototypes_of_symbol (types : TypeMap) (fileName symbol : String) :
    List.Forall₂ (fun m p => outcome types m = .ok p)
      ((declarable types).filter fun m => m.symbol = symbol)
      ((ofTypes fileName types).prototypes.filter fun p => p.symbol = symbol) := by
  have hmembers : (declarable types).filter (fun m => m.symbol = symbol) =
      (withResult (outcome types)
        ((membersOf types.sorted).filter fun m => m.symbol = symbol)).map (·.1) := by
    rw [withResult_fst, declarable, List.filter_filter, List.filter_filter]
    refine List.filter_congr fun m _ => ?_
    rw [outcome_isOk, Bool.and_comm]
  have hprototypes : (ofTypes fileName types).prototypes.filter (fun p => p.symbol = symbol) =
      (withResult (outcome types)
        ((membersOf types.sorted).filter fun m => m.symbol = symbol)).map (·.2) := by
    rw [← listing_snd, List.filter_map, ← listing_of_symbol]
    rfl
  rw [hmembers, hprototypes, List.forall₂_map_left_iff, List.forall₂_map_right_iff, List.forall₂_same]
  exact fun x hx => (mem_withResult.1 hx).2

/-- The symbols of the prototypes are those to which functions resolve, each as often. -/
theorem symbols_perm (types : TypeMap) (fileName : String) :
    ((ofTypes fileName types).prototypes.map (·.symbol)).Perm
      ((declarable types).map Member.symbol) := by
  have hsymbols : (ofTypes fileName types).prototypes.map (·.symbol) =
      ((listing types).map (·.1)).map Member.symbol := by
    rw [← listing_snd, List.map_map, List.map_map]
    exact List.map_congr_left fun x hx => symbol_listing hx
  rw [hsymbols]
  exact (listing_fst_perm types).map _

/-- If every prototype is one of its symbol, no two prototypes declare one symbol if and only if no two
have one. -/
theorem declaresOnce_iff_nodup {h : LegacyHeader}
    (hown : ∀ p ∈ h.prototypes, ∃ inner, Declares p.text.toList p.symbol inner) :
    h.DeclaresOnce ↔ (h.prototypes.map (·.symbol)).Nodup := by
  rw [List.Nodup, List.pairwise_map, DeclaresOnce]
  refine List.Pairwise.iff_of_mem fun {p q} hp hq => ?_
  obtain ⟨inner, hinner⟩ := hown p hp
  obtain ⟨inner', hinner'⟩ := hown q hq
  constructor
  · intro honce e
    exact honce p.symbol inner inner' hinner (e ▸ hinner')
  · intro hne symbol _ _ hp' hq'
    exact hne ((hinner.unique hp').trans (hq'.unique hinner'))

/-- If every prototype is one of its symbol, no two declare one symbol exactly if no two functions
resolve to one. -/
theorem declaresOnce_iff (hown : ∀ m ∈ declarable types, DeclaresOwn m) :
    (ofTypes fileName types).DeclaresOnce ↔ ((declarable types).map Member.symbol).Nodup := by
  rw [← (symbols_perm types fileName).nodup_iff]
  refine declaresOnce_iff_nodup fun p hp => ?_
  rw [← listing_snd] at hp
  obtain ⟨x, hx, rfl⟩ := List.mem_map.1 hp
  have hmember : x.1 ∈ declarable types :=
    (listing_fst_perm types).subset (List.mem_map_of_mem hx)
  exact (hown x.1 hmember).declares (mem_listing.1 hx).2

/-- In the legacy header every function that can have a prototype has one, whichever others resolve to
its symbol. So, when each prototype is one of its symbol, no two of them declare one symbol exactly if
no two functions resolve to one. -/
theorem declared_once_iff (types : TypeMap) (fileName : String)
    (hown : ∀ m ∈ declarable types, DeclaresOwn m) :
    (∀ symbol, List.Forall₂ (fun m p => outcome types m = .ok p)
      ((declarable types).filter fun m => m.symbol = symbol)
      ((ofTypes fileName types).prototypes.filter fun p => p.symbol = symbol)) ∧
    ((ofTypes fileName types).DeclaresOnce ↔ ((declarable types).map Member.symbol).Nodup) :=
  ⟨prototypes_of_symbol types fileName, declaresOnce_iff hown⟩

/-- The functions of the object and of the enum resolve to different symbols. -/
theorem declared_once_paint :
    (∀ m ∈ declarable paint, DeclaresOwn m) ∧ (ofTypes defaultFile paint).DeclaresOnce := by
  have hstated : ∀ m ∈ declarable paint,
      m.2.prototype? = some "void Brush_dip(DomBind_Handle* self, int32_t depth)" ∧
          m.symbol = "Brush_dip" ∨ m.2.prototype? = none := by
    rw [declarable, sorted_paint]
    decide +kernel
  have hderived : ∀ m ∈ declarable paint, m.2.prototype? = none →
      IsIdentifier m.symbol ∧ m.2.returnType = .int32 := by
    rw [declarable, sorted_paint]
    decide +kernel
  have hread : Prototype.parameters "void Brush_dip(DomBind_Handle* self, int32_t depth)"
      "Brush_dip" = .ok ["self", "depth"] := by decide
  have hown : ∀ m ∈ declarable paint, DeclaresOwn m := by
    intro m hm
    constructor
    · intro text htext
      rcases hstated m hm with ⟨hsome, hsymbol⟩ | hnone
      · rw [hsymbol, ← Option.some.inj (hsome.symm.trans htext)]
        exact Prototype.declares_of_parameters hread
      · cases hnone.symm.trans htext
    · intro hnone
      obtain ⟨hsymbol, hreturn⟩ := hderived m hm hnone
      exact ⟨hsymbol, by simp [hreturn]⟩
  refine ⟨hown, (declared_once_iff paint defaultFile hown).2.2 ?_⟩
  rw [declarable, sorted_paint]
  decide +kernel

/-- Two objects, with functions whose symbols are the same text, joined at different places. -/
def menu : TypeMap where
  entries := [
    { name := "Menu", kind := .object
      functions := [{ name := "Item_open", callable? := some .host }] },
    { name := "Menu_Item", kind := .object
      functions := [{ name := "open", callable? := some .host }] }]
  nodup := by decide

theorem sorted_menu : menu.sorted = menu.entries := List.mergeSort_of_pairwise (by decide)

/-- Both functions have a prototype, and nothing is reported, so one symbol is declared twice, with two
receivers. -/
theorem declared_twice_menu :
    (declarable menu).map Member.symbol = ["Menu_Item_open", "Menu_Item_open"] ∧
      (ofTypes defaultFile menu).prototypes = [
        ⟨"Menu_Item_open", "void Menu_Item_open(Menu* self)"⟩,
        ⟨"Menu_Item_open", "void Menu_Item_open(Menu_Item* self)"⟩] ∧
      errors menu = [] ∧ ¬ (ofTypes defaultFile menu).DeclaresOnce := by
  have hmembers : ∀ m ∈ declarable menu, m.2.prototype? = none ∧ IsIdentifier m.symbol ∧
      m.2.returnType = .void := by
    rw [declarable, sorted_menu]
    decide +kernel
  have hown : ∀ m ∈ declarable menu, DeclaresOwn m := by
    intro m hm
    obtain ⟨hderived, hsymbol, hreturn⟩ := hmembers m hm
    exact ⟨by simp [hderived], fun _ => ⟨hsymbol, by simp [hreturn]⟩⟩
  have hsymbols : (declarable menu).map Member.symbol = ["Menu_Item_open", "Menu_Item_open"] := by
    rw [declarable, sorted_menu]
    decide +kernel
  have houtcomes : outcomes menu = ([
      ⟨"Menu_Item_open", "void Menu_Item_open(Menu* self)"⟩,
      ⟨"Menu_Item_open", "void Menu_Item_open(Menu_Item* self)"⟩], []) := by
    rw [outcomes, sorted_menu]
    decide +kernel
  refine ⟨hsymbols, ?_, ?_, ?_⟩
  · rw [ofTypes, houtcomes]
    exact List.mergeSort_of_pairwise (by decide)
  · rw [errors, houtcomes, sorted_menu]
    decide
  · rw [declaresOnce_iff hown, hsymbols]
    decide

end LegacyHeader

end Bindery
