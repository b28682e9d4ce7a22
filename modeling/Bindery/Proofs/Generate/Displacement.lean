import Bindery.Proofs.Generate.Outputs
import Bindery.Proofs.Generate.References
import Bindery.Proofs.Manifest.Account
/-!
Functions that share a symbol. Which of them is bound is settled while the manifest is made: the first,
by module, type, name and position. Whether it can be given a body turns out later, when modules are
emitted, and then no other function takes its place. So the manifest that is written has a function with
a symbol exactly if the first one of the symbol can be given a body, and a function that could have been
given one is lost together with a first one that could not.
-/

namespace Bindery.CApi

open Manifest

variable {g : CApi} {dirs : OutputDirs} {types snapshot : TypeMap} {f b : FunctionBinding}
  {o : Occurrence} {symbol : String}

/-- Whether a run can give a function a body: its module is not reserved, and a definition is
emitted for it. -/
def CanEmit (g : CApi) (types : TypeMap) (f : FunctionBinding) : Prop :=
  g.isReserved f.module = false ∧ ∃ m ∈ types.modules, m.name = f.module ∧
    ∃ subject, (g.built types).type? f.owner = some subject ∧
      ∃ text, Source.emit g.emitters types m subject f = .ok text

/-- Whether a run writes, for every function that can be bound and given a body, one of its symbol. -/
def KeepsEmittable (g : CApi) (dirs : OutputDirs) (types snapshot : TypeMap) : Prop :=
  ∀ o ∈ occurrences types g.catalog, ∀ b, o.bound types g.catalog = .ok b → g.CanEmit types b →
    ∃ f ∈ (g.finalManifest dirs types snapshot).functions, f.symbol = b.symbol

/-- A function that is bound is kept if and only if it can be given a body. -/
theorem keeps_iff (hf : f ∈ (g.built types).functions) :
    g.keeps dirs types snapshot f = true ↔ g.CanEmit types f := by
  obtain ⟨-, -, -, -, -, -, subject, hsubject⟩ := owner_of_built hf
  obtain ⟨m, hm, hmodule⟩ := exists_module_of_built hf
  cases hr : g.isReserved f.module with
  | true =>
    have hreserved : f.module ∈ g.reservedModules types := by
      rw [mem_reservedModules, ← hmodule, ← TypeMap.names_modules, hmodule]
      exact ⟨hmodule ▸ List.mem_map_of_mem hm, hr⟩
    simp [keeps, CanEmit, hreserved, hr]
  | false =>
    have hbody : (f, Source.emit g.emitters types m subject f) ∈ g.bodies types (g.built types) m :=
      (mem_bodies hm).2 ⟨mem_functionsOf.2 ⟨hf, hmodule.symm⟩, subject, hsubject, rfl⟩
    rw [keeps_eq dirs snapshot hm (hmodule ▸ hr) hbody]
    constructor
    · intro hok
      cases hout : Source.emit g.emitters types m subject f with
      | ok text => exact ⟨hr, m, hm, hmodule, subject, hsubject, text, hout⟩
      | error e =>
        rw [hout] at hok
        cases hok
    · rintro ⟨-, m', hm', hmodule', subject', hsubject', text, htext⟩
      have e : m' = m :=
        List.inj_on_of_nodup_map TypeMap.modules_names_nodup hm' hm (hmodule'.trans hmodule.symm)
      rw [hsubject] at hsubject'
      cases hsubject'
      rw [← e, htext]
      rfl

/-- What is written of the functions with a symbol is the first of them, if it can be given a body. -/
theorem mem_finalManifest :
    f ∈ (g.finalManifest dirs types snapshot).functions ↔
      (∃ o, IsFirst types g.catalog f.symbol o ∧ o.bound types g.catalog = .ok f) ∧
        g.CanEmit types f := by
  rw [functions_finalManifest, List.mem_filter]
  constructor
  · rintro ⟨hf, hkeeps⟩
    exact ⟨mem_functions_build.1 hf, (keeps_iff hf).1 hkeeps⟩
  · rintro ⟨hfirst, hemit⟩
    have hf : f ∈ (g.built types).functions := mem_functions_build.2 hfirst
    exact ⟨hf, (keeps_iff hf).2 hemit⟩

/-- A function with a symbol is written if and only if the first one of the symbol can be given a
body. -/
theorem exists_symbol_iff :
    (∃ f ∈ (g.finalManifest dirs types snapshot).functions, f.symbol = symbol) ↔
      ∃ o b, IsFirst types g.catalog symbol o ∧ o.bound types g.catalog = .ok b ∧
        g.CanEmit types b := by
  constructor
  · rintro ⟨f, hf, rfl⟩
    obtain ⟨⟨o, hfirst, hb⟩, hemit⟩ := mem_finalManifest.1 hf
    exact ⟨o, f, hfirst, hb, hemit⟩
  · rintro ⟨o, b, hfirst, hb, hemit⟩
    obtain ⟨-, b', hb', hsymbol⟩ := hfirst.1
    obtain rfl : b = b' := Except.ok.inj (hb.symm.trans hb')
    exact ⟨b, mem_finalManifest.2 ⟨⟨o, hsymbol ▸ hfirst, hb⟩, hemit⟩, hsymbol⟩

/-- No function is lost to one without a body if and only if, wherever a function can be given a body,
so can the first one of its symbol. -/
theorem keepsEmittable_iff :
    KeepsEmittable g dirs types snapshot ↔
      ∀ o ∈ occurrences types g.catalog, ∀ b, o.bound types g.catalog = .ok b → g.CanEmit types b →
        ∀ p c, IsFirst types g.catalog b.symbol p → p.bound types g.catalog = .ok c →
          g.CanEmit types c := by
  refine forall₂_congr fun o ho => forall₃_congr fun b hb hemit => ?_
  rw [exists_symbol_iff]
  constructor
  · rintro ⟨q, d, hq, hd, hemit⟩ p c hp hc
    have hsame := (firstOf_of_isFirst hq hd).symm.trans (firstOf_of_isFirst hp hc)
    cases hsame
    exact hemit
  · intro h
    obtain ⟨p, c, -, hp, hc⟩ := exists_isFirst ho hb
    exact ⟨p, c, hp, hc, h p c hp hc⟩

/-- Of the functions that share a symbol a run writes the first or none. The manifest that it writes has
a function with a symbol if and only if the first one that can be bound can be given a body; so a run
loses no function to one without a body if and only if, wherever a function can be given a body, so can
the first one of its symbol. -/
theorem written_symbols (g : CApi) (dirs : OutputDirs) (types snapshot : TypeMap)
    (files files' : FileStore) (report : Report) (hdirs : g.dirs? = some dirs)
    (hrun : g.generate types snapshot files = (.ok report, files')) :
    (IsFileName g.options.manifestFile →
      files'.read? (dirs.header.join g.options.manifestFile) =
        some (g.manifestOutput dirs (g.finalManifest dirs types snapshot)).text) ∧
      (∀ symbol, (∃ f ∈ (g.finalManifest dirs types snapshot).functions, f.symbol = symbol) ↔
        ∃ o b, IsFirst types g.catalog symbol o ∧ o.bound types g.catalog = .ok b ∧
          g.CanEmit types b) ∧
      (KeepsEmittable g dirs types snapshot ↔
        ∀ o ∈ occurrences types g.catalog, ∀ b, o.bound types g.catalog = .ok b →
          g.CanEmit types b → ∀ p c, IsFirst types g.catalog b.symbol p →
            p.bound types g.catalog = .ok c → g.CanEmit types c) :=
  ⟨fun hname => read?_manifest hdirs hname hrun, fun _ => exists_symbol_iff, keepsEmittable_iff⟩

/-! ### A function lost to one without a body -/

/-- An object whose function is the only one with its symbol. -/
def drumEntry : TypeEntry where
  name := "Drum"
  kind := .object
  functions := [{ name := "beat", callable? := some .host }]

def drum : TypeMap := ⟨[drumEntry], by decide⟩

theorem written_symbols_drum :
    ∃ report files, plain.generate drum drum .empty = (.ok report, files) ∧
      files.read? ((Path.ofText "include").join plain.options.manifestFile) =
        some (plain.manifestOutput ⟨.ofText "include", .ofText "src"⟩
          (plain.finalManifest ⟨.ofText "include", .ofText "src"⟩ drum drum)).text ∧
      KeepsEmittable plain ⟨.ofText "include", .ofText "src"⟩ drum drum := by
  have hok : (plain.generate drum drum .empty).1.toOption.isSome = true := by decide +kernel
  obtain ⟨report, files, hrun⟩ := exists_report hok
  obtain ⟨hread, -, hkept⟩ := written_symbols plain _ drum drum _ files report rfl hrun
  refine ⟨report, files, hrun, hread ⟨by decide, by decide, by decide, by decide⟩, hkept.2 ?_⟩
  intro o ho b hb hemit p c hp hc
  have honly : ∀ o ∈ occurrences drum plain.catalog, o = ⟨drumEntry, drumEntry.functions[0], 0⟩ := by
    decide
  obtain rfl : o = p := (honly o ho).trans (honly p hp.1.1).symm
  exact Except.ok.inj (hb.symm.trans hc) ▸ hemit

/-- An object with two functions of one symbol. The first by name is of a kind that needs an emitter. -/
def mixerEntry : TypeEntry where
  name := "Mixer"
  kind := .object
  functions := [
    { name := "attach", symbol? := some "Mixer_run", subjectKind? := some "Custom",
      callable? := some .host },
    { name := "run", callable? := some .host }]

def mixer : TypeMap := ⟨[mixerEntry], by decide⟩

def mixerModule : Module := .ofTypes "mixer" [mixerEntry]

def attachInMixer : Occurrence := ⟨mixerEntry, mixerEntry.functions[0], 0⟩

def runInMixer : Occurrence := ⟨mixerEntry, mixerEntry.functions[1], 1⟩

/-- The binding of the function that needs an emitter. -/
def attachBinding : FunctionBinding where
  name := "attach"
  symbol := "Mixer_run"
  signature := "void Mixer_run(void)"
  isStated := false
  owner := "Mixer"
  module := "mixer"
  subjectKind := "Custom"
  family := .custom
  isStatic := false
  handleParam? := none
  params := []
  returnType := .void
  returnCType := "void"
  doc := ""

/-- The binding of the other one. -/
def runBinding : FunctionBinding where
  name := "run"
  symbol := "Mixer_run"
  signature := "void Mixer_run(DomBind_Handle* self)"
  isStated := false
  owner := "Mixer"
  module := "mixer"
  subjectKind := "Object"
  family := .methodTable
  isStatic := false
  handleParam? := some "self"
  params := []
  returnType := .void
  returnCType := "void"
  doc := ""

theorem modules_mixer : mixer.modules = [mixerModule] := by decide +kernel

theorem hasHeader_mixer : plain.HasHeader mixer mixerModule := by
  refine ⟨by decide, List.any_eq_true.2 ⟨mixerEntry, by decide, ?_⟩⟩
  rw [type?_isSome_iff (by decide)]
  decide

theorem isFirst_attach : IsFirst mixer plain.catalog "Mixer_run" attachInMixer := by
  refine ⟨⟨by decide, attachBinding, by decide +kernel, rfl⟩, fun p hp _ _ _ => ?_⟩
  have hall : ∀ p ∈ occurrences mixer plain.catalog, p = attachInMixer ∨ p = runInMixer := by decide
  refine (hall p hp).imp_right fun e => ?_
  rw [e]
  exact .inr ⟨⟨rfl, rfl⟩, .inl (by decide)⟩

theorem not_canEmit_attach : ¬ plain.CanEmit mixer attachBinding := by
  rintro ⟨-, m, -, -, subject, -, text, htext⟩
  have hnone : Source.emit plain.emitters mixer m subject attachBinding =
      .error (.noCustomEmitter "Custom" "Mixer_run") := rfl
  rw [hnone] at htext
  cases htext

theorem canEmit_run : plain.CanEmit mixer runBinding := by
  have hlisted : ((plain.built mixer).type? "Mixer").isSome = true :=
    (type?_isSome_iff (t := mixerEntry) (by decide)).2 (by decide)
  obtain ⟨subject, hsubject⟩ := Option.isSome_iff_exists.1 hlisted
  refine ⟨by decide, mixerModule, ?_, rfl, subject, hsubject, _, rfl⟩
  rw [modules_mixer]
  exact List.mem_cons_self

theorem completes_mixer : (plain.generate mixer mixer .empty).1.toOption.isSome = true := by
  change ((plain.planIn ⟨.ofText "include", .ofText "src"⟩ mixer mixer).execute .empty).1.toOption.isSome
    = true
  rw [Plan.execute_eq, outputs_planIn, modules_mixer, List.flatMap_singleton, outputs_modulePart,
    if_pos hasHeader_mixer]
  -- Whether there is a source does not matter: the files can be written either way.
  by_cases hnone : plain.definitions mixer mixerModule = []
  · rw [if_pos hnone]
    decide +kernel
  · rw [if_neg hnone]
    decide +kernel

/-- The run completes. The second function can be bound and given a body, and still the manifest that
is written has no function with the symbol: the second function gave way to the first, which is left
out for want of an emitter. -/
theorem written_symbols_miss_run :
    ∃ report files, plain.generate mixer mixer .empty = (.ok report, files) ∧
      runInMixer ∈ occurrences mixer plain.catalog ∧
      runInMixer.bound mixer plain.catalog = .ok runBinding ∧ plain.CanEmit mixer runBinding ∧
      (∀ f ∈ (plain.finalManifest ⟨.ofText "include", .ofText "src"⟩ mixer mixer).functions,
        f.symbol ≠ runBinding.symbol) ∧
      ¬ KeepsEmittable plain ⟨.ofText "include", .ofText "src"⟩ mixer mixer := by
  have hmem : runInMixer ∈ occurrences mixer plain.catalog := by decide
  have hbound : runInMixer.bound mixer plain.catalog = .ok runBinding := by decide +kernel
  have hlost : ∀ f ∈ (plain.finalManifest ⟨.ofText "include", .ofText "src"⟩ mixer mixer).functions,
      f.symbol ≠ runBinding.symbol := by
    intro f hf hsymbol
    obtain ⟨o, b, hfirst, hb, hemit⟩ := exists_symbol_iff.1 ⟨f, hf, hsymbol⟩
    have hattach : attachInMixer.bound mixer plain.catalog = .ok attachBinding := by decide +kernel
    have hsame := (firstOf_of_isFirst hfirst hb).symm.trans (firstOf_of_isFirst isFirst_attach hattach)
    cases hsame
    exact not_canEmit_attach hemit
  obtain ⟨report, files, hrun⟩ := exists_report completes_mixer
  refine ⟨report, files, hrun, hmem, hbound, canEmit_run, hlost, fun h => ?_⟩
  obtain ⟨f, hf, hsymbol⟩ := h runInMixer hmem runBinding hbound canEmit_run
  exact hlost f hf hsymbol

end Bindery.CApi
