import Bindery.Generate.Plan
import Bindery.Proofs.Files.Writing
/-!
Making directories. It only adds directories: those that were there stay, and so do the files with
their texts. What was made once is found when it is to be made again, in any store that has at least
the directories left then; so making it again succeeds and changes nothing.
-/

namespace Bindery.FileStore

/-- Whether a store has the directories of another, and is of the same machine. -/
structure KeepsDirectories (s s' : FileStore) : Prop where
  machine : s'.machine = s.machine
  directory : ∀ place, s.get? place = some .directory → s'.get? place = some .directory

/-- Whether a store has the files of another and at least its directories. -/
structure AddsDirectories (s s' : FileStore) : Prop extends KeepsDirectories s s' where
  file : ∀ place text, s'.get? place = some (.file text) ↔ s.get? place = some (.file text)

variable {s s₁ s₂ : FileStore}

theorem KeepsDirectories.trans (h : KeepsDirectories s s₁) (h' : KeepsDirectories s₁ s₂) :
    KeepsDirectories s s₂ where
  machine := h'.machine.trans h.machine
  directory place hplace := h'.directory place (h.directory place hplace)

theorem KeepsDirectories.look_eq_directory (h : KeepsDirectories s s₁) {here : Place} {name : String}
    (hlook : s.look here name = .directory) : s₁.look here name = .directory := by
  rw [FileStore.look_eq_directory] at hlook ⊢
  obtain ⟨hopen, hnull, hdir⟩ := hlook
  exact ⟨isOpen_congr h.machine ▸ hopen, hnull, h.directory _ hdir⟩

/-- A way that leads to a directory still does. -/
theorem KeepsDirectories.enter {d : Place} (h : KeepsDirectories s s₁) {here : Place}
    {segments : List String} (henter : s.enter here segments = some d) :
    s₁.enter here segments = some d := by
  fun_induction FileStore.enter s here segments with
  | case1 here => exact henter
  | case2 here segment rest hidle ih => rw [FileStore.enter, if_pos hidle, ih henter]
  | case3 here rest hidle ih => rw [FileStore.enter, if_neg hidle, if_pos rfl, ih henter]
  | case4 here segment rest hidle hup hdir ih =>
    rw [FileStore.enter, if_neg hidle, if_neg hup, h.look_eq_directory hdir]
    exact ih henter
  | case5 here => cases henter

theorem KeepsDirectories.slot? (h : KeepsDirectories s s₁) {d : Path} {name : String} {place : Place}
    (hslot : s.slot? d name = some place) : s₁.slot? d name = some place := by
  rw [FileStore.slot?] at hslot ⊢
  rw [admits_congr h.machine, start_congr h.machine, isOpen_congr h.machine]
  split at hslot
  · rename_i hadmits
    obtain ⟨here, hhere, rfl⟩ := Option.map_eq_some_iff.1 hslot
    obtain ⟨henter, hopen⟩ := Option.filter_eq_some_iff.1 hhere
    rw [if_pos hadmits, h.enter henter, Option.filter_some, if_pos hopen, Option.map_some]
  · cases hslot

theorem SameDirectories.keeps (h : SameDirectories s s₁) : KeepsDirectories s s₁ where
  machine := h.machine
  directory place := (h.directory place).2

theorem AddsDirectories.refl (s : FileStore) : AddsDirectories s s where
  machine := rfl
  directory _ h := h
  file _ _ := .rfl

theorem AddsDirectories.trans (h : AddsDirectories s s₁) (h' : AddsDirectories s₁ s₂) :
    AddsDirectories s s₂ where
  toKeepsDirectories := h.toKeepsDirectories.trans h'.toKeepsDirectories
  file place text := (h'.file place text).trans (h.file place text)

theorem AddsDirectories.textAt?_eq (h : AddsDirectories s s₁) (place : Place) :
    s₁.textAt? place = s.textAt? place := by
  have hiff (text : String) : s₁.textAt? place = some text ↔ s.textAt? place = some text := by
    rw [textAt?_eq_some, textAt?_eq_some, h.file]
  exact Option.ext hiff

/-- A file that there was reads as it did. -/
theorem AddsDirectories.read?_join (h : AddsDirectories s s₁) {d : Path} {name text : String}
    (hname : IsFileName name) (hread : s.read? (d.join name) = some text) :
    s₁.read? (d.join name) = some text := by
  rw [FileStore.read?_join s d hname] at hread
  obtain ⟨place, hslot, htext⟩ := Option.bind_eq_some_iff.1 hread
  rw [FileStore.read?_join s₁ d hname, h.slot? hslot, Option.bind_some, h.textAt?_eq, htext]

/-- A new directory where nothing was. -/
theorem addsDirectories_set {place : Place} (hp : place ≠ []) (hfree : s.get? place = none) :
    AddsDirectories s (s.set place .directory) where
  machine := rfl
  directory other hother := by
    rw [get?_set s hp]
    split
    · rfl
    · exact hother
  file other text := by
    rw [get?_set s hp]
    split
    · rename_i e
      rw [e, hfree]
      simp
    · rfl

theorem look_eq_vacant {here place : Place} {name : String} (h : s.look here name = .vacant place) :
    s.isOpen here name = true ∧ here ++ [name] ≠ nullDevice ∧ s.get? (here ++ [name]) = none ∧
      place = here ++ [name] := by
  rw [look] at h
  split at h
  · cases h
  · rename_i hopen
    split at h
    · cases h
    · rename_i hnull
      rw [targetAt] at h
      split at h
      · cases h
      · cases h
      · rename_i hget
        cases h
        exact ⟨by simpa using hopen, hnull, hget, rfl⟩

/-- A directory that was made where a name led to nothing is what the name leads to then. -/
theorem look_set_directory {here place : Place} {name : String}
    (h : s.look here name = .vacant place) :
    (s.set place .directory).look here name = .directory := by
  obtain ⟨hopen, hnull, -, rfl⟩ := look_eq_vacant h
  exact look_eq_directory.2 ⟨hopen, hnull, by rw [get?_set s (by simp), if_pos rfl]⟩

/-- Making directories adds some. Only where a name leads to nothing does the store change. -/
theorem makeFrom_adds (s : FileStore) (here : Place) (segments : List String) :
    AddsDirectories s (s.makeFrom here segments).2 := by
  fun_induction makeFrom s here segments with
  | case1 s here => exact .refl s
  | case2 s here segment rest hidle ih => exact ih
  | case3 s here rest hidle ih => exact ih
  | case4 s here segment rest hidle hup hdir ih => exact ih
  | case5 s here => exact .refl s
  | case6 s here segment rest hidle hup place hvacant hmade ih =>
    obtain ⟨-, -, hnone, rfl⟩ := look_eq_vacant hvacant
    exact (addsDirectories_set (by simp) hnone).trans ih
  | case7 s here => exact .refl s

/-- What the segments name is there after it was made, also in a store that has more directories. -/
theorem makeFrom_again {here : Place} {segments : List String}
    (h : (s.makeFrom here segments).1 = true)
    (hkeeps : KeepsDirectories (s.makeFrom here segments).2 s₂) :
    s₂.makeFrom here segments = (true, s₂) := by
  fun_induction makeFrom s here segments with
  | case1 s here => rfl
  | case2 s here segment rest hidle ih =>
    rw [makeFrom, if_pos hidle, ih h hkeeps]
  | case3 s here rest hidle ih =>
    rw [makeFrom, if_neg hidle, if_pos rfl, ih h hkeeps]
  | case4 s here segment rest hidle hup hdir ih =>
    have hthere : s₂.look here segment = .directory :=
      ((makeFrom_adds s (here ++ [segment]) rest).toKeepsDirectories.trans hkeeps).look_eq_directory hdir
    rw [makeFrom, if_neg hidle, if_neg hup, hthere]
    exact ih h hkeeps
  | case5 s here => cases h
  | case6 s here segment rest hidle hup place hvacant hmade ih =>
    have hthere : s₂.look here segment = .directory :=
      ((makeFrom_adds _ place rest).toKeepsDirectories.trans hkeeps).look_eq_directory
        (look_set_directory hvacant)
    obtain ⟨-, -, -, rfl⟩ := look_eq_vacant hvacant
    rw [makeFrom, if_neg hidle, if_neg hup, hthere]
    exact ih h hkeeps
  | case7 s here => cases h

theorem makeDirectory_adds (s : FileStore) (p : Path) : AddsDirectories s (s.makeDirectory p).2 := by
  rw [makeDirectory]
  split
  · exact makeFrom_adds s _ p.segments
  · exact .refl s

theorem makeDirectory_again {p : Path} (h : s.makeDirectory p = (true, s₁))
    (hkeeps : KeepsDirectories s₁ s₂) : s₂.makeDirectory p = (true, s₂) := by
  have hadds := makeDirectory_adds s p
  rw [h] at hadds
  have hmachine : s₂.machine = s.machine := (hadds.toKeepsDirectories.trans hkeeps).machine
  rw [makeDirectory] at h
  split at h
  · rename_i hadmits
    rw [makeDirectory, admits_congr hmachine, start_congr hmachine, if_pos hadmits]
    exact makeFrom_again (by rw [h]) (by rwa [h])
  · cases h

end Bindery.FileStore

namespace Bindery.Plan

open FileStore (AddsDirectories KeepsDirectories makeDirectory_adds makeDirectory_again)

/-- Making directories adds some, whether or not all of them can be made. -/
theorem addsDirectories_makeDirectories : ∀ (ps : List Path) (s : FileStore),
    AddsDirectories s (makeDirectories s ps).2
  | [], s => .refl s
  | p :: ps, s => by
    have hadds := makeDirectory_adds s p
    rw [makeDirectories_cons]
    split
    · rename_i s' hp
      rw [hp] at hadds
      exact hadds.trans (addsDirectories_makeDirectories ps s')
    · rename_i s' hp
      rw [hp] at hadds
      exact hadds

theorem makeDirectories_adds {ps : List Path} {s s₁ : FileStore}
    (h : makeDirectories s ps = (.ok (), s₁)) : AddsDirectories s s₁ := by
  have hadds := addsDirectories_makeDirectories ps s
  rwa [h] at hadds

/-- Directories are made up to one that cannot be. -/
theorem makeDirectories_eq_error {e : GenerationError} : ∀ {ps : List Path} {s s₁ : FileStore},
    makeDirectories s ps = (.error e, s₁) → ∃ p ∈ ps, e = .createDir p
  | [], _, _, h => by cases h
  | p :: ps, s, s₁, h => by
    rw [makeDirectories_cons] at h
    split at h
    · obtain ⟨q, hq, he⟩ := makeDirectories_eq_error h
      exact ⟨q, .tail _ hq, he⟩
    · cases h
      exact ⟨p, List.mem_cons_self, rfl⟩

/-- The first directory that cannot be made stops the making. -/
theorem makeDirectories_of_unmade {p : Path} {rest : List Path} : ∀ {done : List Path}
    {s s₁ s₂ : FileStore}, makeDirectories s done = (.ok (), s₁) → s₁.makeDirectory p = (false, s₂) →
      makeDirectories s (done ++ p :: rest) = (.error (.createDir p), s₂)
  | [], _, _, _, h, hp => by
    cases h
    rw [List.nil_append, makeDirectories_cons, hp]
  | q :: done, s, s₁, s₂, h, hp => by
    rw [makeDirectories_cons] at h
    split at h
    · rename_i s' hq
      rw [List.cons_append, makeDirectories_cons, hq]
      exact makeDirectories_of_unmade h hp
    · cases h

/-- Directories that were made are there in any store that has kept them. -/
theorem makeDirectories_again : ∀ {ps : List Path} {s s₁ s₂ : FileStore},
    makeDirectories s ps = (.ok (), s₁) → KeepsDirectories s₁ s₂ →
      makeDirectories s₂ ps = (.ok (), s₂)
  | [], _, _, _, _, _ => rfl
  | p :: ps, s, s₁, s₂, h, hkeeps => by
    rw [makeDirectories_cons] at h
    split at h
    · rename_i s' hp
      have hp₂ : s₂.makeDirectory p = (true, s₂) :=
        makeDirectory_again hp ((makeDirectories_adds h).toKeepsDirectories.trans hkeeps)
      rw [makeDirectories_cons, hp₂]
      exact makeDirectories_again h hkeeps
    · cases h

end Bindery.Plan
