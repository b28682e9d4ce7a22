import Bindery.Files.Operations
/-!
Writing the files of a plan. The file `name` of a directory is kept at one place, its slot, that the
directory's path leads to. Writing a file changes what is at its slot and nothing else; in particular
all directories stay, so the slots of the other files stay too. Files of different names have
different slots whatever directories they are in, even where two paths lead to one directory. Hence a
file that was written reads as it was written, files of other names read as before, and a file is left
alone exactly if it reads as it is to be.
-/

namespace Bindery

/-- A name that a file has in its directory: it has no slash, it is not one of the segments that stay
or go up, and it is not the name of the device that keeps nothing. -/
structure IsFileName (name : String) : Prop where
  noSlash : '/' ∉ name.toList
  notIdle : Path.isIdle name = false
  notUp : name ≠ ".."
  notNull : name ≠ "null"

namespace Path

theorem segments_join (d : Path) {name : String} (h : IsFileName name) :
    (d.join name).segments = withoutTrailing d.segments ++ [name] := by
  have hrel : isAbsolute name = false := by
    rw [isAbsolute, decide_eq_false_iff_not]
    intro e
    exact h.noSlash (List.mem_of_head? e)
  have hone : (ofText name).segments = [name] := by
    have hsplit : name.toList.splitOnP (fun c => decide (c = '/')) = [name.toList] := by
      refine List.splitOnP_eq_singleton ?_
      intro c hc
      rw [decide_eq_false_iff_not]
      intro e
      exact h.noSlash (e ▸ hc)
    rw [ofText, hsplit, List.map_cons, List.map_nil, String.ofList_toList]
  simp [join, hrel, hone]

end Path

namespace FileStore

/-- The directory that segments lead to from `here`. -/
def enter (s : FileStore) (here : Place) : List String → Option Place
  | [] => some here
  | segment :: rest =>
    if Path.isIdle segment then s.enter here rest
    else if segment = ".." then s.enter here.dropLast rest
    else match s.look here segment with
      | .directory => s.enter (here ++ [segment]) rest
      | _ => none

theorem look_eq_directory {s : FileStore} {here : Place} {name : String} :
    s.look here name = .directory ↔
      s.isOpen here name = true ∧ here ++ [name] ≠ nullDevice ∧
        s.get? (here ++ [name]) = some .directory := by
  rw [look]
  cases s.isOpen here name with
  | false => simp
  | true =>
    by_cases hnull : here ++ [name] = nullDevice
    · simp [hnull]
    · rw [Bool.not_true, if_neg Bool.false_ne_true, if_neg hnull, targetAt]
      split <;> simp_all

/-- What the name of a file leads to is what is at its place. -/
theorem look_of_isFileName {s : FileStore} {here : Place} {name : String} (h : IsFileName name) :
    s.look here name = if s.isOpen here name then s.targetAt (here ++ [name]) else .unreachable := by
  have hne : here ++ [name] ≠ nullDevice := by
    intro e
    have hlast := congrArg List.getLast? e
    rw [List.getLast?_concat] at hlast
    exact h.notNull (Option.some.inj hlast)
  rw [look, if_neg hne]
  cases s.isOpen here name <;> rfl

/-- A path to a file enters its directory and looks for the file's name there. -/
theorem follow_concat (s : FileStore) {name : String} (h : IsFileName name) (segments : List String)
    (here : Place) :
    s.follow here (segments ++ [name]) =
      match s.enter here segments with
      | none => .unreachable
      | some d => s.look d name := by
  induction segments generalizing here with
  | nil =>
    rw [List.nil_append, follow, h.notIdle, if_neg Bool.false_ne_true, if_neg h.notUp]
    cases hlook : s.look here name <;> simp [enter, follow, hlook]
  | cons segment rest ih =>
    rw [List.cons_append, follow, enter]
    by_cases hidle : Path.isIdle segment = true
    · rw [if_pos hidle, if_pos hidle, ih]
    · rw [if_neg hidle, if_neg hidle]
      by_cases hup : segment = ".."
      · rw [if_pos hup, if_pos hup, ih]
      · rw [if_neg hup, if_neg hup]
        cases s.look here segment with
        | directory => exact ih _
        | _ => simp

/-- The place of the file `name` of a directory, if there can be such a file. -/
def slot? (s : FileStore) (d : Path) (name : String) : Option Place :=
  if s.admits (d.join name) then
    ((s.enter (s.start (d.join name)) (Path.withoutTrailing d.segments)).filter (s.isOpen · name)).map
      (· ++ [name])
  else none

theorem target_join (s : FileStore) (d : Path) {name : String} (h : IsFileName name) :
    s.target (d.join name) =
      match s.slot? d name with
      | none => .unreachable
      | some place => s.targetAt place := by
  rw [target, slot?, Path.segments_join d h, follow_concat s h]
  cases s.admits (d.join name) with
  | false => rfl
  | true =>
    cases s.enter (s.start (d.join name)) (Path.withoutTrailing d.segments) with
    | none => rfl
    | some here =>
      simp only [look_of_isFileName h, if_true, Option.filter_some]
      cases s.isOpen here name <;> rfl

/-- A slot ends in the name of its file. -/
theorem slot?_eq_some {s : FileStore} {d : Path} {name : String} {place : Place}
    (h : s.slot? d name = some place) : ∃ parent, place = parent ++ [name] := by
  unfold slot? at h
  split at h
  · obtain ⟨parent, -, rfl⟩ := Option.map_eq_some_iff.1 h
    exact ⟨parent, rfl⟩
  · cases h

/-! ### What writing leaves alone -/

/-- Whether two stores have the same directories, and are of one machine. -/
structure SameDirectories (s s' : FileStore) : Prop where
  machine : s'.machine = s.machine
  directory : ∀ place, s'.get? place = some .directory ↔ s.get? place = some .directory

theorem SameDirectories.refl (s : FileStore) : SameDirectories s s := ⟨rfl, fun _ => .rfl⟩

theorem SameDirectories.trans {s s₁ s' : FileStore} (h : SameDirectories s s₁)
    (h' : SameDirectories s₁ s') : SameDirectories s s' where
  machine := h'.machine.trans h.machine
  directory place := (h'.directory place).trans (h.directory place)

theorem isOpen_congr {s s' : FileStore} (h : s'.machine = s.machine) : s'.isOpen = s.isOpen := by
  funext here name
  rw [isOpen, isOpen, h]

theorem admits_congr {s s' : FileStore} (h : s'.machine = s.machine) : s'.admits = s.admits := by
  funext p
  rw [admits, admits, h]

theorem start_congr {s s' : FileStore} (h : s'.machine = s.machine) : s'.start = s.start := by
  funext p
  rw [start, start, h]

theorem SameDirectories.look_eq_directory {s s' : FileStore} (h : SameDirectories s s') {here : Place}
    {name : String} : s'.look here name = .directory ↔ s.look here name = .directory := by
  rw [FileStore.look_eq_directory, FileStore.look_eq_directory, isOpen_congr h.machine, h.directory]

theorem SameDirectories.enter_eq {s s' : FileStore} (h : SameDirectories s s') :
    ∀ (segments : List String) (here : Place), s'.enter here segments = s.enter here segments
  | [], _ => rfl
  | segment :: rest, here => by
    have ih := h.enter_eq rest
    rw [enter, enter, ih here, ih here.dropLast]
    by_cases hdir : s.look here segment = .directory
    · rw [hdir, h.look_eq_directory.2 hdir, ih]
    · have hdir' : s'.look here segment ≠ .directory := mt h.look_eq_directory.1 hdir
      congr 2
      cases hlook : s.look here segment with
      | directory => exact absurd hlook hdir
      | _ =>
        cases hlook' : s'.look here segment with
        | directory => exact absurd hlook' hdir'
        | _ => rfl

theorem SameDirectories.slot?_eq {s s' : FileStore} (h : SameDirectories s s') (d : Path)
    (name : String) : s'.slot? d name = s.slot? d name := by
  rw [slot?, slot?, h.enter_eq, admits_congr h.machine, start_congr h.machine, isOpen_congr h.machine]

/-- The text of the file at a place. -/
def textAt? (s : FileStore) (place : Place) : Option String :=
  match s.get? place with
  | some (.file text) => some text
  | _ => none

theorem textAt?_eq_some {s : FileStore} {place : Place} {text : String} :
    s.textAt? place = some text ↔ s.get? place = some (.file text) := by
  unfold textAt?
  split <;> simp_all

/-- Reading a file gives the text at its slot. -/
theorem read?_join (s : FileStore) (d : Path) {name : String} (h : IsFileName name) :
    s.read? (d.join name) = (s.slot? d name).bind s.textAt? := by
  rw [read?, target_join s d h]
  cases hslot : s.slot? d name with
  | none => rfl
  | some place =>
    dsimp only [Option.bind_some]
    rw [targetAt, textAt?]
    cases s.get? place with
    | none => rfl
    | some node => cases node <;> rfl

/-- The path of a file that reads leads to its slot. -/
theorem target_of_read? {s : FileStore} {d : Path} {name text : String} (hname : IsFileName name)
    (h : s.read? (d.join name) = some text) :
    ∃ place, s.slot? d name = some place ∧ s.target (d.join name) = .file place text := by
  rw [read?_join s d hname, Option.bind_eq_some_iff] at h
  obtain ⟨place, hslot, htext⟩ := h
  refine ⟨place, hslot, ?_⟩
  rw [target_join s d hname, hslot]
  dsimp only
  rw [targetAt, textAt?_eq_some.1 htext]

/-- The place that the path of a file leads to is its slot. -/
theorem slot?_of_target {s : FileStore} {d : Path} {name text : String} {place : Place}
    (hname : IsFileName name) (h : s.target (d.join name) = .file place text) :
    s.slot? d name = some place := by
  obtain ⟨slot, hslot, htarget⟩ := target_of_read? hname (by rw [read?, h])
  rw [h] at htarget
  obtain ⟨rfl, -⟩ := Target.file.inj htarget
  exact hslot

/-- What the path of a file leads to is what is there. -/
theorem textAt?_of_target {s : FileStore} {d : Path} {name text : String} {place : Place}
    (hname : IsFileName name) (h : s.target (d.join name) = .file place text) :
    s.textAt? place = some text := by
  have hread : s.read? (d.join name) = some text := by rw [read?, h]
  rwa [read?_join s d hname, slot?_of_target hname h, Option.bind_some] at hread

/-- Putting a file in place of another, or of nothing, keeps all directories. -/
theorem sameDirectories_set {s : FileStore} {place : Place} (hp : place ≠ []) (text : String)
    (hfree : s.get? place ≠ some .directory) : SameDirectories s (s.set place (.file text)) where
  machine := rfl
  directory := by
    intro other
    rw [get?_set s hp]
    split
    · rename_i e
      subst e
      simp [hfree]
    · rfl

/-- What is not refused is put at its place. -/
theorem eq_of_not_refused {s s' : FileStore} {place : Place} {node : Node} {outcome : Outcome}
    (hw : (if s.refuses place node then (Outcome.failed, s) else (.written, s.set place node)) =
      (outcome, s')) (hok : outcome ≠ .failed) : outcome = .written ∧ s' = s.set place node := by
  split at hw
  · cases hw
    exact absurd rfl hok
  · cases hw
    exact ⟨rfl, rfl⟩

/-- What a write that does not fail does: the slot of the file holds the text afterwards, all else is
as before, and so are the directories. -/
theorem write_join {s s' : FileStore} {d : Path} {name text : String} {outcome : Outcome}
    (h : IsFileName name) (hw : s.write (d.join name) text = (outcome, s'))
    (hok : outcome ≠ .failed) :
    ∃ place, s.slot? d name = some place ∧ s'.get? place = some (.file text) ∧
      (∀ other, other ≠ place → s'.get? other = s.get? other) ∧ SameDirectories s s' := by
  rw [write_eq, target_join s d h] at hw
  cases hslot : s.slot? d name with
  | none =>
    rw [hslot] at hw
    cases hw
    exact absurd rfl hok
  | some place =>
    obtain ⟨parent, hparent⟩ := slot?_eq_some hslot
    have hp : place ≠ [] := by simp [hparent]
    have hset (hfree : s.get? place ≠ some .directory)
        (hw : (if s.refuses place (.file text) then (Outcome.failed, s)
          else (.written, s.set place (.file text))) = (outcome, s')) :
        s'.get? place = some (.file text) ∧
          (∀ other, other ≠ place → s'.get? other = s.get? other) ∧ SameDirectories s s' := by
      obtain ⟨-, rfl⟩ := eq_of_not_refused hw hok
      refine ⟨by rw [get?_set s hp, if_pos rfl], ?_, sameDirectories_set hp text hfree⟩
      intro other hne
      rw [get?_set s hp, if_neg hne]
    rw [hslot] at hw
    simp only [targetAt] at hw
    refine ⟨place, rfl, ?_⟩
    cases hget : s.get? place with
    | none =>
      rw [hget] at hw
      exact hset (by simp [hget]) hw
    | some node =>
      cases node with
      | directory =>
        rw [hget] at hw
        cases hw
        exact absurd rfl hok
      | file old =>
        rw [hget] at hw
        simp only at hw
        by_cases hsame : old = text
        · rw [if_pos hsame] at hw
          cases hw
          exact ⟨by rw [hget, hsame], fun _ _ => rfl, .refl s⟩
        · rw [if_neg hsame] at hw
          exact hset (by simp [hget]) hw

/-- A write that does not fail leaves a file alone exactly if it reads as it is to be. -/
theorem write_outcome {s s' : FileStore} {p : Path} {text : String} {outcome : Outcome}
    (hw : s.write p text = (outcome, s')) (hok : outcome ≠ .failed) :
    outcome = if s.read? p = some text then .unchanged else .written := by
  rw [write_eq] at hw
  rw [read?]
  cases htarget : s.target p with
  | file place old =>
    rw [htarget] at hw
    by_cases hsame : old = text
    · obtain ⟨rfl, -⟩ := Prod.mk.inj ((if_pos hsame).symm.trans hw)
      simp [hsame]
    · obtain ⟨rfl, -⟩ := eq_of_not_refused ((if_neg hsame).symm.trans hw) hok
      simp [hsame]
  | vacant place =>
    rw [htarget] at hw
    obtain ⟨rfl, -⟩ := eq_of_not_refused hw hok
    simp
  | sink =>
    rw [htarget] at hw
    obtain ⟨rfl, -⟩ := Prod.mk.inj hw
    simp [eq_comm]
  | _ =>
    rw [htarget] at hw
    cases hw
    exact absurd rfl hok

/-- A file that reads as it is to be is not written again. -/
theorem write_of_read? {s : FileStore} {p : Path} {text : String} (h : s.read? p = some text) :
    s.write p text = (.unchanged, s) := by
  rw [read?] at h
  rw [write_eq]
  cases htarget : s.target p with
  | file place old =>
    rw [htarget] at h
    exact if_pos (Option.some.inj h)
  | sink =>
    rw [htarget] at h
    obtain rfl : "" = text := Option.some.inj h
    rfl
  | _ =>
    rw [htarget] at h
    cases h

theorem write_failed {s s' : FileStore} {p : Path} {text : String}
    (hw : s.write p text = (.failed, s')) : s' = s := by
  rw [write_eq] at hw
  split at hw <;> (repeat' split at hw) <;> cases hw <;> rfl

/-- A file reads as it was written. -/
theorem read?_write {s s' : FileStore} {d : Path} {name text : String} {outcome : Outcome}
    (h : IsFileName name) (hw : s.write (d.join name) text = (outcome, s'))
    (hok : outcome ≠ .failed) : s'.read? (d.join name) = some text := by
  obtain ⟨place, hslot, hget, -, hdirs⟩ := write_join h hw hok
  rw [read?_join s' d h, hdirs.slot?_eq, hslot]
  change s'.textAt? place = some text
  rw [textAt?, hget]

/-- Only files of one name can be at one place. -/
theorem name_eq_of_target {s : FileStore} {d e : Path} {name other text old : String} {place : Place}
    (h : IsFileName name) (hother : IsFileName other) (ht : s.target (d.join name) = .file place text)
    (ht' : s.target (e.join other) = .file place old) : name = other := by
  obtain ⟨parent, rfl⟩ := slot?_eq_some (slot?_of_target h ht)
  obtain ⟨parent', hplace⟩ := slot?_eq_some (slot?_of_target hother ht')
  simpa using List.append_inj_right' hplace rfl

/-- The path of a file leads to what is at its slot. -/
theorem target_of_slot? {s : FileStore} {d : Path} {name text : String} {place : Place}
    (h : IsFileName name) (hslot : s.slot? d name = some place)
    (hget : s.get? place = some (.file text)) : s.target (d.join name) = .file place text := by
  rw [target_join s d h, hslot]
  dsimp only
  rw [targetAt, hget]

/-- Writing a file leaves a file alone that there was, unless its path leads to the same place. -/
theorem read?_write_join {s s' : FileStore} {d e : Path} {name other text old : String}
    {outcome : Outcome} (h : IsFileName name) (hother : IsFileName other)
    (hw : s.write (d.join name) text = (outcome, s')) (hok : outcome ≠ .failed)
    (hread : s.read? (e.join other) = some old) :
    s'.read? (e.join other) =
      if s'.target (e.join other) = s'.target (d.join name) then some text else some old := by
  obtain ⟨place, hslot, hget, hsame, hdirs⟩ := write_join h hw hok
  obtain ⟨place', hslot', htarget⟩ := target_of_read? hother hread
  rw [← hdirs.slot?_eq] at hslot hslot'
  rw [target_of_slot? h hslot hget]
  by_cases hplace : place' = place
  · subst hplace
    rw [if_pos (target_of_slot? hother hslot' hget), read?, target_of_slot? hother hslot' hget]
  · have hold : s'.get? place' = some (.file old) := by
      rw [hsame place' hplace]
      exact textAt?_eq_some.1 (textAt?_of_target hother htarget)
    rw [read?, target_of_slot? hother hslot' hold, if_neg]
    intro e
    exact hplace (Target.file.inj e).1

/-- Writing a file leaves the files of other names alone, whatever directories they are in. -/
theorem read?_write_of_ne {s s' : FileStore} {d e : Path} {name other text : String}
    {outcome : Outcome} (h : IsFileName name) (hother : IsFileName other) (hne : other ≠ name)
    (hw : s.write (d.join name) text = (outcome, s')) :
    s'.read? (e.join other) = s.read? (e.join other) := by
  by_cases hok : outcome = .failed
  · subst hok
    rw [write_failed hw]
  · obtain ⟨place, hslot, -, hsame, hdirs⟩ := write_join h hw hok
    obtain ⟨parent, rfl⟩ := slot?_eq_some hslot
    rw [read?_join s' e hother, read?_join s e hother, hdirs.slot?_eq]
    cases hslot' : s.slot? e other with
    | none => rfl
    | some place' =>
      obtain ⟨parent', rfl⟩ := slot?_eq_some hslot'
      change s'.textAt? _ = s.textAt? _
      have hget : s'.get? (parent' ++ [other]) = s.get? (parent' ++ [other]) := by
        refine hsame _ fun hplace => hne ?_
        simpa using List.append_inj_right' hplace rfl
      rw [textAt?, textAt?, hget]

end FileStore

end Bindery
