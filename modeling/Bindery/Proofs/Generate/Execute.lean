import Bindery.Generate.Plan
import Bindery.Proofs.Files.Writing
/-!
Carrying out a plan. A run that completes has made all directories and written all files, one after
the other, and its report has one line for each file. If no two files have the same name, what was
written first is still there at the end: a later file has another slot. The report then tells the files
that held their texts before any was written from the others.
-/

namespace Bindery

/-- The report after one more file. -/
def Report.note (r : Report) (p : Path) : FileStore.Outcome → Report
  | .written => { r with written := r.written ++ [p] }
  | .unchanged => { r with unchanged := r.unchanged ++ [p] }
  | .failed => r

/-- The name of an output in its directory. -/
def Output.fileName (o : Output) : String := o.path.segments.getLast?.getD ""

/-- Whether the path of an output is that of a file in some directory. -/
def Output.IsPlaced (o : Output) : Prop :=
  IsFileName o.fileName ∧ ∃ d : Path, o.path = d.join o.fileName

theorem Output.fileName_join (d : Path) {name : String} (h : IsFileName name) (text : String) :
    (⟨d.join name, text⟩ : Output).fileName = name := by
  rw [fileName, Path.segments_join d h, List.getLast?_concat]
  rfl

theorem Output.isPlaced_join (d : Path) {name : String} (h : IsFileName name) (text : String) :
    (⟨d.join name, text⟩ : Output).IsPlaced := by
  rw [IsPlaced, fileName_join d h]
  exact ⟨h, d, rfl⟩

namespace Plan

variable {r report : Report} {s s' : FileStore}

/-- The first of some files is written and noted, then the others. -/
theorem writeOutputs_cons {o : Output} {os : List Output}
    (h : writeOutputs r s (o :: os) = (.ok report, s')) :
    ∃ outcome s₁, s.write o.path o.text = (outcome, s₁) ∧ outcome ≠ .failed ∧
      writeOutputs (r.note o.path outcome) s₁ os = (.ok report, s') := by
  rw [writeOutputs_cons_eq] at h
  split at h
  · rename_i s₁ hw
    exact ⟨.written, s₁, hw, by simp, h⟩
  · rename_i s₁ hw
    exact ⟨.unchanged, s₁, hw, by simp, h⟩
  · cases h

/-- A report of files has a line for each of them beside those it had before. -/
theorem writeOutputs_report : ∀ {os : List Output} {r : Report} {s : FileStore},
    writeOutputs r s os = (.ok report, s') →
      report.generator = r.generator ∧ report.errors = r.errors ∧
        report.files.Perm (r.files ++ os.map (·.path))
  | [], r, s, h => by
    cases h
    exact ⟨rfl, rfl, by simp⟩
  | o :: os, r, s, h => by
    obtain ⟨outcome, s₁, -, hok, hrest⟩ := writeOutputs_cons h
    obtain ⟨hgenerator, herrors, hfiles⟩ := writeOutputs_report hrest
    cases outcome with
    | failed => exact absurd rfl hok
    | written =>
      refine ⟨hgenerator, herrors, hfiles.trans ?_⟩
      simp only [Report.note, Report.files, List.append_assoc, List.map_cons, List.singleton_append]
      exact List.perm_middle.symm.append_left r.written
    | unchanged =>
      refine ⟨hgenerator, herrors, hfiles.trans ?_⟩
      simp [Report.note, Report.files]

/-- Writing files leaves a file of another name alone, also when it fails. -/
theorem read?_writeOutputs_snd {d : Path} {name : String} (hname : IsFileName name) :
    ∀ (os : List Output) (r : Report) (s : FileStore), (∀ o ∈ os, o.IsPlaced) →
      name ∉ os.map Output.fileName → (writeOutputs r s os).2.read? (d.join name) = s.read? (d.join name)
  | [], _, _, _, _ => rfl
  | o :: os, r, s, hplaced, hfresh => by
    rw [List.map_cons, List.mem_cons, not_or] at hfresh
    obtain ⟨ho, e, he⟩ := hplaced o List.mem_cons_self
    have hrest (r : Report) (s : FileStore) :
        (writeOutputs r s os).2.read? (d.join name) = s.read? (d.join name) :=
      read?_writeOutputs_snd hname os r s (fun p hp => hplaced p (.tail _ hp)) hfresh.2
    have hwrite {outcome : FileStore.Outcome} {s₁ : FileStore}
        (hw : s.write o.path o.text = (outcome, s₁)) :
        s₁.read? (d.join name) = s.read? (d.join name) :=
      FileStore.read?_write_of_ne ho hname hfresh.1 (he ▸ hw)
    rw [writeOutputs_cons_eq]
    split
    · rename_i hw
      rw [hrest, hwrite hw]
    · rename_i hw
      rw [hrest, hwrite hw]
    · rename_i hw
      exact hwrite hw

theorem read?_writeOutputs {d : Path} {name : String} (hname : IsFileName name) {os : List Output}
    (hplaced : ∀ o ∈ os, o.IsPlaced) (hfresh : name ∉ os.map Output.fileName)
    (h : writeOutputs r s os = (.ok report, s')) : s'.read? (d.join name) = s.read? (d.join name) := by
  rw [← read?_writeOutputs_snd hname os r s hplaced hfresh, h]

/-- Files of different names hold their texts once all of them are written. -/
theorem read?_of_writeOutputs : ∀ {os : List Output} {r : Report} {s : FileStore},
    (∀ o ∈ os, o.IsPlaced) → (os.map Output.fileName).Nodup →
      writeOutputs r s os = (.ok report, s') → ∀ o ∈ os, s'.read? o.path = some o.text
  | [], r, s, _, _, _ => by simp
  | o :: os, r, s, hplaced, hnodup, h => by
    obtain ⟨outcome, s₁, hw, hok, hrest⟩ := writeOutputs_cons h
    obtain ⟨hfresh, hnodup⟩ := List.nodup_cons.1 hnodup
    have hplaced' : ∀ p ∈ os, p.IsPlaced := fun p hp => hplaced p (List.mem_cons_of_mem _ hp)
    intro p hp
    rcases List.mem_cons.1 hp with rfl | hp
    · obtain ⟨hp, e, he⟩ := hplaced p List.mem_cons_self
      rw [he] at hw ⊢
      rw [read?_writeOutputs hp hplaced' hfresh hrest]
      exact FileStore.read?_write hp hw hok
    · exact read?_of_writeOutputs hplaced' hnodup hrest p hp

/-- The file that is written last holds its text, whatever was written before. -/
theorem read?_writeOutputs_last {o : Output} (ho : o.IsPlaced) :
    ∀ {os : List Output} {r : Report} {s : FileStore},
      writeOutputs r s (os ++ [o]) = (.ok report, s') → s'.read? o.path = some o.text
  | [], r, s, h => by
    obtain ⟨outcome, s₁, hw, hok, hrest⟩ := writeOutputs_cons h
    obtain ⟨hname, d, hpath⟩ := ho
    cases hrest
    rw [hpath] at hw ⊢
    exact FileStore.read?_write hname hw hok
  | p :: os, r, s, h => by
    obtain ⟨outcome, s₁, -, -, hrest⟩ := writeOutputs_cons h
    exact read?_writeOutputs_last ho hrest

theorem sameDirectories_writeOutputs : ∀ {os : List Output} {r : Report} {s : FileStore},
    (∀ o ∈ os, o.IsPlaced) → writeOutputs r s os = (.ok report, s') → FileStore.SameDirectories s s'
  | [], _, _, _, h => by
    cases h
    exact .refl _
  | o :: os, r, s, hplaced, h => by
    obtain ⟨outcome, s₁, hw, hok, hrest⟩ := writeOutputs_cons h
    obtain ⟨hname, d, hpath⟩ := hplaced o List.mem_cons_self
    rw [hpath] at hw
    obtain ⟨-, -, -, -, hdirs⟩ := FileStore.write_join hname hw hok
    exact hdirs.trans (sameDirectories_writeOutputs (fun p hp => hplaced p (.tail _ hp)) hrest)

/-- Writing files changes nothing but their slots. -/
theorem get?_writeOutputs {place : Place} : ∀ {os : List Output} {r : Report} {s : FileStore},
    (∀ o ∈ os, o.IsPlaced) →
      (∀ o ∈ os, ∀ d : Path, o.path = d.join o.fileName → s.slot? d o.fileName ≠ some place) →
        writeOutputs r s os = (.ok report, s') → s'.get? place = s.get? place
  | [], _, _, _, _, h => by
    cases h
    rfl
  | o :: os, r, s, hplaced, hother, h => by
    obtain ⟨outcome, s₁, hw, hok, hrest⟩ := writeOutputs_cons h
    obtain ⟨hname, d, hpath⟩ := hplaced o List.mem_cons_self
    rw [hpath] at hw
    obtain ⟨slot, hslot, -, hsame, hdirs⟩ := FileStore.write_join hname hw hok
    have hne : place ≠ slot := fun e => hother o List.mem_cons_self d hpath (e ▸ hslot)
    have hrest' : ∀ p ∈ os, ∀ e : Path, p.path = e.join p.fileName →
        s₁.slot? e p.fileName ≠ some place := by
      intro p hp e he
      rw [hdirs.slot?_eq]
      exact hother p (.tail _ hp) e he
    rw [get?_writeOutputs (fun p hp => hplaced p (.tail _ hp)) hrest' hrest, hsame place hne]

/-- The files of different names that are written are those that do not hold their texts before. -/
theorem written_writeOutputs : ∀ {os : List Output} {r : Report} {s : FileStore},
    (∀ o ∈ os, o.IsPlaced) → (os.map Output.fileName).Nodup →
      writeOutputs r s os = (.ok report, s') →
        report.written =
          r.written ++ (os.filter fun o => s.read? o.path ≠ some o.text).map (·.path) ∧
        report.unchanged =
          r.unchanged ++ (os.filter fun o => s.read? o.path = some o.text).map (·.path)
  | [], r, s, _, _, h => by
    cases h
    simp
  | o :: os, r, s, hplaced, hnodup, h => by
    obtain ⟨outcome, s₁, hw, hok, hrest⟩ := writeOutputs_cons h
    obtain ⟨hfresh, hnodup⟩ := List.nodup_cons.1 hnodup
    have hplaced' : ∀ p ∈ os, p.IsPlaced := fun p hp => hplaced p (.tail _ hp)
    obtain ⟨hwritten, hunchanged⟩ := written_writeOutputs hplaced' hnodup hrest
    have houtcome := FileStore.write_outcome hw hok
    obtain ⟨hname, d, hpath⟩ := hplaced o List.mem_cons_self
    -- A later file has another name, so it reads as it did before this one was written.
    have hsame : ∀ p ∈ os, s₁.read? p.path = s.read? p.path := by
      intro p hp
      obtain ⟨hpname, e, he⟩ := hplaced' p hp
      have hne : p.fileName ≠ o.fileName := fun e => hfresh (e ▸ List.mem_map_of_mem hp)
      rw [hpath] at hw
      rw [he]
      exact FileStore.read?_write_of_ne hname hpname hne hw
    have hstale : (os.filter fun p => s₁.read? p.path ≠ some p.text) =
        os.filter fun p => s.read? p.path ≠ some p.text :=
      List.filter_congr fun p hp => by rw [hsame p hp]
    have hcurrent : (os.filter fun p => s₁.read? p.path = some p.text) =
        os.filter fun p => s.read? p.path = some p.text :=
      List.filter_congr fun p hp => by rw [hsame p hp]
    rw [hwritten, hunchanged, hstale, hcurrent]
    by_cases hread : s.read? o.path = some o.text
    · rw [if_pos hread] at houtcome
      simp [houtcome, Report.note, hread]
    · rw [if_neg hread] at houtcome
      simp [houtcome, Report.note, hread]

/-- Files that hold their texts are not written again. -/
theorem writeOutputs_again : ∀ {os : List Output} (r : Report),
    (∀ o ∈ os, s.read? o.path = some o.text) →
      writeOutputs r s os =
        (.ok { r with unchanged := r.unchanged ++ os.map (·.path) }, s)
  | [], r, _ => by simp [writeOutputs_nil]
  | o :: os, r, h => by
    rw [writeOutputs_cons_eq, FileStore.write_of_read? (h o List.mem_cons_self)]
    dsimp only
    rw [writeOutputs_again _ fun p hp => h p (.tail _ hp)]
    simp

/-- Files are written up to one that cannot be, and no later one is tried. -/
theorem writeOutputs_eq_error {e : GenerationError} :
    ∀ {os : List Output} {r : Report} {s : FileStore}, writeOutputs r s os = (.error e, s') →
      ∃ done failed rest report, os = done ++ failed :: rest ∧ e = .writeFile failed.path ∧
        writeOutputs r s done = (.ok report, s')
  | [], _, _, h => by cases h
  | o :: os, r, s, h => by
    rw [writeOutputs_cons_eq] at h
    split at h
    · rename_i s₁ hw
      obtain ⟨done, failed, rest, report, rfl, he, hdone⟩ := writeOutputs_eq_error h
      exact ⟨o :: done, failed, rest, report, rfl, he, by rw [writeOutputs_cons_eq, hw]; exact hdone⟩
    · rename_i s₁ hw
      obtain ⟨done, failed, rest, report, rfl, he, hdone⟩ := writeOutputs_eq_error h
      exact ⟨o :: done, failed, rest, report, rfl, he, by rw [writeOutputs_cons_eq, hw]; exact hdone⟩
    · rename_i s₁ hw
      cases h
      exact ⟨[], o, os, r, rfl, rfl, by rw [writeOutputs_nil, FileStore.write_failed hw]⟩

/-- A plan that is carried out has its directories made first. -/
theorem execute_ok {p : Plan} (h : p.execute s = (.ok report, s')) :
    ∃ s₁, makeDirectories s p.directories = (.ok (), s₁) ∧
      writeOutputs { generator := p.generator, errors := p.errors } s₁ p.outputs =
        (.ok report, s') := by
  rw [execute_eq] at h
  split at h
  · cases h
  · rename_i s₁ hs₁
    exact ⟨s₁, hs₁, h⟩

/-- The report of a plan has the errors of the plan and a line for each of its files. -/
theorem report_of_execute {p : Plan} (h : p.execute s = (.ok report, s')) :
    report.errors = p.errors ∧ report.files.Perm (p.outputs.map (·.path)) := by
  obtain ⟨s₁, -, hw⟩ := execute_ok h
  obtain ⟨-, herrors, hfiles⟩ := writeOutputs_report hw
  exact ⟨herrors, hfiles⟩

/-- After a plan is carried out its files hold their texts, if no two of them have the same name. -/
theorem read?_of_execute {p : Plan} (hplaced : ∀ o ∈ p.outputs, o.IsPlaced)
    (hnodup : (p.outputs.map Output.fileName).Nodup) (h : p.execute s = (.ok report, s')) :
    ∀ o ∈ p.outputs, s'.read? o.path = some o.text := by
  obtain ⟨s₁, -, hw⟩ := execute_ok h
  exact read?_of_writeOutputs hplaced hnodup hw

end Plan

end Bindery
