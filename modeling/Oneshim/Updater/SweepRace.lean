/-
  The healthy writer against an install (`src-tauri/src/updater/health_probe.rs`, `install.rs`).

  `spawn_healthy_writer` runs `write_self_healthy_and_cleanup` on a timer.  An install of another
  version may be under way in the same directory: it leaves a backup and a pending marker, and the
  sweep deletes the backups and the markers of other versions.

  1. **Steps** — both as threads over the directory, one file operation at a time (`sweepStep`,
     `installStep`).  What a directory scan returns while files come and go is up to the system, so
     each step of a scan takes the next entry as an input.

  2. **The race** — `Intact` says that what the install has written so far is still there.  A step
     keeps it exactly when it does not harm it (`intact_step`), and so does a whole schedule
     (`rollback_material_iff`).
-/
import Oneshim.Updater.Rollback

namespace Oneshim

open Lib

/-! ## The sweep, step by step -/

/-- What `write_self_healthy_and_cleanup` does next. -/
inductive SweepPc where
  | readPending
  | writeHealthy (keep : Option String)
  | removePending (keep : Option String)
  /-- The scan for boot markers of the version. -/
  | scanMarkers (keep : Option String)
  | removeLegacy (keep : Option String)
  /-- The scan for backups and for state files of other versions. -/
  | scanForeign (keep : Option String)
  | done

/-- What a step of the sweep is given: does writing the marker succeed, and the next entry of the
    scan, if there is one. -/
structure SweepInput where
  written : Bool
  entry : Option String

/-- One file operation of `write_self_healthy_and_cleanup`. -/
def sweepStep (version : String) (input : SweepInput) : SweepPc → InstallDir → SweepPc × InstallDir
  | .readPending, dir => (.writeHealthy (keepBackup version dir), dir)
  | .writeHealthy keep, dir =>
    if input.written then (.removePending keep, dir.write (selfHealthyName version) .marker)
    else (.done, dir)
  | .removePending keep, dir => (.scanMarkers keep, dir.remove (installPendingName version))
  | .scanMarkers keep, dir =>
    match input.entry with
    | none => (.removeLegacy keep, dir)
    | some name =>
      (.scanMarkers keep,
        if startsWith name (bootCountPidStart version) then dir.remove name else dir)
  | .removeLegacy keep, dir => (.scanForeign keep, dir.remove (legacyBootCountName version))
  | .scanForeign keep, dir =>
    match input.entry with
    | none => (.done, dir)
    | some name =>
      (.scanForeign keep, if survivesSweep version keep name then dir else dir.remove name)
  | .done, dir => (.done, dir)

/-! ## The install, step by step -/

/-- An install whose file operations succeed. -/
structure Update where
  exe : ExeName
  previousVersion : String
  newVersion : VersionText
  timestamp : Int
  binary : List UInt8
  now : Int

namespace Update

/-- The backup it makes. -/
def backup (update : Update) : String := backupPathFor update.exe.name update.timestamp

/-- The record it leaves. -/
def record (update : Update) : FileEntry :=
  ⟨installPendingName update.newVersion.text,
    .installPending ⟨update.now, update.previousVersion, update.backup⟩⟩

end Update

/-- What the install does next; after the restart the new version boots. -/
inductive InstallPc where
  | copy
  | replace
  | writePending
  | restart
deriving DecidableEq

/-- One file operation of `install_and_restart_with_ops`. -/
def installStep (update : Update) : InstallPc → InstallDir → InstallPc × InstallDir
  | .copy, dir => (.replace, dir.copy update.exe.name update.backup)
  | .replace, dir => (.writePending, dir.write update.exe.name (.bytes update.binary))
  | .writePending, dir => (.restart, dir.write update.record.name update.record.content)
  | .restart, dir => (.restart, dir)

/-! ## Both -/

/-- The directory and the two threads. -/
structure Race where
  dir : InstallDir
  sweep : SweepPc
  install : InstallPc

/-- Whose turn it is. -/
inductive RaceMove where
  | sweep (input : SweepInput)
  | install

/-- One step of either thread. -/
def raceStep (update : Update) (running : VersionText) (race : Race) : RaceMove → Race
  | .sweep input =>
    { race with
      sweep := (sweepStep running.text input race.sweep race.dir).1
      dir := (sweepStep running.text input race.sweep race.dir).2 }
  | .install =>
    { race with
      install := (installStep update race.install race.dir).1
      dir := (installStep update race.install race.dir).2 }

/-- A schedule, from the start of both. -/
def raceRun (update : Update) (running : VersionText) (dir : InstallDir) (moves : List RaceMove) :
    Race :=
  moves.foldl (raceStep update running) ⟨dir, .readPending, .copy⟩

/-- What a rollback of the version needs: the record, and the backup it names. -/
def Rollbackable (version : VersionText) (dir : InstallDir) : Prop :=
  ∃ pending, dir.find? (installPendingName version.text) =
      some ⟨installPendingName version.text, .installPending pending⟩ ∧
    dir.hasFile pending.backupPath = true

/-- The scan comes to a file that the install has written, and does not spare it. -/
def Harms (update : Update) (running : VersionText) (race : Race) (move : RaceMove) : Prop :=
  ∃ keep written name, race.sweep = .scanForeign keep ∧ move = .sweep ⟨written, some name⟩ ∧
    survivesSweep running.text keep name = false ∧
    ((name = update.backup ∧ race.install ≠ .copy) ∨
      (name = update.record.name ∧ race.install = .restart))

/-- No step of the schedule harms. -/
def Spared (update : Update) (running : VersionText) : Race → List RaceMove → Prop
  | _, [] => True
  | race, move :: moves =>
    ¬Harms update running race move ∧ Spared update running (raceStep update running race move) moves

/-! ## A thread that runs alone -/

/-! ## Names of the install -/

variable {name : String}

namespace Update

variable (update : Update)

/-- The files the install writes: the executable, the backup and the record. -/
def Owns (name : String) : Prop :=
  name = update.exe.name ∨ name = update.backup ∨ name = update.record.name

theorem exe_ne_backup : update.exe.name ≠ update.backup := update.exe.ne_backup update.timestamp

theorem visible_exe : Visible update.exe.name := update.exe.visible

theorem visible_backup : Visible update.backup := update.exe.visible_backup update.timestamp

theorem head_record : update.record.name.toList.head? = some '.' := by
  show (installPendingName update.newVersion.text).toList.head? = _
  rw [toList_installPendingName]
  rfl

theorem take_record : update.record.name.toList.take 2 = ['.', 'i'] := by
  show (installPendingName update.newVersion.text).toList.take 2 = _
  rw [toList_installPendingName]
  rfl

variable {update}

theorem ne_of_visible (h : Visible name) : name ≠ update.record.name := by
  rintro rfl
  exact h update.head_record

/-- A hidden file that is no pending marker is not one of them. -/
theorem not_owns_of_take {c : Char} (h : name.toList.take 2 = ['.', c]) (hc : c ≠ 'i') :
    ¬update.Owns name := by
  have hhead : name.toList.head? = some '.' := by
    cases hlist : name.toList with
    | nil => rw [hlist] at h; nomatch h
    | cons d rest =>
      rw [hlist, List.take_succ_cons] at h
      rw [(List.cons.inj h).1]
      rfl
  rintro (rfl | rfl | rfl)
  · exact update.visible_exe hhead
  · exact update.visible_backup hhead
  · rw [take_record] at h
    exact hc (List.cons.inj (List.cons.inj h).2).1.symm

/-- Nor is the pending marker of another version. -/
theorem not_owns_pending {running : VersionText} (hne : running.text ≠ update.newVersion.text) :
    ¬update.Owns (installPendingName running.text) := by
  have hhead : (installPendingName running.text).toList.head? = some '.' := by
    rw [toList_installPendingName]
    rfl
  rintro (h | h | h)
  · rw [h] at hhead
    exact update.visible_exe hhead
  · rw [h] at hhead
    exact update.visible_backup hhead
  · exact hne (installPendingName_injective h)

theorem not_owns_selfHealthy (version : String) : ¬update.Owns (selfHealthyName version) := by
  refine not_owns_of_take (c := 's') ?_ (by decide)
  have hname : (selfHealthyName version).toList = ".self_healthy_".toList ++ version.toList := by
    rw [← String.toList_append]
    rfl
  rw [hname]
  rfl

theorem not_owns_legacy (version : String) : ¬update.Owns (legacyBootCountName version) := by
  refine not_owns_of_take (c := 'b') ?_ (by decide)
  have hname : (legacyBootCountName version).toList = ".boot_count_".toList ++ version.toList := by
    rw [← String.toList_append]
    rfl
  rw [hname]
  rfl

theorem not_owns_marker {version name : String}
    (h : startsWith name (bootCountPidStart version) = true) : ¬update.Owns name := by
  have hmarker : isBootMarker version ⟨name, .marker⟩ = true := h
  exact not_owns_of_take (take_of_isBootMarker hmarker) (by decide)

end Update

theorem stripStart_of_visible {name start : String} (h : Visible name)
    (hstart : start.toList.head? = some '.') : stripStart name start = none := by
  unfold stripStart
  refine if_neg fun hprefix => ?_
  obtain ⟨rest, heq⟩ := List.isPrefixOf_iff_prefix.mp hprefix
  refine h ?_
  rw [← heq]
  cases hlist : start.toList with
  | nil => rw [hlist] at hstart; nomatch hstart
  | cons c cs => rw [hlist] at hstart; exact hstart

/-- **The sweep leaves the executable alone.** -/
theorem ExeName.survivesSweep (exe : ExeName) (version : String) (keep : Option String) :
    survivesSweep version keep exe.name = true := by
  unfold Oneshim.survivesSweep
  rw [exe.noBackup, stripStart_of_visible exe.visible rfl, stripStart_of_visible exe.visible rfl,
    stripStart_of_visible exe.visible rfl, stripStart_of_visible exe.visible rfl]
  rfl

/-! ## What the steps keep -/

/-- The files of the install are as they were. -/
def KeepsOwn (update : Update) (dir dir' : InstallDir) : Prop :=
  ∀ name, update.Owns name → dir'.find? name = dir.find? name

namespace KeepsOwn

variable {update : Update} {dir dir' : InstallDir}

theorem refl : KeepsOwn update dir dir := fun _ _ => rfl

theorem remove (h : ¬update.Owns name) :
    KeepsOwn update dir (Table.remove dir name) := by
  intro own howns
  rw [Table.find?_remove, if_neg]
  rintro rfl
  exact h howns

theorem write {content : FileContent} (h : ¬update.Owns name) :
    KeepsOwn update dir (dir.write name content) := by
  intro own howns
  unfold InstallDir.write
  rw [Table.find?_upsert, if_neg]
  rintro rfl
  exact h howns

theorem hasFile (h : KeepsOwn update dir dir') (howns : update.Owns name) :
    dir'.hasFile name = dir.hasFile name := by
  unfold InstallDir.hasFile
  rw [h name howns]

end KeepsOwn

/-- Every step of the sweep but a visit of the last scan leaves the files of the install alone. -/
theorem sweepStep_keeps {update : Update} {running : VersionText}
    (hne : running.text ≠ update.newVersion.text) (input : SweepInput) (pc : SweepPc)
    (dir : InstallDir)
    (h : ∀ keep name, pc = .scanForeign keep → input.entry = some name →
      survivesSweep running.text keep name = true) :
    KeepsOwn update dir (sweepStep running.text input pc dir).2 := by
  cases pc with
  | readPending => exact .refl
  | writeHealthy keep =>
    simp only [sweepStep]
    split
    · exact .write (Update.not_owns_selfHealthy _)
    · exact .refl
  | removePending keep => exact .remove (Update.not_owns_pending hne)
  | scanMarkers keep =>
    simp only [sweepStep]
    split
    · exact .refl
    · next name _ =>
      simp only
      split
      · next hmarker => exact .remove (Update.not_owns_marker hmarker)
      · exact .refl
  | removeLegacy keep => exact .remove (Update.not_owns_legacy _)
  | scanForeign keep =>
    simp only [sweepStep]
    split
    · exact .refl
    · next name hentry =>
      rw [if_pos (h keep name rfl hentry)]
      exact .refl
  | done => exact .refl

/-- What the install has written so far is there. -/
structure Intact (update : Update) (race : Race) : Prop where
  backup : race.install ≠ .copy → race.dir.hasFile update.backup = true
  record : race.install = .restart → race.dir.find? update.record.name = some update.record

/-- The executable is there, and nobody else writes the record. -/
structure Settled (update : Update) (race : Race) : Prop where
  exe : race.dir.hasFile update.exe.name = true
  record : race.install = .restart →
    ∀ file, race.dir.find? update.record.name = some file → file = update.record

variable {update : Update} {running : VersionText} {race race' : Race}

theorem Intact.congr (hkeeps : KeepsOwn update race.dir race'.dir)
    (hinstall : race'.install = race.install) : Intact update race' ↔ Intact update race := by
  have hbackup := hkeeps.hasFile (.inr (.inl rfl))
  have hrecord := hkeeps _ (.inr (.inr rfl))
  constructor
  · rintro ⟨hb, hr⟩
    rw [hinstall] at hb hr
    exact ⟨fun hi => hbackup ▸ hb hi, fun hi => hrecord ▸ hr hi⟩
  · rintro ⟨hb, hr⟩
    exact ⟨fun hi => hbackup.trans (hb (hinstall ▸ hi)), fun hi => hrecord.trans (hr (hinstall ▸ hi))⟩

theorem Settled.congr (h : Settled update race) (hkeeps : KeepsOwn update race.dir race'.dir)
    (hinstall : race'.install = race.install) : Settled update race' where
  exe := (hkeeps.hasFile (.inl rfl)).trans h.exe
  record := by
    rw [hinstall, hkeeps _ (.inr (.inr rfl))]
    exact h.record

/-- A visit that does not spare the file removes it. -/
theorem raceStep_visit {keep : Option String} {written : Bool}
    (hpc : race.sweep = .scanForeign keep)
    (hsurvives : survivesSweep running.text keep name = false) :
    raceStep update running race (.sweep ⟨written, some name⟩) =
      { race with dir := race.dir.remove name } := by
  obtain ⟨dir, pc, install⟩ := race
  obtain rfl : pc = _ := hpc
  simp only [raceStep, sweepStep, hsurvives, Bool.false_eq_true, if_false]

/-- A step of the sweep either leaves the files of the install alone or is such a visit. -/
theorem sweep_cases (hne : running.text ≠ update.newVersion.text) (input : SweepInput)
    (race : Race) :
    KeepsOwn update race.dir (raceStep update running race (.sweep input)).dir ∧
        ¬Harms update running race (.sweep input) ∨
      ∃ keep name, race.sweep = .scanForeign keep ∧ input.entry = some name ∧
        survivesSweep running.text keep name = false := by
  by_cases hvisit : ∃ keep name, race.sweep = .scanForeign keep ∧ input.entry = some name ∧
      survivesSweep running.text keep name = false
  · exact .inr hvisit
  · refine .inl ⟨sweepStep_keeps hne input race.sweep race.dir ?_, ?_⟩
    · intro keep name hpc hentry
      cases hsurvives : survivesSweep running.text keep name with
      | true => rfl
      | false => exact absurd ⟨keep, name, hpc, hentry, hsurvives⟩ hvisit
    · rintro ⟨keep, written, name, hpc, hmove, hsurvives, -⟩
      obtain rfl : input = _ := RaceMove.sweep.inj hmove
      exact hvisit ⟨keep, name, hpc, rfl, hsurvives⟩

/-- No move removes the executable or writes another record. -/
theorem Settled.step (hne : running.text ≠ update.newVersion.text) (h : Settled update race)
    (move : RaceMove) : Settled update (raceStep update running race move) := by
  cases move with
  | sweep input =>
    rcases sweep_cases hne input race with ⟨hkeeps, -⟩ | ⟨keep, name, hpc, hentry, hsurvives⟩
    · exact h.congr hkeeps rfl
    · obtain ⟨written, entry⟩ := input
      obtain rfl : entry = some name := hentry
      rw [raceStep_visit hpc hsurvives]
      -- the executable always survives, so it is another file that goes
      have hexe : update.exe.name ≠ name := by
        rintro rfl
        rw [update.exe.survivesSweep] at hsurvives
        cases hsurvives
      constructor
      · show (Table.find? _ _).isSome = true
        rw [Table.find?_remove_of_ne hexe]
        exact h.exe
      · intro hi file hfile
        rw [Table.find?_remove] at hfile
        split at hfile
        · cases hfile
        · exact h.record hi file hfile
  | install =>
    obtain ⟨dir, pc, install⟩ := race
    have hexe : ∀ name content, (dir.write name content).hasFile update.exe.name = true := by
      intro name content
      show (Table.find? (dir.upsert _) _).isSome = true
      rw [Table.find?_upsert]
      split
      · rfl
      · exact h.exe
    cases install with
    | copy =>
      refine ⟨?_, fun hi => by cases hi⟩
      show (InstallDir.copy dir update.exe.name update.backup).hasFile _ = true
      unfold InstallDir.copy
      split
      · exact hexe _ _
      · exact h.exe
    | replace => exact ⟨hexe _ _, fun hi => by cases hi⟩
    | writePending =>
      refine ⟨hexe _ _, fun _ file hfile => ?_⟩
      have hfile : (dir.upsert update.record).find? update.record.name = some file := hfile
      rw [Table.find?_upsert, if_pos rfl] at hfile
      exact (Option.some.inj hfile).symm
    | restart => exact h

theorem hasFile_remove_iff {dir : InstallDir} {name own : String} :
    InstallDir.hasFile (Table.remove dir name) own = true ↔
      own ≠ name ∧ dir.hasFile own = true := by
  unfold InstallDir.hasFile
  rw [Option.isSome_iff_exists, Option.isSome_iff_exists]
  simp only [Table.find?_remove_eq_some_iff, exists_and_left]

/-- A visit that does not spare the file harms when the install has written that file. -/
theorem intact_visit :
    Intact update { race with dir := race.dir.remove name } ↔
      Intact update race ∧ ¬((name = update.backup ∧ race.install ≠ .copy) ∨
        (name = update.record.name ∧ race.install = .restart)) := by
  constructor
  · rintro ⟨hbackup, hrecord⟩
    have hbackup := fun hi => hasFile_remove_iff.mp (hbackup hi)
    have hrecord := fun hi => Table.find?_remove_eq_some_iff.mp (hrecord hi)
    refine ⟨⟨fun hi => (hbackup hi).2, fun hi => (hrecord hi).2⟩, ?_⟩
    rintro (⟨hname, hi⟩ | ⟨hname, hi⟩)
    · exact (hbackup hi).1 hname.symm
    · exact (hrecord hi).1 hname.symm
  · rintro ⟨⟨hbackup, hrecord⟩, hno⟩
    constructor
    · intro hi
      exact hasFile_remove_iff.mpr ⟨fun hname => hno (.inl ⟨hname.symm, hi⟩), hbackup hi⟩
    · intro hi
      exact Table.find?_remove_eq_some_iff.mpr
        ⟨fun hname => hno (.inr ⟨hname.symm, hi⟩), hrecord hi⟩

/-- A step of the install keeps what it has written before. -/
theorem intact_install (h : Settled update race) :
    Intact update (raceStep update running race .install) ↔ Intact update race := by
  obtain ⟨dir, pc, install⟩ := race
  cases install with
  | copy =>
    refine iff_of_true ⟨fun _ => ?_, nofun⟩ ⟨fun hi => absurd rfl hi, nofun⟩
    have hfound : (dir.find? update.exe.name).isSome = true := h.exe
    obtain ⟨file, hfile⟩ := Option.isSome_iff_exists.mp hfound
    show (InstallDir.copy dir update.exe.name update.backup).hasFile update.backup = true
    unfold InstallDir.copy
    rw [hfile]
    show (Table.find? (dir.upsert _) _).isSome = true
    rw [Table.find?_upsert, if_pos rfl]
    rfl
  | replace =>
    have hbackup : (dir.write update.exe.name (.bytes update.binary)).hasFile update.backup =
        dir.hasFile update.backup := by
      show (Table.find? (dir.upsert _) _).isSome = _
      rw [Table.find?_upsert, if_neg update.exe_ne_backup]
      rfl
    exact ⟨fun hi => ⟨fun _ => hbackup ▸ hi.backup nofun, nofun⟩,
      fun hi => ⟨fun _ => hbackup.trans (hi.backup nofun), nofun⟩⟩
  | writePending =>
    have hbackup : (dir.write update.record.name update.record.content).hasFile update.backup =
        dir.hasFile update.backup := by
      show (Table.find? (dir.upsert _) _).isSome = _
      rw [Table.find?_upsert, if_neg (Update.ne_of_visible update.visible_backup).symm]
      rfl
    have hrecord : (dir.upsert update.record).find? update.record.name = some update.record := by
      rw [Table.find?_upsert, if_pos rfl]
    exact ⟨fun hi => ⟨fun _ => hbackup ▸ hi.backup nofun, nofun⟩,
      fun hi => ⟨fun _ => hbackup.trans (hi.backup nofun), fun _ => hrecord⟩⟩
  | restart => exact Iff.rfl

/-- **One step**: what the install has written stays exactly when the step does not harm it. -/
theorem intact_step (hne : running.text ≠ update.newVersion.text) (h : Settled update race)
    (move : RaceMove) :
    Intact update (raceStep update running race move) ↔
      Intact update race ∧ ¬Harms update running race move := by
  cases move with
  | sweep input =>
    rcases sweep_cases hne input race with ⟨hkeeps, hno⟩ | ⟨keep, name, hpc, hentry, hsurvives⟩
    · exact (Intact.congr hkeeps rfl).trans (and_iff_left hno).symm
    · obtain ⟨written, entry⟩ := input
      obtain rfl : entry = some name := hentry
      have hharms : Harms update running race (.sweep ⟨written, some name⟩) ↔
          (name = update.backup ∧ race.install ≠ .copy) ∨
            (name = update.record.name ∧ race.install = .restart) := by
        constructor
        · rintro ⟨keep', written', name', -, hmove, -, hown⟩
          obtain rfl : name = name' := by
            injection hmove with hinput
            injection hinput with _ hname
            exact Option.some.inj hname
          exact hown
        · exact fun hown => ⟨keep, written, name, hpc, rfl, hsurvives, hown⟩
      rw [raceStep_visit hpc hsurvives, hharms]
      exact intact_visit
  | install =>
    have hno : ¬Harms update running race .install := by
      rintro ⟨_, _, _, _, hmove, _⟩
      nomatch hmove
    rw [and_iff_left hno]
    exact intact_install h

/-- At the end, what the install has written is what a rollback needs. -/
theorem rollbackable_iff_intact (h : Settled update race) (hdone : race.install = .restart) :
    Rollbackable update.newVersion race.dir ↔ Intact update race := by
  constructor
  · rintro ⟨pending, hfind, hbackup⟩
    have hrecord := h.record hdone _ hfind
    obtain rfl : pending = ⟨update.now, update.previousVersion, update.backup⟩ :=
      FileContent.installPending.inj (congrArg FileEntry.content hrecord)
    exact ⟨fun _ => hbackup, fun _ => hfind⟩
  · intro hi
    exact ⟨_, hi.record hdone, hi.backup (hdone ▸ nofun)⟩

theorem rollbackable_run_iff (hne : running.text ≠ update.newVersion.text)
    (h : Settled update race) (moves : List RaceMove)
    (hdone : (moves.foldl (raceStep update running) race).install = .restart) :
    Rollbackable update.newVersion (moves.foldl (raceStep update running) race).dir ↔
      Intact update race ∧ Spared update running race moves := by
  induction moves generalizing race with
  | nil =>
    rw [Spared, and_true]
    exact rollbackable_iff_intact h hdone
  | cons move moves ih =>
    rw [List.foldl_cons, ih (h.step hne move) hdone, intact_step hne h move, Spared, and_assoc]

/-- **What a rollback needs is there when the new version boots, exactly when the scan has spared
    it**, for every schedule of the healthy writer of another version and the steps of the install. -/
theorem rollback_material_iff (update : Update) (running : VersionText)
    (hne : running.text ≠ update.newVersion.text) (dir : InstallDir)
    (hexe : dir.hasFile update.exe.name = true) (moves : List RaceMove)
    (hdone : (raceRun update running dir moves).install = .restart) :
    Rollbackable update.newVersion (raceRun update running dir moves).dir ↔
      Spared update running ⟨dir, .readPending, .copy⟩ moves := by
  have hsettled : Settled update ⟨dir, .readPending, .copy⟩ := ⟨hexe, nofun⟩
  have hintact : Intact update ⟨dir, .readPending, .copy⟩ := ⟨fun hi => absurd rfl hi, nofun⟩
  rw [raceRun, rollbackable_run_iff hne hsettled moves hdone]
  exact and_iff_right hintact

/-! ## Schedules -/

theorem spared_append (race : Race) (moves moves' : List RaceMove) :
    Spared update running race (moves ++ moves') ↔
      Spared update running race moves ∧
        Spared update running (moves.foldl (raceStep update running) race) moves' := by
  induction moves generalizing race with
  | nil => exact (and_iff_right trivial).symm
  | cons move moves ih =>
    show (_ ∧ Spared update running _ (moves ++ moves')) ↔ (_ ∧ _) ∧ _
    rw [ih, and_assoc]
    rfl

/-- A sweep before the install harms nothing. -/
theorem spared_of_copy (race : Race) (hcopy : race.install = .copy) (inputs : List SweepInput) :
    Spared update running race (inputs.map .sweep) := by
  induction inputs generalizing race with
  | nil => trivial
  | cons input inputs ih =>
    refine ⟨?_, ih _ hcopy⟩
    rintro ⟨keep, written, name, -, -, -, ⟨-, hi⟩ | ⟨-, hi⟩⟩
    · exact hi hcopy
    · rw [hcopy] at hi
      nomatch hi

/-- The install itself harms nothing. -/
theorem spared_install (race : Race) (n : Nat) :
    Spared update running race (List.replicate n .install) := by
  induction n generalizing race with
  | zero => trivial
  | succ n ih =>
    refine ⟨?_, ih _⟩
    rintro ⟨_, _, _, _, hmove, _⟩
    nomatch hmove

/-- A schedule in which the sweep comes first, whatever its scans return. -/
theorem spared_swept_first (dir : InstallDir) (inputs : List SweepInput) (n : Nat) :
    Spared update running ⟨dir, .readPending, .copy⟩
      (inputs.map .sweep ++ List.replicate n .install) :=
  (spared_append _ _ _).mpr ⟨spared_of_copy _ rfl inputs, spared_install _ n⟩

/-- An install of 0.5.0 over 0.4.0. -/
def sampleUpdate : Update := ⟨sampleExe, "0.4.0", sampleVersion, 5, [5], 5⟩

def sampleRunning : VersionText := ⟨"0.4.0", by decide, plain_of_all (by decide)⟩

def sampleInstallDir : InstallDir := shippedDir [("oneshim", [1])]

/-- The sweep of 0.4.0, and then the install. -/
def sweptFirst : List RaceMove :=
  [⟨true, none⟩, ⟨true, none⟩, ⟨true, none⟩, ⟨true, none⟩, ⟨true, none⟩, ⟨true, some "oneshim"⟩,
    ⟨true, none⟩].map .sweep ++ List.replicate 3 .install

theorem rollback_material_swept_first :
    Rollbackable sampleVersion (raceRun sampleUpdate sampleRunning sampleInstallDir sweptFirst).dir :=
  (rollback_material_iff sampleUpdate sampleRunning (by decide) sampleInstallDir (by decide)
    sweptFirst (by decide +kernel)).mpr (spared_swept_first _ _ _)

/-- The scan of the sweep begins when the backup has just been made. -/
def sweptAfterCopy : List RaceMove :=
  [.sweep ⟨true, none⟩, .sweep ⟨true, none⟩, .sweep ⟨true, none⟩, .sweep ⟨true, none⟩, .install,
    .sweep ⟨true, none⟩, .sweep ⟨true, some "oneshim"⟩, .sweep ⟨true, some "oneshim.rollback.5"⟩,
    .sweep ⟨true, none⟩, .install, .install]

/-- **The sweep deletes the backup of an install under way**: the new version boots with a record
    that names a file that is gone. -/
theorem sweep_deletes_fresh_backup :
    ¬∀ (update : Update) (running : VersionText) (dir : InstallDir) (moves : List RaceMove),
      running.text ≠ update.newVersion.text → dir.hasFile update.exe.name = true →
      (raceRun update running dir moves).install = .restart →
      Rollbackable update.newVersion (raceRun update running dir moves).dir := by
  intro hall
  obtain ⟨pending, hfind, hbackup⟩ := hall sampleUpdate sampleRunning sampleInstallDir
    sweptAfterCopy (by decide) (by decide) (by decide +kernel)
  have hrecord : (raceRun sampleUpdate sampleRunning sampleInstallDir sweptAfterCopy).dir.find?
      (installPendingName sampleVersion.text) = some sampleUpdate.record := by
    decide +kernel
  have hgone : (raceRun sampleUpdate sampleRunning sampleInstallDir sweptAfterCopy).dir.hasFile
      sampleUpdate.backup = false := by
    decide +kernel
  obtain rfl : pending = ⟨5, "0.4.0", sampleUpdate.backup⟩ :=
    FileContent.installPending.inj (congrArg FileEntry.content
      (Option.some.inj (hfind.symm.trans hrecord)))
  rw [hgone] at hbackup
  nomatch hbackup

end Oneshim
