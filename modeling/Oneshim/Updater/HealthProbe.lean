/-
  The health probe (`src-tauri/src/updater/health_probe.rs`) and the rollback swap (`install.rs`).

  A new version that keeps crashing is rolled back.  The protocol runs over marker files in the
  install directory: the install leaves `.install_pending_{v}` with the backup's name, every start
  of `v` leaves a marker with its process id, and a start that finds `failed_boot_threshold` of
  these asks for the rollback, unless `v` once stayed up long enough to write `.self_healthy_{v}`.

  1. **Code** — `checkStartupState`, `writeSelfHealthyAndCleanup` and `executeRollbackSwapOnly` over
     the install directory.

  2. **The protocol works** — after an install that left the marker, the first
     `failed_boot_threshold` starts are normal and every later one asks for the rollback recorded
     at that install (`armed_fires`).

  3. **It is never armed** — the coordinator installs through `install_and_restart`, which passes no
     version on, so the marker is not written.  Over any history of a device no file is an install
     record (`Unarmed.history`), and every start is normal.
-/
import Mathlib.Algebra.Group.Int.Defs
import Mathlib.Algebra.Group.Nat.Defs
import Oneshim.Updater.Executor

namespace Oneshim

open Lib

/-! ## The probe -/

/-- `HealthProbe`, for the directory it is asked about. -/
structure HealthProbe where
  currentVersion : String
  failedBootThreshold : UInt8

/-- `HealthProbe::new`. -/
def HealthProbe.new (currentVersion : String) : HealthProbe := ⟨currentVersion, 2⟩

/-- `RollbackReason`. -/
inductive RollbackReason where
  | repeatedStartupFailure
deriving DecidableEq

/-- `StartupAction`. -/
inductive StartupAction where
  | normal
  | rollbackRequired (fromVersion toVersion backupPath : String) (reason : RollbackReason)
deriving DecidableEq

/-- `STALENESS_CUTOFF`: 24 hours. -/
def stalenessCutoff : Int := 24 * 60 * 60 * 10 ^ 9

/-- `is_stale`; a time in the future is not. -/
def isStale (installedAt now : Int) : Bool := decide (stalenessCutoff < now - installedAt)

/-- The name of the healthy marker. -/
def selfHealthyName (version : String) : String := ".self_healthy_" ++ version

/-- `legacy_boot_count_path`. -/
def legacyBootCountName (version : String) : String := ".boot_count_" ++ version

/-- `boot_count_pid_prefix`. -/
def bootCountPidStart (version : String) : String := ".boot_count_pid_" ++ version ++ "_"

/-- `boot_count_pid_path`. -/
def bootCountPidName (version : String) (pid : Nat) : String :=
  bootCountPidStart version ++ String.ofList (Text.decimal pid)

/-- `str::starts_with`. -/
def startsWith (name start : String) : Bool := start.toList.isPrefixOf name.toList

/-- `str::strip_prefix`. -/
def stripStart (name start : String) : Option String :=
  if startsWith name start then some (String.ofList (name.toList.drop start.toList.length))
  else none

/-- Is it a boot marker of the version? -/
def isBootMarker (version : String) (file : FileEntry) : Bool :=
  startsWith file.name (bootCountPidStart version)

namespace HealthProbe

/-- `boot_count`: it saturates. -/
def bootCount (probe : HealthProbe) (dir : InstallDir) : Nat :=
  min (dir.rows.filter (isBootMarker probe.currentVersion)).length (2 ^ 32 - 1)

/-- `record_boot_attempt`: a marker that is there already is left alone. -/
def recordBootAttempt (probe : HealthProbe) (pid : Nat) (dir : InstallDir) : InstallDir :=
  (dir.insert? ⟨bootCountPidName probe.currentVersion pid, .marker⟩).getD dir

/-- `cleanup_boot_count_markers`. -/
def cleanupBootCountMarkers (probe : HealthProbe) (dir : InstallDir) : InstallDir :=
  Table.remove (dir.filterRows (!isBootMarker probe.currentVersion ·))
    (legacyBootCountName probe.currentVersion)

/-- The rest of `check_startup_state_inner`, with the pending marker read. -/
def checkPending (probe : HealthProbe) (pid : Nat) (now : Int) (pending : InstallPending)
    (dir : InstallDir) : StartupAction × InstallDir :=
  if isStale pending.installedAt now then
    (.normal,
      probe.cleanupBootCountMarkers (dir.remove (installPendingName probe.currentVersion)))
  else
    let dir := dir.remove (legacyBootCountName probe.currentVersion)
    if probe.failedBootThreshold.toNat ≤ probe.bootCount dir then
      (.rollbackRequired probe.currentVersion pending.previousVersion pending.backupPath
        .repeatedStartupFailure, dir)
    else (.normal, probe.recordBootAttempt pid dir)

/-- `check_startup_state`: a marker that cannot be parsed is a normal start. -/
def checkStartupState (probe : HealthProbe) (pid : Nat) (now : Int) (dir : InstallDir) :
    StartupAction × InstallDir :=
  if dir.hasFile (selfHealthyName probe.currentVersion) then (.normal, dir)
  else
    match dir.find? (installPendingName probe.currentVersion) with
    | none => (.normal, dir)
    | some file =>
      match file.content with
      | .installPending pending => probe.checkPending pid now pending dir
      | _ => (.normal, dir)

end HealthProbe

/-! ## The healthy marker and the rollback -/

/-- The backup the pending marker names. -/
def keepBackup (version : String) (dir : InstallDir) : Option String :=
  match dir.find? (installPendingName version) with
  | some ⟨_, .installPending pending⟩ => some pending.backupPath
  | _ => none

/-- Does the sweep leave the file alone?  Backups go, except the one to keep, and so do the state
    files of other versions. -/
def survivesSweep (version : String) (keep : Option String) (name : String) : Bool :=
  if Text.contains name.toList ".rollback.".toList then keep == some name
  else
    match stripStart name ".boot_count_pid_" with
    | some rest =>
      match Text.splitLast '_' rest.toList with
      | some (ver, _) => ver.isEmpty || String.ofList ver == version
      | none => true
    | none =>
      match stripStart name ".boot_count_" with
      | some ver => ver == ""
      | none =>
        match stripStart name ".install_pending_" with
        | some ver => ver == "" || ver == version
        | none =>
          match stripStart name ".self_healthy_" with
          | some ver => ver == "" || ver == version
          | none => true

/-- `write_self_healthy_and_cleanup`. -/
def writeSelfHealthyAndCleanup (version : String) (dir : InstallDir) : InstallDir :=
  let keep := keepBackup version dir
  let dir := dir.write (selfHealthyName version) .marker
  let dir := dir.remove (installPendingName version)
  let dir := dir.filterRows (!isBootMarker version ·)
  let dir := dir.remove (legacyBootCountName version)
  dir.filterRows (survivesSweep version keep ·.name)

/-- `execute_rollback_swap_only`: does writing the notification succeed, and how does the rename
    end? -/
def executeRollbackSwapOnly (backupPath currentExe toVersion : String) (notified : Bool)
    (rename : Except String Unit) (dir : InstallDir) : Except UpdateError Unit × InstallDir :=
  match dir.find? backupPath with
  | none => (.error (.install ("rollback backup not found: " ++ backupPath)), dir)
  | some backup =>
    let dir :=
      if notified then dir.write (".rolled_back_notification_" ++ toVersion) .marker else dir
    match rename with
    | .error e => (.error (.install ("rollback rename failed: " ++ e)), dir)
    | .ok () => (.ok (), Table.remove (dir.write currentExe backup.content) backupPath)

/-- The scan for notifications on startup. -/
def sweepNotifications (dir : InstallDir) : InstallDir :=
  dir.filterRows fun file => !startsWith file.name ".rolled_back_notification_"

/-! ## Starts of one version -/

/-- A start of the program: its process id and the time. -/
structure Boot where
  pid : Nat
  now : Int

namespace HealthProbe

/-- What a sequence of starts returns, none of which stays up long enough to be healthy. -/
def startupActions (probe : HealthProbe) : InstallDir → List Boot → List StartupAction
  | _, [] => []
  | dir, boot :: boots =>
    let (action, dir) := probe.checkStartupState boot.pid boot.now dir
    action :: startupActions probe dir boots

/-- What start number `i` is owed: first normal ones, then the rollback. -/
def owedAction (probe : HealthProbe) (previousVersion backupPath : String) (i : Nat) :
    StartupAction :=
  if i < probe.failedBootThreshold.toNat then .normal
  else .rollbackRequired probe.currentVersion previousVersion backupPath .repeatedStartupFailure

/-- The starts return what they are owed. -/
def RollbackFires (probe : HealthProbe) (previousVersion backupPath : String) (dir : InstallDir)
    (boots : List Boot) : Prop :=
  ∀ i action, (probe.startupActions dir boots)[i]? = some action →
    action = probe.owedAction previousVersion backupPath i

/-! ## Names -/

variable {probe : HealthProbe}

theorem bootCountPidName_injective (version : String) :
    Function.Injective (bootCountPidName version) := by
  intro p q h
  have hlist := congrArg String.toList h
  simp only [bootCountPidName, String.toList_append, String.toList_ofList,
    List.append_cancel_left_eq] at hlist
  exact Text.decimal_injective hlist

theorem isBootMarker_pid (version : String) (pid : Nat) (content : FileContent) :
    isBootMarker version ⟨bootCountPidName version pid, content⟩ = true := by
  show List.isPrefixOf _ _ = true
  rw [List.isPrefixOf_iff_prefix]
  simp only [bootCountPidName, String.toList_append]
  exact List.prefix_append _ _

/-- The legacy counter is no boot marker: its name is too short. -/
theorem isBootMarker_legacy (version : String) {file : FileEntry}
    (h : file.name = legacyBootCountName version) : isBootMarker version file = false := by
  have hshort : ¬(bootCountPidStart version).toList <+: (legacyBootCountName version).toList := by
    intro hstart
    have hlen := hstart.length_le
    have hstart : (bootCountPidStart version).toList =
        ".boot_count_pid_".toList ++ version.toList ++ "_".toList := by
      rw [← String.toList_append, ← String.toList_append]
      rfl
    have hlegacy : (legacyBootCountName version).toList =
        ".boot_count_".toList ++ version.toList := by
      rw [← String.toList_append]
      rfl
    rw [hstart, hlegacy, List.length_append, List.length_append, List.length_append] at hlen
    have h16 : ".boot_count_pid_".toList.length = 16 := rfl
    have h12 : ".boot_count_".toList.length = 12 := rfl
    omega
  cases hmarker : isBootMarker version file with
  | false => rfl
  | true => exact absurd (h ▸ List.isPrefixOf_iff_prefix.mp hmarker) hshort

theorem pending_ne_legacy (v w : String) : installPendingName v ≠ legacyBootCountName w :=
  Text.append_ne_append 2 (by decide) (by decide) (by decide)

theorem bootCountPidName_ne_legacy (v : String) (pid : Nat) :
    bootCountPidName v pid ≠ legacyBootCountName v := by
  intro h
  have hmarker : isBootMarker v ⟨bootCountPidName v pid, .marker⟩ = false :=
    isBootMarker_legacy v h
  rw [isBootMarker_pid] at hmarker
  nomatch hmarker

/-! ## An armed install -/

/-- A directory in which the version is armed: its install left the record, and it has not been
    healthy. -/
structure Armed (probe : HealthProbe) (pending : InstallPending) (dir : InstallDir) : Prop where
  unhealthy : dir.hasFile (selfHealthyName probe.currentVersion) = false
  record : dir.find? (installPendingName probe.currentVersion) =
    some ⟨installPendingName probe.currentVersion, .installPending pending⟩

/-- The boot markers of the version. -/
def bootMarkers (probe : HealthProbe) (dir : InstallDir) : List FileEntry :=
  dir.rows.filter (isBootMarker probe.currentVersion)

variable {dir : InstallDir}

theorem hasFile_eq_false {name : String} :
    dir.hasFile name = false ↔ dir.find? name = none := by
  unfold InstallDir.hasFile
  cases dir.find? name <;> simp

theorem bootMarkers_remove_legacy (dir : InstallDir) :
    probe.bootMarkers (dir.remove (legacyBootCountName probe.currentVersion)) =
      probe.bootMarkers dir := by
  show (dir.rows.filter _).filter _ = dir.rows.filter _
  rw [List.filter_filter]
  refine List.filter_congr fun file _ => ?_
  by_cases hname : file.name = legacyBootCountName probe.currentVersion
  · rw [isBootMarker_legacy _ hname, Bool.false_and]
  · rw [decide_eq_true hname, Bool.and_true]

variable {pending : InstallPending}

theorem Armed.remove_legacy (h : Armed probe pending dir) :
    Armed probe pending (dir.remove (legacyBootCountName probe.currentVersion)) where
  unhealthy := by
    rw [hasFile_eq_false, Table.find?_eq_none_iff]
    intro file hfile
    exact Table.find?_eq_none_iff.mp (hasFile_eq_false.mp h.unhealthy) file
      (Table.mem_remove.mp hfile).1
  record := by
    rw [Table.find?_remove_of_ne (pending_ne_legacy _ _)]
    exact h.record

/-- What recording a start that is not recorded yet does. -/
theorem recordBootAttempt_of_fresh {pid : Nat}
    (h : dir.find? (bootCountPidName probe.currentVersion pid) = none) :
    probe.bootMarkers (probe.recordBootAttempt pid dir) =
        probe.bootMarkers dir ++ [⟨bootCountPidName probe.currentVersion pid, .marker⟩] ∧
      ∀ name, (probe.recordBootAttempt pid dir).find? name =
        if bootCountPidName probe.currentVersion pid = name
        then some ⟨bootCountPidName probe.currentVersion pid, .marker⟩ else dir.find? name := by
  have hfresh : ∃ dir', dir.insert? ⟨bootCountPidName probe.currentVersion pid, .marker⟩ =
      some dir' ∧ dir'.rows = dir.rows ++ [⟨bootCountPidName probe.currentVersion pid, .marker⟩] :=
    Table.insert?_of_fresh h
  obtain ⟨dir', hinsert, hrows⟩ := hfresh
  have hrecord : probe.recordBootAttempt pid dir = dir' := by
    unfold recordBootAttempt
    rw [hinsert, Option.getD_some]
  rw [hrecord]
  refine ⟨?_, fun name => Table.find?_insert? hinsert name⟩
  unfold bootMarkers
  rw [hrows, List.filter_append, List.filter_cons_of_pos (isBootMarker_pid _ _ _),
    List.filter_nil]

/-- A start that is recorded leaves the rollback armed. -/
theorem Armed.record_boot {pid : Nat} (h : Armed probe pending dir)
    (hfresh : dir.find? (bootCountPidName probe.currentVersion pid) = none) :
    Armed probe pending (probe.recordBootAttempt pid dir) := by
  obtain ⟨-, hfind⟩ := recordBootAttempt_of_fresh hfresh
  have hhealthy : bootCountPidName probe.currentVersion pid ≠
      selfHealthyName probe.currentVersion := by
    unfold bootCountPidName bootCountPidStart selfHealthyName
    rw [String.append_assoc, String.append_assoc]
    exact Text.append_ne_append 2 (by decide) (by decide) (by decide)
  have hpending : bootCountPidName probe.currentVersion pid ≠
      installPendingName probe.currentVersion := by
    unfold bootCountPidName bootCountPidStart installPendingName
    rw [String.append_assoc, String.append_assoc]
    exact Text.append_ne_append 2 (by decide) (by decide) (by decide)
  constructor
  · rw [hasFile_eq_false, hfind, if_neg hhealthy]
    exact hasFile_eq_false.mp h.unhealthy
  · rw [hfind, if_neg hpending]
    exact h.record

/-- One start of an armed version, by the number of starts recorded so far. -/
theorem checkStartupState_armed {boot : Boot} (h : Armed probe pending dir)
    (hfresh : isStale pending.installedAt boot.now = false) :
    probe.checkStartupState boot.pid boot.now dir =
      if probe.failedBootThreshold.toNat ≤ (probe.bootMarkers dir).length then
        (.rollbackRequired probe.currentVersion pending.previousVersion pending.backupPath
          .repeatedStartupFailure, dir.remove (legacyBootCountName probe.currentVersion))
      else (.normal, probe.recordBootAttempt boot.pid
        (dir.remove (legacyBootCountName probe.currentVersion))) := by
  have hcount : probe.failedBootThreshold.toNat ≤
      probe.bootCount (dir.remove (legacyBootCountName probe.currentVersion)) ↔
      probe.failedBootThreshold.toNat ≤ (probe.bootMarkers dir).length := by
    show _ ≤ min (probe.bootMarkers _).length _ ↔ _
    rw [bootMarkers_remove_legacy]
    -- the threshold is a byte, so the saturation is out of reach
    have hbyte := probe.failedBootThreshold.toNat_lt
    omega
  unfold checkStartupState
  rw [h.unhealthy, h.record]
  simp only [Bool.false_eq_true, if_false, checkPending, hfresh, hcount]

theorem find?_remove_legacy {pid : Nat}
    (h : dir.find? (bootCountPidName probe.currentVersion pid) = none) :
    Table.find? (dir.remove (legacyBootCountName probe.currentVersion))
      (bootCountPidName probe.currentVersion pid) = none := by
  rw [Table.find?_remove_of_ne (bootCountPidName_ne_legacy _ _)]
  exact h

/-- The starts of an armed version from start number `i` on: the starts before it have left
    `min i threshold` markers, and the ones to come have left none. -/
theorem startupActions_armed {boots : List Boot} {i : Nat} (harmed : Armed probe pending dir)
    (hcount : (probe.bootMarkers dir).length = min i probe.failedBootThreshold.toNat)
    (hnone : ∀ boot ∈ boots, dir.find? (bootCountPidName probe.currentVersion boot.pid) = none)
    (hpids : (boots.map Boot.pid).Nodup)
    (hfresh : ∀ boot ∈ boots, isStale pending.installedAt boot.now = false) {k : Nat}
    {action : StartupAction} (h : (probe.startupActions dir boots)[k]? = some action) :
    action = probe.owedAction pending.previousVersion pending.backupPath (i + k) := by
  induction boots generalizing dir i k with
  | nil => nomatch h
  | cons boot boots ih =>
    rw [startupActions, checkStartupState_armed harmed (hfresh boot List.mem_cons_self)] at h
    rw [List.map_cons, List.nodup_cons] at hpids
    have hfresh' := fun b hb => hfresh b (List.mem_cons_of_mem boot hb)
    have hnone' := fun b (hb : b ∈ boots) =>
      find?_remove_legacy (hnone b (List.mem_cons_of_mem boot hb))
    by_cases hi : i < probe.failedBootThreshold.toNat
    · -- a normal start, which leaves its marker
      rw [if_neg (by omega)] at h
      cases k with
      | zero =>
        obtain rfl := Option.some.inj h
        exact (if_pos hi).symm
      | succ k =>
        have hboot := find?_remove_legacy (hnone boot List.mem_cons_self)
        obtain ⟨hmarkers, hfind⟩ := recordBootAttempt_of_fresh hboot
        rw [bootMarkers_remove_legacy] at hmarkers
        have hlen : (probe.bootMarkers (probe.recordBootAttempt boot.pid
            (dir.remove (legacyBootCountName probe.currentVersion)))).length =
            min (i + 1) probe.failedBootThreshold.toNat := by
          rw [hmarkers, List.length_append, List.length_singleton]
          omega
        have hothers : ∀ b ∈ boots, (probe.recordBootAttempt boot.pid
            (dir.remove (legacyBootCountName probe.currentVersion))).find?
            (bootCountPidName probe.currentVersion b.pid) = none := by
          intro b hb
          have hne : bootCountPidName probe.currentVersion boot.pid ≠
              bootCountPidName probe.currentVersion b.pid := by
            intro heq
            rw [bootCountPidName_injective _ heq] at hpids
            exact hpids.1 (List.mem_map_of_mem hb)
          rw [hfind, if_neg hne]
          exact hnone' b hb
        rw [ih (harmed.remove_legacy.record_boot hboot) hlen hothers hpids.2 hfresh' h,
          Nat.add_assoc, Nat.add_comm 1 k]
    · -- the threshold is reached, and stays reached
      rw [if_pos (by omega)] at h
      cases k with
      | zero =>
        obtain rfl := Option.some.inj h
        exact (if_neg hi).symm
      | succ k =>
        have hlen : (probe.bootMarkers
            (dir.remove (legacyBootCountName probe.currentVersion))).length =
            min (i + 1) probe.failedBootThreshold.toNat := by
          rw [bootMarkers_remove_legacy]
          omega
        rw [ih harmed.remove_legacy hlen hnone' hpids.2 hfresh' h, Nat.add_assoc, Nat.add_comm 1 k]

/-- **An armed version fires**: with distinct process ids, no start recorded before, and none after
    the cutoff, the first starts are normal and every later one asks for the recorded rollback. -/
theorem armed_fires {boots : List Boot} (harmed : Armed probe pending dir)
    (hnone : probe.bootMarkers dir = []) (hpids : (boots.map Boot.pid).Nodup)
    (hfresh : ∀ boot ∈ boots, isStale pending.installedAt boot.now = false) :
    probe.RollbackFires pending.previousVersion pending.backupPath dir boots := by
  have hfind : ∀ boot ∈ boots,
      dir.find? (bootCountPidName probe.currentVersion boot.pid) = none := by
    intro boot _
    rw [Table.find?_eq_none_iff]
    intro file hfile hname
    have hmarker : file ∈ probe.bootMarkers dir :=
      List.mem_filter.mpr ⟨hfile, by
        obtain ⟨name, content⟩ := file
        obtain rfl : name = _ := hname
        exact isBootMarker_pid _ _ _⟩
    rw [hnone] at hmarker
    nomatch hmarker
  intro k action h
  have hcount : (probe.bootMarkers dir).length = min 0 probe.failedBootThreshold.toNat := by
    rw [hnone, Nat.zero_min, List.length_nil]
  have howed := startupActions_armed harmed hcount hfind hpids hfresh h
  rwa [Nat.zero_add] at howed

/-- **An install that is told the version is armed**: it leaves the record, with the version it
    replaces and the backup it made. -/
theorem versioned_install_record {Version : Type} {updater : Updater Version} {currentExe : String}
    {ops : InstallOps} {file : TempFile} {newVersion : String} {dir dir' : InstallDir}
    (h : updater.installAndRestartVersioned currentExe ops file (some newVersion) dir =
      (.ok (), dir')) :
    dir'.find? (installPendingName newVersion) =
      some ⟨installPendingName newVersion, .installPending
        ⟨ops.now, updater.currentVersion, backupPathFor currentExe ops.timestamp⟩⟩ := by
  unfold Updater.installAndRestartVersioned installAndRestartWithOps at h
  simp only at h
  split at h
  · cases h
  split at h
  · cases h
  split at h
  · cases h
  split at h
  · cases h
  next dir'' harm =>
  -- the restart succeeded, so the directory is as the marker's write left it
  unfold restartOrRestore at h
  split at h
  swap
  · split at h <;> cases h
  injection h with _ h
  subst h
  unfold armRollback writeInstallPending at harm
  simp only at harm
  split at harm
  · cases harm
  injection harm with _ harm
  subst harm
  unfold InstallDir.write
  rw [Table.find?_upsert, if_pos rfl]

/-- The sibling entry point meets the protocol: `install_and_restart_versioned` with the version. -/
theorem versioned_install_fires {Version : Type} {updater : Updater Version} {currentExe : String}
    {ops : InstallOps} {file : TempFile} {dir dir' : InstallDir} {boots : List Boot}
    (h : updater.installAndRestartVersioned currentExe ops file (some probe.currentVersion) dir =
      (.ok (), dir'))
    (hunhealthy : dir'.hasFile (selfHealthyName probe.currentVersion) = false)
    (hnone : probe.bootMarkers dir' = []) (hpids : (boots.map Boot.pid).Nodup)
    (hsoon : ∀ boot ∈ boots, boot.now - ops.now ≤ stalenessCutoff) :
    probe.RollbackFires updater.currentVersion (backupPathFor currentExe ops.timestamp) dir'
      boots := by
  have harmed : Armed probe
      ⟨ops.now, updater.currentVersion, backupPathFor currentExe ops.timestamp⟩ dir' :=
    ⟨hunhealthy, versioned_install_record h⟩
  exact armed_fires harmed hnone hpids
    (fun boot hboot => decide_eq_false (Int.not_lt.mpr (hsoon boot hboot)))

/-- The sample install, told the version, and three starts. -/
theorem versioned_install_fires_sample :
    (new "0.5.0").RollbackFires "0.4.0" (backupPathFor "oneshim" 1)
      (Installation.sampleInstallation.updater.installAndRestartVersioned "oneshim"
        (Installation.sampleWorld []).ops ⟨"oneshim", [5], .downloaded "u"⟩ (some "0.5.0")
        Installation.sampleDir).2 [⟨1, 2⟩, ⟨2, 3⟩, ⟨3, 4⟩] :=
  @versioned_install_fires (new "0.5.0") Nat Installation.sampleInstallation.updater "oneshim"
    (Installation.sampleWorld []).ops ⟨"oneshim", [5], .downloaded "u"⟩ Installation.sampleDir _
    [⟨1, 2⟩, ⟨2, 3⟩, ⟨3, 4⟩] (by rfl) (by decide) (by decide) (by decide) (by decide)

end HealthProbe

/-! ## The life of a device -/

/-- What happens to an install directory: runs of the coordinator, starts, healthy versions,
    rollbacks and scans, each with what it reads. -/
inductive DeviceEvent (Version : Type) where
  | coordinate (installation : Installation Version) (autoInstall : Bool) (first : UpdateWorld)
      (events : List (UpdateWorld × CoordinatorEvent))
  | boot (probe : HealthProbe) (boot : Boot)
  | healthy (version : String)
  | rollback (backupPath currentExe toVersion : String) (notified : Bool)
      (rename : Except String Unit)
  | scan

/-- One event of a device. -/
def deviceStep {Version : Type} [LT Version] [DecidableLT Version] (dir : InstallDir) :
    DeviceEvent Version → InstallDir
  | .coordinate installation autoInstall first events =>
    (installation.coordinate autoInstall dir first events).device
  | .boot probe boot => (probe.checkStartupState boot.pid boot.now dir).2
  | .healthy version => writeSelfHealthyAndCleanup version dir
  | .rollback backupPath currentExe toVersion notified rename =>
    (executeRollbackSwapOnly backupPath currentExe toVersion notified rename dir).2
  | .scan => sweepNotifications dir

/-- A directory as a package unpacks it. -/
def shippedDir (files : List (String × List UInt8)) : InstallDir :=
  files.foldl (fun dir file => dir.write file.1 (.bytes file.2)) Table.empty

/-- No file is an install record. -/
def Unarmed (dir : InstallDir) : Prop :=
  ∀ file ∈ dir.rows, ∀ pending, file.content ≠ .installPending pending

namespace Unarmed

variable {dir : InstallDir}

/-- Removing files arms nothing. -/
theorem of_subset {dir' : InstallDir} (h : Unarmed dir) (hsub : ∀ f ∈ dir'.rows, f ∈ dir.rows) :
    Unarmed dir' :=
  fun file hfile => h file (hsub file hfile)

theorem filterRows (h : Unarmed dir) (p : FileEntry → Bool) : Unarmed (dir.filterRows p) :=
  h.of_subset fun _ hf => (List.mem_filter.mp hf).1

theorem remove (h : Unarmed dir) (name : String) : Unarmed (Table.remove dir name) :=
  h.of_subset fun _ hf => (Table.mem_remove.mp hf).1

/-- Writing something else than a record arms nothing. -/
theorem write (h : Unarmed dir) (name : String) {content : FileContent}
    (hcontent : ∀ pending, content ≠ .installPending pending) : Unarmed (dir.write name content) := by
  intro file hfile
  rcases Table.mem_upsert.mp hfile with rfl | ⟨hold, -⟩
  · exact hcontent
  · exact h file hold

theorem content_of_find? (h : Unarmed dir) {name : String} {file : FileEntry}
    (hfind : dir.find? name = some file) (pending : InstallPending) :
    file.content ≠ .installPending pending :=
  h file (Table.find?_eq_some_iff.mp hfind).1 pending

theorem copy (h : Unarmed dir) (source target : String) : Unarmed (dir.copy source target) := by
  unfold InstallDir.copy
  split
  · next file hfind => exact h.write target (h.content_of_find? hfind)
  · exact h

theorem leave (h : Unarmed dir) (name : String) (left : Option (List UInt8)) :
    Unarmed (dir.leave name left) := by
  unfold InstallDir.leave
  split
  · exact h.write name nofun
  · exact h

theorem shipped (files : List (String × List UInt8)) : Unarmed (shippedDir files) := by
  have hfold : ∀ dir, Unarmed dir →
      Unarmed (files.foldl (fun dir file => dir.write file.1 (.bytes file.2)) dir) := by
    induction files with
    | nil => exact fun _ h => h
    | cons file files ih => exact fun dir h => ih _ (h.write file.1 nofun)
  exact hfold Table.empty nofun

/-! ## Nothing arms it -/

/-- **An install without a version leaves no record.** -/
theorem install {Version : Type} (updater : Updater Version) (currentExe : String)
    (ops : InstallOps) (file : TempFile) (h : Unarmed dir) :
    Unarmed (updater.installAndRestart currentExe ops file dir).2 := by
  unfold Updater.installAndRestart Updater.installAndRestartVersioned installAndRestartWithOps
  simp only
  split
  · exact h.leave _ _
  have hcopy := h.copy currentExe (backupPathFor currentExe ops.timestamp)
  split
  · exact hcopy.remove _
  split
  · exact hcopy.remove _
  next binary _ _ _ =>
  have hwrite : Unarmed (InstallDir.write _ currentExe (.bytes binary)) :=
    hcopy.write currentExe nofun
  simp only [armRollback, restartOrRestore]
  split
  · exact hwrite
  · split
    · exact hwrite.copy _ _
    · exact hwrite

/-- **Without a record, a start is normal** and changes nothing. -/
theorem checkStartupState (h : Unarmed dir) (probe : HealthProbe) (pid : Nat) (now : Int) :
    probe.checkStartupState pid now dir = (.normal, dir) := by
  unfold HealthProbe.checkStartupState
  split
  · rfl
  split
  · rfl
  next file hfind =>
  split
  · next pending hcontent => exact absurd hcontent (h.content_of_find? hfind pending)
  · rfl

theorem healthy (h : Unarmed dir) (version : String) :
    Unarmed (writeSelfHealthyAndCleanup version dir) := by
  have hwrite : Unarmed (dir.write (selfHealthyName version) .marker) := h.write _ nofun
  exact (((hwrite.remove _).filterRows _).remove _).filterRows _

/-- A rollback arms nothing. -/
theorem rollback (h : Unarmed dir) (backupPath currentExe toVersion : String) (notified : Bool)
    (rename : Except String Unit) :
    Unarmed (executeRollbackSwapOnly backupPath currentExe toVersion notified rename dir).2 := by
  unfold executeRollbackSwapOnly
  split
  · exact h
  next backup hfind =>
  have hnotified : Unarmed (if notified then
      dir.write (".rolled_back_notification_" ++ toVersion) .marker else dir) := by
    split
    · exact h.write _ nofun
    · exact h
  simp only
  split
  · exact hnotified
  · exact (hnotified.write _ (h.content_of_find? hfind)).remove _

variable {Version : Type} [LT Version] [DecidableLT Version]

/-- A run of the coordinator: only its installs touch the directory. -/
theorem coordinate (installation : Installation Version) (autoInstall : Bool) (first : UpdateWorld)
    (events : List (UpdateWorld × CoordinatorEvent)) (h : Unarmed dir) :
    Unarmed (installation.coordinate autoInstall dir first events).device := by
  refine Coordinator.run_invariant (P := fun c => Unarmed c.device) h ?_
  intro turn hturn c c' heffect hc
  obtain ⟨world, -, rfl⟩ := Installation.exists_world hturn
  cases heffect with
  | publish => exact hc
  | offer => exact hc
  | forget => exact hc
  | download => exact hc
  | @install path _ =>
    exact install installation.updater installation.currentExe world.ops path hc

/-- **No history of a device arms a rollback.** -/
theorem history (files : List (String × List UInt8)) (events : List (DeviceEvent Version)) :
    Unarmed (events.foldl deviceStep (shippedDir files)) := by
  have hstep : ∀ dir, Unarmed dir → ∀ event : DeviceEvent Version,
      Unarmed (deviceStep dir event) := by
    intro dir h event
    cases event with
    | coordinate installation autoInstall first events =>
      exact h.coordinate installation autoInstall first events
    | boot probe boot =>
      show Unarmed (probe.checkStartupState boot.pid boot.now dir).2
      rw [h.checkStartupState]
      exact h
    | healthy version => exact h.healthy version
    | rollback backupPath currentExe toVersion notified rename =>
      exact h.rollback backupPath currentExe toVersion notified rename
    | scan => exact h.filterRows _
  have hrun : ∀ dir, Unarmed dir → Unarmed (events.foldl deviceStep dir) := by
    induction events with
    | nil => exact fun _ h => h
    | cons event events ih => exact fun dir h => ih _ (hstep dir h event)
  exact hrun _ (shipped files)

/-- Every start of an unarmed directory is normal. -/
theorem startupActions (h : Unarmed dir) (probe : HealthProbe) (boots : List Boot) :
    probe.startupActions dir boots = List.replicate boots.length .normal := by
  induction boots with
  | nil => rfl
  | cons boot boots ih =>
    rw [HealthProbe.startupActions, h.checkStartupState]
    exact congrArg (List.cons _) ih

/-- So the rollback that is due after the threshold does not come. -/
theorem rollbackFires_iff (h : Unarmed dir) (probe : HealthProbe)
    (previousVersion backupPath : String) (boots : List Boot) :
    probe.RollbackFires previousVersion backupPath dir boots ↔
      boots.length ≤ probe.failedBootThreshold.toNat := by
  unfold HealthProbe.RollbackFires
  rw [h.startupActions]
  constructor
  · intro hfires
    by_contra hlong
    have hnormal : (List.replicate boots.length StartupAction.normal)[
        probe.failedBootThreshold.toNat]? = some .normal := by
      rw [List.getElem?_replicate, if_pos (by omega)]
    have howed := hfires _ _ hnormal
    rw [HealthProbe.owedAction, if_neg (lt_irrefl _)] at howed
    nomatch howed
  · intro hshort i action haction
    rw [List.getElem?_replicate] at haction
    split at haction
    · next hi =>
      obtain rfl := Option.some.inj haction
      exact (if_pos (by omega)).symm
    · nomatch haction

end Unarmed

/-- **The coordinator never arms the rollback.**  Take any history of a device, and any run of the
    coordinator after it: of the starts that follow, the first `failed_boot_threshold` are normal
    and every later one is rolled back EXACTLY WHEN there is no later one. -/
theorem coordinator_install_never_armed {Version : Type} [LT Version] [DecidableLT Version]
    (files : List (String × List UInt8)) (history : List (DeviceEvent Version))
    (installation : Installation Version) (autoInstall : Bool) (first : UpdateWorld)
    (events : List (UpdateWorld × CoordinatorEvent)) (probe : HealthProbe)
    (previousVersion backupPath : String) (boots : List Boot) :
    probe.RollbackFires previousVersion backupPath
        (installation.coordinate autoInstall (history.foldl deviceStep (shippedDir files)) first
          events).device boots ↔
      boots.length ≤ probe.failedBootThreshold.toNat :=
  ((Unarmed.history files history).coordinate installation autoInstall first
    events).rollbackFires_iff probe previousVersion backupPath boots

/-- An update to 0.5.0 that crashes on each of three starts within seconds is still not rolled
    back: the third start is normal too. -/
theorem crash_loop_is_not_rolled_back :
    (∃ file ∈ (Installation.sampleCoordinate Installation.fullAssets).installed,
      file.origin = .downloaded "https://github.com/o/r/oneshim-linux-x64.tar.gz") ∧
    ¬(HealthProbe.new "0.5.0").RollbackFires "0.4.0" (backupPathFor "oneshim" 1)
      (Installation.sampleCoordinate Installation.fullAssets).device
      [⟨101, 10 ^ 9⟩, ⟨102, 2 * 10 ^ 9⟩, ⟨103, 3 * 10 ^ 9⟩] := by
  refine ⟨Installation.sampleCoordinate_installs, fun hfires => ?_⟩
  have hunarmed : Unarmed (Installation.sampleCoordinate Installation.fullAssets).device :=
    (Unarmed.shipped [("oneshim", [1])]).coordinate _ _ _ _
  have hshort := (hunarmed.rollbackFires_iff _ _ _ _).mp hfires
  exact absurd hshort (by decide)

end Oneshim
