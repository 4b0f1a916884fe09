/-
  When a rollback is asked for (`src-tauri/src/updater/health_probe.rs`, `install.rs`).

  The directory is shared by every version that is ever installed in it.  A start asks for the
  rollback when `failed_boot_threshold` boot markers of its version are there, so the question is
  where these markers come from.

  1. **Events** — installs that are told their version, starts, healthy versions and rollback swaps,
     in any order, over one directory (`probeStep`).

  2. **What an event adds** — every event adds a few files and removes others (`probeStep_adds`);
     invariants are read off the files it adds.

  3. **The crux** — boot markers of a version are removed by its healthy writer, by the sweep of
     another version and by the staleness rule, but NOT by a rollback and NOT by an install.  As long
     as every install finds none (`CleanInstalls`), the markers were all left by starts since the last
     install (`rollback_only_after_failed_boots`); a version that is installed again right after its
     rollback starts with the markers of its last life (`reinstalled_is_rolled_back_at_once`).
-/
import Mathlib.Data.List.Perm.Subperm
import Oneshim.Updater.HealthProbe

namespace Oneshim

open Lib

/-! ## Names -/

/-- The text of a semantic version: never empty, and never with an underscore. -/
structure VersionText where
  text : String
  nonempty : text ≠ ""
  plain : ∀ c ∈ text.toList, c ≠ '_'

theorem plain_of_all {text : String} (h : text.toList.all (· != '_') = true) :
    ∀ c ∈ text.toList, c ≠ '_' :=
  fun c hmem => bne_iff_ne.mp (List.all_eq_true.mp h c hmem)

/-- The file name of the executable: it is not hidden, and it is not a backup's. -/
structure ExeName where
  name : String
  nonempty : name.toList ≠ []
  visible : name.toList.head? ≠ some '.'
  noBackup : Text.contains name.toList ".rollback.".toList = false

/-! ## Events -/

/-- What happens to the directory. -/
inductive ProbeEvent where
  | install (previousVersion : String) (version : VersionText) (ops : InstallOps)
      (downloaded : TempFile)
  | boot (version : VersionText) (threshold : UInt8) (boot : Boot)
  | healthy (version : VersionText)
  | rollback (backupPath toVersion : String) (notified : Bool) (rename : Except String Unit)

/-- One event. -/
def probeStep (exe : ExeName) (dir : InstallDir) : ProbeEvent → InstallDir
  | .install previousVersion version ops downloaded =>
    (installAndRestartWithOps exe.name previousVersion ops downloaded (some version.text) dir).2
  | .boot version threshold boot =>
    ((HealthProbe.mk version.text threshold).checkStartupState boot.pid boot.now dir).2
  | .healthy version => writeSelfHealthyAndCleanup version.text dir
  | .rollback backupPath toVersion notified rename =>
    (executeRollbackSwapOnly backupPath exe.name toVersion notified rename dir).2

/-- Does the install get as far as to replace the binary? -/
def InstallOps.replaces (ops : InstallOps) (downloaded : TempFile) : Bool :=
  decide (ops.copy = .written) && (extractIfArchive ops downloaded).isOk && ops.replaceBinary.isOk

namespace ProbeEvent

/-- An install of the version. -/
def installs (version : VersionText) : ProbeEvent → Bool
  | .install _ installed ops downloaded =>
    decide (installed.text = version.text) && ops.replaces downloaded
  | _ => false

/-- A start of the version. -/
def boots (version : VersionText) : ProbeEvent → Bool
  | .boot started _ _ => decide (started.text = version.text)
  | _ => false

/-- The healthy marker of the version is written. -/
def heals (version : VersionText) : ProbeEvent → Bool
  | .healthy healed => decide (healed.text = version.text)
  | _ => false

end ProbeEvent

/-- Since the last install of the version it was started `n` times, and never healthy. -/
def FailedSince (version : VersionText) (n : Nat) (events : List ProbeEvent) : Prop :=
  ∃ before event after, events = before ++ event :: after ∧ event.installs version = true ∧
    (∀ e ∈ after, e.installs version = false ∧ e.heals version = false) ∧
    n ≤ after.countP (·.boots version)

/-- Every install of a version finds no boot marker of it. -/
def CleanInstalls (exe : ExeName) (dir : InstallDir) (events : List ProbeEvent) : Prop :=
  ∀ before event after version, events = before ++ event :: after →
    event.installs version = true →
    ∀ file ∈ (before.foldl (probeStep exe) dir).rows, isBootMarker version.text file = false

/-! ## What a change adds to the directory -/

/-- Every file is an old one or one of `P`. -/
def OnlyAdds (P : FileEntry → Prop) (dir dir' : InstallDir) : Prop :=
  ∀ file ∈ dir'.rows, file ∈ dir.rows ∨ P file

namespace OnlyAdds

variable {P : FileEntry → Prop} {dir dir' : InstallDir}

theorem refl : OnlyAdds P dir dir := fun _ h => .inl h

theorem filterRows (h : OnlyAdds P dir dir') (p : FileEntry → Bool) :
    OnlyAdds P dir (dir'.filterRows p) :=
  fun file hfile => h file (List.mem_filter.mp hfile).1

theorem remove (h : OnlyAdds P dir dir') (name : String) :
    OnlyAdds P dir (Table.remove dir' name) :=
  h.filterRows _

theorem write (h : OnlyAdds P dir dir') {name : String} {content : FileContent}
    (hnew : P ⟨name, content⟩) : OnlyAdds P dir (dir'.write name content) := by
  intro file hfile
  rcases Table.mem_upsert.mp hfile with rfl | ⟨hold, -⟩
  · exact .inr hnew
  · exact h file hold

theorem copy (h : OnlyAdds P dir dir') {source target : String}
    (hnew : ∀ content, P ⟨target, content⟩) : OnlyAdds P dir (dir'.copy source target) := by
  unfold InstallDir.copy
  split
  · exact h.write (hnew _)
  · exact h

theorem leave (h : OnlyAdds P dir dir') {name : String} (left : Option (List UInt8))
    (hnew : ∀ content, P ⟨name, content⟩) : OnlyAdds P dir (dir'.leave name left) := by
  unfold InstallDir.leave
  split
  · exact h.write (hnew _)
  · exact h

theorem armRollback (h : OnlyAdds P dir dir') (ops : InstallOps)
    (newVersion previousVersion backupPath : String)
    (hnew : ∀ content, P ⟨installPendingName newVersion, content⟩) :
    OnlyAdds P dir (armRollback dir' ops (some newVersion) previousVersion backupPath).2 := by
  unfold Oneshim.armRollback writeInstallPending
  simp only
  split
  · exact h.leave _ hnew
  · exact h.write (hnew _)

theorem restartOrRestore (h : OnlyAdds P dir dir') (ops : InstallOps) {currentExe : String}
    (backupPath : String) (hnew : ∀ content, P ⟨currentExe, content⟩) :
    OnlyAdds P dir (restartOrRestore dir' ops currentExe backupPath).2 := by
  unfold Oneshim.restartOrRestore
  split
  · exact h
  split
  · exact h.copy hnew
  · exact h

end OnlyAdds

/-! ## What an event adds -/

/-- The name does not begin with a dot. -/
def Visible (name : String) : Prop := name.toList.head? ≠ some '.'

theorem ExeName.visible_backup (exe : ExeName) (timestamp : Int) :
    Visible (backupPathFor exe.name timestamp) := by
  have hlist : (backupPathFor exe.name timestamp).toList =
      exe.name.toList ++ (".rollback.".toList ++ (toString timestamp).toList) := by
    unfold backupPathFor
    rw [String.toList_append, String.toList_append, List.append_assoc]
  unfold Visible
  rw [hlist, List.head?_append_of_ne_nil _ exe.nonempty]
  exact exe.visible

theorem ExeName.ne_backup (exe : ExeName) (timestamp : Int) :
    exe.name ≠ backupPathFor exe.name timestamp := by
  intro h
  have hlist := congrArg (List.length ∘ String.toList) h
  unfold backupPathFor at hlist
  simp only [Function.comp_apply, String.toList_append, List.length_append] at hlist
  have hten : ".rollback.".toList.length = 10 := rfl
  omega

namespace ProbeEvent

/-- The files an event can add. -/
def Adds : ProbeEvent → FileEntry → Prop
  | .install _ version ops downloaded, file =>
    Visible file.name ∨
      (ops.replaces downloaded = true ∧ file.name = installPendingName version.text)
  | .boot version _ start, file => file = ⟨bootCountPidName version.text start.pid, .marker⟩
  | .healthy version, file => file = ⟨selfHealthyName version.text, .marker⟩
  | .rollback _ toVersion _ _, file =>
    Visible file.name ∨ file = ⟨".rolled_back_notification_" ++ toVersion, .marker⟩

end ProbeEvent

/-- An installation adds its backup, its binary and its marker. -/
theorem install_adds (exe : ExeName) (previousVersion : String) (version : VersionText)
    (ops : InstallOps) (downloaded : TempFile) (dir : InstallDir) :
    OnlyAdds (ProbeEvent.install previousVersion version ops downloaded).Adds dir
      (installAndRestartWithOps exe.name previousVersion ops downloaded (some version.text)
        dir).2 := by
  have hbackup (content : FileContent) :
      (ProbeEvent.install previousVersion version ops downloaded).Adds
        ⟨backupPathFor exe.name ops.timestamp, content⟩ :=
    Or.inl (exe.visible_backup ops.timestamp)
  have hexe (content : FileContent) :
      (ProbeEvent.install previousVersion version ops downloaded).Adds ⟨exe.name, content⟩ :=
    Or.inl exe.visible
  unfold installAndRestartWithOps
  simp only
  split
  · exact OnlyAdds.refl.leave _ hbackup
  next hcopied =>
  have hcopy : OnlyAdds (ProbeEvent.install previousVersion version ops downloaded).Adds dir
      (dir.copy exe.name (backupPathFor exe.name ops.timestamp)) :=
    OnlyAdds.refl.copy hbackup
  split
  · exact hcopy.remove _
  next binary hextract =>
  split
  · exact hcopy.remove _
  next hreplaced =>
  -- from here on the binary is replaced
  have hreplaces : ops.replaces downloaded = true := by
    unfold InstallOps.replaces
    rw [hcopied, hextract, hreplaced]
    rfl
  have hpending (content : FileContent) :
      (ProbeEvent.install previousVersion version ops downloaded).Adds
        ⟨installPendingName version.text, content⟩ :=
    Or.inr ⟨hreplaces, rfl⟩
  have hwrite : OnlyAdds (ProbeEvent.install previousVersion version ops downloaded).Adds dir
      (InstallDir.write _ exe.name (.bytes binary)) :=
    hcopy.write (hexe _)
  have harm := hwrite.armRollback ops version.text previousVersion
    (backupPathFor exe.name ops.timestamp) hpending
  split
  · next heq =>
    rw [heq] at harm
    exact harm
  · next heq =>
    rw [heq] at harm
    exact harm.restartOrRestore ops _ hexe

/-- A start adds boot markers. -/
theorem boot_adds (version : VersionText) (threshold : UInt8) (boot : Boot) (dir : InstallDir) :
    OnlyAdds (ProbeEvent.boot version threshold boot).Adds dir
      ((HealthProbe.mk version.text threshold).checkStartupState boot.pid boot.now dir).2 := by
  unfold HealthProbe.checkStartupState
  split
  · exact .refl
  split
  · exact .refl
  split
  swap
  · exact .refl
  unfold HealthProbe.checkPending
  split
  · exact (((OnlyAdds.refl.remove _).filterRows _).remove _)
  have hremove : OnlyAdds (ProbeEvent.boot version threshold boot).Adds dir
      (dir.remove (legacyBootCountName version.text)) := OnlyAdds.refl.remove _
  simp only
  split
  · exact hremove
  · unfold HealthProbe.recordBootAttempt
    cases hinsert : (dir.remove (legacyBootCountName version.text)).insert?
        ⟨bootCountPidName version.text boot.pid, .marker⟩ with
    | none => exact hremove
    | some dir' =>
      intro file hfile
      rcases (Table.mem_insert? hinsert).mp hfile with hold | rfl
      · exact hremove file hold
      · exact .inr rfl

theorem healthy_adds (version : VersionText) (dir : InstallDir) :
    OnlyAdds (ProbeEvent.healthy version).Adds dir (writeSelfHealthyAndCleanup version.text dir) := by
  have hwrite : OnlyAdds (ProbeEvent.healthy version).Adds dir
      (dir.write (selfHealthyName version.text) .marker) :=
    OnlyAdds.refl.write (Eq.refl _)
  exact (((hwrite.remove _).filterRows _).remove _).filterRows _

/-- A rollback adds the old binary and a notification at most. -/
theorem rollback_adds (exe : ExeName) (backupPath toVersion : String) (notified : Bool)
    (rename : Except String Unit) (dir : InstallDir) :
    OnlyAdds (ProbeEvent.rollback backupPath toVersion notified rename).Adds dir
      (executeRollbackSwapOnly backupPath exe.name toVersion notified rename dir).2 := by
  unfold executeRollbackSwapOnly
  split
  · exact .refl
  next backup _ =>
  have hnotified : OnlyAdds (ProbeEvent.rollback backupPath toVersion notified rename).Adds dir
      (if notified then dir.write (".rolled_back_notification_" ++ toVersion) .marker
        else dir) := by
    split
    · exact OnlyAdds.refl.write (.inr rfl)
    · exact .refl
  simp only
  split
  · exact hnotified
  · exact (hnotified.write (.inl exe.visible)).remove _

/-- **What an event adds.** -/
theorem probeStep_adds (exe : ExeName) (event : ProbeEvent) (dir : InstallDir) :
    OnlyAdds event.Adds dir (probeStep exe dir event) := by
  cases event with
  | install previousVersion version ops downloaded =>
    exact install_adds exe previousVersion version ops downloaded dir
  | boot version threshold boot => exact boot_adds version threshold boot dir
  | healthy version => exact healthy_adds version dir
  | rollback backupPath toVersion notified rename =>
    exact rollback_adds exe backupPath toVersion notified rename dir

/-! ## Whose files they are -/

theorem toList_installPendingName (version : String) :
    (installPendingName version).toList = ".install_pending_".toList ++ version.toList := by
  rw [← String.toList_append]
  rfl

theorem installPendingName_injective : Function.Injective installPendingName := by
  intro v w h
  have hlist := congrArg String.toList h
  rw [toList_installPendingName, toList_installPendingName, List.append_cancel_left_eq] at hlist
  exact String.toList_inj.mp hlist

/-- How the name of a boot marker begins. -/
theorem isBootMarker_iff {version : String} {file : FileEntry} :
    isBootMarker version file = true ↔
      ∃ rest, file.name.toList = ".boot_count_pid_".toList ++ (version.toList ++ '_' :: rest) := by
  have hstart : (bootCountPidStart version).toList =
      ".boot_count_pid_".toList ++ (version.toList ++ ['_']) := by
    have hunderscore : ['_'] = "_".toList := rfl
    rw [hunderscore, ← String.toList_append, ← String.toList_append, ← String.append_assoc]
    rfl
  unfold isBootMarker startsWith
  rw [List.isPrefixOf_iff_prefix, hstart]
  constructor
  · rintro ⟨rest, h⟩
    exact ⟨rest, by rw [← h, List.append_assoc, List.append_assoc, List.singleton_append]⟩
  · rintro ⟨rest, h⟩
    exact ⟨rest, by rw [h, List.append_assoc, List.append_assoc, List.singleton_append]⟩

/-- A boot marker's name begins as nothing else does. -/
theorem take_of_isBootMarker {version : String} {file : FileEntry}
    (h : isBootMarker version file = true) : file.name.toList.take 2 = ['.', 'b'] := by
  obtain ⟨rest, hname⟩ := isBootMarker_iff.mp h
  rw [hname]
  rfl

theorem head_of_isBootMarker {version : String} {file : FileEntry}
    (h : isBootMarker version file = true) : file.name.toList.head? = some '.' := by
  obtain ⟨rest, hname⟩ := isBootMarker_iff.mp h
  rw [hname]
  rfl

/-- A boot marker belongs to one version. -/
theorem version_of_isBootMarker {version started : VersionText} {pid : Nat}
    (h : isBootMarker version.text ⟨bootCountPidName started.text pid, .marker⟩ = true) :
    started.text = version.text := by
  obtain ⟨rest, hname⟩ := isBootMarker_iff.mp h
  obtain ⟨pids, hown⟩ := isBootMarker_iff.mp (HealthProbe.isBootMarker_pid started.text pid .marker)
  have hboth := hown.symm.trans hname
  rw [List.append_cancel_left_eq] at hboth
  exact String.toList_inj.mp (Text.append_cons_inj started.plain version.plain hboth).1

namespace ProbeEvent

variable {event : ProbeEvent} {version : VersionText} {file : FileEntry}

/-- **Only a start adds a boot marker of its version**, and it adds one. -/
theorem eq_of_adds_marker (h : event.Adds file) (hmarker : isBootMarker version.text file = true) :
    event.boots version = true ∧
      ∀ other, event.Adds other → isBootMarker version.text other = true → other = file := by
  cases event with
  | install previousVersion installed ops downloaded =>
    rcases h with hvisible | ⟨-, hname⟩
    · exact absurd (head_of_isBootMarker hmarker) hvisible
    · have htake := take_of_isBootMarker hmarker
      rw [hname, toList_installPendingName] at htake
      nomatch htake
  | boot started threshold start =>
    obtain rfl : file = _ := h
    exact ⟨decide_eq_true (version_of_isBootMarker hmarker), fun other hother _ => hother⟩
  | healthy healed =>
    obtain rfl : file = _ := h
    have htake := take_of_isBootMarker hmarker
    have hname : (selfHealthyName healed.text).toList =
        ".self_healthy_".toList ++ healed.text.toList := by
      rw [← String.toList_append]
      rfl
    rw [hname] at htake
    nomatch htake
  | rollback backupPath toVersion notified rename =>
    rcases h with hvisible | rfl
    · exact absurd (head_of_isBootMarker hmarker) hvisible
    · have htake := take_of_isBootMarker hmarker
      rw [String.toList_append] at htake
      nomatch htake

/-- **Only an install adds a record of its version.** -/
theorem installs_of_adds_record {pending : InstallPending}
    (h : event.Adds ⟨installPendingName version.text, .installPending pending⟩) :
    event.installs version = true := by
  have hhidden : ¬Visible (installPendingName version.text) := by
    unfold Visible
    rw [toList_installPendingName]
    exact fun hne => hne rfl
  cases event with
  | install previousVersion installed ops downloaded =>
    rcases h with hvisible | ⟨hreplaces, hname⟩
    · exact absurd hvisible hhidden
    · show (decide (installed.text = version.text) && ops.replaces downloaded) = true
      rw [decide_eq_true (installPendingName_injective hname).symm, hreplaces]
      rfl
  | boot started threshold start => nomatch h
  | healthy healed => nomatch h
  | rollback backupPath toVersion notified rename =>
    rcases h with hvisible | h
    · exact absurd hvisible hhidden
    · nomatch h

end ProbeEvent

/-! ## The invariant -/

/-- The boot markers of the version. -/
def markersOf (version : VersionText) (dir : InstallDir) : List FileEntry :=
  dir.rows.filter (isBootMarker version.text)

/-- The record of an install of the version is there. -/
def Recorded (version : VersionText) (dir : InstallDir) : Prop :=
  ∃ pending, ⟨installPendingName version.text, .installPending pending⟩ ∈ dir.rows

theorem nodup_markersOf (version : VersionText) (dir : InstallDir) :
    (markersOf version dir).Nodup :=
  dir.nodup.of_map.filter _

/-- An event adds at most one marker, and only when it is a start. -/
theorem length_markersOf_step (exe : ExeName) (version : VersionText) (event : ProbeEvent)
    (dir : InstallDir) :
    (markersOf version (probeStep exe dir event)).length ≤
      (markersOf version dir).length + if event.boots version then 1 else 0 := by
  have hadds := probeStep_adds exe event dir
  have hnodup := nodup_markersOf version (probeStep exe dir event)
  by_cases hnew : ∃ file, event.Adds file ∧ isBootMarker version.text file = true
  · obtain ⟨file, hfile, hmarker⟩ := hnew
    obtain ⟨hboots, hunique⟩ := ProbeEvent.eq_of_adds_marker hfile hmarker
    have hsub : markersOf version (probeStep exe dir event) ⊆ file :: markersOf version dir := by
      intro other hother
      obtain ⟨hmem, hother⟩ := List.mem_filter.mp hother
      rcases hadds other hmem with hold | hadd
      · exact List.mem_cons_of_mem _ (List.mem_filter.mpr ⟨hold, hother⟩)
      · rw [hunique other hadd hother]
        exact List.mem_cons_self
    have hlen := (List.subperm_of_subset hnodup hsub).length_le
    rw [List.length_cons] at hlen
    rwa [if_pos hboots]
  · have hsub : markersOf version (probeStep exe dir event) ⊆ markersOf version dir := by
      intro other hother
      obtain ⟨hmem, hother⟩ := List.mem_filter.mp hother
      rcases hadds other hmem with hold | hadd
      · exact List.mem_filter.mpr ⟨hold, hother⟩
      · exact absurd ⟨other, hadd, hother⟩ hnew
    exact Nat.le_add_right_of_le (List.subperm_of_subset hnodup hsub).length_le

/-- A record stays until it is removed, and comes from an install. -/
theorem recorded_of_step {exe : ExeName} {version : VersionText} {event : ProbeEvent}
    {dir : InstallDir} (h : Recorded version (probeStep exe dir event)) :
    Recorded version dir ∨ event.installs version = true := by
  obtain ⟨pending, hmem⟩ := h
  rcases probeStep_adds exe event dir _ hmem with hold | hadd
  · exact .inl ⟨pending, hold⟩
  · exact .inr (ProbeEvent.installs_of_adds_record hadd)

/-- A healthy version has no record. -/
theorem not_recorded_of_heals {exe : ExeName} {version : VersionText} {event : ProbeEvent}
    {dir : InstallDir} (h : event.heals version = true) :
    ¬Recorded version (probeStep exe dir event) := by
  cases event with
  | healthy healed =>
    rintro ⟨pending, hmem⟩
    have hname : healed.text = version.text := of_decide_eq_true h
    have hmem := (List.mem_filter.mp hmem).1
    have hmem := (Table.mem_remove.mp hmem).1
    have hmem := (List.mem_filter.mp hmem).1
    exact (Table.mem_remove.mp hmem).2 (congrArg installPendingName hname.symm)
  | _ => nomatch h

namespace FailedSince

variable {version : VersionText} {events : List ProbeEvent} {event : ProbeEvent} {m n : Nat}

theorem mono (h : FailedSince version n events) (hmn : m ≤ n) : FailedSince version m events := by
  obtain ⟨before, install, after, heq, hinstalls, hquiet, hcount⟩ := h
  exact ⟨before, install, after, heq, hinstalls, hquiet, hmn.trans hcount⟩

/-- Right after an install nothing is counted. -/
theorem of_installs (h : event.installs version = true) :
    FailedSince version 0 (events ++ [event]) :=
  ⟨events, event, [], rfl, h, fun _ he => absurd he List.not_mem_nil, Nat.zero_le _⟩

/-- Another event counts when it is a start. -/
theorem concat (h : FailedSince version n events) (hinstalls : event.installs version = false)
    (hheals : event.heals version = false) :
    FailedSince version (n + if event.boots version then 1 else 0) (events ++ [event]) := by
  obtain ⟨before, install, after, rfl, hinstall, hquiet, hcount⟩ := h
  refine ⟨before, install, after ++ [event], by simp, hinstall, fun e he => ?_, ?_⟩
  · rcases List.mem_append.mp he with hold | hlast
    · exact hquiet e hold
    · rw [List.mem_singleton.mp hlast]
      exact ⟨hinstalls, hheals⟩
  · rw [List.countP_append, List.countP_singleton]
    omega

end FailedSince

/-- **The markers are starts since the last install**, in every run whose installs find none. -/
theorem markers_are_failed_boots (exe : ExeName) (files : List (String × List UInt8))
    (version : VersionText) (events : List ProbeEvent)
    (hclean : CleanInstalls exe (shippedDir files) events)
    (h : Recorded version (events.foldl (probeStep exe) (shippedDir files))) :
    FailedSince version (markersOf version (events.foldl (probeStep exe) (shippedDir files))).length
      events := by
  induction events using List.reverseRecOn with
  | nil =>
    obtain ⟨pending, hmem⟩ := h
    exact absurd rfl (Unarmed.shipped files _ hmem pending)
  | append_singleton events event ih =>
    have hclean' : CleanInstalls exe (shippedDir files) events := by
      intro before e after v heq
      exact hclean before e (after ++ [event]) v (by rw [heq]; simp)
    rw [List.foldl_concat] at h ⊢
    generalize hdir : events.foldl (probeStep exe) (shippedDir files) = dir at h ih ⊢
    have hlen := length_markersOf_step exe version event dir
    by_cases hinstalls : event.installs version = true
    · -- the install found no marker, and adds none
      have hnone : markersOf version dir = [] := by
        rw [markersOf, List.filter_eq_nil_iff]
        intro file hfile hmarker
        have hfree := hclean events event [] version rfl hinstalls file (hdir ▸ hfile)
        rw [hmarker] at hfree
        nomatch hfree
      have hnoboot : event.boots version = false := by
        cases event with
        | install => rfl
        | _ => nomatch hinstalls
      rw [hnone, hnoboot] at hlen
      exact (FailedSince.of_installs hinstalls).mono hlen
    · have hheals : event.heals version = false := by
        cases hheals : event.heals version with
        | false => rfl
        | true => exact absurd h (not_recorded_of_heals hheals)
      have hold := (recorded_of_step h).resolve_right hinstalls
      exact ((ih hclean' hold).concat (Bool.eq_false_iff.mpr hinstalls) hheals).mono hlen

/-- A start that asks for the rollback found the record and enough markers. -/
theorem recorded_of_rollbackRequired {probe : HealthProbe} {pid : Nat} {now : Int}
    {dir : InstallDir} {fromVersion toVersion backupPath : String} {reason : RollbackReason}
    (h : (probe.checkStartupState pid now dir).1 =
      .rollbackRequired fromVersion toVersion backupPath reason) :
    (∃ pending, ⟨installPendingName probe.currentVersion, .installPending pending⟩ ∈ dir.rows) ∧
      probe.failedBootThreshold.toNat ≤ (probe.bootMarkers dir).length := by
  unfold HealthProbe.checkStartupState at h
  split at h
  · cases h
  split at h
  · cases h
  next file hfind =>
  split at h
  swap
  · cases h
  next pending hcontent =>
  obtain ⟨hmem, hname⟩ := Table.find?_eq_some_iff.mp hfind
  obtain ⟨name, content⟩ := file
  obtain rfl : name = _ := hname
  obtain rfl : content = _ := hcontent
  refine ⟨⟨pending, hmem⟩, ?_⟩
  unfold HealthProbe.checkPending at h
  split at h
  · cases h
  simp only at h
  split at h
  · next hcount =>
    have hle : probe.bootCount (dir.remove (legacyBootCountName probe.currentVersion)) ≤
        (probe.bootMarkers dir).length := by
      rw [← HealthProbe.bootMarkers_remove_legacy]
      exact Nat.min_le_left _ _
    exact hcount.trans hle
  · cases h

/-- **No spurious rollback, when installs find no markers.**  A start of a version is asked to roll
    back only after `failed_boot_threshold` starts of it since its last install, with no healthy
    marker in between. -/
theorem rollback_only_after_failed_boots (exe : ExeName) (files : List (String × List UInt8))
    (events : List ProbeEvent) (hclean : CleanInstalls exe (shippedDir files) events)
    (version : VersionText) (threshold : UInt8) (boot : Boot)
    {fromVersion toVersion backupPath : String} {reason : RollbackReason}
    (h : ((HealthProbe.mk version.text threshold).checkStartupState boot.pid boot.now
      (events.foldl (probeStep exe) (shippedDir files))).1 =
        .rollbackRequired fromVersion toVersion backupPath reason) :
    FailedSince version threshold.toNat events := by
  obtain ⟨hrecorded, hcount⟩ := recorded_of_rollbackRequired h
  exact (markers_are_failed_boots exe files version events hclean hrecorded).mono hcount

/-! ## A version that crashes -/

def sampleExe : ExeName := ⟨"oneshim", by decide, by decide, by decide⟩

def sampleVersion : VersionText := ⟨"0.5.0", by decide, plain_of_all (by decide)⟩

/-- An install of 0.5.0 over 0.4.0 at this time, which goes through. -/
def sampleInstall (time : Int) : ProbeEvent :=
  .install "0.4.0" sampleVersion
    { timestamp := time, copy := .written
      extractTarGz := fun bytes => .ok bytes, extractZip := fun bytes => .ok bytes
      replaceBinary := .ok (), now := time, writePending := .written, restartApp := .ok ()
      replaceBack := .ok () }
    ⟨"oneshim", [5], .downloaded "https://github.com/o/r/oneshim"⟩

/-- A start of 0.5.0 that comes to nothing. -/
def sampleCrash (pid : Nat) (time : Int) : ProbeEvent := .boot sampleVersion 2 ⟨pid, time⟩

/-- Installed, and crashed twice. -/
def crashedTwice : List ProbeEvent := [sampleInstall 1, sampleCrash 101 2, sampleCrash 102 3]

/-- The third start rolls back, and the version is installed again before 0.4.0 has been healthy. -/
def reinstalled : List ProbeEvent :=
  crashedTwice ++ [sampleCrash 103 4, .rollback "oneshim.rollback.1" "0.4.0" true (.ok ())] ++
    [sampleInstall 5]

/-- No marker of an earlier installation is there. -/
theorem cleanInstalls_crashedTwice :
    CleanInstalls sampleExe (shippedDir [("oneshim", [1])]) crashedTwice := by
  intro before event after version heq hinstalls
  cases before with
  | nil =>
    have hvisible : ∀ file ∈ (shippedDir [("oneshim", [1])]).rows, Visible file.name := by
      unfold Visible
      decide
    intro file hfile
    cases hmarker : isBootMarker version.text file with
    | false => rfl
    | true => exact absurd (head_of_isBootMarker hmarker) (hvisible file hfile)
  | cons first before =>
    -- the other two events are starts
    have htail : event ∈ [sampleCrash 101 2, sampleCrash 102 3] := by
      rw [(List.cons.inj heq).2]
      exact List.mem_append_right _ List.mem_cons_self
    rcases List.mem_cons.mp htail with rfl | hlast
    · nomatch hinstalls
    · rw [List.mem_singleton.mp hlast] at hinstalls
      nomatch hinstalls

theorem rollback_after_two_crashes :
    ((HealthProbe.mk "0.5.0" 2).checkStartupState 103 4
      (crashedTwice.foldl (probeStep sampleExe) (shippedDir [("oneshim", [1])]))).1 =
        .rollbackRequired "0.5.0" "0.4.0" "oneshim.rollback.1" .repeatedStartupFailure ∧
    FailedSince sampleVersion 2 crashedTwice := by
  have hrollback : ((HealthProbe.mk "0.5.0" 2).checkStartupState 103 4
      (crashedTwice.foldl (probeStep sampleExe) (shippedDir [("oneshim", [1])]))).1 =
        .rollbackRequired "0.5.0" "0.4.0" "oneshim.rollback.1" .repeatedStartupFailure := by
    decide +kernel
  exact ⟨hrollback, rollback_only_after_failed_boots sampleExe [("oneshim", [1])] crashedTwice
    cleanInstalls_crashedTwice sampleVersion 2 ⟨103, 4⟩ hrollback⟩

/-- **A version that is installed again is rolled back at once**: its first start finds the markers
    of the two crashes before the rollback. -/
theorem reinstalled_is_rolled_back_at_once :
    ¬∀ (exe : ExeName) (files : List (String × List UInt8)) (events : List ProbeEvent)
      (version : VersionText) (threshold : UInt8) (boot : Boot)
      (fromVersion toVersion backupPath : String) (reason : RollbackReason),
      ((HealthProbe.mk version.text threshold).checkStartupState boot.pid boot.now
        (events.foldl (probeStep exe) (shippedDir files))).1 =
          .rollbackRequired fromVersion toVersion backupPath reason →
      FailedSince version threshold.toNat events := by
  intro hall
  have hrollback : ((HealthProbe.mk "0.5.0" 2).checkStartupState 104 6
      (reinstalled.foldl (probeStep sampleExe) (shippedDir [("oneshim", [1])]))).1 =
        .rollbackRequired "0.5.0" "0.4.0" "oneshim.rollback.5" .repeatedStartupFailure := by
    decide +kernel
  obtain ⟨before, event, after, heq, -, hquiet, hcount⟩ :=
    hall sampleExe _ reinstalled sampleVersion 2 ⟨104, 6⟩ _ _ _ _ hrollback
  -- the last event is an install, so nothing comes after the last install
  have hafter : after = [] := by
    cases hlast : after.getLast? with
    | none => exact List.getLast?_eq_none_iff.mp hlast
    | some last =>
      have hinstall : reinstalled.getLast? = some (sampleInstall 5) := rfl
      rw [heq, List.getLast?_append, List.getLast?_cons, hlast] at hinstall
      obtain rfl : last = sampleInstall 5 := Option.some.inj hinstall
      have hno := (hquiet _ (List.mem_of_getLast? hlast)).1
      exact absurd hno (by decide)
  rw [hafter] at hcount
  exact absurd hcount (by decide)

end Oneshim
