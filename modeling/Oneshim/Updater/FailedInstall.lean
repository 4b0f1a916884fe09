/-
  What a failed install leaves behind (`src-tauri/src/updater/install.rs`).

  An install copies a backup, takes the binary out of the archive, replaces the executable, writes
  the pending marker and restarts.  Each of the five can fail.

  1. **Before the executable is replaced** the backup is removed again: nothing is left.  Only a
     backup that could not be copied as a whole stays as it is.

  2. **After it is replaced** the backup always stays (`backup_left`).  When the marker cannot be
     written the new binary stays in its place as well, although the comment there says that
     restoration is attempted; when the restart fails the backup is put back, and the marker of a
     version that is not installed stays.

  3. **No trace** (`noTrace_iff`): exactly where the install does not get as far as to replace the
     executable, or succeeds.
-/
import Oneshim.Updater.Rollback

namespace Oneshim

open Lib

/-! ## Where an install fails -/

/-- The operation that fails. -/
inductive InstallFailure where
  /-- With what there is of the backup. -/
  | backupCopy (left : Option (List UInt8))
  | extraction
  | replacement
  | pendingWrite
  | restart

/-- The first operation that fails once the executable has been replaced; without a version no
    marker is written. -/
def InstallOps.lateFailure (ops : InstallOps) (newVersion : Option String) :
    Option InstallFailure :=
  match newVersion, ops.writePending with
  | some _, .failed _ _ => some .pendingWrite
  | _, _ =>
    match ops.restartApp with
    | .error _ => some .restart
    | .ok () => none

/-- The first operation that fails. -/
def InstallOps.failure (ops : InstallOps) (downloaded : TempFile) (newVersion : Option String) :
    Option InstallFailure :=
  match ops.copy with
  | .failed _ left => some (.backupCopy left)
  | .written =>
    match extractIfArchive ops downloaded with
    | .error _ => some .extraction
    | .ok _ =>
      match ops.replaceBinary with
      | .error _ => some .replacement
      | .ok () => ops.lateFailure newVersion

/-- The executable is as it was, and neither marker nor backup is there. -/
structure NoTrace (exe : ExeName) (ops : InstallOps) (newVersion : Option String)
    (before after : InstallDir) : Prop where
  original : after.find? exe.name = before.find? exe.name
  noPending : ∀ version ∈ newVersion, after.hasFile (installPendingName version) = false
  noBackup : after.hasFile (backupPathFor exe.name ops.timestamp) = false

/-- Nothing of the install stays, and the directory had nothing like it before. -/
def LeavesNothing (exe : ExeName) (ops : InstallOps) (newVersion : Option String)
    (dir : InstallDir) : InstallFailure → Prop
  | .backupCopy left =>
    left = none ∧ dir.hasFile (backupPathFor exe.name ops.timestamp) = false ∧
      ∀ version ∈ newVersion, dir.hasFile (installPendingName version) = false
  | .extraction => ∀ version ∈ newVersion, dir.hasFile (installPendingName version) = false
  | .replacement => ∀ version ∈ newVersion, dir.hasFile (installPendingName version) = false
  | .pendingWrite => False
  | .restart => False

/-! ## Files of the directory -/

namespace InstallDir

theorem find?_write (dir : InstallDir) (name : String) (content : FileContent) (other : String) :
    (dir.write name content).find? other =
      if name = other then some ⟨name, content⟩ else dir.find? other :=
  Table.find?_upsert dir ⟨name, content⟩ other

theorem hasFile_write_self (dir : InstallDir) (name : String) (content : FileContent) :
    (dir.write name content).hasFile name = true := by
  rw [hasFile, find?_write, if_pos rfl]
  rfl

variable {dir : InstallDir}

/-- A file stays when another is written. -/
theorem hasFile_write {other : String} (h : dir.hasFile other = true) (name : String)
    (content : FileContent) : (dir.write name content).hasFile other = true := by
  rw [hasFile, find?_write]
  split
  · rfl
  · exact h

theorem hasFile_leave {other : String} (h : dir.hasFile other = true) (name : String)
    (left : Option (List UInt8)) : (dir.leave name left).hasFile other = true := by
  cases left with
  | none => exact h
  | some bytes => exact hasFile_write h name (.bytes bytes)

theorem hasFile_copy {other : String} (h : dir.hasFile other = true) (source target : String) :
    (dir.copy source target).hasFile other = true := by
  unfold copy
  split
  · exact hasFile_write h _ _
  · exact h

theorem find?_copy_of_ne {source target other : String} (h : target ≠ other) :
    (dir.copy source target).find? other = dir.find? other := by
  unfold copy
  split
  · rw [find?_write, if_neg h]
  · rfl

/-- What is copied is there. -/
theorem hasFile_copy_target {source : String} (h : dir.hasFile source = true) (target : String) :
    (dir.copy source target).hasFile target = true := by
  unfold copy
  split
  · exact hasFile_write_self _ _ _
  · rename_i hnone
    rw [hasFile, hnone] at h
    cases h

/-- A copy that is removed again leaves the other files as they were. -/
theorem find?_remove_copy {source target other : String} (h : target ≠ other) :
    (Table.remove (dir.copy source target) target).find? other = dir.find? other := by
  rw [Table.find?_remove_of_ne h.symm, find?_copy_of_ne h]

theorem hasFile_remove_self (dir : InstallDir) (name : String) :
    InstallDir.hasFile (Table.remove dir name) name = false := by
  rw [HealthProbe.hasFile_eq_false, Table.find?_remove, if_pos rfl]

end InstallDir

/-- A marker is hidden, a backup is not. -/
theorem ExeName.backup_ne_pending (exe : ExeName) (timestamp : Int) (version : String) :
    backupPathFor exe.name timestamp ≠ installPendingName version := by
  intro h
  have hvisible := exe.visible_backup timestamp
  rw [h] at hvisible
  unfold Visible at hvisible
  rw [toList_installPendingName] at hvisible
  exact hvisible rfl

/-! ## What a failure leaves -/

variable {exe : ExeName} {ops : InstallOps} {downloaded : TempFile} {newVersion : Option String}
  {dir : InstallDir}

/-- The directory is left as it was but for the backup, which is gone. -/
theorem noTrace_remove_copy_iff :
    NoTrace exe ops newVersion dir
        (Table.remove (dir.copy exe.name (backupPathFor exe.name ops.timestamp))
          (backupPathFor exe.name ops.timestamp)) ↔
      ∀ version ∈ newVersion, dir.hasFile (installPendingName version) = false := by
  have hpending (version : String) :
      InstallDir.hasFile (Table.remove (dir.copy exe.name (backupPathFor exe.name ops.timestamp))
        (backupPathFor exe.name ops.timestamp)) (installPendingName version) =
          dir.hasFile (installPendingName version) := by
    unfold InstallDir.hasFile
    rw [InstallDir.find?_remove_copy (exe.backup_ne_pending ops.timestamp version)]
  constructor
  · intro h version hversion
    rw [← hpending version]
    exact h.noPending version hversion
  · intro h
    refine ⟨InstallDir.find?_remove_copy (exe.ne_backup ops.timestamp).symm, ?_,
      InstallDir.hasFile_remove_self _ _⟩
    intro version hversion
    rw [hpending version]
    exact h version hversion

/-- A backup that fails to be copied leaves what there is of it. -/
theorem noTrace_leave_iff (left : Option (List UInt8)) :
    NoTrace exe ops newVersion dir (dir.leave (backupPathFor exe.name ops.timestamp) left) ↔
      LeavesNothing exe ops newVersion dir (.backupCopy left) := by
  cases left with
  | none =>
    constructor
    · intro h
      exact ⟨rfl, h.noBackup, h.noPending⟩
    · intro h
      exact ⟨rfl, h.2.2, h.2.1⟩
  | some bytes =>
    refine iff_of_false (fun h => ?_) (fun h => ?_)
    · have hthere := InstallDir.hasFile_write_self dir (backupPathFor exe.name ops.timestamp)
        (.bytes bytes)
      have hnot := h.noBackup
      rw [InstallDir.leave, hthere] at hnot
      cases hnot
    · cases h.1

/-- Nothing after the replacement removes a file. -/
theorem hasFile_armRollback (ops : InstallOps) (newVersion : Option String)
    (previousVersion backupPath : String) {name : String} (h : dir.hasFile name = true) :
    (armRollback dir ops newVersion previousVersion backupPath).2.hasFile name = true := by
  cases newVersion with
  | none => exact h
  | some version =>
    unfold armRollback writeInstallPending
    cases ops.writePending with
    | written => exact InstallDir.hasFile_write h _ _
    | failed e left => exact InstallDir.hasFile_leave h _ left

theorem hasFile_restartOrRestore {currentExe backupPath name : String}
    (h : dir.hasFile name = true) :
    (restartOrRestore dir ops currentExe backupPath).2.hasFile name = true := by
  unfold restartOrRestore
  cases ops.restartApp with
  | ok _ => exact h
  | error restartErr =>
    cases ops.replaceBack with
    | ok _ => exact InstallDir.hasFile_copy h _ _
    | error rollbackErr => exact h

/-! ## From the replacement on -/

/-- What an install does once it has replaced the executable. -/
def afterReplacement (currentExe currentVersion backupPath : String) (ops : InstallOps)
    (newVersion : Option String) (dir : InstallDir) : Except UpdateError Unit × InstallDir :=
  match armRollback dir ops newVersion currentVersion backupPath with
  | (.error e, dir) => (.error e, dir)
  | (.ok (), dir) => restartOrRestore dir ops currentExe backupPath

/-- **The backup stays** once the executable has been replaced. -/
theorem backup_left (currentExe currentVersion : String) {backupPath : String} (ops : InstallOps)
    (newVersion : Option String) (h : dir.hasFile backupPath = true) :
    (afterReplacement currentExe currentVersion backupPath ops newVersion dir).2.hasFile
      backupPath = true := by
  have harmed := hasFile_armRollback ops newVersion currentVersion backupPath h
  unfold afterReplacement
  revert harmed
  cases armRollback dir ops newVersion currentVersion backupPath with
  | mk result armed =>
    intro harmed
    cases result with
    | error e => exact harmed
    | ok _ => exact hasFile_restartOrRestore harmed

/-- An install that gets so far fails at the marker or at the restart, or not at all. -/
theorem afterReplacement_isOk (currentExe currentVersion backupPath : String) (ops : InstallOps)
    (newVersion : Option String) (dir : InstallDir) :
    (afterReplacement currentExe currentVersion backupPath ops newVersion dir).1.isOk =
      (ops.lateFailure newVersion).isNone := by
  have hrestore (dir : InstallDir) : (restartOrRestore dir ops currentExe backupPath).1.isOk =
      (match ops.restartApp with
        | .error _ => some InstallFailure.restart
        | .ok () => none).isNone := by
    unfold restartOrRestore
    cases ops.restartApp with
    | ok _ => rfl
    | error restartErr => cases ops.replaceBack <;> rfl
  unfold afterReplacement armRollback InstallOps.lateFailure
  cases newVersion with
  | none => exact hrestore dir
  | some version =>
    unfold writeInstallPending
    cases ops.writePending with
    | failed e left => rfl
    | written => exact hrestore _

/-- What fails so late leaves the backup, so never nothing. -/
theorem lateFailure_cases {failure : InstallFailure}
    (h : ops.lateFailure newVersion = some failure) :
    ¬LeavesNothing exe ops newVersion dir failure := by
  unfold InstallOps.lateFailure at h
  split at h
  · cases h
    exact id
  · split at h
    · cases h
      exact id
    · cases h

/-! ## No trace -/

/-- What holds of every failure with this outcome holds of the outcome. -/
theorem forall_failed_iff {P : InstallDir → Prop} {e : UpdateError} {left : InstallDir} :
    (∀ e' after, ((.error e, left) : Except UpdateError Unit × InstallDir) = (.error e', after) →
      P after) ↔ P left := by
  constructor
  · intro h
    exact h e left rfl
  · intro h e' after heq
    cases heq
    exact h

/-- **A failed install leaves no trace** exactly where it fails before it replaces the executable,
    with nothing left of a backup that could not be copied, in a directory that had no marker for
    the new version.  Every later failure leaves the backup. -/
theorem noTrace_iff (exe : ExeName) (previousVersion : String) (ops : InstallOps)
    (downloaded : TempFile) (newVersion : Option String) (dir : InstallDir)
    (hexe : dir.hasFile exe.name = true) :
    (∀ e after, installAndRestartWithOps exe.name previousVersion ops downloaded newVersion dir =
        (.error e, after) → NoTrace exe ops newVersion dir after) ↔
      ∀ failure, ops.failure downloaded newVersion = some failure →
        LeavesNothing exe ops newVersion dir failure := by
  unfold installAndRestartWithOps InstallOps.failure
  cases ops.copy with
  | failed e left =>
    rw [forall_failed_iff]
    simp only [Option.some.injEq, forall_eq']
    exact noTrace_leave_iff left
  | written =>
    cases extractIfArchive ops downloaded with
    | error e =>
      rw [forall_failed_iff]
      simp only [Option.some.injEq, forall_eq']
      exact noTrace_remove_copy_iff
    | ok binary =>
      cases ops.replaceBinary with
      | error e =>
        rw [forall_failed_iff]
        simp only [Option.some.injEq, forall_eq']
        exact noTrace_remove_copy_iff
      | ok _ =>
        show (∀ e after, afterReplacement exe.name previousVersion
            (backupPathFor exe.name ops.timestamp) ops newVersion _ = (.error e, after) →
          NoTrace exe ops newVersion dir after) ↔ _
        have hbackup := backup_left exe.name previousVersion ops newVersion
          (InstallDir.hasFile_write
            (InstallDir.hasFile_copy_target hexe (backupPathFor exe.name ops.timestamp)) exe.name
            (.bytes binary))
        have hok := afterReplacement_isOk exe.name previousVersion
          (backupPathFor exe.name ops.timestamp) ops newVersion
          ((dir.copy exe.name (backupPathFor exe.name ops.timestamp)).write exe.name
            (.bytes binary))
        generalize afterReplacement exe.name previousVersion
          (backupPathFor exe.name ops.timestamp) ops newVersion _ = outcome at hbackup hok
        obtain ⟨result, after⟩ := outcome
        cases hlate : ops.lateFailure newVersion with
        | none =>
          -- nothing fails
          rw [hlate] at hok
          cases result with
          | error e => cases hok
          | ok _ =>
            constructor
            · intro _ failure hfailure
              cases hfailure
            · intro _ e after' heq
              cases heq
        | some failure =>
          rw [hlate] at hok
          cases result with
          | ok _ => cases hok
          | error e =>
            rw [forall_failed_iff]
            simp only [Option.some.injEq, forall_eq']
            refine iff_of_false (fun h => ?_) (lateFailure_cases hlate)
            have hnot := h.noBackup
            rw [hbackup] at hnot
            cases hnot

/-- An install that may fail at the replacement or at the marker. -/
def sampleOps (replaceBinary : Except UpdateError Unit) (writePending : WriteOutcome) :
    InstallOps where
  timestamp := 5
  copy := .written
  extractTarGz bytes := .ok bytes
  extractZip bytes := .ok bytes
  replaceBinary := replaceBinary
  now := 5
  writePending := writePending
  restartApp := .ok ()
  replaceBack := .ok ()

def sampleDownload : TempFile := ⟨"oneshim", [5], .downloaded "https://github.com/o/r/oneshim"⟩

/-- Where the executable cannot be replaced nothing is left. -/
theorem noTrace_iff_example :
    (shippedDir [("oneshim", [1])]).hasFile sampleExe.name = true ∧
      ∀ e after, installAndRestartWithOps "oneshim" "0.4.0"
          (sampleOps (.error (.install "denied")) .written) sampleDownload (some "0.5.0")
          (shippedDir [("oneshim", [1])]) = (.error e, after) →
        NoTrace sampleExe (sampleOps (.error (.install "denied")) .written) (some "0.5.0")
          (shippedDir [("oneshim", [1])]) after := by
  refine ⟨by decide, (noTrace_iff sampleExe "0.4.0"
    (sampleOps (.error (.install "denied")) .written) sampleDownload (some "0.5.0")
    (shippedDir [("oneshim", [1])]) (by decide)).mpr ?_⟩
  intro failure hfailure
  cases hfailure
  intro version hversion
  cases hversion
  decide

/-- The disk is full when the marker is written: the install fails, and 0.5.0 stays in the place of
    the executable. -/
theorem binary_left :
    ¬ ∀ (exe : ExeName) (previousVersion : String) (ops : InstallOps) (downloaded : TempFile)
      (newVersion : Option String) (dir : InstallDir), dir.hasFile exe.name = true →
      ops.replaceBack = .ok () → ∀ e after,
      installAndRestartWithOps exe.name previousVersion ops downloaded newVersion dir =
        (.error e, after) → NoTrace exe ops newVersion dir after := by
  intro hall
  have htrace := hall sampleExe "0.4.0" (sampleOps (.ok ()) (.failed "disk full" none))
    sampleDownload (some "0.5.0") (shippedDir [("oneshim", [1])]) (by decide) rfl _ _ rfl
  have hnew : (shippedDir [("oneshim", [5])]).find? "oneshim" =
      (shippedDir [("oneshim", [1])]).find? "oneshim" := htrace.original
  exact absurd hnew (by decide)

end Oneshim
