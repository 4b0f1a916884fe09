/-
  Installing an update (`src-tauri/src/updater/install.rs`).

  The running binary is copied to a backup, the downloaded file (or the binary in the downloaded
  archive) takes its place, and the program restarts.  An install that is told the new version also
  leaves a marker, `.install_pending_{version}`: the health probe of the next start reads it to know
  that a rollback is armed, and which backup to roll back to.

  The state is the install directory, a table of files by name.  Each file operation that can fail
  takes its outcome from `InstallOps`.
-/
import Oneshim.Lib.Table
import Oneshim.Updater.Download

namespace Oneshim

open Lib

/-! ## The install directory -/

/-- `InstallPending`, the content of `.install_pending_{version}`.  Times are nanoseconds, and the
    backup is in the install directory. -/
structure InstallPending where
  installedAt : Int
  previousVersion : String
  backupPath : String
deriving DecidableEq

/-- What is in a file. -/
inductive FileContent where
  | bytes (bytes : List UInt8)
  | installPending (pending : InstallPending)
  /-- A marker whose content nobody reads. -/
  | marker
deriving DecidableEq

/-- A file of a directory. -/
structure FileEntry where
  name : String
  content : FileContent
deriving DecidableEq

/-- The directory that holds the executable. -/
abbrev InstallDir := Table FileEntry.name

namespace InstallDir

/-- `exists`. -/
def hasFile (dir : InstallDir) (name : String) : Bool := (dir.find? name).isSome

/-- `std::fs::write`. -/
def write (dir : InstallDir) (name : String) (content : FileContent) : InstallDir :=
  dir.upsert ⟨name, content⟩

/-- `std::fs::copy`. -/
def copy (dir : InstallDir) (source target : String) : InstallDir :=
  match dir.find? source with
  | some file => dir.write target file.content
  | none => dir

/-- What a failed write leaves: nothing, or a part of the file. -/
def leave (dir : InstallDir) (name : String) (left : Option (List UInt8)) : InstallDir :=
  match left with
  | some bytes => dir.write name (.bytes bytes)
  | none => dir

end InstallDir

/-- How writing a file ends. -/
inductive WriteOutcome where
  | written
  | failed (e : String) (left : Option (List UInt8))
deriving DecidableEq

/-- How the operations of one install end, and the times they read. -/
structure InstallOps where
  /-- The time in the backup's name. -/
  timestamp : Int
  copy : WriteOutcome
  extractTarGz : List UInt8 → Except UpdateError (List UInt8)
  extractZip : List UInt8 → Except UpdateError (List UInt8)
  replaceBinary : Except UpdateError Unit
  /-- The time in the pending marker. -/
  now : Int
  writePending : WriteOutcome
  restartApp : Except UpdateError Unit
  /-- Putting the backup back after a failed restart. -/
  replaceBack : Except UpdateError Unit

/-! ## Names -/

/-- `backup_path_for`. -/
def backupPathFor (currentExe : String) (timestamp : Int) : String :=
  currentExe ++ ".rollback." ++ toString timestamp

/-- The name of the pending marker. -/
def installPendingName (version : String) : String := ".install_pending_" ++ version

/-! ## Installing -/

/-- `extract_if_archive`: the bytes of the binary to install. -/
def extractIfArchive (ops : InstallOps) (downloaded : TempFile) : Except UpdateError (List UInt8) :=
  let hasEnding := fun (ending : String) => ending.toList.isSuffixOf downloaded.fileName.toList
  if hasEnding ".tar.gz" || hasEnding ".tgz" then ops.extractTarGz downloaded.bytes
  else if hasEnding ".zip" then ops.extractZip downloaded.bytes
  else .ok downloaded.bytes

/-- `write_install_pending`. -/
def writeInstallPending (dir : InstallDir) (ops : InstallOps)
    (newVersion previousVersion backupPath : String) : Except UpdateError Unit × InstallDir :=
  match ops.writePending with
  | .failed e left =>
    (.error (.install ("Failed to write install_pending: " ++ e)),
      dir.leave (installPendingName newVersion) left)
  | .written =>
    (.ok (), dir.write (installPendingName newVersion)
      (.installPending ⟨ops.now, previousVersion, backupPath⟩))

/-- The pending marker is written only when the new version is known. -/
def armRollback (dir : InstallDir) (ops : InstallOps) (newVersion : Option String)
    (previousVersion backupPath : String) : Except UpdateError Unit × InstallDir :=
  match newVersion with
  | none => (.ok (), dir)
  | some newVersion => writeInstallPending dir ops newVersion previousVersion backupPath

/-- The restart, and putting the backup back when it fails. -/
def restartOrRestore (dir : InstallDir) (ops : InstallOps) (currentExe backupPath : String) :
    Except UpdateError Unit × InstallDir :=
  match ops.restartApp with
  | .ok () => (.ok (), dir)
  | .error restartErr =>
    match ops.replaceBack with
    | .ok () =>
      (.error (.install ("Rollback completed after restart failure: " ++ restartErr.display)),
        dir.copy backupPath currentExe)
    | .error rollbackErr =>
      (.error (.install ("Restart failed and rollback failed: restart=" ++ restartErr.display ++
        ", rollback=" ++ rollbackErr.display)), dir)

/-- `install_and_restart_with_ops`. -/
def installAndRestartWithOps (currentExe currentVersion : String) (ops : InstallOps)
    (downloaded : TempFile) (newVersion : Option String) (dir : InstallDir) :
    Except UpdateError Unit × InstallDir :=
  let backupPath := backupPathFor currentExe ops.timestamp
  match ops.copy with
  | .failed e left => (.error (.filesystem e), dir.leave backupPath left)
  | .written =>
    let dir := dir.copy currentExe backupPath
    match extractIfArchive ops downloaded with
    | .error e => (.error e, dir.remove backupPath)
    | .ok binary =>
      match ops.replaceBinary with
      | .error e => (.error e, dir.remove backupPath)
      | .ok () =>
        let dir := dir.write currentExe (.bytes binary)
        match armRollback dir ops newVersion currentVersion backupPath with
        | (.error e, dir) => (.error e, dir)
        | (.ok (), dir) => restartOrRestore dir ops currentExe backupPath

namespace Updater

variable {Version : Type}

/-- `install_and_restart_versioned`: with no version, the install is not armed. -/
def installAndRestartVersioned (updater : Updater Version) (currentExe : String) (ops : InstallOps)
    (downloaded : TempFile) (newVersion : Option String) (dir : InstallDir) :
    Except UpdateError Unit × InstallDir :=
  installAndRestartWithOps currentExe updater.currentVersion ops downloaded newVersion dir

/-- `install_and_restart`. -/
def installAndRestart (updater : Updater Version) (currentExe : String) (ops : InstallOps)
    (downloaded : TempFile) (dir : InstallDir) : Except UpdateError Unit × InstallDir :=
  updater.installAndRestartVersioned currentExe ops downloaded none dir

end Updater

end Oneshim
