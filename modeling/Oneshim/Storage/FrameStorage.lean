/-
  Frames on disk (`oneshim-storage/src/frame_storage.rs`, `encryption.rs`).

  A frame is a file `frames/YYYY-MM-DD/HH-MM-SS-NNN.webp`, named after its second and a counter
  modulo 1000 that begins again with every process.  The size of all frames is kept in a number beside
  the files; limits on age and size take whole days away.

  Every call is one step.  What the file system does at each operation comes with the call: any
  operation may fail, a write that has opened its file may leave something there, and a folder that
  cannot be removed may have lost some of its files.

  `saved` is not in the code: it lists the frames that have been saved, and whether the folder of the
  day has been tampered with since.

  Sizes are natural numbers.  `frames/` is there from the start, and nothing removes it.
-/
import Mathlib.Algebra.GroupWithZero.Nat
import Oneshim.Lib.Rfc3339
import Oneshim.Lib.Table

namespace Oneshim.FrameStorage

open Lib (Table)

abbrev Bytes := List UInt8

/-- `StorageError`, the variants that are built here. -/
inductive StorageError where
  | internal (message : String)
  | encryption (message : String)
  | notFound (resourceType id : String)

/-! ## Encryption -/

/-- `EncryptionKey`: AES-256-GCM under a key and a nonce. -/
structure EncryptionKey where
  cipherEncrypt : Vector UInt8 12 → Bytes → Except String Bytes
  cipherDecrypt : Vector UInt8 12 → Bytes → Except String Bytes
  decrypt_encrypt : ∀ nonce plaintext ciphertext, cipherEncrypt nonce plaintext = .ok ciphertext →
    cipherDecrypt nonce ciphertext = .ok plaintext

/-- `encrypt`, with the nonce from the system: the nonce, then the ciphertext. -/
def EncryptionKey.encrypt (self : EncryptionKey) (nonce : Except String (Vector UInt8 12))
    (plaintext : Bytes) : Except StorageError Bytes :=
  match nonce with
  | .error e => .error (.encryption ("nonce generation: " ++ e))
  | .ok nonce =>
    match self.cipherEncrypt nonce plaintext with
    | .error e => .error (.encryption ("encrypt: " ++ e))
    | .ok ciphertext => .ok (nonce.toList ++ ciphertext)

/-- `decrypt`. -/
def EncryptionKey.decrypt (self : EncryptionKey) (data : Bytes) : Except StorageError Bytes :=
  if h : data.length < 12 then .error (.encryption "ciphertext too short (< 12 bytes)")
  else
    let nonce : Vector UInt8 12 := ⟨(data.take 12).toArray, by simp; omega⟩
    match self.cipherDecrypt nonce (data.drop 12) with
    | .error e => .error (.encryption ("decrypt: " ++ e))
    | .ok plaintext => .ok plaintext

/-- What is encrypted is decrypted again. -/
theorem EncryptionKey.decrypt_of_encrypt {self : EncryptionKey}
    {nonce : Except String (Vector UInt8 12)} {plaintext data : Bytes}
    (h : self.encrypt nonce plaintext = .ok data) : self.decrypt data = .ok plaintext := by
  cases nonce with
  | error e => cases h
  | ok nonce =>
    simp only [encrypt] at h
    split at h
    · cases h
    · next ciphertext hcipher =>
      cases h
      have hlength : nonce.toList.length = 12 := by simp
      have htake : (nonce.toList ++ ciphertext).take 12 = nonce.toList := List.take_left' hlength
      have hdrop : (nonce.toList ++ ciphertext).drop 12 = ciphertext := List.drop_left' hlength
      have hlong : ¬(nonce.toList ++ ciphertext).length < 12 := by simp
      have hnonce : (⟨((nonce.toList ++ ciphertext).take 12).toArray, by simp⟩ :
          Vector UInt8 12) = nonce := by
        apply Vector.toList_inj.mp
        simp only [Vector.toList_mk, htake]
      simp only [decrypt, dif_neg hlong, hnonce, hdrop, self.decrypt_encrypt _ _ _ hcipher]

/-! ## Files -/

/-- A file below `frames/`: its folder, none for a file that lies there, its path in the folder, and
    what is in it. -/
structure FrameFile where
  folder : Option String
  path : List String
  data : Bytes

def FrameFile.key (file : FrameFile) : Option String × List String := (file.folder, file.path)

/-- What is below `frames/`. -/
structure Frames where
  folders : List String
  files : Table FrameFile.key

/-- The name of a saved frame, the relative path below `frames/`. -/
structure FramePath where
  day : String
  filename : String
deriving DecidableEq

/-- How a folder is removed: with everything in it, or not, and some files are still there. -/
inductive Removal where
  | removed
  | failed (kept : FrameFile → Bool)

namespace Frames

variable (self : Frames)

/-- `create_dir_all` of a day. -/
def createDir (day : String) : Frames :=
  if day ∈ self.folders then self else { self with folders := self.folders ++ [day] }

/-- What a write leaves in a file. -/
def write (path : FramePath) (data : Bytes) : Frames :=
  { self with files := self.files.upsert ⟨some path.day, [path.filename], data⟩ }

def read (path : FramePath) : Option Bytes :=
  (self.files.find? (some path.day, [path.filename])).map (·.data)

/-- `remove_dir_all`; it fails on what is no folder. -/
def removeDirAll (name : String) : Removal → Frames
  | .removed =>
    if name ∈ self.folders then
      ⟨self.folders.filter (· ≠ name), self.files.filterRows (·.folder ≠ some name)⟩
    else self
  | .failed kept =>
    if name ∈ self.folders then
      { self with files := self.files.filterRows fun file => file.folder ≠ some name || kept file }
    else self

/-- The sizes of some files. -/
def sizeOf (files : List FrameFile) : Nat := (files.map (·.data.length)).sum

/-- `calculate_dir_size` of `frames/`, where no operation fails. -/
def totalSize : Nat := sizeOf self.files.rows

/-- `calculate_dir_size` of one folder. -/
def dirSize (name : String) : Nat := sizeOf (self.files.rows.filter (·.folder = some name))

/-- `count_files_in_dir`: those of the files that lie in the folder itself that it comes to. -/
def countFilesInDir (counted : FrameFile → Bool) (name : String) : Nat :=
  self.files.rows.countP fun file =>
    file.folder = some name && file.path.length = 1 && counted file

/-- The names in `frames/`, those of folders and of files. -/
def names : List String :=
  self.folders ++ (self.files.rows.filter (·.folder = none)).map fun file =>
    String.intercalate "/" file.path

/-- `list_date_dirs`. -/
def dateDirs : List String :=
  self.folders.filter fun name => name.utf8ByteSize = 10 && name.toList[4]? = some '-'

end Frames

/-! ## State -/

/-- What every process is started with. -/
structure Setup where
  maxStorageMb : Nat
  retentionDays : Nat
  encryptionKey : Option EncryptionKey

/-- A frame that has been saved: its second, its number and what was saved; `live` until the folder
    of the day is removed, or an attempt is made. -/
structure Saved where
  second : Int
  number : Nat
  data : Bytes
  live : Bool

/-- The files, and the frames that have been saved. -/
structure Disk where
  frames : Frames
  saved : List Saved

/-- `FrameFileStorage`. -/
structure FrameFileStorage where
  disk : Disk
  frameCounter : Nat
  cachedSizeBytes : Nat
  cachedSizeInitialized : Bool

/-- `with_encryption`, in a new process. -/
def FrameFileStorage.opened (disk : Disk) : FrameFileStorage := ⟨disk, 0, 0, false⟩

/-! ## Saving -/

/-- A frame to save, with what the file system does: creating the folder, getting a nonce, and the
    write, which fails before the file is opened or leaves something behind.  The tasks of a batch run
    in the order of their turns. -/
structure Frame where
  timestamp : Int
  webpData : Bytes
  createDir : Except String Unit
  nonce : Except String (Vector UInt8 12)
  write : Except (String × Option Bytes) Unit
  turn : Nat

/-- `DISK_SPACE_CRITICAL_MB`. -/
def diskSpaceCriticalMb : Nat := 50

def diskSpaceCritical : StorageError := .internal "disk space critical"

/-- The second of a time stamp. -/
def Frame.second (frame : Frame) : Int := frame.timestamp / 1000000000

/-- `%H-%M-%S`. -/
def timeStr (ofDay : Nat) : List Char :=
  Lib.Rfc3339.digits 2 (ofDay / 3600) ++ '-' ::
    (Lib.Rfc3339.digits 2 (ofDay / 60 % 60) ++ '-' :: Lib.Rfc3339.digits 2 (ofDay % 60))

/-- `%Y-%m-%d` and `{time_str}-{counter:03}.webp`. -/
def pathOf (second : Int) (number : Nat) : FramePath where
  day := String.ofList (Lib.Rfc3339.dateText (second / 86400))
  filename := String.ofList (timeStr (second % 86400).toNat ++
    '-' :: (Lib.Rfc3339.digits 3 number ++ ".webp".toList))

def Saved.path (self : Saved) : FramePath := pathOf self.second self.number

/-- The counter modulo 1000. -/
def numberOf (counter : Nat) : Nat := counter % 1000

/-- `fetch_add(1)` of an `u32`. -/
def nextCounter (counter : Nat) : Nat := (counter + 1) % 4294967296

section

variable (setup : Setup)

/-- The bytes that go to the file. -/
def dataToWrite (frame : Frame) : Except StorageError Bytes :=
  match setup.encryptionKey with
  | some key => key.encrypt frame.nonce frame.webpData
  | none => .ok frame.webpData

/-- What saving a frame under a number returns: its path and the bytes that were written. -/
def saveResult (number : Nat) (frame : Frame) : Except StorageError (FramePath × Bytes) :=
  match frame.createDir with
  | .error e => .error (.internal ("Failed to create dated folder: " ++ e))
  | .ok () =>
    match dataToWrite setup frame with
    | .error e => .error e
    | .ok data =>
      match frame.write with
      | .error (e, _) => .error (.internal ("frame file save failure: " ++ e))
      | .ok () => .ok (pathOf frame.second number, data)

/-- What the write of a frame leaves in its file, where it opens it. -/
def opened (frame : Frame) : Option Bytes :=
  match frame.createDir, dataToWrite setup frame with
  | .ok (), .ok data =>
    match frame.write with
    | .ok () => some data
    | .error (_, left) => left
  | _, _ => none

/-- What saving a frame under a number does on disk. -/
def saveOn (disk : Disk) (number : Nat) (frame : Frame) : Disk :=
  let frames := match frame.createDir with
    | .ok () => disk.frames.createDir (pathOf frame.second number).day
    | .error _ => disk.frames
  { frames := match opened setup frame with
      | some data => frames.write (pathOf frame.second number) data
      | none => frames
    saved := match saveResult setup number frame with
      | .ok _ => disk.saved ++ [⟨frame.second, number, frame.webpData, true⟩]
      | .error _ => disk.saved }

/-- `save_frame`. -/
def saveFrame (self : FrameFileStorage) (freeMb : Nat) (frame : Frame) :
    FrameFileStorage × Except StorageError FramePath :=
  if freeMb < diskSpaceCriticalMb then (self, .error diskSpaceCritical)
  else
    match frame.createDir with
    | .error e => (self, .error (.internal ("Failed to create dated folder: " ++ e)))
    | .ok () =>
      let number := numberOf self.frameCounter
      let self := { self with
        frameCounter := nextCounter self.frameCounter, disk := saveOn setup self.disk number frame }
      match saveResult setup number frame with
      | .error e => (self, .error e)
      | .ok (path, data) =>
        ({ self with cachedSizeBytes := self.cachedSizeBytes + data.length }, .ok path)

/-- The frames of a batch with their numbers. -/
def numbered : Nat → List Frame → List (Nat × Frame)
  | _, [] => []
  | counter, frame :: frames =>
    (numberOf counter, frame) :: numbered (nextCounter counter) frames

/-- One task of a batch. -/
def runTask (disk : Disk) (task : Nat × Frame) : Disk := saveOn setup disk task.1 task.2

/-- The tasks in the order in which they run. -/
def inTurn (tasks : List (Nat × Frame)) : List (Nat × Frame) :=
  tasks.mergeSort fun a b => decide (a.2.turn ≤ b.2.turn)

/-- The bytes that a task has written, none where it failed. -/
def written (task : Nat × Frame) : Nat :=
  match saveResult setup task.1 task.2 with
  | .ok (_, data) => data.length
  | .error _ => 0

/-- `save_frames_batch`. -/
def saveFramesBatch (self : FrameFileStorage) (freeMb : Nat) (frames : List Frame) :
    FrameFileStorage × List (Except StorageError FramePath) :=
  if freeMb < diskSpaceCriticalMb then (self, frames.map fun _ => .error diskSpaceCritical)
  else
    let tasks := numbered self.frameCounter frames
    ({ self with
        disk := (inTurn tasks).foldl (runTask setup) self.disk
        frameCounter := frames.foldl (fun counter _ => nextCounter counter) self.frameCounter
        cachedSizeBytes := self.cachedSizeBytes + (tasks.map (written setup)).sum },
      tasks.map fun task => (saveResult setup task.1 task.2).map Prod.fst)

/-- `load_frame`, with what reading the file does. -/
def loadFrame (self : Frames) (path : FramePath) (read : Except String Unit) :
    Except StorageError Bytes :=
  match self.read path with
  | none => .error (.notFound "Frame" ("frames/" ++ path.day ++ "/" ++ path.filename))
  | some raw =>
    match read with
    | .error e => .error (.internal ("frame file read failure: " ++ e))
    | .ok () =>
      match setup.encryptionKey with
      | some key => key.decrypt raw
      | none => .ok raw

end

/-! ## Taking days away -/

/-- `remove_dir_all` of a day: its frames are no longer what they were, whether it fails or not. -/
def Disk.removeDirAll (self : Disk) (name : String) (removal : Removal) : Disk where
  frames := self.frames.removeDirAll name removal
  saved := self.saved.map fun saved =>
    if saved.path.day = name then { saved with live := false } else saved

/-- One after the other; the tasks that remove folders do not meet. -/
def Disk.removeAll (self : Disk) (names : List String) (removals : String → Removal) : Disk :=
  names.foldl (fun disk name => disk.removeDirAll name (removals name)) self

/-- The files that were counted in the folders that have been removed. -/
def removedCount (frames : Frames) (counted : FrameFile → Bool) (names : List String)
    (removals : String → Removal) : Nat :=
  (names.map fun name => match removals name with
    | .removed => if name ∈ frames.folders then frames.countFilesInDir counted name else 0
    | .failed _ => 0).sum

/-- What the file system does during `enforce_retention`. -/
structure Retention where
  now : Int
  readDir : Except String Unit
  counted : FrameFile → Bool
  removals : String → Removal
  rescan : Except String Unit

/-- The day before which frames are deleted. -/
def cutoffDate (retentionDays : Nat) (now : Int) : String :=
  String.ofList (Lib.Rfc3339.dateText (now / 1000000000 / 86400 - retentionDays))

/-- What `enforce_retention` removes: names of ten bytes that come before the day. -/
def dirsToDelete (frames : Frames) (cutoff : String) : List String :=
  frames.names.filter fun name => name.utf8ByteSize = 10 && decide (name < cutoff)

/-- `enforce_retention`. -/
def enforceRetention (setup : Setup) (self : FrameFileStorage) (env : Retention) :
    FrameFileStorage × Except StorageError Nat :=
  match env.readDir with
  | .error e => (self, .error (.internal ("Failed to read frames directory: " ++ e)))
  | .ok () =>
    let names := dirsToDelete self.disk.frames (cutoffDate setup.retentionDays env.now)
    if names.isEmpty then (self, .ok 0)
    else
      let disk := self.disk.removeAll names env.removals
      let actualSize := match env.rescan with
        | .ok () => disk.frames.totalSize
        | .error _ => 0
      ({ self with disk := disk, cachedSizeBytes := actualSize },
        .ok (removedCount self.disk.frames env.counted names env.removals))

/-- Bytes as whole megabytes. -/
def megabytes (bytes : Nat) : Nat := bytes / 1024 / 1024

/-- `total_size_mb`, with what walking the directory does. -/
def totalSizeMb (self : FrameFileStorage) (scan : Except String Unit) :
    FrameFileStorage × Except StorageError Nat :=
  if self.cachedSizeInitialized then (self, .ok (megabytes self.cachedSizeBytes))
  else
    match scan with
    | .error e => (self, .error (.internal ("Failed to read directory: " ++ e)))
    | .ok () =>
      let size := self.disk.frames.totalSize
      ({ self with cachedSizeBytes := size, cachedSizeInitialized := true }, .ok (megabytes size))

/-- What the file system does during `enforce_storage_limit`. -/
structure Limit where
  scan : Except String Unit
  listDirs : Except String Unit
  dirSized : String → Bool
  counted : FrameFile → Bool
  removals : String → Removal

/-- Where `enforce_storage_limit` stands in its loop. -/
structure LimitLoop where
  disk : Disk
  currentMb : Nat
  deletedCount : Nat
  totalDeletedBytes : Nat

/-- One round; below the limit the loop is over. -/
def LimitLoop.round (setup : Setup) (env : Limit) (self : LimitLoop) (name : String) : LimitLoop :=
  if self.currentMb ≤ setup.maxStorageMb then self
  else
    let dirSizeBytes := if env.dirSized name then self.disk.frames.dirSize name else 0
    let self := { self with
      deletedCount := self.deletedCount + self.disk.frames.countFilesInDir env.counted name
      disk := self.disk.removeDirAll name (env.removals name) }
    match env.removals name with
    | .failed _ => self
    | .removed => { self with
        currentMb := self.currentMb - megabytes dirSizeBytes
        totalDeletedBytes := self.totalDeletedBytes + dirSizeBytes }

/-- The days, the oldest first. -/
def sortedDirs (frames : Frames) : List String :=
  frames.dateDirs.mergeSort fun a b => decide (a ≤ b)

/-- `enforce_storage_limit`, once the size is known. -/
def limitTo (setup : Setup) (self : FrameFileStorage) (env : Limit) :
    FrameFileStorage × Except StorageError Nat :=
  let currentMb := megabytes self.cachedSizeBytes
  if currentMb ≤ setup.maxStorageMb then (self, .ok 0)
  else
    match env.listDirs with
    | .error e => (self, .error (.internal ("Failed to read frames directory: " ++ e)))
    | .ok () =>
      let last := (sortedDirs self.disk.frames).foldl (LimitLoop.round setup env)
        ⟨self.disk, currentMb, 0, 0⟩
      ({ self with
          disk := last.disk
          cachedSizeBytes := self.cachedSizeBytes - last.totalDeletedBytes },
        .ok last.deletedCount)

/-- `enforce_storage_limit`. -/
def enforceStorageLimit (setup : Setup) (self : FrameFileStorage) (env : Limit) :
    FrameFileStorage × Except StorageError Nat :=
  if self.cachedSizeInitialized then limitTo setup self env
  else
    match env.scan with
    | .error e => (self, .error (.internal ("Failed to read directory: " ++ e)))
    | .ok () =>
      limitTo setup { self with
        cachedSizeBytes := self.disk.frames.totalSize, cachedSizeInitialized := true } env

/-- What the file system does during `delete_all_files`. -/
structure Deletion where
  listDirs : Except String Unit
  counted : FrameFile → Bool
  removals : String → Removal

/-- `delete_all_files`. -/
def deleteAllFiles (self : FrameFileStorage) (env : Deletion) :
    FrameFileStorage × Except StorageError Nat :=
  match env.listDirs with
  | .error e => (self, .error (.internal ("Failed to read frames directory: " ++ e)))
  | .ok () =>
    let dirs := self.disk.frames.dateDirs
    if dirs.isEmpty then (self, .ok 0)
    else
      let deleted := removedCount self.disk.frames env.counted dirs env.removals
      let self := { self with disk := self.disk.removeAll dirs env.removals }
      (if 0 < deleted then { self with cachedSizeBytes := 0 } else self, .ok deleted)

/-- `reconcile_cache_size`, with the size of the files that lie directly in the base directory. -/
def reconcileCacheSize (self : FrameFileStorage) (listing : Except String Nat) :
    FrameFileStorage × Except String Nat :=
  match listing with
  | .error e => (self, .error e)
  | .ok total => ({ self with cachedSizeBytes := total }, .ok total)

/-! ## Runs -/

/-- A call, or a new process over the same directory. -/
inductive Op where
  | saveFrame (freeMb : Nat) (frame : Frame)
  | saveFramesBatch (freeMb : Nat) (frames : List Frame)
  | enforceRetention (env : Retention)
  | totalSizeMb (scan : Except String Unit)
  | enforceStorageLimit (env : Limit)
  | deleteAllFiles (env : Deletion)
  | reconcileCacheSize (listing : Except String Nat)
  | restart

/-- The state after a call. -/
def step (setup : Setup) (self : FrameFileStorage) : Op → FrameFileStorage
  | .saveFrame freeMb frame => (saveFrame setup self freeMb frame).1
  | .saveFramesBatch freeMb frames => (saveFramesBatch setup self freeMb frames).1
  | .enforceRetention env => (enforceRetention setup self env).1
  | .totalSizeMb scan => (totalSizeMb self scan).1
  | .enforceStorageLimit env => (enforceStorageLimit setup self env).1
  | .deleteAllFiles env => (deleteAllFiles self env).1
  | .reconcileCacheSize listing => (reconcileCacheSize self listing).1
  | .restart => .opened self.disk

end Oneshim.FrameStorage
