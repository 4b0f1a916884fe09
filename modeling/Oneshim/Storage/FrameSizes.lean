/-
  The size of all frames, kept in a number.

  Saves add to the number, the storage limit takes off what it has removed, the other calls set it.

  1. **Sizes** — what a write and a removal do to the size of all files.

  2. **Honest calls** (`Honest`) — for each call, when what it does to the number is what it does to
     the files: a save adds a file, a removal takes all of a folder or nothing, sizes are read without
     failure.

  3. **The result** (`cached_size_exact`) — once the number has been read from the disk it is the
     size of all files, in every state of a run of honest calls.
-/
import Mathlib.Algebra.BigOperators.Group.List.Basic
import Oneshim.Lib.Calls
import Oneshim.Storage.FrameNames

namespace Oneshim.FrameStorage

open Lib (Along Table states states_invariant foldl_mem_states)

/-! ## Sizes -/

namespace Frames

theorem sizeOf_append (a b : List FrameFile) : sizeOf (a ++ b) = sizeOf a + sizeOf b := by
  simp [sizeOf]

/-- The size of what passes a test and of what does not. -/
theorem sizeOf_filter_add (p : FrameFile → Bool) (files : List FrameFile) :
    sizeOf (files.filter p) + sizeOf (files.filter fun file => !p file) = sizeOf files := by
  rw [← sizeOf_append]
  exact ((List.filter_append_perm p files).map _).sum_eq

@[simp] theorem totalSize_createDir (self : Frames) (day : String) :
    (self.createDir day).totalSize = self.totalSize := by
  simp only [createDir]
  split <;> rfl

theorem totalSize_write {self : Frames} {path : FramePath} (h : self.read path = none)
    (data : Bytes) : (self.write path data).totalSize = self.totalSize + data.length := by
  have hfresh : self.files.find? (some path.day, [path.filename]) = none :=
    Option.map_eq_none_iff.mp h
  have hrows : (self.write path data).files.rows =
      self.files.rows ++ [⟨some path.day, [path.filename], data⟩] :=
    Table.rows_upsert_of_fresh hfresh
  rw [totalSize, hrows, sizeOf_append]
  rfl

/-- Every file that is not in `frames/` itself is in one of the folders. -/
def Listed (self : Frames) : Prop :=
  ∀ file ∈ self.files.rows, ∀ name, file.folder = some name → name ∈ self.folders

theorem Listed.createDir {self : Frames} (h : self.Listed) (day : String) :
    (self.createDir day).Listed ∧ day ∈ (self.createDir day).folders := by
  simp only [Frames.createDir]
  split
  · next hday => exact ⟨h, hday⟩
  · refine ⟨fun file hfile name hname => List.mem_append_left _ (h file hfile name hname), ?_⟩
    exact List.mem_append_right _ (List.mem_singleton_self day)

theorem Listed.write {self : Frames} (h : self.Listed) {path : FramePath}
    (hday : path.day ∈ self.folders) (data : Bytes) : (self.write path data).Listed := by
  intro file hfile name hname
  rcases Table.mem_upsert.mp hfile with rfl | ⟨hold, -⟩
  · exact Option.some.inj hname ▸ hday
  · exact h file hold name hname

end Frames

/-- Whether a removal leaves a file of its folder. -/
def Removal.leaves : Removal → FrameFile → Bool
  | .removed, _ => false
  | .failed kept, file => kept file

/-- Whether removing one folder leaves a file. -/
def stays (name : String) (removal : Removal) (file : FrameFile) : Bool :=
  decide (file.folder ≠ some name) || removal.leaves file

/-- What is left after a folder has been removed. -/
theorem Frames.rows_removeDirAll {self : Frames} (h : self.Listed) (name : String)
    (removal : Removal) :
    (self.removeDirAll name removal).files.rows = self.files.rows.filter (stays name removal) := by
  by_cases hname : name ∈ self.folders
  · cases removal with
    | removed =>
      simp only [removeDirAll, if_pos hname, Table.filterRows]
      exact List.filter_congr fun file _ => by simp [stays, Removal.leaves]
    | failed kept =>
      simp only [removeDirAll, if_pos hname, Table.filterRows]
      exact List.filter_congr fun file _ => by simp [stays, Removal.leaves]
  · have hall : self.files.rows.filter (stays name removal) = self.files.rows := by
      refine List.filter_eq_self.mpr fun file hfile => ?_
      have hne : file.folder ≠ some name := fun heq => hname (h file hfile name heq)
      simp [stays, hne]
    rw [hall]
    cases removal <;> simp only [removeDirAll, if_neg hname]

/-- A removal, whole or in part, leaves every file in a folder that is there. -/
theorem Frames.Listed.removeDirAll {self : Frames} (h : self.Listed) (name : String)
    (removal : Removal) : (self.removeDirAll name removal).Listed := by
  intro file hfile other hother
  rw [Frames.rows_removeDirAll h] at hfile
  obtain ⟨hold, hstays⟩ := List.mem_filter.mp hfile
  have hlisted := h file hold other hother
  cases removal with
  | removed =>
    have hne : other ≠ name := by
      rintro rfl
      simp [stays, Removal.leaves, hother] at hstays
    simp only [Frames.removeDirAll]
    split
    · exact List.mem_filter.mpr ⟨hlisted, decide_eq_true hne⟩
    · exact hlisted
  | failed kept =>
    simp only [Frames.removeDirAll]
    split <;> exact hlisted

/-- Whether a file is left after some folders have been removed. -/
def staysAfter (names : List String) (removals : String → Removal) (file : FrameFile) : Bool :=
  names.all fun name => stays name (removals name) file

/-- The files that are left when folders are removed. -/
theorem rows_removeAll {disk : Disk} (h : disk.frames.Listed) (names : List String)
    (removals : String → Removal) :
    (disk.removeAll names removals).frames.Listed ∧
      (disk.removeAll names removals).frames.files.rows =
        disk.frames.files.rows.filter (staysAfter names removals) := by
  simp only [Disk.removeAll]
  induction names generalizing disk with
  | nil => exact ⟨h, (List.filter_eq_self.mpr fun _ _ => rfl).symm⟩
  | cons name names ih =>
    have hone : (disk.removeDirAll name (removals name)).frames.Listed := h.removeDirAll _ _
    obtain ⟨hlisted, hrows⟩ := ih hone
    refine ⟨hlisted, hrows.trans ?_⟩
    simp only [Disk.removeDirAll, Frames.rows_removeDirAll h, List.filter_filter]
    congr 1
    funext file
    simp only [staysAfter, List.all_cons, Bool.and_comm]

/-! ## Saves -/

section

variable {setup : Setup}

/-- A save that opens its file succeeds, and no file had its name. -/
def AddsFile (setup : Setup) (disk : Disk) (task : Nat × Frame) : Prop :=
  (opened setup task.2).isSome →
    task.2.write = .ok () ∧ disk.frames.read (pathOf task.2.second task.1) = none

/-- A save that opens no file writes nothing. -/
theorem written_of_not_opened {task : Nat × Frame} (h : opened setup task.2 = none) :
    written setup task = 0 := by
  simp only [written]
  split
  · next path data hresult =>
    rw [(opened_of_saveResult setup hresult).1] at h
    cases h
  · rfl

/-- What a save has written is what it has left in its file. -/
theorem written_of_opened {task : Nat × Frame} {data : Bytes}
    (h : opened setup task.2 = some data) (hwrite : task.2.write = .ok ()) :
    written setup task = data.length := by
  obtain ⟨number, frame⟩ := task
  have hwrite : frame.write = .ok () := hwrite
  simp only [opened, hwrite] at h
  split at h
  · next hdir hdata =>
    cases h
    simp only [written, saveResult, hdir, hdata, hwrite]
  · cases h

/-- A save writes into a folder that is there. -/
theorem listed_runTask {disk : Disk} (hlisted : disk.frames.Listed) (task : Nat × Frame) :
    (runTask setup disk task).frames.Listed := by
  simp only [runTask, saveOn]
  cases hdir : task.2.createDir with
  | error e =>
    have hnone : opened setup task.2 = none := by simp only [opened, hdir]
    simp only [hnone]
    exact hlisted
  | ok created =>
    obtain ⟨hcreated, hday⟩ := hlisted.createDir (pathOf task.2.second task.1).day
    split
    · exact hcreated.write hday _
    · exact hcreated

/-- **One save** adds what it has written. -/
theorem runTask_adds {disk : Disk} {task : Nat × Frame} (hadds : AddsFile setup disk task) :
    (runTask setup disk task).frames.totalSize =
      disk.frames.totalSize + written setup task := by
  simp only [runTask, saveOn]
  cases hopened : opened setup task.2 with
  | none =>
    rw [written_of_not_opened hopened]
    cases task.2.createDir with
    | error e => rfl
    | ok created => exact Frames.totalSize_createDir _ _
  | some data =>
    obtain ⟨hwrite, hnone⟩ := hadds (by rw [hopened]; rfl)
    rw [written_of_opened hopened hwrite]
    cases hdir : task.2.createDir with
    | error e =>
      simp only [opened, hdir] at hopened
      cases hopened
    | ok created =>
      rw [Frames.totalSize_write (by rw [Frames.read_createDir, hnone]),
        Frames.totalSize_createDir]

theorem runTasks_add {disk : Disk} {tasks : List (Nat × Frame)}
    (hadds : Along (runTask setup) (AddsFile setup) disk tasks) :
    (tasks.foldl (runTask setup) disk).frames.totalSize =
      disk.frames.totalSize + (tasks.map (written setup)).sum := by
  induction tasks generalizing disk with
  | nil => rfl
  | cons task tasks ih =>
    rw [List.foldl_cons, ih hadds.2, runTask_adds hadds.1, List.map_cons, List.sum_cons,
      Nat.add_assoc]

/-- What the calls that save add to the number. -/
theorem sum_inTurn (tasks : List (Nat × Frame)) :
    ((inTurn tasks).map (written setup)).sum = (tasks.map (written setup)).sum :=
  ((List.mergeSort_perm tasks _).map _).sum_eq

/-! ## The storage limit -/

/-- A folder that is removed has been read without failure; one that is not keeps its files. -/
def HonestRound (setup : Setup) (env : Limit) (loop : LimitLoop) (name : String) : Prop :=
  setup.maxStorageMb < loop.currentMb →
    match env.removals name with
    | .removed => env.dirSized name = true
    | .failed kept =>
      ∀ file ∈ loop.disk.frames.files.rows, file.folder = some name → kept file = true

theorem listed_round {loop : LimitLoop} (hlisted : loop.disk.frames.Listed) (env : Limit)
    (name : String) : (loop.round setup env name).disk.frames.Listed := by
  rcases round_disk env loop name with hsame | hremoved
  · rw [hsame]
    exact hlisted
  · rw [hremoved]
    exact hlisted.removeDirAll _ _

/-- **One round** takes off what it removes. -/
theorem round_takesOff {env : Limit} {loop : LimitLoop} {name : String}
    (hlisted : loop.disk.frames.Listed) (hhonest : HonestRound setup env loop name) :
    (loop.round setup env name).disk.frames.totalSize +
        (loop.round setup env name).totalDeletedBytes =
      loop.disk.frames.totalSize + loop.totalDeletedBytes := by
  simp only [LimitLoop.round]
  split
  · rfl
  · next hover =>
    have hhonest := hhonest (Nat.not_le.mp hover)
    have hrows := Frames.rows_removeDirAll hlisted name (env.removals name)
    cases hremoval : env.removals name with
    | removed =>
      simp only [hremoval] at hhonest hrows
      simp only [Disk.removeDirAll, Frames.totalSize, hrows, hhonest, if_true, Frames.dirSize]
      -- the files of the folder, and the others
      have hsplit := Frames.sizeOf_filter_add (fun file => decide (file.folder = some name))
        loop.disk.frames.files.rows
      have hothers : loop.disk.frames.files.rows.filter (stays name .removed) =
          loop.disk.frames.files.rows.filter fun file => !decide (file.folder = some name) :=
        List.filter_congr fun file _ => by simp [stays, Removal.leaves]
      rw [hothers]
      omega
    | failed kept =>
      simp only [hremoval] at hhonest hrows
      have hall : loop.disk.frames.files.rows.filter (stays name (.failed kept)) =
          loop.disk.frames.files.rows := by
        refine List.filter_eq_self.mpr fun file hfile => ?_
        by_cases hfolder : file.folder = some name
        · simp [stays, Removal.leaves, hhonest file hfile hfolder]
        · simp [stays, hfolder]
      simp only [Disk.removeDirAll, Frames.totalSize, hrows, hall]

theorem rounds_takeOff {env : Limit} {loop : LimitLoop} {names : List String}
    (hlisted : loop.disk.frames.Listed)
    (hhonest : Along (LimitLoop.round setup env) (HonestRound setup env) loop names) :
    (names.foldl (LimitLoop.round setup env) loop).disk.frames.totalSize +
        (names.foldl (LimitLoop.round setup env) loop).totalDeletedBytes =
      loop.disk.frames.totalSize + loop.totalDeletedBytes := by
  induction names generalizing loop with
  | nil => rfl
  | cons name names ih =>
    rw [List.foldl_cons, ih (listed_round hlisted env name) hhonest.2,
      round_takesOff hlisted hhonest.1]

end

/-! ## Deleting everything -/

/-- A counted file that lies in one of the folders that are removed, in the folder itself. -/
def RemovedDirectly (counted : FrameFile → Bool) (names : List String)
    (removals : String → Removal) (file : FrameFile) : Prop :=
  file.path.length = 1 ∧ counted file = true ∧
    ∃ name ∈ names, file.folder = some name ∧ removals name = .removed

/-- The count of removed files says whether there is one. -/
theorem removedCount_pos_iff {frames : Frames} (hlisted : frames.Listed)
    (counted : FrameFile → Bool) (names : List String) (removals : String → Removal) :
    0 < removedCount frames counted names removals ↔
      ∃ file ∈ frames.files.rows, RemovedDirectly counted names removals file := by
  have hcount (name : String) : 0 < frames.countFilesInDir counted name ↔
      ∃ file ∈ frames.files.rows, file.folder = some name ∧ file.path.length = 1 ∧
        counted file = true := by
    simp [Frames.countFilesInDir, List.countP_pos_iff, and_assoc]
  have hpos (name : String) : 0 < (match removals name with
      | .removed => if name ∈ frames.folders then frames.countFilesInDir counted name else 0
      | .failed _ => 0) ↔ removals name = .removed ∧
        ∃ file ∈ frames.files.rows, file.folder = some name ∧ file.path.length = 1 ∧
          counted file = true := by
    cases hremoval : removals name with
    | failed kept => simp
    | removed =>
      simp only [true_and, ← hcount]
      split
      · rfl
      · next hname =>
        refine iff_of_false (Nat.lt_irrefl 0) fun hcounted => ?_
        obtain ⟨file, hfile, hfolder, -⟩ := (hcount name).mp hcounted
        exact hname (hlisted file hfile name hfolder)
  simp only [removedCount, List.sum_pos_iff_exists_pos_nat, List.mem_map]
  constructor
  · rintro ⟨-, ⟨name, hname, rfl⟩, hpositive⟩
    obtain ⟨hremoved, file, hfile, hfolder, hdirect, hcounted⟩ := (hpos name).mp hpositive
    exact ⟨file, hfile, hdirect, hcounted, name, hname, hfolder, hremoved⟩
  · rintro ⟨file, hfile, hdirect, hcounted, name, hname, hfolder, hremoved⟩
    exact ⟨_, ⟨name, hname, rfl⟩,
      (hpos name).mpr ⟨hremoved, file, hfile, hfolder, hdirect, hcounted⟩⟩

/-- Where a file of a removed folder is counted all files go, and where none is counted all stay. -/
def HonestDeletion (frames : Frames) (env : Deletion) : Prop :=
  env.listDirs = .ok () →
    ((∃ file ∈ frames.files.rows, RemovedDirectly env.counted frames.dateDirs env.removals file) →
      ∀ file ∈ frames.files.rows, staysAfter frames.dateDirs env.removals file = false) ∧
    ((¬∃ file ∈ frames.files.rows, RemovedDirectly env.counted frames.dateDirs env.removals file) →
      ∀ file ∈ frames.files.rows, staysAfter frames.dateDirs env.removals file = true)

/-! ## Calls -/

/-- The number is the size of all files, once it has been read from the disk. -/
def Exact (self : FrameFileStorage) : Prop :=
  self.cachedSizeInitialized = true → self.cachedSizeBytes = self.disk.frames.totalSize

/-- The state once the size is known. -/
def sized (self : FrameFileStorage) : FrameFileStorage :=
  if self.cachedSizeInitialized then self
  else { self with
    cachedSizeBytes := self.disk.frames.totalSize, cachedSizeInitialized := true }

/-- **When a call is honest** about the size of what it does.  Before the number has been read from the
    disk every call is, the storage limit apart, which reads it. -/
def Honest (setup : Setup) (self : FrameFileStorage) : Op → Prop
  | .saveFrame freeMb frame => self.cachedSizeInitialized = true →
    EverySave setup (AddsFile setup) self (.saveFrame freeMb frame)
  | .saveFramesBatch freeMb frames => self.cachedSizeInitialized = true →
    EverySave setup (AddsFile setup) self (.saveFramesBatch freeMb frames)
  | .enforceRetention env => self.cachedSizeInitialized = true → env.readDir = .ok () →
    dirsToDelete self.disk.frames (cutoffDate setup.retentionDays env.now) ≠ [] →
      env.rescan = .ok ()
  | .totalSizeMb _ => True
  | .enforceStorageLimit env =>
    (self.cachedSizeInitialized = true ∨ env.scan = .ok ()) → env.listDirs = .ok () →
      Along (LimitLoop.round setup env) (HonestRound setup env)
        ⟨self.disk, megabytes (sized self).cachedSizeBytes, 0, 0⟩ (sortedDirs self.disk.frames)
  | .deleteAllFiles env => self.cachedSizeInitialized = true →
    HonestDeletion self.disk.frames env
  | .reconcileCacheSize listing => self.cachedSizeInitialized = true →
    ∀ total, listing = .ok total → total = self.disk.frames.totalSize
  | .restart => True

section

variable {setup : Setup} {self : FrameFileStorage}

/-- Every call leaves files in folders only. -/
theorem listed_step (hlisted : self.disk.frames.Listed) (op : Op) :
    (step setup self op).disk.frames.Listed := by
  rcases step_disk setup self op with htasks | ⟨-, names, removals, hremoved⟩ |
      ⟨-, names, env, loop, hlast, hfirst⟩
  · rw [htasks]
    exact List.foldlRecOn _ _ (motive := fun disk : Disk => disk.frames.Listed) hlisted
      fun disk h task _ => listed_runTask h task
  · rw [hremoved]
    exact (rows_removeAll hlisted names removals).1
  · rw [hlast]
    exact List.foldlRecOn _ _ (motive := fun loop : LimitLoop => loop.disk.frames.Listed)
      (hfirst ▸ hlisted) fun loop h name _ => listed_round h env name

/-- The storage limit, once the size is known. -/
theorem exact_limitTo (hlisted : self.disk.frames.Listed) (h : Exact self) {env : Limit}
    (hhonest : env.listDirs = .ok () → Along (LimitLoop.round setup env) (HonestRound setup env)
      ⟨self.disk, megabytes self.cachedSizeBytes, 0, 0⟩ (sortedDirs self.disk.frames)) :
    Exact (limitTo setup self env).1 := by
  simp only [limitTo]
  split
  · exact h
  · cases hlist : env.listDirs with
    | error e => exact h
    | ok listed =>
      intro hinitialized
      have hsizes := @rounds_takeOff setup env
        ⟨self.disk, megabytes self.cachedSizeBytes, 0, 0⟩ _ hlisted (hhonest hlist)
      have hcached := h hinitialized
      simp only at hsizes ⊢
      omega

/-- **One call** that is honest. -/
theorem exact_step (hlisted : self.disk.frames.Listed) (h : Exact self) {op : Op}
    (hhonest : Honest setup self op) : Exact (step setup self op) := by
  cases op with
  | saveFrame freeMb frame =>
    intro hinitialized
    have hinit : self.cachedSizeInitialized = true := by
      simp only [step, saveFrame] at hinitialized
      split at hinitialized
      · exact hinitialized
      · split at hinitialized
        · exact hinitialized
        · split at hinitialized <;> exact hinitialized
    have hadds := hhonest hinit
    simp only [EverySave, tasksOf] at hadds
    simp only [step, saveFrame]
    split
    · exact h hinit
    · next hspace =>
      rw [if_neg hspace] at hadds
      have hsize := runTask_adds hadds.1
      simp only [runTask, written] at hsize
      split
      · exact h hinit
      · next hdir =>
        split
        · next e hresult =>
          rw [hresult] at hsize
          simp only at hsize ⊢
          rw [hsize, h hinit]
          rfl
        · next path data hresult =>
          rw [hresult] at hsize
          simp only at hsize ⊢
          rw [hsize, h hinit]
  | saveFramesBatch freeMb frames =>
    intro hinitialized
    have hinit : self.cachedSizeInitialized = true := by
      simp only [step, saveFramesBatch] at hinitialized
      split at hinitialized <;> exact hinitialized
    have hadds := hhonest hinit
    simp only [EverySave, tasksOf] at hadds
    simp only [step, saveFramesBatch]
    split
    · exact h hinit
    · next hspace =>
      rw [if_neg hspace] at hadds
      simp only
      rw [runTasks_add hadds, sum_inTurn, h hinit]
  | enforceRetention env =>
    simp only [step, enforceRetention]
    cases hread : env.readDir with
    | error e => exact h
    | ok listed =>
      simp only
      split
      · exact h
      · next hnames =>
        intro hinitialized
        have hrescan := hhonest hinitialized hread fun hnil => hnames (by rw [hnil]; rfl)
        simp only [hrescan]
  | totalSizeMb scan =>
    simp only [step, totalSizeMb]
    split
    · exact h
    · split
      · exact h
      · exact fun _ => rfl
  | enforceStorageLimit env =>
    simp only [step, enforceStorageLimit]
    split
    · next hinit =>
      refine exact_limitTo hlisted h fun hlist => ?_
      have hrounds := hhonest (.inl hinit) hlist
      rwa [sized, if_pos hinit] at hrounds
    · next hinit =>
      split
      · exact h
      · next hscan =>
        have hread : Exact { self with
            cachedSizeBytes := self.disk.frames.totalSize, cachedSizeInitialized := true } :=
          fun _ => rfl
        refine exact_limitTo ?_ hread fun hlist => ?_
        · exact hlisted
        · have hrounds := hhonest (.inr hscan) hlist
          rwa [sized, if_neg hinit] at hrounds
  | deleteAllFiles env =>
    simp only [step, deleteAllFiles]
    cases hlist : env.listDirs with
    | error e => exact h
    | ok listed =>
      simp only
      split
      · exact h
      · intro hinitialized
        obtain ⟨-, hrows⟩ := rows_removeAll hlisted self.disk.frames.dateDirs env.removals
        by_cases hcounted : 0 < removedCount self.disk.frames env.counted
            self.disk.frames.dateDirs env.removals
        · rw [if_pos hcounted] at hinitialized ⊢
          obtain ⟨hgone, -⟩ := hhonest hinitialized hlist
          have hgone := hgone ((removedCount_pos_iff hlisted _ _ _).mp hcounted)
          have hempty : self.disk.frames.files.rows.filter
              (staysAfter self.disk.frames.dateDirs env.removals) = [] :=
            List.filter_eq_nil_iff.mpr fun file hfile => by simp [hgone file hfile]
          simp only [Frames.totalSize, hrows, hempty]
          rfl
        · rw [if_neg hcounted] at hinitialized ⊢
          obtain ⟨-, hstays⟩ := hhonest hinitialized hlist
          have hstays := hstays fun hex => hcounted ((removedCount_pos_iff hlisted _ _ _).mpr hex)
          have hall : self.disk.frames.files.rows.filter
              (staysAfter self.disk.frames.dateDirs env.removals) = self.disk.frames.files.rows :=
            List.filter_eq_self.mpr hstays
          simp only [Frames.totalSize, hrows, hall]
          exact h hinitialized
  | reconcileCacheSize listing =>
    simp only [step, reconcileCacheSize]
    cases listing with
    | error e => exact h
    | ok total => exact fun hinitialized => hhonest hinitialized total rfl
  | restart => exact fun hinitialized => by cases hinitialized

/-! ## Runs -/

/-- **When the number is exact.**  Over any files that are there, in every run of honest calls, the
    number is the size of all files in every state in which it has been read from the disk. -/
theorem cached_size_exact (setup : Setup) (frames : Frames) (ops : List Op)
    (hlisted : frames.Listed)
    (hrun : Along (step setup) (Honest setup) (.opened ⟨frames, []⟩) ops) :
    ∀ s ∈ states (step setup) (.opened ⟨frames, []⟩) ops, Exact s := by
  intro s hs
  have hstep (s : FrameFileStorage) (op : Op) (h : s.disk.frames.Listed ∧ Exact s)
      (hhonest : Honest setup s op) :
      (step setup s op).disk.frames.Listed ∧ Exact (step setup s op) :=
    ⟨listed_step h.1 op, exact_step h.1 h.2 hhonest⟩
  have hstart : (FrameFileStorage.opened ⟨frames, []⟩).disk.frames.Listed ∧
      Exact (.opened ⟨frames, []⟩) := ⟨hlisted, fun hinitialized => by cases hinitialized⟩
  have hall : ∀ s ∈ states (step setup) (.opened ⟨frames, []⟩) ops,
      s.disk.frames.Listed ∧ Exact s := states_invariant hstep hstart hrun
  exact (hall s hs).2

end

/-- The size is read, a frame is saved, and the days before today are deleted; nothing fails. -/
def saveAndRetain : List Op :=
  [.totalSizeMb (.ok ()), .saveFrame 1000 (sampleFrame [1, 2, 3]),
    .enforceRetention ⟨1700000000000000000, .ok (), fun _ => true, fun _ => .removed, .ok ()⟩]

theorem saveAndRetain_exact :
    Exact (saveAndRetain.foldl (step sampleSetup) (.opened ⟨⟨[], .empty⟩, []⟩)) := by
  refine cached_size_exact sampleSetup ⟨[], .empty⟩ saveAndRetain (fun file hfile => ?_) ?_ _
    (foldl_mem_states _ _)
  · cases hfile
  · refine ⟨trivial, fun _ => ⟨fun _ => ⟨rfl, rfl⟩, trivial⟩, fun _ _ _ => rfl, trivial⟩

/-- The size is read, a frame is saved, and the number is reconciled with the disk: in the base
    directory itself there is no file. -/
def saveAndReconcile : List Op :=
  [.totalSizeMb (.ok ()), .saveFrame 1000 (sampleFrame [1, 2, 3]), .reconcileCacheSize (.ok 0)]

/-- The number is nothing, and the frame is still there. -/
theorem reconcile_forgets :
    ¬ ∀ (setup : Setup) (frames : Frames) (ops : List Op), frames.Listed →
      ∀ s ∈ states (step setup) (.opened ⟨frames, []⟩) ops, Exact s := by
  intro hall
  have hexact := hall sampleSetup ⟨[], .empty⟩ saveAndReconcile
    (fun file hfile => by cases hfile) _ (foldl_mem_states _ _)
  have hsize := hexact (by decide +kernel)
  revert hsize
  decide +kernel

end Oneshim.FrameStorage
