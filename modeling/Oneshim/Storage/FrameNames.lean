/-
  Saved frames are not overwritten.

  A frame is named after its second and a number, so two saves meet in one file when both are the
  same: after a thousand saves, and after a restart.

  1. **Names** (`pathOf_inj`) — the path determines the second and the number.

  2. **The promise** (`Kept`) — no two frames have been saved under one path, and a frame whose day
     has not been touched is read back.

  3. **The result** (`saved_frames_kept`) — the promise is kept in every state of a run when no save
     opens the file of a frame that has been saved before.
-/
import Oneshim.Lib.Calls
import Oneshim.Storage.FrameStorage

namespace Oneshim.FrameStorage

open Lib (Along Table states states_invariant along_of_states states_of_last foldl_mem_states)
open Lib.Rfc3339 (digits_inj length_digits dateText_injective)

/-! ## Names -/

theorem length_timeStr (ofDay : Nat) : (timeStr ofDay).length = 8 := by
  simp [timeStr, length_digits]

theorem timeStr_inj {a b : Nat} (ha : a < 86400) (hb : b < 86400) (h : timeStr a = timeStr b) :
    a = b := by
  obtain ⟨hhour, hrest⟩ := List.append_inj h (by simp [length_digits])
  obtain ⟨hminute, hsecond⟩ := List.append_inj (List.cons.inj hrest).2 (by simp [length_digits])
  have hhour := digits_inj (by omega) (by omega) hhour
  have hminute := digits_inj (by omega) (by omega) hminute
  have hsecond := digits_inj (by omega) (by omega) (List.cons.inj hsecond).2
  omega

/-- **Names apart**: a path belongs to one second and one number. -/
theorem pathOf_inj {a b : Int} {n m : Nat} (hn : n < 1000) (hm : m < 1000)
    (h : pathOf a n = pathOf b m) : a = b ∧ n = m := by
  obtain ⟨hday, hname⟩ := FramePath.mk.inj h
  have hday := dateText_injective (String.ofList_injective hday)
  obtain ⟨htime, hrest⟩ := List.append_inj (String.ofList_injective hname)
    (by rw [length_timeStr, length_timeStr])
  have htime := timeStr_inj (by omega) (by omega) htime
  obtain ⟨hnumber, -⟩ := List.append_inj (List.cons.inj hrest).2 (by simp [length_digits])
  exact ⟨by omega, digits_inj (by omega) (by omega) hnumber⟩

theorem numberOf_lt (counter : Nat) : numberOf counter < 1000 := Nat.mod_lt counter (by decide)

/-! ## Files -/

@[simp] theorem Frames.read_createDir (self : Frames) (day : String) (path : FramePath) :
    (self.createDir day).read path = self.read path := by
  simp only [createDir]
  split <;> rfl

theorem Frames.read_write (self : Frames) (path other : FramePath) (data : Bytes) :
    (self.write path data).read other = if path = other then some data else self.read other := by
  have hkey : FrameFile.key ⟨some path.day, [path.filename], data⟩ =
      (some other.day, [other.filename]) ↔ path = other := by
    cases path; cases other
    simp [FrameFile.key]
  simp only [write, read]
  rw [Table.find?_upsert]
  by_cases h : path = other
  · rw [if_pos (hkey.mpr h), if_pos h, Option.map_some]
  · rw [if_neg (fun heq => h (hkey.mp heq)), if_neg h]

variable {path : FramePath}

/-- Removing another folder leaves a file where it is. -/
theorem Frames.read_removeDirAll {self : Frames} {name : String} {removal : Removal} {data : Bytes}
    (h : self.read path = some data) (hne : path.day ≠ name) :
    (self.removeDirAll name removal).read path = some data := by
  obtain ⟨file, hfind, rfl⟩ := Option.map_eq_some_iff.mp h
  obtain ⟨hmem, hkey⟩ := Table.find?_eq_some_iff.mp hfind
  have hfolder : file.folder = some path.day := congrArg Prod.fst hkey
  have hother : file.folder ≠ some name := by
    rw [hfolder]
    exact fun heq => hne (Option.some.inj heq)
  have hkept (p : FrameFile → Bool) (hp : p file = true) :
      (self.files.filterRows p).find? (some path.day, [path.filename]) = some file :=
    Table.find?_eq_some_iff.mpr ⟨List.mem_filter.mpr ⟨hmem, hp⟩, hkey⟩
  cases removal with
  | removed =>
    simp only [removeDirAll]
    split
    · have hp : decide (file.folder ≠ some name) = true := decide_eq_true hother
      simp only [read, hkept (fun file => decide (file.folder ≠ some name)) hp, Option.map_some]
    · exact h
  | failed kept =>
    simp only [removeDirAll]
    split
    · have hp : (decide (file.folder ≠ some name) || kept file) = true := by simp [hother]
      simp only [read, hkept (fun file => decide (file.folder ≠ some name) || kept file) hp,
        Option.map_some]
    · exact h

section

variable (setup : Setup)

/-- What `load_frame` makes of the bytes of a file. -/
def decoded (raw : Bytes) : Except StorageError Bytes :=
  match setup.encryptionKey with
  | some key => key.decrypt raw
  | none => .ok raw

theorem loadFrame_of_read {frames : Frames} {raw : Bytes} (h : frames.read path = some raw) :
    loadFrame setup frames path (.ok ()) = decoded setup raw := by
  simp only [loadFrame, h]
  rfl

theorem read_of_loadFrame {frames : Frames} {data : Bytes}
    (h : loadFrame setup frames path (.ok ()) = .ok data) :
    ∃ raw, frames.read path = some raw ∧ decoded setup raw = .ok data := by
  cases hread : frames.read path with
  | none =>
    simp only [loadFrame, hread] at h
    cases h
  | some raw => exact ⟨raw, rfl, (loadFrame_of_read setup hread).symm.trans h⟩

theorem decoded_dataToWrite {frame : Frame} {data : Bytes}
    (h : dataToWrite setup frame = .ok data) : decoded setup data = .ok frame.webpData := by
  simp only [dataToWrite] at h
  simp only [decoded]
  cases hkey : setup.encryptionKey with
  | none =>
    rw [hkey] at h
    cases h
    rfl
  | some key =>
    rw [hkey] at h
    exact EncryptionKey.decrypt_of_encrypt h

/-- A save that succeeds has opened its file and left the frame there. -/
theorem opened_of_saveResult {number : Nat} {frame : Frame} {data : Bytes}
    (h : saveResult setup number frame = .ok (path, data)) :
    opened setup frame = some data ∧ dataToWrite setup frame = .ok data := by
  simp only [saveResult] at h
  simp only [opened]
  split at h
  · cases h
  · next hdir =>
    split at h
    · cases h
    · next written hdata =>
      split at h
      · cases h
      · next hwrite =>
        cases h
        simp only [hdir, hdata, hwrite, and_self]

/-! ## The promise -/

/-- **Frames are kept**: no two have been saved under one path, and those whose day has not been
    touched are read back. -/
structure Kept (disk : Disk) : Prop where
  distinct : (disk.saved.map Saved.path).Nodup
  loaded : ∀ saved ∈ disk.saved, saved.live = true →
    loadFrame setup disk.frames saved.path (.ok ()) = .ok saved.data

/-- No frame that has been saved before has this second and this number. -/
def NewName (disk : Disk) (number : Nat) (frame : Frame) : Prop :=
  ∀ saved ∈ disk.saved, ¬(saved.second = frame.second ∧ saved.number = number)

/-- A save that opens its file opens a new one. -/
def OpensNew (disk : Disk) (task : Nat × Frame) : Prop :=
  (opened setup task.2).isSome → NewName disk task.1 task.2

/-- A save that succeeds has a new name. -/
def WritesNew (disk : Disk) (task : Nat × Frame) : Prop :=
  (∃ saved, saveResult setup task.1 task.2 = .ok saved) → NewName disk task.1 task.2

/-- The frames that a call saves, with their numbers, in the order in which it writes them. -/
def tasksOf (self : FrameFileStorage) : Op → List (Nat × Frame)
  | .saveFrame freeMb frame =>
    if freeMb < diskSpaceCriticalMb then [] else [(numberOf self.frameCounter, frame)]
  | .saveFramesBatch freeMb frames =>
    if freeMb < diskSpaceCriticalMb then [] else inTurn (numbered self.frameCounter frames)
  | _ => []

/-- A condition on every save that a call makes. -/
def EverySave (condition : Disk → Nat × Frame → Prop) (self : FrameFileStorage) (op : Op) : Prop :=
  Along (runTask setup) condition self.disk (tasksOf self op)

/-! ## One save -/

variable {setup}

/-- Every number that has been given out is below 1000. -/
def Numbered (disk : Disk) : Prop := ∀ saved ∈ disk.saved, saved.number < 1000

variable {disk : Disk}

/-- A frame with a new name has a path of its own. -/
theorem NewName.path_ne {number : Nat} {frame : Frame} (h : NewName disk number frame)
    (hnumbered : Numbered disk) (hnumber : number < 1000) {saved : Saved}
    (hsaved : saved ∈ disk.saved) :
    pathOf frame.second number ≠ saved.path := fun heq =>
  h saved hsaved ((pathOf_inj hnumber (hnumbered saved hsaved) heq).imp Eq.symm Eq.symm)

theorem read_saveOn {number : Nat} {frame : Frame}
    (h : (opened setup frame).isSome → pathOf frame.second number ≠ path) :
    (saveOn setup disk number frame).frames.read path = disk.frames.read path := by
  simp only [saveOn]
  split
  · next data hopened =>
    rw [Frames.read_write, if_neg (h (by rw [hopened]; rfl))]
    split
    · exact Frames.read_createDir _ _ _
    · rfl
  · split
    · exact Frames.read_createDir _ _ _
    · rfl

/-- **One save** that opens a new file keeps the promise. -/
theorem Kept.saveOn (h : Kept setup disk) (hnumbered : Numbered disk) {number : Nat}
    (hnumber : number < 1000) {frame : Frame} (hnew : OpensNew setup disk (number, frame)) :
    Kept setup (saveOn setup disk number frame) ∧ Numbered (saveOn setup disk number frame) := by
  -- the frames that were there before are read as before
  have hold : ∀ saved ∈ disk.saved, saved.live = true →
      loadFrame setup (FrameStorage.saveOn setup disk number frame).frames saved.path (.ok ()) =
        .ok saved.data := by
    intro saved hsaved hlive
    obtain ⟨raw, hread, hdecoded⟩ := read_of_loadFrame setup (h.loaded saved hsaved hlive)
    rw [← hdecoded]
    refine loadFrame_of_read setup ?_
    rw [read_saveOn fun hopened => (hnew hopened).path_ne hnumbered hnumber hsaved, hread]
  cases hresult : saveResult setup number frame with
  | error e =>
    have hsaved : (FrameStorage.saveOn setup disk number frame).saved = disk.saved := by
      simp only [FrameStorage.saveOn, hresult]
    refine ⟨⟨by rw [hsaved]; exact h.distinct, ?_⟩, ?_⟩
    · rw [hsaved]
      exact hold
    · intro saved hmem
      rw [hsaved] at hmem
      exact hnumbered saved hmem
  | ok result =>
    obtain ⟨path, data⟩ := result
    obtain ⟨hopened, hdata⟩ := opened_of_saveResult setup hresult
    have hname := hnew (by rw [hopened]; rfl)
    have hsaved : (FrameStorage.saveOn setup disk number frame).saved =
        disk.saved ++ [⟨frame.second, number, frame.webpData, true⟩] := by
      simp only [FrameStorage.saveOn, hresult]
    have hread : (FrameStorage.saveOn setup disk number frame).frames.read
        (pathOf frame.second number) = some data := by
      simp only [FrameStorage.saveOn, hopened]
      rw [Frames.read_write, if_pos rfl]
    refine ⟨⟨?_, ?_⟩, ?_⟩
    · rw [hsaved, List.map_append, List.map_singleton]
      refine h.distinct.append (List.nodup_singleton _) fun path hpath hlast => ?_
      obtain ⟨saved, hmem, rfl⟩ := List.mem_map.mp hpath
      exact hname.path_ne hnumbered hnumber hmem (List.mem_singleton.mp hlast).symm
    · intro saved hmem hlive
      rw [hsaved] at hmem
      rcases List.mem_append.mp hmem with hmem | hmem
      · exact hold saved hmem hlive
      · rw [List.mem_singleton.mp hmem]
        exact (loadFrame_of_read setup hread).trans (decoded_dataToWrite setup hdata)
    · intro saved hmem
      rw [hsaved] at hmem
      rcases List.mem_append.mp hmem with hmem | hmem
      · exact hnumbered saved hmem
      · rw [List.mem_singleton.mp hmem]
        exact hnumber

/-- Taking a day away touches no frame of another day. -/
theorem Kept.removeDirAll (h : Kept setup disk) (hnumbered : Numbered disk) (name : String)
    (removal : Removal) :
    Kept setup (disk.removeDirAll name removal) ∧ Numbered (disk.removeDirAll name removal) := by
  have hfields (saved : Saved) : ∃ live,
      (if saved.path.day = name then { saved with live := false } else saved) =
        { saved with live := live } ∧ (live = true → saved.live = true ∧ saved.path.day ≠ name) := by
    split
    · exact ⟨false, rfl, fun hfalse => by cases hfalse⟩
    · next hother => exact ⟨saved.live, rfl, fun hlive => ⟨hlive, hother⟩⟩
  refine ⟨⟨?_, ?_⟩, ?_⟩
  · simp only [Disk.removeDirAll, List.map_map]
    have hpaths : Saved.path ∘ (fun saved : Saved =>
        if saved.path.day = name then { saved with live := false } else saved) = Saved.path := by
      funext saved
      obtain ⟨live, heq, -⟩ := hfields saved
      simp only [Function.comp_apply, heq]
      rfl
    rw [hpaths]
    exact h.distinct
  · intro saved hmem hlive
    obtain ⟨old, hold, rfl⟩ := List.mem_map.mp hmem
    obtain ⟨live, heq, hkept⟩ := hfields old
    rw [heq] at hlive ⊢
    obtain ⟨hlive, hother⟩ := hkept hlive
    obtain ⟨raw, hread, hdecoded⟩ := read_of_loadFrame setup (h.loaded old hold hlive)
    rw [← hdecoded]
    exact loadFrame_of_read setup (Frames.read_removeDirAll hread hother)
  · intro saved hmem
    obtain ⟨old, hold, rfl⟩ := List.mem_map.mp hmem
    obtain ⟨live, heq, -⟩ := hfields old
    rw [heq]
    exact hnumbered old hold

theorem Kept.removeAll (h : Kept setup disk) (hnumbered : Numbered disk) (names : List String)
    (removals : String → Removal) :
    Kept setup (disk.removeAll names removals) ∧ Numbered (disk.removeAll names removals) := by
  simp only [Disk.removeAll]
  induction names generalizing disk with
  | nil => exact ⟨h, hnumbered⟩
  | cons name names ih =>
    have hone := h.removeDirAll hnumbered name (removals name)
    exact ih hone.1 hone.2

/-! ## Calls -/

variable (setup) in
/-- What a call does on disk: it saves its frames, or takes days away. -/
theorem step_disk (self : FrameFileStorage) (op : Op) :
    (step setup self op).disk = (tasksOf self op).foldl (runTask setup) self.disk ∨
      (tasksOf self op = [] ∧ ∃ names removals,
        (step setup self op).disk = self.disk.removeAll names removals) ∨
      (tasksOf self op = [] ∧ ∃ (names : List String) (env : Limit) (loop : LimitLoop),
        (step setup self op).disk = (names.foldl (LimitLoop.round setup env) loop).disk ∧
          loop.disk = self.disk) := by
  cases op with
  | saveFrame freeMb frame =>
    refine .inl ?_
    simp only [step, saveFrame, tasksOf]
    split
    · rfl
    · simp only [List.foldl_cons, List.foldl_nil, runTask]
      split
      · next e hdir =>
        have hfailed : saveResult setup (numberOf self.frameCounter) frame =
            .error (.internal ("Failed to create dated folder: " ++ e)) := by
          simp only [saveResult, hdir]
        simp only [saveOn, opened, hdir, hfailed]
      · split <;> rfl
  | saveFramesBatch freeMb frames =>
    refine .inl ?_
    simp only [step, saveFramesBatch, tasksOf]
    split <;> rfl
  | enforceRetention env =>
    simp only [step, enforceRetention]
    split
    · exact .inl rfl
    · split
      · exact .inl rfl
      · exact .inr (.inl ⟨rfl, _, _, rfl⟩)
  | totalSizeMb scan =>
    refine .inl ?_
    simp only [step, totalSizeMb]
    split
    · rfl
    · split <;> rfl
  | enforceStorageLimit env =>
    have hlimit (self : FrameFileStorage) : (limitTo setup self env).1.disk = self.disk ∨
        ∃ (names : List String) (loop : LimitLoop), (limitTo setup self env).1.disk =
          (names.foldl (LimitLoop.round setup env) loop).disk ∧ loop.disk = self.disk := by
      simp only [limitTo]
      split
      · exact .inl rfl
      · split
        · exact .inl rfl
        · exact .inr ⟨_, _, rfl, rfl⟩
    simp only [step, enforceStorageLimit]
    split
    · rcases hlimit self with hsame | ⟨names, loop, hlast, hfirst⟩
      · exact .inl hsame
      · exact .inr (.inr ⟨rfl, names, env, loop, hlast, hfirst⟩)
    · split
      · exact .inl rfl
      · rcases hlimit _ with hsame | ⟨names, loop, hlast, hfirst⟩
        · exact .inl hsame
        · exact .inr (.inr ⟨rfl, names, env, loop, hlast, hfirst⟩)
  | deleteAllFiles env =>
    simp only [step, deleteAllFiles]
    split
    · exact .inl rfl
    · split
      · exact .inl rfl
      · refine .inr (.inl ⟨rfl, self.disk.frames.dateDirs, env.removals, ?_⟩)
        split <;> rfl
  | reconcileCacheSize listing =>
    refine .inl ?_
    simp only [step, reconcileCacheSize]
    split <;> rfl
  | restart => exact .inl rfl

/-- A round of the storage limit takes a day away, or does nothing. -/
theorem round_disk (env : Limit) (loop : LimitLoop) (name : String) :
    (loop.round setup env name).disk = loop.disk ∨
      (loop.round setup env name).disk = loop.disk.removeDirAll name (env.removals name) := by
  simp only [LimitLoop.round]
  split
  · exact .inl rfl
  · split <;> exact .inr rfl

/-- The rounds of the storage limit take days away. -/
theorem Kept.rounds {env : Limit} {loop : LimitLoop} (h : Kept setup loop.disk)
    (hnumbered : Numbered loop.disk) (names : List String) :
    Kept setup (names.foldl (LimitLoop.round setup env) loop).disk ∧
      Numbered (names.foldl (LimitLoop.round setup env) loop).disk := by
  induction names generalizing loop with
  | nil => exact ⟨h, hnumbered⟩
  | cons name names ih =>
    rcases round_disk env loop name with hsame | hremoved
    · exact ih (hsame ▸ h) (hsame ▸ hnumbered)
    · have hone := h.removeDirAll hnumbered name (env.removals name)
      exact ih (hremoved ▸ hone.1) (hremoved ▸ hone.2)

theorem numberOf_of_mem_numbered {counter : Nat} {frames : List Frame} {task : Nat × Frame}
    (h : task ∈ numbered counter frames) : task.1 < 1000 := by
  induction frames generalizing counter with
  | nil => cases h
  | cons frame frames ih =>
    rcases List.mem_cons.mp h with rfl | hrest
    · exact numberOf_lt counter
    · exact ih hrest

/-- The numbers of a batch are below 1000. -/
theorem numberOf_of_mem_tasksOf {self : FrameFileStorage} {op : Op} {task : Nat × Frame}
    (h : task ∈ tasksOf self op) : task.1 < 1000 := by
  cases op with
  | saveFrame freeMb frame =>
    simp only [tasksOf] at h
    split at h
    · cases h
    · rw [List.mem_singleton.mp h]
      exact numberOf_lt _
  | saveFramesBatch freeMb frames =>
    simp only [tasksOf] at h
    split at h
    · cases h
    · exact numberOf_of_mem_numbered (List.mem_mergeSort.mp h)
  | _ => cases h

/-- The saves of a call, one after the other. -/
theorem Kept.runTasks (h : Kept setup disk) (hnumbered : Numbered disk) {tasks : List (Nat × Frame)}
    (hbound : ∀ task ∈ tasks, task.1 < 1000)
    (hnew : Along (runTask setup) (OpensNew setup) disk tasks) :
    Kept setup (tasks.foldl (runTask setup) disk) ∧
      Numbered (tasks.foldl (runTask setup) disk) := by
  induction tasks generalizing disk with
  | nil => exact ⟨h, hnumbered⟩
  | cons task tasks ih =>
    obtain ⟨hfirst, hrest⟩ := hnew
    have hone := h.saveOn hnumbered (hbound task List.mem_cons_self) hfirst
    exact ih hone.1 hone.2 (fun other hmem => hbound other (List.mem_cons_of_mem _ hmem)) hrest

/-- **One call** whose saves open new files. -/
theorem Kept.step {self : FrameFileStorage} {op : Op} (h : Kept setup self.disk)
    (hnumbered : Numbered self.disk) (hnew : EverySave setup (OpensNew setup) self op) :
    Kept setup (step setup self op).disk ∧ Numbered (FrameStorage.step setup self op).disk := by
  rcases step_disk setup self op with htasks | ⟨-, names, removals, hremoved⟩ |
      ⟨-, names, env, loop, hlast, hfirst⟩
  · rw [htasks]
    have hbound : ∀ task ∈ tasksOf self op, task.1 < 1000 := fun task => numberOf_of_mem_tasksOf
    exact h.runTasks hnumbered hbound hnew
  · rw [hremoved]
    exact h.removeAll hnumbered names removals
  · rw [hlast]
    exact Kept.rounds (hfirst ▸ h) (hfirst ▸ hnumbered) names

/-- A save under a name that was used before breaks the promise. -/
theorem writesNew_of_distinct {task : Nat × Frame}
    (h : ((runTask setup disk task).saved.map Saved.path).Nodup) : WritesNew setup disk task := by
  rintro ⟨result, hresult⟩ saved hmem ⟨hsecond, hnumber⟩
  have hsaved : (runTask setup disk task).saved =
      disk.saved ++ [⟨task.2.second, task.1, task.2.webpData, true⟩] := by
    simp only [runTask, saveOn, hresult]
  rw [hsaved, List.map_append, List.map_singleton] at h
  refine List.disjoint_of_nodup_append h (List.mem_map_of_mem hmem) ?_
  simp only [Saved.path, hsecond, hnumber, List.mem_singleton]

/-- What a task adds does not go away again. -/
theorem distinct_of_runTask {task : Nat × Frame}
    (h : ((runTask setup disk task).saved.map Saved.path).Nodup) :
    (disk.saved.map Saved.path).Nodup := by
  simp only [runTask, saveOn] at h
  split at h
  · rw [List.map_append] at h
    exact h.of_append_left
  · exact h

/-- Where all paths are different, every save writes a new file. -/
theorem everySave_of_distinct {self : FrameFileStorage} {op : Op}
    (h : ((step setup self op).disk.saved.map Saved.path).Nodup) :
    EverySave setup (WritesNew setup) self op := by
  rcases step_disk setup self op with htasks | ⟨hnone, -⟩ | ⟨hnone, -⟩
  · rw [htasks] at h
    have hall := states_of_last (P := fun disk : Disk => (disk.saved.map Saved.path).Nodup)
      (fun disk task => distinct_of_runTask) h
    have hnew (disk : Disk) (task : Nat × Frame) (_ : True)
        (h : ((runTask setup disk task).saved.map Saved.path).Nodup) : WritesNew setup disk task :=
      writesNew_of_distinct h
    exact along_of_states (fun _ _ _ _ => trivial) hnew trivial hall
  · simp only [EverySave, hnone]
    trivial
  · simp only [EverySave, hnone]
    trivial

/-! ## Runs -/

/-- **When no saved frame is overwritten.**  Over any files that are there, in every run of calls and
    restarts in which no save opens the file of a frame saved before, no two frames are saved under
    one path and every frame is read back until its day is taken away; and where that is so, no save
    has succeeded under the name of a frame saved before. -/
theorem saved_frames_kept (setup : Setup) (frames : Frames) (ops : List Op) :
    (Along (step setup) (EverySave setup (OpensNew setup)) (.opened ⟨frames, []⟩) ops →
      ∀ s ∈ states (step setup) (.opened ⟨frames, []⟩) ops, Kept setup s.disk) ∧
    ((∀ s ∈ states (step setup) (.opened ⟨frames, []⟩) ops, Kept setup s.disk) →
      Along (step setup) (EverySave setup (WritesNew setup)) (.opened ⟨frames, []⟩) ops) := by
  constructor
  · intro hrun s hs
    have hstart : Kept setup (⟨frames, []⟩ : Disk) ∧ Numbered ⟨frames, []⟩ :=
      ⟨⟨List.nodup_nil, fun saved hmem => by cases hmem⟩, fun saved hmem => by cases hmem⟩
    have hstep (s : FrameFileStorage) (op : Op) (h : Kept setup s.disk ∧ Numbered s.disk)
        (hnew : EverySave setup (OpensNew setup) s op) :
        Kept setup (step setup s op).disk ∧ Numbered (step setup s op).disk :=
      h.1.step h.2 hnew
    have hall : ∀ s ∈ states (step setup) (.opened ⟨frames, []⟩) ops,
        Kept setup s.disk ∧ Numbered s.disk := states_invariant hstep hstart hrun
    exact (hall s hs).1
  · intro hkept
    have hnew (s : FrameFileStorage) (op : Op) (_ : True) (h : Kept setup (step setup s op).disk) :
        EverySave setup (WritesNew setup) s op := everySave_of_distinct h.distinct
    exact along_of_states (fun _ _ _ _ => trivial) hnew trivial hkept

end

/-- A frame of 2023-11-14T22:13:20Z, where nothing fails. -/
def sampleFrame (webpData : Bytes) : Frame :=
  ⟨1700000000000000000, webpData, .ok (), .error "", .ok (), 0⟩

/-- A key that adds a byte of the nonce to every byte. -/
def sampleKey : EncryptionKey where
  cipherEncrypt nonce plaintext := .ok (plaintext.map (· + nonce.head))
  cipherDecrypt nonce ciphertext := .ok (ciphertext.map (· - nonce.head))
  decrypt_encrypt nonce plaintext ciphertext h := by
    obtain rfl := Except.ok.inj h
    rw [List.map_map]
    exact congrArg Except.ok ((List.map_congr_left fun b _ => UInt8.add_sub_cancel b _).trans
      (List.map_id plaintext))

/-- Frames under that key: two of one second, and one of the next second after a restart. -/
def restartBetweenSeconds : List Op :=
  let frame (second : Int) (webpData : Bytes) : Frame :=
    ⟨second * 1000000000, webpData, .ok (), .ok (.replicate 12 7), .ok (), 0⟩
  [.saveFrame 1000 (frame 1700000000 [1]), .saveFrame 1000 (frame 1700000000 [2, 3]), .restart,
    .saveFrame 1000 (frame 1700000001 [4])]

theorem saved_frames_kept_between :
    (restartBetweenSeconds.foldl (step ⟨500, 30, some sampleKey⟩)
        (.opened ⟨⟨[], .empty⟩, []⟩)).disk.saved.length = 3 ∧
      Kept ⟨500, 30, some sampleKey⟩ (restartBetweenSeconds.foldl
        (step ⟨500, 30, some sampleKey⟩) (.opened ⟨⟨[], .empty⟩, []⟩)).disk := by
  refine ⟨by decide +kernel, (saved_frames_kept ⟨500, 30, some sampleKey⟩ ⟨[], .empty⟩
    restartBetweenSeconds).1 ?_ _ (foldl_mem_states _ _)⟩
  refine ⟨⟨fun _ => ?_, trivial⟩, ⟨fun _ => ?_, trivial⟩, trivial, ⟨fun _ => ?_, trivial⟩, trivial⟩
  all_goals
    unfold NewName
    decide +kernel

def sampleSetup : Setup := ⟨500, 30, none⟩

/-- A frame is saved, the program is restarted and saves another one in the same second. -/
def restartWithinSecond : List Op :=
  [.saveFrame 1000 (sampleFrame [1]), .restart, .saveFrame 1000 (sampleFrame [2])]

/-- Both go to `frames/2023-11-14/22-13-20-000.webp`. -/
theorem restart_overwrites :
    ¬ ∀ (setup : Setup) (frames : Frames) (ops : List Op),
      ∀ s ∈ states (step setup) (.opened ⟨frames, []⟩) ops, Kept setup s.disk := by
  intro hall
  have hkept := hall sampleSetup ⟨[], .empty⟩ restartWithinSecond _ (foldl_mem_states _ _)
  have htwice : ¬((restartWithinSecond.foldl (step sampleSetup)
      (.opened ⟨⟨[], .empty⟩, []⟩)).disk.saved.map Saved.path).Nodup := by decide +kernel
  exact htwice hkept.distinct

end Oneshim.FrameStorage
