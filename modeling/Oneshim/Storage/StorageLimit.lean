/-
  How many days the storage limit takes away.

  The loop of `enforce_storage_limit` counts in whole megabytes: it begins with the whole megabytes
  of all frames and takes off the whole megabytes of each day it removes.  What is lost in each of
  these roundings is never seen again, so the loop believes in more than there is.

  1. **The loop** (`daysDeleted`) — the days it removes are the first of the days, and how many is a
     recursion on their sizes.

  2. **The shortest beginning** (`IsShortest`) — the days that have to go, by the size of what is
     left.

  3. **The result** (`enforceStorageLimit_shortest_iff`) — when the loop removes just these.
-/
import Mathlib.Data.Nat.Find
import Oneshim.Storage.FrameSizes

namespace Oneshim.FrameStorage

/-! ## Removed days -/

/-- Whole megabytes of parts are at most those of the whole. -/
theorem megabytes_add_le (a b : Nat) : megabytes a + megabytes b ≤ megabytes (a + b) := by
  simp only [megabytes]
  omega

theorem sum_megabytes_le (sizes : List Nat) :
    (sizes.map megabytes).sum ≤ megabytes sizes.sum := by
  induction sizes with
  | nil => exact Nat.zero_le _
  | cons size sizes ih =>
    calc ((size :: sizes).map megabytes).sum
        = megabytes size + (sizes.map megabytes).sum := by simp
      _ ≤ megabytes size + megabytes sizes.sum := Nat.add_le_add_left ih _
      _ ≤ megabytes (size :: sizes).sum := by
        rw [List.sum_cons]
        exact megabytes_add_le _ _

/-- The disk without some days. -/
def Disk.without (self : Disk) (names : List String) : Disk :=
  self.removeAll names fun _ => .removed

@[simp] theorem Disk.without_nil (self : Disk) : self.without [] = self := rfl

theorem Disk.without_cons (self : Disk) (name : String) (names : List String) :
    self.without (name :: names) = (self.removeDirAll name .removed).without names := rfl

/-- Removing one folder leaves the size of the others. -/
theorem dirSize_removeDirAll {disk : Disk} (h : disk.frames.Listed) {name other : String}
    (hne : other ≠ name) :
    (disk.removeDirAll name .removed).frames.dirSize other = disk.frames.dirSize other := by
  simp only [Disk.removeDirAll, Frames.dirSize, Frames.rows_removeDirAll h, List.filter_filter]
  congr 1
  refine List.filter_congr fun file _ => ?_
  by_cases hfolder : file.folder = some other
  · simp [hfolder, stays, hne]
  · simp [hfolder]

/-- One folder that goes takes its size with it. -/
theorem totalSize_removeDirAll {disk : Disk} (h : disk.frames.Listed) (name : String) :
    (disk.removeDirAll name .removed).frames.totalSize + disk.frames.dirSize name =
      disk.frames.totalSize := by
  have hsplit := Frames.sizeOf_filter_add (fun file => decide (file.folder = some name))
    disk.frames.files.rows
  have hothers : disk.frames.files.rows.filter (stays name .removed) =
      disk.frames.files.rows.filter fun file => !decide (file.folder = some name) :=
    List.filter_congr fun file _ => by simp [stays, Removal.leaves]
  simp only [Disk.removeDirAll, Frames.totalSize, Frames.rows_removeDirAll h, hothers,
    Frames.dirSize]
  omega

/-- The sizes of the others, once a folder is removed. -/
theorem map_dirSize_removeDirAll {disk : Disk} (h : disk.frames.Listed) {name : String}
    {names : List String} (hname : name ∉ names) :
    names.map (disk.removeDirAll name .removed).frames.dirSize =
      names.map disk.frames.dirSize := by
  refine List.map_congr_left fun other hother => dirSize_removeDirAll h ?_
  rintro rfl
  exact hname hother

/-- What is left and what has gone make up all. -/
theorem totalSize_without {disk : Disk} (h : disk.frames.Listed) {names : List String}
    (hnodup : names.Nodup) :
    (disk.without names).frames.totalSize + (names.map disk.frames.dirSize).sum =
      disk.frames.totalSize := by
  induction names generalizing disk with
  | nil => rfl
  | cons name names ih =>
    obtain ⟨hname, hnodup⟩ := List.nodup_cons.mp hnodup
    have hrest := @ih (disk.removeDirAll name .removed) (h.removeDirAll _ _) hnodup
    rw [map_dirSize_removeDirAll h hname] at hrest
    have hone := totalSize_removeDirAll h name
    rw [Disk.without_cons, List.map_cons, List.sum_cons]
    omega

/-- The folders that are left. -/
theorem folders_without (disk : Disk) (names : List String) :
    (disk.without names).frames.folders = disk.frames.folders.filter (· ∉ names) := by
  induction names generalizing disk with
  | nil => simp
  | cons name names ih =>
    have hone : (disk.removeDirAll name .removed).frames.folders =
        disk.frames.folders.filter (· ≠ name) := by
      simp only [Disk.removeDirAll, Frames.removeDirAll]
      split
      · rfl
      · next hname =>
        refine (List.filter_eq_self.mpr fun other hother => decide_eq_true ?_).symm
        rintro rfl
        exact hname hother
    rw [Disk.without_cons, ih, hone, List.filter_filter]
    refine List.filter_congr fun other _ => ?_
    by_cases hother : other = name <;> simp [hother]

/-! ## The loop -/

/-- How many days the loop removes, from what it believes to be left and the sizes of the days. -/
def daysDeleted (limit : Nat) : Nat → List Nat → Nat
  | _, [] => 0
  | current, size :: sizes =>
    if current ≤ limit then 0 else daysDeleted limit (current - megabytes size) sizes + 1

/-- It goes on while it believes in too much, and stops as soon as it does not. -/
theorem daysDeleted_spec (limit current : Nat) (sizes : List Nat) :
    daysDeleted limit current sizes ≤ sizes.length ∧
      (daysDeleted limit current sizes = sizes.length ∨
        current - ((sizes.take (daysDeleted limit current sizes)).map megabytes).sum ≤ limit) ∧
      ∀ j < daysDeleted limit current sizes,
        limit < current - ((sizes.take j).map megabytes).sum := by
  induction sizes generalizing current with
  | nil => exact ⟨Nat.le_refl 0, .inl rfl, fun j hj => absurd hj (Nat.not_lt_zero j)⟩
  | cons size sizes ih =>
    by_cases hdone : current ≤ limit
    · simp only [daysDeleted, if_pos hdone]
      exact ⟨Nat.zero_le _, .inr hdone, fun j hj => absurd hj (Nat.not_lt_zero j)⟩
    · obtain ⟨hle, hstop, hgoes⟩ := ih (current - megabytes size)
      simp only [daysDeleted, if_neg hdone, List.length_cons, List.take_succ_cons, List.map_cons,
        List.sum_cons]
      refine ⟨Nat.succ_le_succ hle, ?_, fun j hj => ?_⟩
      · rcases hstop with hall | hstop
        · exact .inl (by omega)
        · exact .inr (by omega)
      · cases j with
        | zero => simpa using hdone
        | succ j =>
          have := hgoes j (by omega)
          simp only [List.take_succ_cons, List.map_cons, List.sum_cons]
          omega

section

variable {setup : Setup} {env : Limit}

/-- Nothing fails. -/
structure Limit.Succeeds (env : Limit) : Prop where
  scan : env.scan = .ok ()
  listDirs : env.listDirs = .ok ()
  dirSized : ∀ name, env.dirSized name = true
  removals : ∀ name, env.removals name = .removed

/-- Below the limit the rounds do nothing. -/
theorem foldl_round_of_le {loop : LimitLoop} (h : loop.currentMb ≤ setup.maxStorageMb)
    (names : List String) : names.foldl (LimitLoop.round setup env) loop = loop := by
  induction names with
  | nil => rfl
  | cons name names ih =>
    have hround : loop.round setup env name = loop := by simp only [LimitLoop.round, if_pos h]
    rw [List.foldl_cons, hround, ih]

/-- **The loop** removes the first of the days. -/
theorem foldl_round_disk (henv : env.Succeeds) {loop : LimitLoop}
    (h : loop.disk.frames.Listed) {names : List String} (hnodup : names.Nodup) :
    (names.foldl (LimitLoop.round setup env) loop).disk =
      loop.disk.without (names.take
        (daysDeleted setup.maxStorageMb loop.currentMb (names.map loop.disk.frames.dirSize))) := by
  induction names generalizing loop with
  | nil => rfl
  | cons name names ih =>
    obtain ⟨hname, hnodup⟩ := List.nodup_cons.mp hnodup
    by_cases hdone : loop.currentMb ≤ setup.maxStorageMb
    · rw [foldl_round_of_le hdone, List.map_cons, daysDeleted, if_pos hdone]
      rfl
    · have hdisk : (loop.round setup env name).disk = loop.disk.removeDirAll name .removed := by
        simp only [LimitLoop.round, if_neg hdone, henv.removals]
      have hcurrent : (loop.round setup env name).currentMb =
          loop.currentMb - megabytes (loop.disk.frames.dirSize name) := by
        simp only [LimitLoop.round, if_neg hdone, henv.removals, henv.dirSized, if_true]
      rw [List.foldl_cons, ih (hdisk ▸ h.removeDirAll _ _) hnodup, hdisk, hcurrent,
        map_dirSize_removeDirAll h hname, List.map_cons, daysDeleted, if_neg hdone,
        List.take_succ_cons, Disk.without_cons]

/-- The sizes of the days, the oldest first. -/
def daySizes (frames : Frames) : List Nat := (sortedDirs frames).map frames.dirSize

theorem nodup_sortedDirs {frames : Frames} (h : frames.folders.Nodup) :
    (sortedDirs frames).Nodup :=
  (List.mergeSort_perm _ _).nodup_iff.mpr (h.filter _)

/-- `enforce_storage_limit` removes as many days as the loop goes round. -/
theorem enforceStorageLimit_disk {self : FrameFileStorage} (henv : env.Succeeds)
    (hexact : Exact self) (hlisted : self.disk.frames.Listed)
    (hnodup : self.disk.frames.folders.Nodup) :
    (enforceStorageLimit setup self env).1.disk =
      self.disk.without ((sortedDirs self.disk.frames).take
        (daysDeleted setup.maxStorageMb (megabytes self.disk.frames.totalSize)
          (daySizes self.disk.frames))) := by
  have hlimit (known : FrameFileStorage) (hdisk : known.disk = self.disk)
      (hsize : known.cachedSizeBytes = self.disk.frames.totalSize) :
      (limitTo setup known env).1.disk =
        self.disk.without ((sortedDirs self.disk.frames).take
          (daysDeleted setup.maxStorageMb (megabytes self.disk.frames.totalSize)
            (daySizes self.disk.frames))) := by
    simp only [limitTo, hsize, hdisk, henv.listDirs]
    split
    · next hle =>
      rw [hdisk]
      cases hsizes : daySizes self.disk.frames with
      | nil => rfl
      | cons size sizes => simp only [daysDeleted, if_pos hle, List.take_zero, Disk.without_nil]
    · exact @foldl_round_disk setup env henv ⟨self.disk, _, 0, 0⟩ hlisted _
        (nodup_sortedDirs hnodup)
  simp only [enforceStorageLimit, henv.scan]
  split
  · next hinit => exact hlimit self rfl (hexact hinit)
  · exact hlimit _ rfl rfl

end

/-! ## The shortest beginning -/

/-- The disk without the oldest `k` days. -/
def withoutOldest (disk : Disk) (k : Nat) : Disk :=
  disk.without ((sortedDirs disk.frames).take k)

/-- **The shortest beginning** of the days that brings the whole size within the limit. -/
structure IsShortest (setup : Setup) (disk : Disk) (k : Nat) : Prop where
  le : k ≤ (sortedDirs disk.frames).length
  within : megabytes (withoutOldest disk k).frames.totalSize ≤ setup.maxStorageMb
  shorter : ∀ j < k, setup.maxStorageMb < megabytes (withoutOldest disk j).frames.totalSize

/-- What the loop believes to be left after `k` days. -/
def believedMb (frames : Frames) (k : Nat) : Nat :=
  megabytes frames.totalSize - (((daySizes frames).take k).map megabytes).sum

/-- Every file is in the folder of a day. -/
def OnlyDays (frames : Frames) : Prop :=
  ∀ file ∈ frames.files.rows, ∃ day ∈ frames.dateDirs, file.folder = some day

theorem OnlyDays.listed {frames : Frames} (h : OnlyDays frames) : frames.Listed := by
  intro file hfile name hname
  obtain ⟨day, hday, hfolder⟩ := h file hfile
  obtain rfl : name = day := Option.some.inj (hname.symm.trans hfolder)
  exact (List.mem_filter.mp hday).1

section

variable {setup : Setup} {disk : Disk}

theorem totalSize_withoutOldest (hlisted : disk.frames.Listed)
    (hnodup : disk.frames.folders.Nodup) (k : Nat) :
    (withoutOldest disk k).frames.totalSize + ((daySizes disk.frames).take k).sum =
      disk.frames.totalSize := by
  rw [daySizes, ← List.map_take]
  exact totalSize_without hlisted ((nodup_sortedDirs hnodup).sublist (List.take_sublist _ _))

/-- The loop never believes in less than there is. -/
theorem megabytes_withoutOldest_le (hlisted : disk.frames.Listed)
    (hnodup : disk.frames.folders.Nodup) (k : Nat) :
    megabytes (withoutOldest disk k).frames.totalSize ≤ believedMb disk.frames k := by
  have htotal := totalSize_withoutOldest hlisted hnodup k
  have hparts := sum_megabytes_le ((daySizes disk.frames).take k)
  have hboth := megabytes_add_le (withoutOldest disk k).frames.totalSize
    ((daySizes disk.frames).take k).sum
  rw [htotal] at hboth
  rw [believedMb]
  omega

/-- Different beginnings leave different folders. -/
theorem withoutOldest_inj (hnodup : disk.frames.folders.Nodup) {j k : Nat}
    (hj : j ≤ (sortedDirs disk.frames).length) (hk : k ≤ (sortedDirs disk.frames).length)
    (heq : withoutOldest disk j = withoutOldest disk k) : j = k := by
  have hle {j k : Nat} (hk : k ≤ (sortedDirs disk.frames).length)
      (heq : withoutOldest disk j = withoutOldest disk k) : k ≤ j := by
    by_contra hlt
    have hjk : j < k := Nat.not_le.mp hlt
    have hj : j < (sortedDirs disk.frames).length := Nat.lt_of_lt_of_le hjk hk
    -- the day that only the longer one takes
    have hmem : (sortedDirs disk.frames)[j] ∈ disk.frames.folders :=
      (List.mem_filter.mp ((List.mergeSort_perm _ _).mem_iff.mp (List.getElem_mem hj))).1
    have hkept : (sortedDirs disk.frames)[j] ∉ (sortedDirs disk.frames).take j := by
      rw [List.mem_take_iff_getElem]
      rintro ⟨i, hi, hsame⟩
      have := (nodup_sortedDirs hnodup).getElem_inj_iff.mp hsame
      omega
    have hgone : (sortedDirs disk.frames)[j] ∈ (sortedDirs disk.frames).take k :=
      List.mem_take_iff_getElem.mpr ⟨j, by omega, rfl⟩
    have hleft : (sortedDirs disk.frames)[j] ∈ (withoutOldest disk j).frames.folders := by
      rw [withoutOldest, folders_without]
      exact List.mem_filter.mpr ⟨hmem, decide_eq_true hkept⟩
    rw [heq, withoutOldest, folders_without] at hleft
    exact of_decide_eq_true (List.mem_filter.mp hleft).2 hgone
  exact Nat.le_antisymm (hle hj heq.symm) (hle hk heq)

/-- Where all files are in days, some beginning is short enough. -/
theorem exists_isShortest (hdays : OnlyDays disk.frames) : ∃ k, IsShortest setup disk k := by
  have hall : megabytes (withoutOldest disk (sortedDirs disk.frames).length).frames.totalSize ≤
      setup.maxStorageMb := by
    have hempty : (withoutOldest disk (sortedDirs disk.frames).length).frames.files.rows = [] := by
      rw [withoutOldest, List.take_length, Disk.without, (rows_removeAll hdays.listed _ _).2]
      refine List.filter_eq_nil_iff.mpr fun file hfile => ?_
      obtain ⟨day, hday, hfolder⟩ := hdays file hfile
      have hsorted : day ∈ sortedDirs disk.frames :=
        (List.mergeSort_perm _ _).mem_iff.mpr hday
      simp only [staysAfter, List.all_eq_true, not_forall]
      exact ⟨day, hsorted, by simp [stays, Removal.leaves, hfolder]⟩
    have hzero : (withoutOldest disk (sortedDirs disk.frames).length).frames.totalSize = 0 := by
      rw [Frames.totalSize, hempty]
      rfl
    rw [hzero]
    exact Nat.zero_le _
  have hex : ∃ k, megabytes (withoutOldest disk k).frames.totalSize ≤ setup.maxStorageMb :=
    ⟨_, hall⟩
  classical
  exact ⟨Nat.find hex, Nat.find_min' hex hall, Nat.find_spec hex,
    fun j hj => Nat.not_le.mp (Nat.find_min hex hj)⟩

/-- **The loop and the shortest beginning.** -/
theorem daysDeleted_eq_iff (hlisted : disk.frames.Listed) (hnodup : disk.frames.folders.Nodup)
    {k : Nat} (hk : IsShortest setup disk k) :
    daysDeleted setup.maxStorageMb (megabytes disk.frames.totalSize) (daySizes disk.frames) = k ↔
      k = (sortedDirs disk.frames).length ∨ believedMb disk.frames k ≤ setup.maxStorageMb := by
  have hspec := daysDeleted_spec setup.maxStorageMb (megabytes disk.frames.totalSize)
    (daySizes disk.frames)
  have hlength : (daySizes disk.frames).length = (sortedDirs disk.frames).length :=
    List.length_map _
  rw [hlength] at hspec
  generalize daysDeleted setup.maxStorageMb (megabytes disk.frames.totalSize)
    (daySizes disk.frames) = n at hspec ⊢
  obtain ⟨hle, hstop, hgoes⟩ := hspec
  have hgoes : ∀ j < n, setup.maxStorageMb < believedMb disk.frames j := hgoes
  have hstop : n = (sortedDirs disk.frames).length ∨
      believedMb disk.frames n ≤ setup.maxStorageMb := hstop
  constructor
  · rintro rfl
    exact hstop
  · intro hbelieved
    refine Nat.le_antisymm (Nat.not_lt.mp fun hlt => ?_) (Nat.not_lt.mp fun hlt => ?_)
    · -- at `k` the loop went on
      have := hgoes k hlt
      omega
    · -- at `n` the limit was not reached yet
      have hover := hk.shorter n hlt
      have hbelow := megabytes_withoutOldest_le hlisted hnodup n
      have := hk.le
      omega

end

/-- **What the storage limit removes.**  Where the cached size is exact, all files are in the
    folders of days and nothing fails, just the shortest beginning of the days that brings the size
    within the limit goes if and only if that is all of them or the loop, too, believes to be within
    the limit after it. -/
theorem enforceStorageLimit_shortest_iff (setup : Setup) (before : FrameFileStorage) (env : Limit)
    (hexact : Exact before) (hdays : OnlyDays before.disk.frames)
    (hnodup : before.disk.frames.folders.Nodup) (henv : env.Succeeds) :
    (∃ k, IsShortest setup before.disk k ∧
      (enforceStorageLimit setup before env).1.disk = withoutOldest before.disk k) ↔
    ∀ k, IsShortest setup before.disk k → k = (sortedDirs before.disk.frames).length ∨
      believedMb before.disk.frames k ≤ setup.maxStorageMb := by
  have hdisk : (enforceStorageLimit setup before env).1.disk = withoutOldest before.disk
      (daysDeleted setup.maxStorageMb (megabytes before.disk.frames.totalSize)
        (daySizes before.disk.frames)) :=
    enforceStorageLimit_disk henv hexact hdays.listed hnodup
  have hlength : (daySizes before.disk.frames).length = (sortedDirs before.disk.frames).length :=
    List.length_map _
  constructor
  · rintro ⟨k, hk, hsame⟩ j hj
    -- there is one shortest beginning
    obtain rfl : j = k := by
      refine Nat.le_antisymm (Nat.not_lt.mp fun hlt => ?_) (Nat.not_lt.mp fun hlt => ?_)
      · exact absurd hk.within (Nat.not_le.mpr (hj.shorter k hlt))
      · exact absurd hj.within (Nat.not_le.mpr (hk.shorter j hlt))
    have hle := (daysDeleted_spec setup.maxStorageMb (megabytes before.disk.frames.totalSize)
      (daySizes before.disk.frames)).1
    rw [hlength] at hle
    exact (daysDeleted_eq_iff hdays.listed hnodup hj).mp
      (withoutOldest_inj hnodup hle hj.le (hdisk.symm.trans hsame))
  · intro hall
    obtain ⟨k, hk⟩ := exists_isShortest hdays
    refine ⟨k, hk, ?_⟩
    rw [hdisk, (daysDeleted_eq_iff hdays.listed hnodup hk).mpr (hall k hk)]

/-- Two days with a frame each. -/
def twoDays (first second : Bytes) : Frames :=
  ((⟨["2024-01-01", "2024-01-02"], .empty⟩ : Frames).write ⟨"2024-01-01", "a.webp"⟩ first).write
    ⟨"2024-01-02", "b.webp"⟩ second

theorem rows_twoDays (first second : Bytes) : (twoDays first second).files.rows =
    [⟨some "2024-01-01", ["a.webp"], first⟩, ⟨some "2024-01-02", ["b.webp"], second⟩] := rfl

theorem dateDirs_twoDays (first second : Bytes) :
    (twoDays first second).dateDirs = ["2024-01-01", "2024-01-02"] := by
  show List.filter _ ["2024-01-01", "2024-01-02"] = _
  decide +kernel

theorem sortedDirs_twoDays (first second : Bytes) :
    sortedDirs (twoDays first second) = ["2024-01-01", "2024-01-02"] := by
  rw [sortedDirs, dateDirs_twoDays]
  exact List.mergeSort_of_pairwise (by decide +kernel)

theorem onlyDays_twoDays (first second : Bytes) : OnlyDays (twoDays first second) := by
  intro file hfile
  rw [rows_twoDays] at hfile
  rw [dateDirs_twoDays]
  simp only [List.mem_cons, List.not_mem_nil, or_false] at hfile
  rcases hfile with rfl | rfl
  · exact ⟨_, by simp, rfl⟩
  · exact ⟨_, by simp, rfl⟩

/-- A process that finds two days. -/
def withTwoDays (first second : Bytes) : FrameFileStorage := .opened ⟨twoDays first second, []⟩

theorem exact_withTwoDays (first second : Bytes) : Exact (withTwoDays first second) :=
  fun hinitialized => by cases hinitialized

theorem nodup_withTwoDays (first second : Bytes) :
    (withTwoDays first second).disk.frames.folders.Nodup := by
  show ["2024-01-01", "2024-01-02"].Nodup
  decide

/-- Every operation of the file system succeeds. -/
def quietLimit : Limit := ⟨.ok (), .ok (), fun _ => true, fun _ => true, fun _ => .removed⟩

theorem quietLimit_succeeds : quietLimit.Succeeds := ⟨rfl, rfl, fun _ => rfl, fun _ => rfl⟩

/-- The default of `max_storage_mb`. -/
def halfGigabyte : Setup := ⟨500, 30, none⟩

theorem sizes_withTwoDays (first second : Bytes) :
    daySizes (withTwoDays first second).disk.frames = [first.length, second.length] ∧
      (withTwoDays first second).disk.frames.totalSize = first.length + second.length := by
  have hsorted : sortedDirs (withTwoDays first second).disk.frames = ["2024-01-01", "2024-01-02"] :=
    sortedDirs_twoDays _ _
  constructor
  · rw [daySizes, hsorted]
    simp [withTwoDays, FrameFileStorage.opened, Frames.dirSize, rows_twoDays, Frames.sizeOf]
  · simp [withTwoDays, FrameFileStorage.opened, Frames.totalSize, rows_twoDays, Frames.sizeOf]

/-- With 500 megabytes on the first day and one on the second, a day has to go, and what the loop
    believes to be left after the first one is left. -/
theorem a_day_goes {first second : Bytes} (hfirst : first.length = 524288000)
    (hsecond : second.length = 1048576) {k : Nat}
    (hk : IsShortest halfGigabyte (withTwoDays first second).disk k) :
    0 < k ∧ (k = (sortedDirs (withTwoDays first second).disk.frames).length ∨
      believedMb (withTwoDays first second).disk.frames k ≤ halfGigabyte.maxStorageMb) := by
  obtain ⟨hsizes, htotal⟩ := sizes_withTwoDays first second
  rw [hfirst, hsecond] at hsizes htotal
  have hpos : 0 < k := by
    refine Nat.pos_of_ne_zero ?_
    rintro rfl
    have hleft := totalSize_withoutOldest (onlyDays_twoDays first second).listed
      (nodup_withTwoDays first second) 0
    have hwithin := hk.within
    rw [List.take_zero, List.sum_nil, Nat.add_zero] at hleft
    rw [hleft, htotal] at hwithin
    exact absurd hwithin (by decide)
  have hdays : (sortedDirs (withTwoDays first second).disk.frames).length = 2 :=
    congrArg List.length (sortedDirs_twoDays first second)
  refine ⟨hpos, ?_⟩
  rcases Nat.lt_or_eq_of_le hk.le with hlt | heq
  · obtain rfl : k = 1 := by omega
    right
    rw [believedMb, htotal, hsizes]
    decide
  · exact .inl heq

theorem enforceStorageLimit_twoDays :
    let before := withTwoDays (List.replicate 524288000 0) (List.replicate 1048576 0)
    ∃ k, 0 < k ∧ IsShortest halfGigabyte before.disk k ∧
      (enforceStorageLimit halfGigabyte before quietLimit).1.disk =
        withoutOldest before.disk k := by
  intro before
  obtain ⟨k, hk, hsame⟩ := (enforceStorageLimit_shortest_iff halfGigabyte before quietLimit
    (exact_withTwoDays _ _) (onlyDays_twoDays _ _) (nodup_withTwoDays _ _)
    quietLimit_succeeds).mpr fun k hk =>
      (a_day_goes List.length_replicate List.length_replicate hk).2
  exact ⟨k, (a_day_goes List.length_replicate List.length_replicate hk).1, hk, hsame⟩

/-- With one byte on the first day, and one byte short of 501 megabytes on the second, both days
    go. -/
theorem both_days_go {second : Bytes} (hsecond : second.length = 525336575) {k : Nat}
    (hk : IsShortest halfGigabyte (withTwoDays [0] second).disk k) :
    (enforceStorageLimit halfGigabyte (withTwoDays [0] second) quietLimit).1.disk ≠
      withoutOldest (withTwoDays [0] second).disk k := by
  intro hsame
  have hlisted : (withTwoDays [0] second).disk.frames.Listed := (onlyDays_twoDays _ _).listed
  have hnodup := nodup_withTwoDays [0] second
  have hsorted : sortedDirs (withTwoDays [0] second).disk.frames = ["2024-01-01", "2024-01-02"] :=
    sortedDirs_twoDays _ _
  obtain ⟨hsizes, htotal⟩ := sizes_withTwoDays [0] second
  rw [List.length_singleton, hsecond] at hsizes htotal
  rw [enforceStorageLimit_disk quietLimit_succeeds (exact_withTwoDays _ _) hlisted hnodup, hsizes,
    htotal] at hsame
  have hdeleted : daysDeleted halfGigabyte.maxStorageMb (megabytes 525336576) [1, 525336575] = 2 :=
    by decide
  rw [hdeleted] at hsame
  obtain rfl : 2 = k := withoutOldest_inj hnodup (by rw [hsorted]; rfl) hk.le hsame
  -- the whole megabytes of what is left after the first day
  have hone := hk.shorter 1 (by omega)
  have hleft := totalSize_withoutOldest hlisted hnodup 1
  rw [hsizes, htotal] at hleft
  have hsize : (withoutOldest (withTwoDays [0] second).disk 1).frames.totalSize = 525336575 := by
    simpa using hleft
  rw [hsize] at hone
  exact absurd hone (by decide)

/-- Without the first day the size is within the limit; the second one goes as well. -/
theorem a_day_too_many :
    ¬ ∀ (setup : Setup) (before : FrameFileStorage) (env : Limit), Exact before →
      OnlyDays before.disk.frames → before.disk.frames.folders.Nodup → env.Succeeds →
        ∃ k, IsShortest setup before.disk k ∧
          (enforceStorageLimit setup before env).1.disk = withoutOldest before.disk k := by
  intro hall
  obtain ⟨k, hk, hsame⟩ := hall halfGigabyte (withTwoDays [0] (List.replicate 525336575 0))
    quietLimit (exact_withTwoDays _ _) (onlyDays_twoDays _ _) (nodup_withTwoDays _ _)
    quietLimit_succeeds
  exact both_days_go List.length_replicate hk hsame

end Oneshim.FrameStorage
