/-
  The pull loop over a shared folder.

  `pull since` returns the LOWEST file of another device after `since`, and the loop goes on from
  the watermark of what it got.  On a folder that does not change this is a selection sort of the
  files after the start: each call takes the least one and leaves those above it.

  It works because the timestamp in a file's NAME is the watermark of the changeset inside — the
  loop goes on exactly from the file it got — and because no two files have one timestamp: the
  device is part of both the name and the order, so files of different devices at one
  `(wall_ms, counter)` follow each other.
-/
import Oneshim.Storage.FileTransport

namespace Oneshim

open Lib

namespace FileSyncTransport

variable {β : Type} (self : FileSyncTransport β)

/-- Call `pull`, each time with the watermark of the changeset before, until it returns nothing;
    `none` when `calls` calls were not enough. -/
def pullAll (folder : Folder β) : Nat → Hlc → Option (Except CoreError (List ChangeSet))
  | 0, _ => none
  | calls + 1, since =>
    match self.pull none since folder with
    | .error e => some (.error e)
    | .ok none => some (.ok [])
    | .ok (some cs) => (pullAll folder calls cs.watermark).map (Except.map (cs :: ·))

/-- The file of another device with a timestamp after `since`. -/
def pending (since : Hlc) (f : FolderFile β) : Bool :=
  (self.remoteHlc f.name).any (fun h => h.isAfter since)

variable {self} {folder : Folder β} {since : Hlc}

theorem pending_iff {f : FolderFile β} :
    self.pending since f = true ↔ ∃ h, self.After since f.name h := by
  simp only [pending, Option.any_eq_true, Hlc.isAfter_iff, After]

theorem pull_of_none (h : folder.rows.foldl (self.pickLowest since) none = none) :
    self.pull none since folder = .ok none := by
  unfold pull
  rw [h]
  rfl

theorem pull_of_some {hlc : Hlc} {f : FolderFile β}
    (h : folder.rows.foldl (self.pickLowest since) none = some (hlc, f.name))
    (hfind : folder.find? f.name = some f) :
    self.pull none since folder = some <$> self.codec.decrypt f.data := by
  simp only [pull, h, hfind]
  rfl

/-- One call on a folder of pushed files: it takes the lowest pending one, whose watermark is the
    timestamp in its name, or there is none. -/
theorem pull_written (hwritten : ∀ f ∈ folder.rows, WrittenByPush self.codec f) (since : Hlc) :
    (self.pull none since folder = .ok none ∧
      ∀ f ∈ folder.rows, self.pending since f = false) ∨
    ∃ f ∈ folder.rows, ∃ cs, self.pull none since folder = .ok (some cs) ∧
      self.Lowest since folder.rows cs.watermark f.name ∧ self.codec.decrypt f.data = .ok cs := by
  obtain ⟨hsome, hnone⟩ := @foldl_pickLowest β self since folder.rows
  cases hfold : folder.rows.foldl (self.pickLowest since) none with
  | none =>
    refine .inl ⟨pull_of_none hfold, fun f hf => ?_⟩
    rw [← Bool.not_eq_true, pending_iff]
    rintro ⟨h, hafter⟩
    exact hnone hfold f hf h hafter
  | some best =>
    obtain ⟨h, name⟩ := best
    have hlow := hsome h name hfold
    obtain ⟨f, hf, rfl⟩ := hlow.mem
    -- the file opens, and to the changeset its name tells of
    obtain ⟨seed, sealed, hseal, -⟩ := id (hwritten f hf)
    obtain ⟨cs, hopen, -⟩ := self.codec.opens seed sealed f.data hseal
    have hwm : h = cs.watermark := ((hwritten f hf).decrypt hopen).2.2 h hlow.after.1
    refine .inr ⟨f, hf, cs, ?_, hwm ▸ hlow, hopen⟩
    rw [pull_of_some hfold (Table.find?_key hf), hopen]
    rfl

/-- The files pending after the lowest one are the pending ones without it. -/
theorem pending_after_lowest (hwritten : ∀ f ∈ folder.rows, WrittenByPush self.codec f)
    {f : FolderFile β} {h : Hlc} (hf : f ∈ folder.rows)
    (hlow : self.Lowest since folder.rows h f.name) :
    (f :: folder.rows.filter (self.pending h)).Perm (folder.rows.filter (self.pending since)) := by
  have hrows : folder.rows.Nodup := List.Nodup.of_map _ folder.nodup
  have hself : self.pending h f = false := by
    rw [← Bool.not_eq_true, pending_iff]
    rintro ⟨h', hname, hlt⟩
    cases hlow.after.1.symm.trans hname
    exact lt_irrefl _ hlt
  have hfresh : f ∉ folder.rows.filter (self.pending h) := by
    intro hmem
    rw [(List.mem_filter.mp hmem).2] at hself
    nomatch hself
  refine (List.perm_ext_iff_of_nodup (List.nodup_cons.mpr ⟨hfresh, hrows.filter _⟩)
    (hrows.filter _)).mpr (fun g => ?_)
  rw [List.mem_cons, List.mem_filter, List.mem_filter, pending_iff, pending_iff]
  constructor
  · rintro (rfl | ⟨hg, h', hname, hlt⟩)
    · exact ⟨hf, h, hlow.after⟩
    · exact ⟨hg, h', hname, hlow.after.2.trans hlt⟩
  · rintro ⟨hg, h', hafter⟩
    rcases (hlow.le g hg h' hafter).lt_or_eq with hlt | rfl
    · exact .inr ⟨hg, h', hafter.1, hlt⟩
    · -- one timestamp, one file
      have hname := (hwritten g hg).name_eq (hwritten f hf) hafter.1 hlow.after.1
      exact .inl (folder.eq_of_key_eq hg hf hname)

/-- **The pull loop delivers the pending files**: it ends after one call more than there are files
    of other devices after the start, and returns the content of each of them once, in the order
    of their timestamps. -/
theorem pullAll_delivers (hwritten : ∀ f ∈ folder.rows, WrittenByPush self.codec f) (start : Hlc) :
    ∃ files css, files.Perm (folder.rows.filter (self.pending start)) ∧
      List.Forall₂ (fun f cs => self.codec.decrypt f.data = .ok cs ∧
        self.remoteHlc f.name = some cs.watermark) files css ∧
      css.Pairwise (fun a b => a.watermark < b.watermark) ∧
      ∀ calls, files.length < calls → self.pullAll folder calls start = some (.ok css) := by
  -- on the number of pending files
  obtain ⟨n, hn⟩ : ∃ n, (folder.rows.filter (self.pending start)).length = n := ⟨_, rfl⟩
  induction n generalizing start with
  | zero =>
    have hnil := List.length_eq_zero_iff.mp hn
    rcases pull_written hwritten start with ⟨hpull, -⟩ | ⟨f, hf, cs, -, hlow, -⟩
    · refine ⟨[], [], by rw [hnil], .nil, .nil, ?_⟩
      intro calls hcalls
      obtain ⟨calls, rfl⟩ := Nat.exists_eq_succ_of_ne_zero (Nat.ne_of_gt hcalls)
      simp only [pullAll, hpull]
    · have hmem : f ∈ folder.rows.filter (self.pending start) :=
        List.mem_filter.mpr ⟨hf, pending_iff.mpr ⟨_, hlow.after⟩⟩
      rw [hnil] at hmem
      nomatch hmem
  | succ n ih =>
    rcases pull_written hwritten start with ⟨-, hnone⟩ | ⟨f, hf, cs, hpull, hlow, hopen⟩
    · rw [List.filter_eq_nil_iff.mpr (fun f hf => by rw [hnone f hf]; decide)] at hn
      nomatch hn
    · have hperm := pending_after_lowest hwritten hf hlow
      have hlen := hperm.length_eq
      rw [List.length_cons] at hlen
      obtain ⟨files, css, hfiles, hcontents, hsorted, hruns⟩ := ih cs.watermark (by omega)
      refine ⟨f :: files, cs :: css, (hfiles.cons f).trans hperm,
        .cons ⟨hopen, hlow.after.1⟩ hcontents, List.pairwise_cons.mpr ⟨?_, hsorted⟩, ?_⟩
      · intro b hb
        obtain ⟨g, hg, -, hname⟩ := exists_of_forall₂_right hcontents hb
        obtain ⟨h', hname', hlt⟩ := pending_iff.mp (List.mem_filter.mp (hfiles.mem_iff.mp hg)).2
        rw [Option.some.inj (hname.symm.trans hname')]
        exact hlt
      · intro calls hcalls
        obtain ⟨calls, rfl⟩ := Nat.exists_eq_succ_of_ne_zero (Nat.ne_of_gt (Nat.zero_lt_of_lt hcalls))
        rw [List.length_cons] at hcalls
        simp only [pullAll, hpull, hruns calls (by omega)]
        rfl

end FileSyncTransport

/-! ## Two devices at one instant -/

/-- Files in the clear: what a cipher does, without the secrecy. -/
def plainCodec : ChangeSetCodec ChangeSet where
  encrypt := fun _ cs => .ok cs
  decrypt := fun cs => .ok cs
  opens := by
    rintro _ cs _ ⟨⟩
    exact ⟨cs, rfl, rfl, rfl⟩

/-- The transport of device `a`. -/
def transportA : FileSyncTransport ChangeSet := ⟨"a", plainCodec⟩

/-- An empty changeset of a device, and the file it is pushed to. -/
def changesAt (wall counter : Nat) (device : String) : ChangeSet :=
  { originDeviceId := device, watermark := ⟨wall, counter, device⟩ }

def fileAt (wall counter : Nat) (device : String) : FolderFile ChangeSet :=
  ⟨changesetFilename device ⟨wall, counter, device⟩, changesAt wall counter device⟩

/-- Devices `c` and `b` pushed at one instant, `a` itself later, `b` earlier. -/
def crowdedFolder : Folder ChangeSet where
  rows := [fileAt 50 0 "c", fileAt 60 0 "a", fileAt 50 0 "b", fileAt 10 3 "b"]
  nodup := by decide

/-- A folder with more files than one pull takes. -/
theorem crowdedFolder_delivers :
    transportA.pullAll crowdedFolder 3 ⟨20, 0, "a"⟩
      = some (.ok [changesAt 50 0 "b", changesAt 50 0 "c"]) ∧
    ∃ files css,
      files.Perm (crowdedFolder.rows.filter (transportA.pending ⟨20, 0, "a"⟩)) ∧
      List.Forall₂ (fun f cs => transportA.codec.decrypt f.data = .ok cs ∧
        transportA.remoteHlc f.name = some cs.watermark) files css ∧
      css.Pairwise (fun a b => a.watermark < b.watermark) ∧
      ∀ calls, files.length < calls →
        transportA.pullAll crowdedFolder calls ⟨20, 0, "a"⟩ = some (.ok css) := by
  refine ⟨by rfl, FileSyncTransport.pullAll_delivers ?_ _⟩
  have hpushed : ∀ wall counter device, wall < 2 ^ 64 → counter < 2 ^ 32 →
      FileSyncTransport.WrittenByPush plainCodec (fileAt wall counter device) :=
    fun wall counter device hw hc => ⟨0, changesAt wall counter device, rfl, ⟨hw, hc⟩, rfl⟩
  intro f hf
  simp only [crowdedFolder, List.mem_cons, List.not_mem_nil, or_false] at hf
  rcases hf with rfl | rfl | rfl | rfl
  · exact hpushed 50 0 "c" (by omega) (by omega)
  · exact hpushed 60 0 "a" (by omega) (by omega)
  · exact hpushed 50 0 "b" (by omega) (by omega)
  · exact hpushed 10 3 "b" (by omega) (by omega)

end Oneshim
