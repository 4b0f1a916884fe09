/-
  The file transport (`oneshim-storage/src/file_transport.rs`): encrypted changeset files in a
  folder that all devices share.

  A device writes `changeset-{device}-{wall}-{counter}.enc` files, under its own id and the
  watermark of the changeset, and reads the files of the others from their NAMES: which device, and
  where in the order of timestamps.  A pull takes the lowest one after the given watermark.

  Serialization and encryption are a parameter (`ChangeSetCodec`): what is used of them is that a
  file that was sealed opens to a changeset of the same kind and watermark.

  Between two operations of this device the others go on writing, and an operation may fail; both
  come from the environment, as the `Tick` that the operation runs in.
-/
import Mathlib.Data.List.Infix
import Oneshim.Core.Sync
import Oneshim.Lib.Outcome
import Oneshim.Lib.Table
import Oneshim.Lib.Text

namespace Oneshim

open Lib

/-! ## File names -/

/-- `changeset_filename`. -/
def changesetFilename (deviceId : String) (hlc : Hlc) : String :=
  "changeset-" ++ deviceId ++ "-" ++ toString hlc.wallMs ++ "-" ++ toString hlc.counter ++ ".enc"

/-- `parse_filename`: device id, wall clock and counter, cut off from the right. -/
def parseFilename (name : String) : Option (String × Nat × Nat) := do
  let rest ← name.toList.dropPrefix? "changeset-".toList
  let body ← rest.dropSuffix? ".enc".toList
  let (front, counterPart) ← Text.splitLast '-' body
  let (deviceId, wallPart) ← Text.splitLast '-' front
  let counter ← Text.parseUnsigned (2 ^ 32) counterPart
  let wallMs ← Text.parseUnsigned (2 ^ 64) wallPart
  return (String.ofList deviceId, wallMs, counter)

theorem toList_toString (n : Nat) : (toString n).toList = Text.decimal n := by
  rw [Nat.toString_eq_ofList_toDigits, String.toList_ofList]
  rfl

/-- A file name is read back, dashes in the device id included. -/
theorem parseFilename_changesetFilename (deviceId : String) {hlc : Hlc} (hfits : hlc.Fits) :
    parseFilename (changesetFilename deviceId hlc)
      = some (deviceId, hlc.wallMs, hlc.counter) := by
  have hdash : ∀ n : Nat, ∀ c ∈ Text.decimal n, c ≠ '-' := fun n c hc => Text.decimal_ne rfl hc
  have hname : (changesetFilename deviceId hlc).toList
      = "changeset-".toList ++ (((deviceId.toList ++ '-' :: Text.decimal hlc.wallMs)
          ++ '-' :: Text.decimal hlc.counter) ++ ".enc".toList) := by
    show ("changeset-" ++ deviceId ++ "-" ++ toString hlc.wallMs ++ "-" ++ toString hlc.counter
      ++ ".enc").toList = _
    simp only [String.toList_append, toList_toString, List.append_assoc]
    rfl
  have hprefix : (changesetFilename deviceId hlc).toList.dropPrefix? "changeset-".toList
      = some (((deviceId.toList ++ '-' :: Text.decimal hlc.wallMs)
          ++ '-' :: Text.decimal hlc.counter) ++ ".enc".toList) := by
    rw [hname]
    exact List.dropPrefix?_append_of_beq _ (beq_self_eq_true _)
  have hsuffix : ((((deviceId.toList ++ '-' :: Text.decimal hlc.wallMs)
      ++ '-' :: Text.decimal hlc.counter) ++ ".enc".toList)).dropSuffix? ".enc".toList
      = some ((deviceId.toList ++ '-' :: Text.decimal hlc.wallMs)
          ++ '-' :: Text.decimal hlc.counter) :=
    List.dropSuffix?_eq_some_iff.mpr ⟨_, rfl, beq_self_eq_true _⟩
  have hcounter := Text.splitLast_append (deviceId.toList ++ '-' :: Text.decimal hlc.wallMs)
    (hdash hlc.counter)
  have hwall := Text.splitLast_append deviceId.toList (hdash hlc.wallMs)
  simp only [parseFilename, hprefix, hsuffix, hcounter, hwall, Option.bind_eq_bind,
    Option.bind_some, Text.parseUnsigned_decimal hfits.counter,
    Text.parseUnsigned_decimal hfits.wallMs, String.ofList_toList]
  rfl

/-- **File names round-trip**: a name is read back, and no other device, wall clock or counter has
    it. -/
theorem changeset_names_round_trip (deviceId : String) (hlc : Hlc) (hfits : hlc.Fits) :
    parseFilename (changesetFilename deviceId hlc) = some (deviceId, hlc.wallMs, hlc.counter) ∧
      ∀ (otherId : String) (other : Hlc), other.Fits →
        changesetFilename otherId other = changesetFilename deviceId hlc →
          otherId = deviceId ∧ other.wallMs = hlc.wallMs ∧ other.counter = hlc.counter := by
  have hread := parseFilename_changesetFilename deviceId hfits
  refine ⟨hread, fun otherId other hother hname => ?_⟩
  have hback := parseFilename_changesetFilename otherId hother
  rw [hname, hread] at hback
  simp only [Option.some.injEq, Prod.mk.injEq] at hback
  obtain ⟨hid, hwall, hcounter⟩ := hback
  exact ⟨hid.symm, hwall.symm, hcounter.symm⟩

/-- The id of the device ends with digits and a dash. -/
theorem changeset_names_round_trip_sample :
    parseFilename (changesetFilename "5f3e-9a-17-" ⟨1700000000000, 42, "5f3e-9a-17-"⟩) =
      some ("5f3e-9a-17-", 1700000000000, 42) :=
  (changeset_names_round_trip "5f3e-9a-17-" ⟨1700000000000, 42, "5f3e-9a-17-"⟩
    ⟨by decide, by decide⟩).1

/-! ## The folder -/

/-- A file of the shared folder. -/
structure FolderFile (β : Type) where
  name : String
  data : β

/-- The shared folder: one file per name. -/
abbrev Folder (β : Type) := Table (FolderFile.name : FolderFile β → String)

/-- Serialization and encryption under the passphrase; `seed` is the draw of salt and nonce. -/
structure ChangeSetCodec (β : Type) where
  encrypt : Nat → ChangeSet → Except CoreError β
  decrypt : β → Except CoreError ChangeSet
  /-- What was sealed opens to a changeset of the same kind and watermark. -/
  opens : ∀ seed cs data, encrypt seed cs = .ok data →
    ∃ cs', decrypt data = .ok cs' ∧ cs'.kind = cs.kind ∧ cs'.watermark = cs.watermark

/-- The file operation that fails. -/
inductive FileStage where
  | readFolder
  | dirEntry
  | readFile
  | writeTmp
  | openTmp
  | fsync
  | rename
deriving DecidableEq

/-- The text in front of the error. -/
def FileStage.label : FileStage → String
  | .readFolder => "read sync folder"
  | .dirEntry => "dir entry"
  | .readFile => "read changeset file"
  | .writeTmp => "write tmp file"
  | .openTmp => "open tmp for fsync"
  | .fsync => "fsync"
  | .rename => "rename tmp to final"

/-- A failed file operation. -/
structure FileFault where
  stage : FileStage
  detail : String

/-- The error it becomes. -/
def FileFault.toCore (f : FileFault) : CoreError := .internal (f.stage.label ++ ": " ++ f.detail)

/-- The stages that are passed, unless the fault is in one of them. -/
def passStages (fault : Option FileFault) (stages : List FileStage) : Except CoreError Unit :=
  match fault with
  | none => .ok ()
  | some f => if f.stage ∈ stages then .error f.toCore else .ok ()

/-- `FileSyncTransport`. -/
structure FileSyncTransport (β : Type) where
  localDeviceId : String
  codec : ChangeSetCodec β

namespace FileSyncTransport

variable {β : Type} (self : FileSyncTransport β)

/-- `push`: write a `.tmp` file and rename it into place, over a file of the same name. -/
def push (fault : Option FileFault) (seed : Nat) (changes : ChangeSet) (folder : Folder β) :
    Except CoreError Unit × Folder β :=
  match self.codec.encrypt seed changes with
  | .error e => (.error e, folder)
  | .ok data =>
    let filename := changesetFilename self.localDeviceId changes.watermark
    let written := folder.upsert ⟨filename ++ ".tmp", data⟩
    match passStages fault [.writeTmp] with
    | .error e => (.error e, folder)
    | .ok () =>
      match passStages fault [.openTmp, .fsync, .rename] with
      | .error e => (.error e, written)
      | .ok () =>
        (.ok (), (written.filterRows (fun f => f.name != filename ++ ".tmp")).upsert
          ⟨filename, data⟩)

/-- The timestamp of a file that is to be considered: no `.tmp`, a changeset's name, and of
    another device. -/
def remoteHlc (name : String) : Option Hlc :=
  if ".tmp".toList.isSuffixOf name.toList then none
  else
    match parseFilename name with
    | none => none
    | some (deviceId, wallMs, counter) =>
      if deviceId = self.localDeviceId then none else some ⟨wallMs, counter, deviceId⟩

/-- One round of the loop of `pull`: keep the lowest timestamp after `since`. -/
def pickLowest (since : Hlc) (best : Option (Hlc × String)) (f : FolderFile β) :
    Option (Hlc × String) :=
  match self.remoteHlc f.name with
  | none => best
  | some hlc =>
    if !hlc.isAfter since then best
    else
      match best with
      | none => some (hlc, f.name)
      | some (current, _) => if hlc < current then some (hlc, f.name) else best

/-- `pull`. -/
def pull (fault : Option FileFault) (since : Hlc) (folder : Folder β) :
    Except CoreError (Option ChangeSet) := do
  passStages fault [.readFolder, .dirEntry]
  match folder.rows.foldl (self.pickLowest since) none with
  | none => .ok none
  | some (_, name) => do
    passStages fault [.readFile]
    match folder.find? name with
    | none => .error (FileFault.toCore ⟨.readFile, "No such file or directory"⟩)
    | some f => some <$> self.codec.decrypt f.data

end FileSyncTransport

/-! ## The port -/

/-- What the environment does before an operation of this device: other devices rename files into
    place, an operation fails, and the salt and the nonce are drawn. -/
structure Tick (β : Type) where
  arriving : List (FolderFile β) := []
  fault : Option FileFault := none
  seed : Nat := 0

/-- The folder, and what happens around the operations to come. -/
structure SharedFolder (β : Type) where
  files : Folder β
  ahead : List (Tick β) := []

namespace SharedFolder

variable {β : Type}

/-- The environment moves. -/
def tick (net : SharedFolder β) : Tick β × SharedFolder β :=
  match net.ahead with
  | [] => ({}, net)
  | t :: ahead => (t, { files := t.arriving.foldl Table.upsert net.files, ahead })

/-- Every file the folder holds or another device is going to write. -/
def written (net : SharedFolder β) : List (FolderFile β) :=
  net.files.rows ++ net.ahead.flatMap Tick.arriving

end SharedFolder

/-- `FileSyncTransport` as a transport of the engine. -/
def FileSyncTransport.port {β : Type} (self : FileSyncTransport β) :
    SyncTransport (SharedFolder β) where
  push := fun changes net =>
    let (t, net) := net.tick
    let (result, files) := self.push t.fault t.seed changes net.files
    (result, { net with files })
  pull := fun since net =>
    let (t, net) := net.tick
    (self.pull t.fault since net.files, net)

/-! ## What a pull returns -/

namespace FileSyncTransport

variable {β : Type} {self : FileSyncTransport β} {since : Hlc}

/-- `name` is the file of another device, with a timestamp `h` after `since`. -/
def After (self : FileSyncTransport β) (since : Hlc) (name : String) (h : Hlc) : Prop :=
  self.remoteHlc name = some h ∧ since < h

/-- `name` has the lowest timestamp after `since`. -/
structure Lowest (transport : FileSyncTransport β) (since : Hlc) (files : List (FolderFile β))
    (h : Hlc) (name : String) : Prop where
  after : transport.After since name h
  mem : ∃ f ∈ files, f.name = name
  le : ∀ f ∈ files, ∀ h', transport.After since f.name h' → h ≤ h'

/-- A further file that is not lower changes nothing. -/
theorem Lowest.snoc {files : List (FolderFile β)} {f : FolderFile β} {h : Hlc} {name : String}
    (hlow : Lowest self since files h name)
    (hf : ∀ h', self.After since f.name h' → h ≤ h') :
    Lowest self since (files ++ [f]) h name := by
  obtain ⟨g, hg, hname⟩ := hlow.mem
  refine ⟨hlow.after, ⟨g, List.mem_append_left _ hg, hname⟩, ?_⟩
  intro x hx h' hh'
  rcases List.mem_append.mp hx with hx | hx
  · exact hlow.le x hx h' hh'
  · rw [List.mem_singleton.mp hx] at hh'
    exact hf h' hh'

/-- A further file that is at least as low as all before. -/
theorem Lowest.last {files : List (FolderFile β)} {f : FolderFile β} {h : Hlc}
    (hafter : self.After since f.name h)
    (hle : ∀ g ∈ files, ∀ h', self.After since g.name h' → h ≤ h') :
    Lowest self since (files ++ [f]) h f.name := by
  refine ⟨hafter, ⟨f, List.mem_append_right _ List.mem_cons_self, rfl⟩, ?_⟩
  intro x hx h' hh'
  rcases List.mem_append.mp hx with hx | hx
  · exact hle x hx h' hh'
  · rw [List.mem_singleton.mp hx] at hh'
    exact (Option.some.inj (hafter.1.symm.trans hh'.1)).le

theorem pickLowest_of_not_after {best : Option (Hlc × String)} {f : FolderFile β}
    (hnot : ∀ h, ¬ self.After since f.name h) : self.pickLowest since best f = best := by
  unfold pickLowest
  split
  · rfl
  · next hlc hname =>
    have hle : hlc.isAfter since = false := by
      rw [Hlc.isAfter_eq_false_iff]
      exact not_lt.mp (fun hlt => hnot hlc ⟨hname, hlt⟩)
    rw [hle]
    rfl

theorem pickLowest_of_after {best : Option (Hlc × String)} {f : FolderFile β} {h : Hlc}
    (hafter : self.After since f.name h) :
    self.pickLowest since best f = match best with
      | none => some (h, f.name)
      | some (current, _) => if h < current then some (h, f.name) else best := by
  unfold pickLowest
  rw [hafter.1]
  have htrue : h.isAfter since = true := Hlc.isAfter_iff.mpr hafter.2
  simp only [htrue, Bool.not_true, Bool.false_eq_true, if_false]

/-- The scan finds the lowest file after `since`, or there is none. -/
theorem foldl_pickLowest (files : List (FolderFile β)) :
    (∀ h name, files.foldl (self.pickLowest since) none = some (h, name) →
      self.Lowest since files h name) ∧
    (files.foldl (self.pickLowest since) none = none →
      ∀ f ∈ files, ∀ h, ¬ self.After since f.name h) := by
  induction files using List.reverseRecOn with
  | nil => exact ⟨fun _ _ h => (nomatch h), fun _ f hf => (nomatch hf)⟩
  | append_singleton files f ih =>
    obtain ⟨ihsome, ihnone⟩ := ih
    rw [List.foldl_append, List.foldl_cons, List.foldl_nil]
    by_cases hf : ∃ h, self.After since f.name h
    · obtain ⟨hlc, hafter⟩ := hf
      rw [pickLowest_of_after hafter]
      cases hbest : files.foldl (self.pickLowest since) none with
      | none =>
        refine ⟨?_, fun h => (nomatch h)⟩
        rintro h name ⟨⟩
        exact Lowest.last hafter (fun g hg h' hh' => absurd hh' (ihnone hbest g hg h'))
      | some b =>
        obtain ⟨current, old⟩ := b
        have hlow := ihsome current old hbest
        dsimp only
        by_cases hlt : hlc < current
        · rw [if_pos hlt]
          refine ⟨?_, fun h => (nomatch h)⟩
          rintro h name ⟨⟩
          exact Lowest.last hafter (fun g hg h' hh' => hlt.le.trans (hlow.le g hg h' hh'))
        · rw [if_neg hlt]
          refine ⟨?_, fun h => (nomatch h)⟩
          rintro h name ⟨⟩
          refine hlow.snoc (fun h' hh' => ?_)
          rw [← Option.some.inj (hafter.1.symm.trans hh'.1)]
          exact not_lt.mp hlt
    · have hnot : ∀ h, ¬ self.After since f.name h := fun h hh => hf ⟨h, hh⟩
      rw [pickLowest_of_not_after hnot]
      refine ⟨fun h name hfold => (ihsome h name hfold).snoc (fun h' hh' => absurd hh' (hnot h')), ?_⟩
      intro hfold g hg h hh
      rcases List.mem_append.mp hg with hg | hg
      · exact ihnone hfold g hg h hh
      · rw [List.mem_singleton.mp hg] at hh
        exact hnot h hh

/-- **What a pull returns**: the content of the lowest file after `since`. -/
theorem pull_ok_some {fault : Option FileFault} {folder : Folder β} {cs : ChangeSet}
    (hpull : self.pull fault since folder = .ok (some cs)) :
    ∃ f ∈ folder.rows, ∃ h, self.Lowest since folder.rows h f.name ∧
      self.codec.decrypt f.data = .ok cs := by
  obtain ⟨-, -, hscan⟩ := bind_eq_ok_iff.mp hpull
  cases hfold : folder.rows.foldl (self.pickLowest since) none with
  | none =>
    rw [hfold] at hscan
    nomatch hscan
  | some b =>
    obtain ⟨h, name⟩ := b
    rw [hfold] at hscan
    have hlow := (foldl_pickLowest folder.rows).1 h name hfold
    obtain ⟨-, -, hread⟩ := bind_eq_ok_iff.mp hscan
    split at hread
    · nomatch hread
    · next f hfind =>
      obtain ⟨hmem, rfl⟩ := Table.find?_eq_some_iff.mp hfind
      obtain ⟨x, hx, hsome⟩ := map_eq_ok_iff.mp hread
      cases hsome
      exact ⟨f, hmem, h, hlow, hx⟩

/-- A pull that returns nothing: there is no file after `since`. -/
theorem pull_ok_none {fault : Option FileFault} {folder : Folder β}
    (hpull : self.pull fault since folder = .ok none) :
    ∀ f ∈ folder.rows, ∀ h, ¬ self.After since f.name h := by
  obtain ⟨-, -, hscan⟩ := bind_eq_ok_iff.mp hpull
  cases hfold : folder.rows.foldl (self.pickLowest since) none with
  | none => exact (foldl_pickLowest folder.rows).2 hfold
  | some b =>
    rw [hfold] at hscan
    obtain ⟨-, -, hread⟩ := bind_eq_ok_iff.mp hscan
    split at hread
    · nomatch hread
    · obtain ⟨x, -, hsome⟩ := map_eq_ok_iff.mp hread
      nomatch hsome

/-! ## Files written by a push -/

/-- The file that a push leaves for a changeset under the pushing device's own watermark. -/
def WrittenByPush (codec : ChangeSetCodec β) (f : FolderFile β) : Prop :=
  ∃ seed cs, codec.encrypt seed cs = .ok f.data ∧ cs.watermark.Fits ∧
    f.name = changesetFilename cs.watermark.deviceId cs.watermark

/-- No changeset file is a `.tmp` file. -/
theorem changesetFilename_not_tmp (deviceId : String) (hlc : Hlc) :
    ".tmp".toList.isSuffixOf (changesetFilename deviceId hlc).toList = false := by
  rw [Bool.eq_false_iff]
  intro hsuffix
  obtain ⟨t, ht⟩ := List.isSuffixOf_iff_suffix.mp hsuffix
  have hname : (changesetFilename deviceId hlc).toList = _ ++ ".enc".toList :=
    String.toList_append
  have hlength : ".tmp".toList.length = ".enc".toList.length := by decide
  have hends : ".tmp".toList = ".enc".toList := (List.append_inj' (ht.trans hname) hlength).2
  exact absurd hends (by decide)

/-- The name tells the watermark. -/
theorem remoteHlc_changesetFilename {h : Hlc} (hfits : h.Fits) :
    self.remoteHlc (changesetFilename h.deviceId h)
      = if h.deviceId = self.localDeviceId then none else some h := by
  unfold remoteHlc
  rw [changesetFilename_not_tmp, parseFilename_changesetFilename h.deviceId hfits]
  rfl

/-- A file of another device holds the changeset its name tells of. -/
theorem WrittenByPush.decrypt {f : FolderFile β} (hf : WrittenByPush self.codec f)
    {cs : ChangeSet} (hcs : self.codec.decrypt f.data = .ok cs) :
    cs.watermark.Fits ∧ f.name = changesetFilename cs.watermark.deviceId cs.watermark ∧
      ∀ h, self.remoteHlc f.name = some h → h = cs.watermark := by
  obtain ⟨seed, cs₀, hseal, hfits, hname⟩ := hf
  obtain ⟨cs', hopen, -, hwm⟩ := self.codec.opens seed cs₀ f.data hseal
  rw [hcs] at hopen
  cases hopen
  rw [hwm]
  refine ⟨hfits, hname, ?_⟩
  intro h hh
  rw [hname, remoteHlc_changesetFilename hfits] at hh
  split at hh
  · nomatch hh
  · exact (Option.some.inj hh).symm

/-- Two files of other devices with one timestamp are one file. -/
theorem WrittenByPush.name_eq {f g : FolderFile β} (hf : WrittenByPush self.codec f)
    (hg : WrittenByPush self.codec g) {h : Hlc} (hfh : self.remoteHlc f.name = some h)
    (hgh : self.remoteHlc g.name = some h) : f.name = g.name := by
  obtain ⟨_, csf, hsealf, -⟩ := id hf
  obtain ⟨_, csg, hsealg, -⟩ := id hg
  obtain ⟨cf, hopenf, -⟩ := self.codec.opens _ _ _ hsealf
  obtain ⟨cg, hopeng, -⟩ := self.codec.opens _ _ _ hsealg
  obtain ⟨-, hnf, hwf⟩ := hf.decrypt hopenf
  obtain ⟨-, hng, hwg⟩ := hg.decrypt hopeng
  rw [hnf, hng, ← hwf h hfh, ← hwg h hgh]

/-- A push that succeeds leaves the sealed changeset under its name. -/
theorem push_writes {fault : Option FileFault} {seed : Nat} {changes : ChangeSet}
    {folder folder' : Folder β} (hpush : self.push fault seed changes folder = (.ok (), folder')) :
    ∃ data, self.codec.encrypt seed changes = .ok data ∧
      ⟨changesetFilename self.localDeviceId changes.watermark, data⟩ ∈ folder'.rows := by
  unfold push at hpush
  split at hpush
  · nomatch hpush
  · next data hseal =>
    dsimp only at hpush
    split at hpush
    · nomatch hpush
    · split at hpush
      · nomatch hpush
      · cases hpush
        exact ⟨data, hseal, Table.mem_upsert.mpr (.inl rfl)⟩

end FileSyncTransport

/-- The file holds the changeset, under its own name. -/
def HoldsChanges {β : Type} (t : FileSyncTransport β) (cs : ChangeSet) (f : FolderFile β) : Prop :=
  f.name = changesetFilename t.localDeviceId cs.watermark ∧
    ∃ seed, t.codec.encrypt seed cs = .ok f.data

namespace SharedFolder

variable {β : Type}

/-- A file that lands keeps every name and brings none but its own. -/
theorem mem_foldl_upsert {arriving : List (FolderFile β)} {folder : Folder β} :
    (∀ f ∈ folder.rows, ∃ g ∈ (arriving.foldl Table.upsert folder).rows, g.name = f.name) ∧
    (∀ g ∈ (arriving.foldl Table.upsert folder).rows, g ∈ folder.rows ∨ g ∈ arriving) := by
  induction arriving generalizing folder with
  | nil => exact ⟨fun f hf => ⟨f, hf, rfl⟩, fun g hg => .inl hg⟩
  | cons a rest ih =>
    obtain ⟨ihkeep, ihfrom⟩ := @ih (folder.upsert a)
    rw [List.foldl_cons]
    constructor
    · intro f hf
      by_cases ha : a.name = f.name
      · obtain ⟨g, hg, hname⟩ := ihkeep a (Table.mem_upsert.mpr (.inl rfl))
        exact ⟨g, hg, hname.trans ha⟩
      · exact ihkeep f (Table.mem_upsert.mpr (.inr ⟨hf, ha⟩))
    · intro g hg
      rcases ihfrom g hg with hup | hrest
      · rcases Table.mem_upsert.mp hup with rfl | ⟨hold, -⟩
        · exact .inr List.mem_cons_self
        · exact .inl hold
      · exact .inr (List.mem_cons_of_mem a hrest)

/-- The environment keeps every name. -/
theorem tick_keeps {net : SharedFolder β} {f : FolderFile β} (hf : f ∈ net.files.rows) :
    ∃ g ∈ net.tick.2.files.rows, g.name = f.name := by
  unfold tick
  split
  · exact ⟨f, hf, rfl⟩
  · exact mem_foldl_upsert.1 f hf

/-- The environment writes what it was going to write. -/
theorem written_tick {net : SharedFolder β} {g : FolderFile β} (hg : g ∈ net.tick.2.written) :
    g ∈ net.written := by
  unfold tick at hg
  split at hg
  · exact hg
  · next t ahead hahead =>
    have hnow : net.written
        = net.files.rows ++ (t.arriving ++ ahead.flatMap Tick.arriving) := by
      rw [written, hahead, List.flatMap_cons]
    rw [hnow]
    rcases List.mem_append.mp hg with hfile | hlater
    · rcases mem_foldl_upsert.2 g hfile with hold | hnew
      · exact List.mem_append_left _ hold
      · exact List.mem_append_right _ (List.mem_append_left _ hnew)
    · exact List.mem_append_right _ (List.mem_append_right _ hlater)

end SharedFolder
end Oneshim
