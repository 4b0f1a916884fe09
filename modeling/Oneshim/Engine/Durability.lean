/-
  Does a pushed row stay in the folder?

  A changeset file is named after the device and the pair `(wall_ms, counter)` of its watermark,
  and a push renames its file over whatever has that name.  So two pushes at ONE pair leave one
  file, the later one.  The watermark of a data push is the maximum of the database under the
  local device id, and the next push extracts the rows after it.  A row of another device at the
  very pair of the maximum, under an id above the local one, is still after it: it is pushed again
  by the next cycle, alone, over the file with all the others.

  Files are safe as long as the names ascend:

  * no cycle finds such a row;
  * an engine does not start below what was pushed before;
  * a deletion event does not take the name of a data file.

  Everything else is free: the database may change in any way between the cycles, pushes and pulls
  may fail, and other devices write under their own names at any time.
-/
import Oneshim.Engine.Push
import Oneshim.Storage.Deletion

namespace Oneshim

open Lib FileSyncTransport

/-! ## Names -/

/-- The pair `(wall_ms, counter)` of `a` is below that of `b`. -/
def Hlc.PairLt (a b : Hlc) : Prop :=
  a.wallMs < b.wallMs ∨ (a.wallMs = b.wallMs ∧ a.counter < b.counter)

theorem Hlc.PairLt.trans {a b c : Hlc} (hab : a.PairLt b) (hbc : b.PairLt c) : a.PairLt c := by
  unfold Hlc.PairLt at *
  omega

theorem Hlc.PairLt.irrefl {a : Hlc} (h : a.PairLt a) : False := by
  unfold Hlc.PairLt at h
  omega

/-- One device's files under different pairs have different names. -/
theorem changesetFilename_ne {deviceId : String} {a b : Hlc} (ha : a.Fits) (hb : b.Fits)
    (hne : a.wallMs ≠ b.wallMs ∨ a.counter ≠ b.counter) :
    changesetFilename deviceId a ≠ changesetFilename deviceId b := by
  intro h
  have hparse := parseFilename_changesetFilename deviceId ha
  rw [h, parseFilename_changesetFilename deviceId hb] at hparse
  simp only [Option.some.injEq, Prod.mk.injEq, true_and] at hparse
  omega

/-- A name above the position is none that is not above it. -/
theorem filename_ne_of_below {deviceId : String} {position a b : Hlc} (ha : a.Fits) (hb : b.Fits)
    (hlt : position.PairLt a) (hnot : ¬ position.PairLt b) :
    changesetFilename deviceId a ≠ changesetFilename deviceId b := by
  apply changesetFilename_ne ha hb
  unfold Hlc.PairLt at hlt hnot
  omega

/-- The file is of another device, or no changeset file at all. -/
def ForeignName (deviceId name : String) : Prop :=
  ∀ d wall counter, parseFilename name = some (d, wall, counter) → d ≠ deviceId

theorem changesetFilename_ne_foreign {deviceId name : String} {h : Hlc} (hfits : h.Fits)
    (hforeign : ForeignName deviceId name) : name ≠ changesetFilename deviceId h := by
  rintro rfl
  exact hforeign _ _ _ (parseFilename_changesetFilename deviceId hfits) rfl

theorem changesetFilename_ne_tmp {deviceId : String} {h : Hlc} {name : String} :
    changesetFilename deviceId h ≠ name ++ ".tmp" := by
  intro heq
  have hnot := changesetFilename_not_tmp deviceId h
  rw [heq, String.toList_append, Bool.eq_false_iff] at hnot
  exact hnot (List.isSuffixOf_iff_suffix.mpr (List.suffix_append _ _))

/-! ## What stays in the folder -/

section Folder

variable {β : Type} {t : FileSyncTransport β}

/-- The folder still holds the changeset. -/
def KeptInFolder (t : FileSyncTransport β) (net : SharedFolder β) (cs : ChangeSet) : Prop :=
  ∃ f ∈ net.files.rows, HoldsChanges t cs f

/-- No other device will write under this device's names. -/
def ForeignArrivals (deviceId : String) (net : SharedFolder β) : Prop :=
  ∀ tick ∈ net.ahead, ∀ f ∈ tick.arriving, ForeignName deviceId f.name

theorem mem_foldl_upsert_of_ne {arriving : List (FolderFile β)} {folder : Folder β}
    {f : FolderFile β} (hf : f ∈ folder.rows) (hne : ∀ a ∈ arriving, a.name ≠ f.name) :
    f ∈ (arriving.foldl Table.upsert folder).rows := by
  induction arriving generalizing folder with
  | nil => exact hf
  | cons a rest ih =>
    apply ih
    · exact Table.mem_upsert.mpr (.inr ⟨hf, hne a List.mem_cons_self⟩)
    · exact fun b hb => hne b (List.mem_cons_of_mem _ hb)

/-- Other devices keep what this device wrote. -/
theorem kept_tick {net : SharedFolder β} {cs : ChangeSet} (hfits : cs.watermark.Fits)
    (harrive : ForeignArrivals t.localDeviceId net) (hkept : KeptInFolder t net cs) :
    KeptInFolder t net.tick.2 cs := by
  obtain ⟨f, hf, hholds⟩ := hkept
  refine ⟨f, ?_, hholds⟩
  unfold SharedFolder.tick
  split
  · exact hf
  · next tick ahead hahead =>
    refine mem_foldl_upsert_of_ne hf (fun a ha => ?_)
    rw [hholds.1]
    exact changesetFilename_ne_foreign hfits
      (harrive tick (by rw [hahead]; exact List.mem_cons_self) a ha)

theorem foreignArrivals_tick {deviceId : String} {net : SharedFolder β}
    (harrive : ForeignArrivals deviceId net) : ForeignArrivals deviceId net.tick.2 := by
  unfold SharedFolder.tick
  split
  · exact harrive
  · next tick ahead hahead =>
    exact fun tick' h => harrive tick' (by rw [hahead]; exact List.mem_cons_of_mem _ h)

/-- A push under another name keeps a file. -/
theorem mem_push {fault : Option FileFault} {seed : Nat} {changes cs : ChangeSet}
    {folder : Folder β} {f : FolderFile β} (hf : f ∈ folder.rows) (hholds : HoldsChanges t cs f)
    (hne : changesetFilename t.localDeviceId changes.watermark ≠ f.name) :
    f ∈ (t.push fault seed changes folder).2.rows := by
  have htmp : changesetFilename t.localDeviceId changes.watermark ++ ".tmp" ≠ f.name := by
    rw [hholds.1]
    exact changesetFilename_ne_tmp.symm
  have hwritten : ∀ data, f ∈ (folder.upsert
      ⟨changesetFilename t.localDeviceId changes.watermark ++ ".tmp", data⟩).rows :=
    fun data => Table.mem_upsert.mpr (.inr ⟨hf, htmp⟩)
  unfold push
  split
  · exact hf
  · next data hseal =>
    dsimp only
    split
    · exact hf
    · split
      · exact hwritten data
      · refine Table.mem_upsert.mpr (.inr ⟨List.mem_filter.mpr ⟨hwritten data, ?_⟩, hne⟩)
        rw [bne_iff_ne]
        exact htmp.symm

/-- A push through the port keeps the changesets under other names, and adds its own when it
    succeeds. -/
theorem kept_push {changes : ChangeSet} {net net' : SharedFolder β}
    {result : Except CoreError Unit} (harrive : ForeignArrivals t.localDeviceId net)
    (hpush : t.port.push changes net = (result, net')) :
    ForeignArrivals t.localDeviceId net' ∧
    (∀ cs, cs.watermark.Fits → KeptInFolder t net cs →
      changesetFilename t.localDeviceId changes.watermark
        ≠ changesetFilename t.localDeviceId cs.watermark → KeptInFolder t net' cs) ∧
    (result = .ok () → KeptInFolder t net' changes) := by
  have hfiles : net'.files
      = (t.push net.tick.1.fault net.tick.1.seed changes net.tick.2.files).2 :=
    (congrArg (fun p => p.2.files) hpush).symm
  have hahead : net'.ahead = net.tick.2.ahead := (congrArg (fun p => p.2.ahead) hpush).symm
  have hresult : (t.push net.tick.1.fault net.tick.1.seed changes net.tick.2.files).1 = result :=
    congrArg Prod.fst hpush
  refine ⟨?_, ?_, ?_⟩
  · intro tick htick
    rw [hahead] at htick
    exact foreignArrivals_tick harrive tick htick
  · intro cs hfits hkept hne
    obtain ⟨f, hf, hholds⟩ := kept_tick hfits harrive hkept
    refine ⟨f, ?_, hholds⟩
    rw [hfiles]
    exact mem_push hf hholds (by rw [hholds.1]; exact hne)
  · rintro rfl
    obtain ⟨data, hseal, hmem⟩ := push_writes (Prod.ext hresult rfl)
    rw [KeptInFolder, hfiles]
    exact ⟨_, hmem, rfl, _, hseal⟩

end Folder

/-! ## Runs of one device -/

section Durability

variable {β : Type} {t : FileSyncTransport β} {engine : SyncEngine (SharedFolder β)}

/-- The world, and the data changesets this device has pushed successfully. -/
structure FolderHistory (β : Type) where
  world : World (SharedFolder β)
  pushed : List ChangeSet := []

/-- What happens on the device. -/
inductive FolderAction where
  /-- Rows are written, updated, merged or removed, and consent given or taken. -/
  | edit (db : Database) (consentManager : Option ConsentManager)
  | cycle (fuel now : Nat)
  | restart (consentManager : Option ConsentManager)

/-- One step of the device. -/
inductive FolderStep (engine : SyncEngine (SharedFolder β)) :
    FolderHistory β → FolderAction → FolderHistory β → Prop
  | edit {h : FolderHistory β} {db : Database} {cm : Option ConsentManager} :
      FolderStep engine h (.edit db cm)
        { h with world := { h.world with db, consentManager := cm } }
  | cycle {h : FolderHistory β} {fuel now : Nat} {r : Except CoreError (Option SyncResult)}
      {w : World (SharedFolder β)} {events : List SyncEvent} :
      now < 2 ^ 64 → engine.runCycle fuel now h.world = some (r, w, events) →
      FolderStep engine h (.cycle fuel now) ⟨w, h.pushed ++ pushedData events⟩
  | restart {h : FolderHistory β} {cm : Option ConsentManager} :
      FolderStep engine h (.restart cm) { h with world := engine.new h.world.db cm h.world.net }

/-- The row has the pair of the push position, under a device id above its. -/
def TiesWith (position : Hlc) (s : Stamp) : Prop :=
  s.hlcWallMs.toInt = position.wallMs ∧ s.hlcCounter.toInt = position.counter ∧
    position.deviceId < s.originDeviceId

/-- The steps under which file names ascend. -/
def Ascending (engine : SyncEngine (SharedFolder β)) (h : FolderHistory β) : FolderAction → Prop
  | .edit _ _ => True
  | .cycle fuel now =>
    (∀ x, AfterPull engine fuel h.world x → ¬ TiesWith h.world.lastPushWatermark x.stamp) ∧
      (SyncEngine.deletionDue h.world = true → ∀ cs ∈ h.pushed,
        cs.watermark.wallMs ≠ now ∨ cs.watermark.counter ≠ 0)
  | .restart cm => ∀ cs ∈ h.pushed,
      ¬ (engine.new h.world.db cm h.world.net).lastPushWatermark.PairLt cs.watermark

/-- A row that an extraction returns is above the position in its pair, or ties with it. -/
theorem above_or_ties {position : Hlc} {s : Stamp} (hfits : position.Fits)
    (hbound : position.wallMs < 2 ^ 63) (h : ChangedSince position s) :
    s.Above position ∨ TiesWith position s := by
  have hwall : (Int64.ofNat position.wallMs).toInt = position.wallMs :=
    Int64.toInt_ofNat_of_lt hbound
  have hcounter : (bindU32 position.counter).toInt = position.counter :=
    Int64.toInt_ofNat_of_lt (by have := hfits.counter; omega)
  simp only [ChangedSince, Stamp.changedSince, Bool.or_eq_true, Bool.and_eq_true,
    decide_eq_true_eq, beq_iff_eq, Int64.lt_iff_toInt_lt] at h
  rcases h with (hlt | ⟨heq, hlt⟩) | ⟨⟨heq, hceq⟩, hdev⟩
  · exact .inl (.inl (by omega))
  · rw [← heq] at hwall
    exact .inl (.inr ⟨by omega, by omega⟩)
  · rw [← heq] at hwall
    rw [← hceq] at hcounter
    exact .inr ⟨hwall, hcounter, hdev⟩

/-- An extraction that is not empty returns some row. -/
theorem exists_changed {jsonReal : F64 → Option F64} {extractor : SqliteSyncExtractor}
    {since : Hlc} {db db' : Database} {cs : ChangeSet}
    (hget : extractor.getChangesSince jsonReal since db = (.ok cs, db'))
    (hfull : cs.isEmpty = false) : ∃ x ∈ db'.syncRows, ChangedSince since x.stamp := by
  have hpreferences : cs.preferences = [] := by
    simp only [SqliteSyncExtractor.getChangesSince] at hget
    split at hget
    case h_2 => cases (Prod.mk.inj hget).1
    case h_1 changes hc =>
      cases hget
      simp only [SqliteSyncExtractor.collect, bind_eq_ok_iff] at hc
      obtain ⟨_, -, _, -, _, -, _, -, _, -, _, -, _, -, hret⟩ := hc
      cases hret
      rfl
  obtain ⟨-, hex⟩ := getChangesSince_ok hget
  by_contra hnone
  have hextracted : ∀ {ρ : Type} (stamp : ρ → Stamp) {rows : List ρ} (row : ρ → SyncRow),
      (∀ r ∈ rows, row r ∈ db'.syncRows) → (∀ r, (row r).stamp = stamp r) →
      extractedRows stamp since rows = [] := by
    intro ρ stamp rows row hin hstamp
    rw [List.eq_nil_iff_forall_not_mem]
    intro r hr
    obtain ⟨hrows, hafter⟩ := mem_extractedRows.mp hr
    rw [← hstamp] at hafter
    exact hnone ⟨row r, hin r hrows, hafter⟩
  have hmem : ∀ {r : SyncRow}, _ → r ∈ db'.syncRows := mem_syncRows.mpr
  have hsegments : cs.segments = [] := by
    rw [hex.segments, hextracted SegmentRow.stamp .segment (fun r hr => hmem hr) (fun _ => rfl),
      List.map_nil]
  have hoverrides : cs.overrides = [] := by
    rw [hex.overrides, hextracted OverrideRow.stamp .override (fun r hr => hmem hr) (fun _ => rfl),
      List.map_nil]
  have hembeddings : cs.embeddings = [] := by
    rw [hex.embeddings, hextracted EmbeddingRow.stamp .embedding (fun r hr => hmem hr) (fun _ => rfl),
      List.map_nil]
  have hsnapshots : cs.paramSnapshots = [] := by
    rw [hex.paramSnapshots,
      hextracted ParamSnapshotRow.stamp .paramSnapshot (fun r hr => hmem hr) (fun _ => rfl),
      List.map_nil]
  have hregimes : cs.regimes = [] := by
    have h := hex.regimes
    rw [hextracted RegimeRow.stamp .regime (fun r hr => hmem hr) (fun _ => rfl)] at h
    exact List.forall₂_nil_left_iff.mp h
  have hsuggestions : cs.suggestions = [] := by
    have h := hex.suggestions
    rw [hextracted SuggestionRow.stamp .suggestion (fun r hr => hmem hr) (fun _ => rfl)] at h
    exact List.forall₂_nil_left_iff.mp h
  simp [ChangeSet.isEmpty, hsegments, hoverrides, hembeddings, hsnapshots, hregimes, hsuggestions,
    hpreferences] at hfull

theorem mem_syncedStamps {db : Database} {x : SyncRow} (hx : x ∈ db.syncRows) :
    ∃ table ∈ syncedStamps db, x.stamp ∈ table.2 := by
  rw [mem_syncRows] at hx
  cases x with
  | segment r => exact ⟨_, .head _, List.mem_map_of_mem hx⟩
  | regime r => exact ⟨_, .tail _ (.head _), List.mem_map_of_mem hx⟩
  | override r => exact ⟨_, .tail _ (.tail _ (.head _)), List.mem_map_of_mem hx⟩
  | embedding r => exact ⟨_, .tail _ (.tail _ (.tail _ (.head _))), List.mem_map_of_mem hx⟩
  | suggestion r =>
    exact ⟨_, .tail _ (.tail _ (.tail _ (.tail _ (.head _)))), List.mem_map_of_mem hx⟩
  | paramSnapshot r =>
    exact ⟨_, .tail _ (.tail _ (.tail _ (.tail _ (.tail _ (.head _))))), List.mem_map_of_mem hx⟩

variable {w w' : World (SharedFolder β)} {events : List SyncEvent}

/-- **The names of data pushes ascend**: what is pushed after `position` has a watermark above it,
    as long as no row ties with it. -/
theorem pushPhase_ascends {p : Except CoreError Unit} (hfits : w.lastPushWatermark.Fits)
    (hfree : ∀ x ∈ w.db.ownedRows engine.extractor.deviceId, ¬ TiesWith w.lastPushWatermark x.stamp)
    (h : engine.pushPhase w = (p, w', events)) :
    ∀ cs b, SyncEvent.pushed cs b ∈ events →
      cs.watermark.Fits ∧ w.lastPushWatermark.PairLt cs.watermark := by
  have hextracted : ∀ {cs db}, engine.extractor.getChangesSince engine.jsonReal
      w.lastPushWatermark w.db = (.ok cs, db) → cs.isEmpty = false →
      cs.watermark.Fits ∧ w.lastPushWatermark.PairLt cs.watermark := by
    intro cs db hget hfull
    obtain ⟨hdb, hex⟩ := getChangesSince_ok hget
    obtain ⟨x, hx, hafter⟩ := exists_changed hget hfull
    have hmax := hex.watermark
    have hlt := computeMaxHlc_lt hmax
    refine ⟨⟨by omega, hlt.2⟩, ?_⟩
    -- the row is above the position, and the maximum is not below the row
    have howned : x ∈ w.db.ownedRows engine.extractor.deviceId := by
      rw [hdb, syncRows_backfill] at hx
      exact hx
    have habove := (above_or_ties hfits hex.sinceBound hafter).resolve_right (hfree x howned)
    obtain ⟨table, htable, hstamp⟩ := mem_syncedStamps hx
    have hnot := computeMaxHlc_notAbove hmax table htable x.stamp hstamp
    unfold Stamp.Above at habove
    unfold Stamp.NotAbove at hnot
    unfold Hlc.PairLt
    omega
  intro cs b hpushed
  rcases engine.pushPhase_cases h with ⟨_, _, -, -, -, rfl⟩ | ⟨cs', db, hget, hcases⟩
  · nomatch hpushed
  rcases hcases with ⟨-, -, -, rfl⟩ | ⟨hfull, _, _, -, -, -, rfl⟩ | ⟨hfull, _, -, -, -, rfl⟩
  · nomatch hpushed
  · cases List.mem_singleton.mp hpushed
    exact hextracted hget hfull
  · cases List.mem_singleton.mp hpushed
    exact hextracted hget hfull

/-! ## The invariant -/

/-- Everything pushed is kept, and no name above the push position is taken. -/
structure Durable (t : FileSyncTransport β) (h : FolderHistory β) : Prop where
  kept : ∀ cs ∈ h.pushed, KeptInFolder t h.world.net cs
  fits : ∀ cs ∈ h.pushed, cs.watermark.Fits
  below : ∀ cs ∈ h.pushed, ¬ h.world.lastPushWatermark.PairLt cs.watermark
  position : h.world.lastPushWatermark.Fits
  arrivals : ForeignArrivals t.localDeviceId h.world.net

variable {r : Except CoreError (Option SyncResult)}

/-- The pull loop only lets the environment move. -/
theorem pullLoop_net {P : SharedFolder β → Prop} (hport : engine.transport = t.port)
    (htick : ∀ net, P net → P net.tick.2) {fuel : Nat} {since : Hlc} {m : Option SyncResult}
    (h : engine.pullLoop fuel since m w = some (r, w', events)) (hP : P w.net) : P w'.net := by
  have hpull : ∀ {since net x net'}, engine.transport.pull since net = (x, net') →
      net' = net.tick.2 := by
    intro since net x net' hx
    rw [hport] at hx
    exact (congrArg Prod.snd hx).symm
  induction fuel generalizing since m w events with
  | zero => nomatch h
  | succ fuel ih =>
    obtain ⟨fuel', hfuel, hcases⟩ := engine.pullLoop_cases h
    cases hfuel
    rcases hcases with ⟨_, net, hx, -, rfl, -⟩ | ⟨net, hx, -, rfl, -⟩ | ⟨cs, net, hx, hcases⟩
    · rw [show net = _ from hpull hx]
      exact htick _ hP
    · rw [show net = _ from hpull hx]
      exact htick _ hP
    · have hnet : P net := by
        rw [show net = _ from hpull hx]
        exact htick _ hP
      rcases hcases with ⟨_, db, -, -, rfl, -⟩ | ⟨result, db, rest, -, hrest, -⟩
      · exact hnet
      · exact ih hrest hnet

variable {pushed : List ChangeSet}

/-- The pull loop keeps the invariant. -/
theorem durable_pullLoop (hport : engine.transport = t.port) {fuel : Nat} {since : Hlc}
    {m : Option SyncResult} (h : engine.pullLoop fuel since m w = some (r, w', events))
    (hdurable : Durable t ⟨w, pushed⟩) : Durable t ⟨w', pushed⟩ := by
  have hnet := pullLoop_net (P := fun net => ForeignArrivals t.localDeviceId net ∧
      ∀ cs ∈ pushed, KeptInFolder t net cs) hport
    (fun net ⟨harrive, hkept⟩ => ⟨foreignArrivals_tick harrive,
      fun cs hcs => kept_tick (hdurable.fits cs hcs) harrive (hkept cs hcs)⟩)
    h ⟨hdurable.arrivals, hdurable.kept⟩
  have hposition := (pullLoop_brings h).1
  refine ⟨hnet.2, hdurable.fits, ?_, ?_, hnet.1⟩
  · show ∀ cs ∈ pushed, ¬ w'.lastPushWatermark.PairLt cs.watermark
    rw [hposition]
    exact hdurable.below
  · show w'.lastPushWatermark.Fits
    rw [hposition]
    exact hdurable.position

/-- The push phase keeps the invariant, with what it pushed. -/
theorem durable_pushPhase (hport : engine.transport = t.port) {p : Except CoreError Unit}
    (hfree : ∀ x ∈ w.db.ownedRows engine.extractor.deviceId, ¬ TiesWith w.lastPushWatermark x.stamp)
    (h : engine.pushPhase w = (p, w', events)) (hdurable : Durable t ⟨w, pushed⟩) :
    Durable t ⟨w', pushed ++ pushedData events⟩ := by
  have hascends := pushPhase_ascends hdurable.position hfree h
  rcases engine.pushPhase_cases h with ⟨_, _, -, -, rfl, rfl⟩ | ⟨cs, db, hget, hcases⟩
  · rw [show pushedData [] = [] from rfl, List.append_nil]
    exact ⟨hdurable.kept, hdurable.fits, hdurable.below, hdurable.position, hdurable.arrivals⟩
  rcases hcases with ⟨-, -, rfl, rfl⟩ | ⟨-, e, net, hpush, -, rfl, rfl⟩ |
    ⟨-, net, hpush, -, rfl, rfl⟩
  · rw [show pushedData [] = [] from rfl, List.append_nil]
    exact ⟨hdurable.kept, hdurable.fits, hdurable.below, hdurable.position, hdurable.arrivals⟩
  · -- the push failed: what it left lies under another name
    rw [hport] at hpush
    obtain ⟨harrive, hkept, -⟩ := kept_push hdurable.arrivals hpush
    obtain ⟨hfits, hlt⟩ := hascends cs false List.mem_cons_self
    rw [show pushedData [.pushed cs false] = [] from rfl, List.append_nil]
    exact ⟨fun cs' hcs' => hkept cs' (hdurable.fits cs' hcs') (hdurable.kept cs' hcs')
        (filename_ne_of_below hfits (hdurable.fits cs' hcs') hlt (hdurable.below cs' hcs')),
      hdurable.fits, hdurable.below, hdurable.position, harrive⟩
  · rw [hport] at hpush
    obtain ⟨harrive, hkept, hnew⟩ := kept_push hdurable.arrivals hpush
    obtain ⟨hfits, hlt⟩ := hascends cs true List.mem_cons_self
    have hkind := (getChangesSince_ok hget).2.kind
    have hdata : pushedData [.pushed cs true] = [cs] := by
      simp only [pushedData, List.filterMap_cons, hkind, if_true, List.filterMap_nil]
    rw [hdata]
    have hmem : ∀ {Q : ChangeSet → Prop}, (∀ cs' ∈ pushed, Q cs') → Q cs →
        ∀ cs' ∈ pushed ++ [cs], Q cs' := by
      intro Q hold hlast cs' hcs'
      rcases List.mem_append.mp hcs' with hin | hin
      · exact hold cs' hin
      · rw [List.mem_singleton.mp hin]
        exact hlast
    refine ⟨hmem (fun cs' hcs' => hkept cs' (hdurable.fits cs' hcs') (hdurable.kept cs' hcs')
        (filename_ne_of_below hfits (hdurable.fits cs' hcs') hlt (hdurable.below cs' hcs')))
        (hnew rfl), hmem hdurable.fits hfits, ?_, hfits, harrive⟩
    show ∀ cs' ∈ pushed ++ [cs], ¬ cs.watermark.PairLt cs'.watermark
    refine hmem (fun cs' hcs' hbelow => hdurable.below cs' hcs' (hlt.trans hbelow)) ?_
    exact fun hself => hself.irrefl

/-- A new engine's push position fits its types. -/
theorem new_position_fits (db : Database) (cm : Option ConsentManager) (net : SharedFolder β) :
    (engine.new db cm net).lastPushWatermark.Fits := by
  unfold SyncEngine.new
  dsimp only
  split
  · next wm hwm =>
    unfold SqliteSyncExtractor.localWatermark at hwm
    split at hwm
    · next m hmax =>
      cases hwm
      have hlt := computeMaxHlc_lt hmax
      exact ⟨by omega, hlt.2⟩
    · nomatch hwm
  · exact ⟨by decide, by decide⟩

/-- The health fields do not matter. -/
theorem Durable.sameState (h : Durable t ⟨w, pushed⟩) (hsame : SyncEngine.SameState w w') :
    Durable t ⟨w', pushed⟩ where
  kept := by
    show ∀ cs ∈ pushed, KeptInFolder t w'.net cs
    rw [hsame.net]
    exact h.kept
  fits := h.fits
  below := by
    show ∀ cs ∈ pushed, ¬ w'.lastPushWatermark.PairLt cs.watermark
    rw [hsame.lastPushWatermark]
    exact h.below
  position := by
    show w'.lastPushWatermark.Fits
    rw [hsame.lastPushWatermark]
    exact h.position
  arrivals := by
    show ForeignArrivals t.localDeviceId w'.net
    rw [hsame.net]
    exact h.arrivals

/-- A deletion event under a name of its own keeps the invariant. -/
theorem durable_deletionEvent (hwired : Wired t engine) {now : Nat} (hnow : now < 2 ^ 64)
    (hevent : ∀ cs ∈ pushed, cs.watermark.wallMs ≠ now ∨ cs.watermark.counter ≠ 0)
    (h : engine.pushDeletionEvent now w = (r, w', events)) (hdurable : Durable t ⟨w, pushed⟩) :
    Durable t ⟨w', pushed ++ pushedData events⟩ := by
  have hname : ∀ cs ∈ pushed,
      changesetFilename t.localDeviceId (engine.deletionChangeSet now).watermark
        ≠ changesetFilename t.localDeviceId cs.watermark := by
    intro cs hcs
    apply changesetFilename_ne ⟨hnow, by show 0 < 2 ^ 32; omega⟩ (hdurable.fits cs hcs)
    rcases hevent cs hcs with hwall | hcounter
    · exact .inl hwall.symm
    · exact .inr hcounter.symm
  rcases engine.pushDeletionEvent_cases h with ⟨e, net, hpush, -, rfl, rfl⟩ |
    ⟨net, hpush, -, rfl, rfl⟩
  · rw [hwired.port] at hpush
    obtain ⟨harrive, hkept, -⟩ := kept_push hdurable.arrivals hpush
    rw [show pushedData [.pushed (engine.deletionChangeSet now) false] = [] from rfl,
      List.append_nil]
    exact ⟨fun cs hcs => hkept cs (hdurable.fits cs hcs) (hdurable.kept cs hcs) (hname cs hcs),
      hdurable.fits, hdurable.below, hdurable.position, harrive⟩
  · rw [hwired.port] at hpush
    obtain ⟨harrive, hkept, -⟩ := kept_push hdurable.arrivals hpush
    rw [show pushedData [.pushed (engine.deletionChangeSet now) true] = [] from rfl,
      List.append_nil]
    exact ⟨fun cs hcs => hkept cs (hdurable.fits cs hcs) (hdurable.kept cs hcs) (hname cs hcs),
      hdurable.fits, hdurable.below, hdurable.position, harrive⟩

/-- A cycle keeps the invariant. -/
theorem durable_cycle (hwired : Wired t engine) {h : FolderHistory β} {fuel now : Nat}
    {w : World (SharedFolder β)} (hnow : now < 2 ^ 64) (hasc : Ascending engine h (.cycle fuel now))
    (hrun : engine.runCycle fuel now h.world = some (r, w, events)) (hdurable : Durable t h) :
    Durable t ⟨w, h.pushed ++ pushedData events⟩ := by
  obtain ⟨hfree, hevent⟩ := hasc
  rcases engine.runCycle_cases hrun with ⟨-, -, rfl, hsame⟩ | ⟨-, hdue, w₁, hpush, hsame⟩ |
    ⟨-, -, hcases⟩
  · rw [show pushedData [] = [] from rfl, List.append_nil]
    exact hdurable.sameState hsame
  · exact (durable_deletionEvent hwired hnow (hevent hdue) hpush hdurable).sameState hsame
  · rcases hcases with ⟨_, -, -, rfl, hsame⟩ | ⟨position, hposition, hcases⟩
    · rw [show pushedData [] = [] from rfl, List.append_nil]
      exact hdurable.sameState hsame
    rcases hcases with ⟨_, w₁, -, hloop, hsame⟩ |
      ⟨m, w₁, pulls, w₂, p, pushes, hloop, hphase, rfl, hsame, -⟩
    · rw [pushedData_pullLoop hloop, List.append_nil]
      exact (durable_pullLoop hwired.port hloop hdurable).sameState hsame
    · rw [pushedData_append, pushedData_pullLoop hloop, List.nil_append]
      refine (durable_pushPhase hwired.port ?_ hphase
        (durable_pullLoop hwired.port hloop hdurable)).sameState hsame
      intro x hx
      rw [(pullLoop_brings hloop).1]
      exact hfree x ⟨position, _, w₁, pulls, hposition, hloop, hx⟩

/-- **The step lemma**: under ascending names a step keeps everything that was pushed. -/
theorem durable_step (hwired : Wired t engine) {h h' : FolderHistory β} {a : FolderAction}
    (hasc : Ascending engine h a) (hstep : FolderStep engine h a h') (hdurable : Durable t h) :
    Durable t h' := by
  cases hstep with
  | edit => exact ⟨hdurable.kept, hdurable.fits, hdurable.below, hdurable.position,
      hdurable.arrivals⟩
  | cycle hnow hrun => exact durable_cycle hwired hnow hasc hrun hdurable
  | restart =>
    exact ⟨hdurable.kept, hdurable.fits, hasc, new_position_fits _ _ _, hdurable.arrivals⟩

/-- An engine that starts. -/
theorem durable_start {db : Database} {cm : Option ConsentManager} {net : SharedFolder β}
    (harrive : ForeignArrivals t.localDeviceId net) :
    Durable t ⟨engine.new db cm net, []⟩ :=
  ⟨fun _ h => (nomatch h), fun _ h => (nomatch h), fun _ h => (nomatch h),
    new_position_fits _ _ _, harrive⟩

theorem durable_of_run (hwired : Wired t engine) {h₀ h : FolderHistory β}
    (hstart : Durable t h₀)
    (hrun : Relation.ReflTransGen
      (fun a b => ∃ act, Ascending engine a act ∧ FolderStep engine a act b) h₀ h) :
    Durable t h := by
  induction hrun with
  | refl => exact hstart
  | tail _ hstep ih =>
    obtain ⟨act, hasc, hact⟩ := hstep
    exact durable_step hwired hasc hact ih

/-! ## Rows -/

/-- The rows of a changeset for the table. -/
def SyncedTable.rowsOf (cs : ChangeSet) : SyncedTable → List Json
  | segments => cs.segments
  | regimes => cs.regimes
  | overrides => cs.overrides
  | embeddings => cs.embeddings
  | suggestions => cs.suggestions
  | paramSnapshots => cs.paramSnapshots

/-- The fields that tell the table's rows apart. -/
def SyncedTable.keyFields : SyncedTable → List String
  | overrides => ["override_id"]
  | embeddings => ["segment_id", "model_id"]
  | suggestions => ["suggestion_id"]
  | _ => ["id"]

/-- `j'` is the row `j`, in that version or a newer one. -/
def SameOrNewer (table : SyncedTable) (j j' : Json) : Prop :=
  (∀ k ∈ table.keyFields, j'.get k = j.get k) ∧
    ∀ h h', extractHlc j = .ok h → extractHlc j' = .ok h' → h ≤ h'

/-- Some file of this device in the folder contains the row, in that version or a newer one. -/
def RowKept (t : FileSyncTransport β) (net : SharedFolder β) (table : SyncedTable) (j : Json) :
    Prop :=
  ∃ f ∈ net.files.rows, ∃ cs, HoldsChanges t cs f ∧ ∃ j' ∈ table.rowsOf cs, SameOrNewer table j j'

/-- **What was pushed stays**: along every run with ascending names, every row of a changeset that
    was pushed successfully is in a file of this device. -/
theorem pushed_rows_kept (hwired : Wired t engine) {db : Database} {cm : Option ConsentManager}
    {net : SharedFolder β} (harrive : ForeignArrivals t.localDeviceId net) {h : FolderHistory β}
    (hrun : Relation.ReflTransGen
      (fun a b => ∃ act, Ascending engine a act ∧ FolderStep engine a act b)
      ⟨engine.new db cm net, []⟩ h) :
    ∀ cs ∈ h.pushed, ∀ table : SyncedTable, ∀ j ∈ table.rowsOf cs,
      RowKept t h.world.net table j := by
  intro cs hcs table j hj
  obtain ⟨f, hf, hholds⟩ := (durable_of_run hwired (durable_start harrive) hrun).kept cs hcs
  refine ⟨f, hf, cs, hholds, j, hj, fun _ _ => rfl, ?_⟩
  intro h₁ h₂ heq₁ heq₂
  rw [heq₁] at heq₂
  cases heq₂
  exact le_refl _

end Durability

/-! ## Device `a` and an empty folder -/

theorem folderEngine_wired : Wired transportA folderEngine := ⟨rfl, rfl, rfl, by decide⟩

/-- An empty folder that nobody else writes to. -/
def quietFolder : SharedFolder ChangeSet := { files := Table.empty }

theorem quietFolder_arrivals : ForeignArrivals transportA.localDeviceId quietFolder :=
  fun _ h => (nomatch h)

/-- Device `a`, started on an empty database. -/
def quietStart : FolderHistory ChangeSet :=
  ⟨folderEngine.new (Database.empty true) none quietFolder, []⟩

/-- The same device with the rows of `db`. -/
def quietWith (db : Database) : FolderHistory ChangeSet :=
  { quietStart with world := { quietStart.world with db } }

/-- A run in which a row is pushed, and kept. -/
theorem pushed_rows_kept_once : ∃ h : FolderHistory ChangeSet,
    (∃ cs ∈ h.pushed, paramSnapshotJson (snapshotAt "a-1" 100 "a") ∈ cs.paramSnapshots) ∧
    ∀ cs ∈ h.pushed, ∀ table : SyncedTable, ∀ j ∈ table.rowsOf cs,
      RowKept transportA h.world.net table j := by
  have hedit : FolderStep folderEngine quietStart (.edit (databaseA 100) none)
      (quietWith (databaseA 100)) := FolderStep.edit
  have hcycle : ∃ w cs, folderEngine.runCycle 3 110 (quietWith (databaseA 100)).world
      = some (.ok none, w, [.pushed cs true]) ∧ pushedData [.pushed cs true] = [cs] ∧
      cs.paramSnapshots = [paramSnapshotJson (snapshotAt "a-1" 100 "a")] := ⟨_, _, rfl, rfl, rfl⟩
  obtain ⟨w, cs, hcycle, hpushed, hrows⟩ := hcycle
  -- the only row is at 100, the push position at 0
  have hasc : Ascending folderEngine (quietWith (databaseA 100)) (.cycle 3 110) := by
    refine ⟨?_, fun _ _ h => (nomatch h)⟩
    rintro x ⟨position, r, w₁, pulls, hposition, hloop, hx⟩ hties
    cases hposition
    cases hloop
    cases List.mem_singleton.mp hx
    exact absurd hties.1 (by decide)
  have hrun := (Relation.ReflTransGen.single
      (r := fun a b => ∃ act, Ascending folderEngine a act ∧ FolderStep folderEngine a act b)
      ⟨.edit (databaseA 100) none, trivial, hedit⟩).tail
    ⟨.cycle 3 110, hasc, FolderStep.cycle (by decide) hcycle⟩
  refine ⟨_, ⟨cs, ?_, by rw [hrows]; exact List.mem_cons_self⟩,
    pushed_rows_kept folderEngine_wired quietFolder_arrivals hrun⟩
  rw [hpushed]
  exact List.mem_cons_self

/-- A row of `a`, and a later one that was merged from `z`. -/
def databaseAZ : Database :=
  { Database.empty true with
    paramSnapshots := ⟨[snapshotAt "a-1" 90 "a", snapshotAt "z-1" 100 "z"], by decide⟩ }

/-- Two cycles and nothing between them: the second one pushes the row of `z` again, alone and over
    the file with both. -/
theorem second_push_overwrites :
    ¬ ∀ (t : FileSyncTransport ChangeSet) (engine : SyncEngine (SharedFolder ChangeSet))
      (db : Database) (cm : Option ConsentManager) (net : SharedFolder ChangeSet)
      (h : FolderHistory ChangeSet), Wired t engine → ForeignArrivals t.localDeviceId net →
      Relation.ReflTransGen (fun a b => ∃ act, FolderStep engine a act b)
        ⟨engine.new db cm net, []⟩ h →
      ∀ cs ∈ h.pushed, ∀ table : SyncedTable, ∀ j ∈ table.rowsOf cs,
        RowKept t h.world.net table j := by
  intro hall
  have hedit : FolderStep folderEngine quietStart (.edit databaseAZ none)
      (quietWith databaseAZ) := FolderStep.edit
  have hfirst : ∃ w cs, folderEngine.runCycle 3 110 (quietWith databaseAZ).world
      = some (.ok none, w, [.pushed cs true]) ∧ pushedData [.pushed cs true] = [cs] ∧
      paramSnapshotJson (snapshotAt "a-1" 90 "a") ∈ cs.paramSnapshots ∧
      ∃ w' cs', folderEngine.runCycle 3 120 w = some (.ok none, w', [.pushed cs' true]) ∧
        w'.net.files.rows = [⟨changesetFilename "a" ⟨100, 0, "a"⟩, cs'⟩] ∧
        cs'.paramSnapshots = [paramSnapshotJson (snapshotAt "z-1" 100 "z")] :=
    ⟨_, _, rfl, rfl, List.mem_cons_self, _, _, rfl, rfl, rfl⟩
  obtain ⟨w, cs, hfirst, hpushed, hrow, w', cs', hsecond, hfiles, hrows⟩ := hfirst
  have hrun := ((Relation.ReflTransGen.single
      (r := fun a b => ∃ act, FolderStep folderEngine a act b) ⟨_, hedit⟩).tail
    ⟨_, FolderStep.cycle (by decide) hfirst⟩).tail ⟨_, FolderStep.cycle (by decide) hsecond⟩
  have hin : cs ∈ [] ++ pushedData [.pushed cs true] ++ pushedData [.pushed cs' true] := by
    rw [hpushed]
    exact List.mem_append_left _ List.mem_cons_self
  obtain ⟨f, hf, cs₀, ⟨-, seed, hseal⟩, j', hj', hkey, -⟩ := hall transportA folderEngine
    (Database.empty true) none quietFolder _ folderEngine_wired quietFolder_arrivals hrun cs hin
    .paramSnapshots (paramSnapshotJson (snapshotAt "a-1" 90 "a")) hrow
  -- the folder has one file, and it holds the row of `z` only
  have hf : f ∈ w'.net.files.rows := hf
  rw [hfiles] at hf
  cases List.mem_singleton.mp hf
  cases hseal
  have hj' : j' ∈ cs'.paramSnapshots := hj'
  rw [hrows] at hj'
  cases List.mem_singleton.mp hj'
  have hid := hkey "id" List.mem_cons_self
  exact absurd (Json.str.inj (Option.some.inj hid)) (by decide)

end Oneshim
