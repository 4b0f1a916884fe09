/-
  Does a cycle pull every changeset it has not seen?

  The pull position of the engine is ONE timestamp, the maximum over all rows of the local
  database, whatever device they came from.  Over the file transport the pull loop then applies
  exactly the files of other devices after that position: a file below it that was never applied
  is passed over, in this cycle and in every later one.

  The folder may grow while the loop runs.  What holds of the files present at the start is proved
  for every schedule of arrivals.
-/
import Oneshim.Engine.SyncEngine
import Oneshim.Storage.Extraction
import Oneshim.Storage.FilePull
import Oneshim.Storage.Watermark

namespace Oneshim

open Lib FileSyncTransport

/-- Both kinds of changesets hand on their watermark. -/
theorem applyChanges_newWatermark {me : String} {cs : ChangeSet} {db db' : Database}
    {result : SyncResult} (h : applyChanges me cs db = (.ok result, db')) :
    result.newWatermark = cs.watermark := by
  unfold applyChanges at h
  split at h
  · split at h
    · cases h
      rfl
    · nomatch (Prod.mk.inj h).1
  · split at h
    · cases h
      rfl
    · split at h
      · cases h
        rfl
      · nomatch (Prod.mk.inj h).1

variable {β : Type} {t : FileSyncTransport β} {engine : SyncEngine (SharedFolder β)}

/-! ## The pull loop over the folder -/

/-- The file was passed to `apply_changes`: the content it had when it was read, which is the
    content it has unless its device writes it anew. -/
def Passed (t : FileSyncTransport β) (net : SharedFolder β) (events : List SyncEvent)
    (name : String) : Prop :=
  ∃ g ∈ net.written, g.name = name ∧ ∃ cs, t.codec.decrypt g.data = .ok cs ∧
    SyncEvent.applied cs ∈ events

/-- A pull through the port: the environment moves, then the folder is read. -/
theorem port_pull {since : Hlc} {net net' : SharedFolder β}
    {r : Except CoreError (Option ChangeSet)} (h : t.port.pull since net = (r, net')) :
    net' = net.tick.2 ∧ t.pull net.tick.1.fault since net'.files = r := by
  cases h
  exact ⟨rfl, rfl⟩

/-- **The pull loop applies the files after its start**: every file of another device that is there
    and lies after `since` is passed, and nothing at or before `since` is. -/
theorem pullLoop_passed (hport : engine.transport = t.port) {fuel : Nat} {since : Hlc}
    {m : Option SyncResult} {w w' : World (SharedFolder β)}
    {m' : Option SyncResult} {events : List SyncEvent}
    (hwritten : ∀ f ∈ w.net.written, WrittenByPush t.codec f)
    (hloop : engine.pullLoop fuel since m w = some (.ok m', w', events)) :
    (∀ f ∈ w.net.files.rows, ∀ h, t.After since f.name h → Passed t w.net events f.name) ∧
    (∀ cs, SyncEvent.applied cs ∈ events → since < cs.watermark) := by
  induction fuel generalizing since m w events with
  | zero =>
    obtain ⟨_, hfuel, -⟩ := engine.pullLoop_cases hloop
    nomatch hfuel
  | succ fuel ih =>
    obtain ⟨fuel', hfuel, hcases⟩ := engine.pullLoop_cases hloop
    cases hfuel
    rw [hport] at hcases
    rcases hcases with ⟨e, net, -, hr, -⟩ | ⟨net, hpull, -, -, rfl⟩ | ⟨cs, net, hpull, hcases⟩
    · nomatch hr
    · -- nothing left: no file lies after `since`
      obtain ⟨rfl, hfile⟩ := port_pull hpull
      refine ⟨?_, fun cs hcs => (nomatch hcs)⟩
      intro f hf h hafter
      obtain ⟨g, hg, hname⟩ := SharedFolder.tick_keeps hf
      exact absurd (hname ▸ hafter) (pull_ok_none hfile g hg h)
    · obtain ⟨rfl, hfile⟩ := port_pull hpull
      obtain ⟨f₀, hf₀, h₀, hlow, hopen⟩ := pull_ok_some hfile
      have hfrom : ∀ g ∈ w.net.tick.2.written, WrittenByPush t.codec g :=
        fun g hg => hwritten g (SharedFolder.written_tick hg)
      have hf₀w : f₀ ∈ w.net.tick.2.written := List.mem_append_left _ hf₀
      -- the file read is the lowest, and its changeset carries its timestamp
      have hwm : h₀ = cs.watermark := ((hfrom f₀ hf₀w).decrypt hopen).2.2 h₀ hlow.after.1
      have hlt : since < cs.watermark := hwm ▸ hlow.after.2
      rcases hcases with ⟨e, db, -, hr, -⟩ | ⟨result, db, rest, happly, hrest, rfl⟩
      · nomatch hr
      · rw [applyChanges_newWatermark happly] at hrest
        obtain ⟨ihall, ihbelow⟩ := ih (show ∀ f ∈ w.net.tick.2.written, _ from hfrom) hrest
        constructor
        · intro f hf h hafter
          obtain ⟨g, hg, hname⟩ := SharedFolder.tick_keeps hf
          have hle : cs.watermark ≤ h := hwm ▸ hlow.le g hg h (hname ▸ hafter)
          rcases hle.eq_or_lt with heq | hlt'
          · -- the same timestamp: it is the file just read
            have hsame : f₀.name = g.name := by
              refine WrittenByPush.name_eq (hfrom f₀ hf₀w) (hfrom g (List.mem_append_left _ hg))
                hlow.after.1 ?_
              rw [hname, hafter.1, hwm, heq]
            exact ⟨f₀, SharedFolder.written_tick hf₀w, hsame.trans hname, cs, hopen,
              List.mem_cons_self⟩
          · obtain ⟨x, hx, hxname, csx, hopenx, hin⟩ := ihall g hg h ⟨hname ▸ hafter.1, hlt'⟩
            exact ⟨x, SharedFolder.written_tick hx, hxname.trans hname, csx, hopenx,
              List.mem_cons_of_mem _ hin⟩
        · intro cs' hcs'
          rcases List.mem_cons.mp hcs' with heq | hin
          · cases heq
            exact hlt
          · exact hlt.trans (ihbelow cs' hin)

/-! ## A cycle over the folder -/

/-- A data file of another device that no earlier cycle applied. -/
structure Unseen (t : FileSyncTransport β) (earlier : String → Prop) (f : FolderFile β) :
    Prop where
  remote : ∃ h, t.remoteHlc f.name = some h
  data : ∃ cs, t.codec.decrypt f.data = .ok cs ∧ cs.kind = .data
  new : ¬ earlier f.name

/-- What an engine has applied in a cycle, from a folder of pushed files: nothing when a gate is
    closed, and else what lies after the local watermark. -/
theorem runCycle_passed (hport : engine.transport = t.port) {fuel now : Nat}
    {w w' : World (SharedFolder β)} {r : Option SyncResult} {events : List SyncEvent}
    (hwritten : ∀ f ∈ w.net.written, WrittenByPush t.codec f)
    (hrun : engine.runCycle fuel now w = some (.ok r, w', events)) :
    ((SyncEngine.syncPermitted w = false ∨ SyncEngine.deletionDue w = true) ∧
      ∀ cs, SyncEvent.applied cs ∉ events) ∨
    (SyncEngine.syncPermitted w = true ∧ SyncEngine.deletionDue w = false ∧
      ∃ position, engine.extractor.localWatermark w.db = .ok position ∧
        (∀ f ∈ w.net.files.rows, ∀ h, t.After position f.name h →
          Passed t w.net events f.name) ∧
        ∀ cs, SyncEvent.applied cs ∈ events → position < cs.watermark) := by
  rcases engine.runCycle_cases hrun with ⟨hgate, -, rfl, -⟩ | ⟨-, hdue, w₁, hpush, -⟩ |
    ⟨hopen, hdue, hcases⟩
  · exact .inl ⟨.inl hgate, fun cs hcs => (nomatch hcs)⟩
  · refine .inl ⟨.inr hdue, fun cs hcs => ?_⟩
    rcases engine.pushDeletionEvent_cases hpush with ⟨_, _, -, -, -, rfl⟩ | ⟨_, -, -, -, rfl⟩
    · nomatch List.mem_singleton.mp hcs
    · nomatch List.mem_singleton.mp hcs
  · right
    rcases hcases with ⟨e, hr, -⟩ | ⟨position, hpos, hcases⟩
    · nomatch hr
    rcases hcases with ⟨e, w₁, hr, -⟩ | ⟨m, w₁, pulls, w₂, p, pushes, hloop, hphase, rfl, -, -⟩
    · nomatch hr
    obtain ⟨hall, hbelow⟩ := pullLoop_passed hport hwritten hloop
    refine ⟨hopen, hdue, position, hpos, ?_, ?_⟩
    · intro f hf h hafter
      obtain ⟨g, hg, hname, cs, hdec, hin⟩ := hall f hf h hafter
      exact ⟨g, hg, hname, cs, hdec, List.mem_append_left _ hin⟩
    · intro cs hcs
      rcases List.mem_append.mp hcs with hin | hin
      · exact hbelow cs hin
      · obtain ⟨_, _, heq⟩ := engine.pushPhase_events hphase _ hin
        nomatch heq

/-- **No unseen file is passed over, exactly when all lie after the local watermark**: a cycle
    that returns has applied every unseen data file of the folder if and only if there is none, or
    the gates are open and the single pull position is below all of them. -/
theorem unseen_passed_iff (hport : engine.transport = t.port) {fuel now : Nat}
    {w w' : World (SharedFolder β)} {r : Option SyncResult} {events : List SyncEvent}
    (hwritten : ∀ f ∈ w.net.written, WrittenByPush t.codec f) (earlier : String → Prop)
    (hrun : engine.runCycle fuel now w = some (.ok r, w', events)) :
    (∀ f ∈ w.net.files.rows, Unseen t earlier f → Passed t w.net events f.name) ↔
    (∀ f ∈ w.net.files.rows, ¬ Unseen t earlier f) ∨
    (SyncEngine.syncPermitted w = true ∧ SyncEngine.deletionDue w = false ∧
      ∀ position, engine.extractor.localWatermark w.db = .ok position →
        ∀ f ∈ w.net.files.rows, Unseen t earlier f →
          ∀ h, t.remoteHlc f.name = some h → position < h) := by
  constructor
  · intro hall
    by_cases hnone : ∀ f ∈ w.net.files.rows, ¬ Unseen t earlier f
    · exact .inl hnone
    · right
      push Not at hnone
      obtain ⟨f₀, hf₀, hunseen₀⟩ := hnone
      rcases runCycle_passed hport hwritten hrun with ⟨-, hquiet⟩ |
        ⟨hopen, hdue, position, hpos, -, hbelow⟩
      · obtain ⟨_, -, -, cs, -, hin⟩ := hall f₀ hf₀ hunseen₀
        exact absurd hin (hquiet cs)
      · refine ⟨hopen, hdue, ?_⟩
        intro position' hpos' f hf hunseen h hh
        rw [hpos] at hpos'
        cases hpos'
        obtain ⟨g, hg, hname, cs, hdec, hin⟩ := hall f hf hunseen
        have hwm : h = cs.watermark := ((hwritten g hg).decrypt hdec).2.2 h (hname ▸ hh)
        exact hwm ▸ hbelow cs hin
  · rintro (hnone | ⟨hopen, hdue, hafter⟩)
    · intro f hf hunseen
      exact absurd hunseen (hnone f hf)
    · intro f hf hunseen
      rcases runCycle_passed hport hwritten hrun with ⟨hgate, -⟩ | ⟨-, -, position, hpos, hall, -⟩
      · rw [hopen, hdue] at hgate
        rcases hgate with hgate | hgate
        · nomatch hgate
        · nomatch hgate
      · obtain ⟨h, hh⟩ := hunseen.remote
        exact hall f hf h ⟨hh, hafter position hpos f hf hunseen h hh⟩

/-! ## What an engine writes -/

/-- The engine, its extractor and its transport are built with one device id. -/
structure Wired (t : FileSyncTransport β) (engine : SyncEngine (SharedFolder β)) : Prop where
  port : engine.transport = t.port
  device : engine.deviceId = t.localDeviceId
  extractor : engine.extractor.deviceId = t.localDeviceId
  named : t.localDeviceId ≠ ""

/-- A push through the port leaves the changeset in a file of the watermark's own device. -/
theorem port_push {changes : ChangeSet} {net net' : SharedFolder β}
    (hfits : changes.watermark.Fits) (hdevice : changes.watermark.deviceId = t.localDeviceId)
    (hpush : t.port.push changes net = (.ok (), net')) :
    ∃ f ∈ net'.files.rows, HoldsChanges t changes f ∧ WrittenByPush t.codec f := by
  have hresult : (t.push net.tick.1.fault net.tick.1.seed changes net.tick.2.files).1 = .ok () :=
    congrArg Prod.fst hpush
  have hfiles : (t.push net.tick.1.fault net.tick.1.seed changes net.tick.2.files).2
      = net'.files := congrArg (fun p => p.2.files) hpush
  obtain ⟨data, hseal, hmem⟩ := push_writes (Prod.ext hresult hfiles)
  exact ⟨_, hmem, ⟨rfl, _, hseal⟩, _, changes, hseal, hfits, by rw [hdevice]⟩

/-- **A changeset that is pushed successfully lies in the folder**, sealed in the file named by the
    device and its watermark, and this is its own watermark's device. -/
theorem pushed_written (hwired : Wired t engine) {fuel now : Nat} (hnow : now < 2 ^ 64)
    {w w' : World (SharedFolder β)} {r : Except CoreError (Option SyncResult)}
    {events : List SyncEvent} (hrun : engine.runCycle fuel now w = some (r, w', events))
    {cs : ChangeSet} (hpushed : SyncEvent.pushed cs true ∈ events) :
    ∃ f ∈ w'.net.files.rows, HoldsChanges t cs f ∧ WrittenByPush t.codec f := by
  rcases engine.runCycle_cases hrun with ⟨-, -, rfl, -⟩ | ⟨-, -, w₁, hpush, hsame⟩ |
    ⟨-, -, hcases⟩
  · nomatch hpushed
  · rcases engine.pushDeletionEvent_cases hpush with ⟨_, _, -, -, -, rfl⟩ | ⟨net, hnet, -, rfl, rfl⟩
    · nomatch List.mem_singleton.mp hpushed
    · cases List.mem_singleton.mp hpushed
      rw [hwired.port] at hnet
      rw [hsame.net]
      exact port_push ⟨hnow, by show 0 < 2 ^ 32; omega⟩ hwired.device hnet
  · rcases hcases with ⟨e, -, -, rfl, -⟩ | ⟨position, -, hcases⟩
    · nomatch hpushed
    rcases hcases with ⟨e, w₁, -, hloop, -⟩ |
      ⟨m, w₁, pulls, w₂, p, pushes, hloop, hphase, rfl, hsame, -⟩
    · obtain ⟨_, heq⟩ := engine.pullLoop_events hloop _ hpushed
      nomatch heq
    rcases List.mem_append.mp hpushed with hin | hin
    · obtain ⟨_, heq⟩ := engine.pullLoop_events hloop _ hin
      nomatch heq
    rcases engine.pushPhase_cases hphase with ⟨_, _, -, -, -, rfl⟩ | ⟨cs', db, hget, hcases⟩
    · nomatch hin
    rcases hcases with ⟨-, -, -, rfl⟩ | ⟨-, _, _, -, -, -, rfl⟩ | ⟨-, net, hnet, -, rfl, rfl⟩
    · nomatch hin
    · nomatch List.mem_singleton.mp hin
    cases List.mem_singleton.mp hin
    -- a data changeset: its watermark is the extractor's maximum
    have hmax := (getChangesSince_ok hget).2.watermark
    rw [hwired.extractor] at hmax
    have hlt := computeMaxHlc_lt hmax
    rw [hwired.port] at hnet
    rw [hsame.net]
    exact port_push ⟨by omega, hlt.2⟩ (computeMaxHlc_deviceId hwired.named hmax) hnet

/-! ## Two devices and a folder -/

/-- Device `a` over the folder. -/
def folderEngine : SyncEngine (SharedFolder ChangeSet) where
  jsonReal := some
  extractor := { deviceId := "a", deviceName := "A" }
  mergerDeviceId := "a"
  transport := transportA.port
  deviceId := "a"
  deviceName := "A"

/-- A parameter snapshot stamped at `wall` by `device`. -/
def snapshotAt (id : String) (wall : Int64) (device : String) : ParamSnapshotRow where
  id := id
  createdAt := "2026-01-01T00:00:00Z"
  preset := "balanced"
  paramsJson := "[]"
  stamp := ⟨wall, 0, device⟩

/-- What device `b` pushed at wall clock 50. -/
def changesB : ChangeSet where
  originDeviceId := "b"
  originDeviceName := "B"
  watermark := ⟨50, 0, "b"⟩
  paramSnapshots := [paramSnapshotJson (snapshotAt "b-1" 50 "b")]

/-- The file it lies in. -/
def fileB : FolderFile ChangeSet := ⟨changesetFilename "b" ⟨50, 0, "b"⟩, changesB⟩

/-- The folder with that file. -/
def folderB : SharedFolder ChangeSet := { files := ⟨[fileB], List.nodup_singleton _⟩ }

/-- A database with one row of device `a`, stamped at `wall`. -/
def databaseA (wall : Int64) : Database :=
  { Database.empty true with
    paramSnapshots := ⟨[snapshotAt "a-1" wall "a"], List.nodup_singleton _⟩ }

/-- Device `a` after its start. -/
def worldA (wall : Int64) : World (SharedFolder ChangeSet) :=
  folderEngine.new (databaseA wall) none folderB

theorem folderB_written : ∀ f ∈ folderB.written, WrittenByPush plainCodec f := by
  intro f hf
  cases List.mem_singleton.mp hf
  exact ⟨0, changesB, rfl, ⟨by decide, by decide⟩, rfl⟩

/-- The row that came from `b` is pushed. -/
theorem pulled_row_pushed : ∃ r w' events cs,
    folderEngine.runCycle 3 60 (worldA 10) = some (r, w', events) ∧
      SyncEvent.pushed cs true ∈ events ∧ ∃ f ∈ w'.net.files.rows,
        HoldsChanges transportA cs f ∧ WrittenByPush plainCodec f := by
  have hrun : ∃ r w' pulled cs,
      folderEngine.runCycle 3 60 (worldA 10) = some (r, w', [pulled, .pushed cs true]) :=
    ⟨_, _, _, _, rfl⟩
  obtain ⟨r, w', pulled, cs, hrun⟩ := hrun
  have hpushed : SyncEvent.pushed cs true ∈ [pulled, .pushed cs true] := by simp
  exact ⟨r, w', _, cs, hrun, hpushed,
    pushed_written (t := transportA) ⟨rfl, rfl, rfl, by decide⟩ (by decide) hrun hpushed⟩

theorem fileB_unseen : Unseen transportA (fun _ => False) fileB :=
  ⟨⟨⟨50, 0, "b"⟩, rfl⟩, ⟨changesB, rfl, rfl⟩, id⟩

/-- With the local row at 10, the file at 50 is applied. -/
theorem unseen_passed_below : ∃ r w' events,
    folderEngine.runCycle 3 60 (worldA 10) = some (.ok r, w', events) ∧
    Passed transportA folderB events fileB.name := by
  have hrun : ∃ r w' events,
      folderEngine.runCycle 3 60 (worldA 10) = some (.ok r, w', events) := ⟨_, _, _, rfl⟩
  obtain ⟨r, w', events, hrun⟩ := hrun
  refine ⟨r, w', events, hrun, ?_⟩
  refine (unseen_passed_iff (t := transportA) rfl folderB_written (fun _ => False) hrun).mpr
    (.inr ⟨rfl, rfl, ?_⟩) fileB List.mem_cons_self fileB_unseen
  intro position hpos f hf _ h hh
  cases List.mem_singleton.mp hf
  have hposition : position = ⟨10, 0, "a"⟩ := (Except.ok.inj hpos).symm
  have hhlc : h = ⟨50, 0, "b"⟩ := (Option.some.inj hh).symm
  rw [hposition, hhlc]
  decide

/-- With the local row at 100, the file at 50 is passed over. -/
theorem unseen_passed_over :
    ¬ ∀ (t : FileSyncTransport ChangeSet) (engine : SyncEngine (SharedFolder ChangeSet))
      (fuel now : Nat) (w w' : World (SharedFolder ChangeSet)) (r : Option SyncResult)
      (events : List SyncEvent) (earlier : String → Prop), Wired t engine →
      (∀ f ∈ w.net.written, WrittenByPush t.codec f) →
      engine.runCycle fuel now w = some (.ok r, w', events) →
      ∀ f ∈ w.net.files.rows, Unseen t earlier f → Passed t w.net events f.name := by
  intro hall
  have hrun : ∃ r w', folderEngine.runCycle 3 60 (worldA 100) = some (.ok r, w', []) :=
    ⟨_, _, rfl⟩
  obtain ⟨r, w', hrun⟩ := hrun
  obtain ⟨_, -, -, _, -, hin⟩ := hall transportA folderEngine 3 60 (worldA 100) w' r []
    (fun _ => False) ⟨rfl, rfl, rfl, by decide⟩ folderB_written hrun fileB List.mem_cons_self
    fileB_unseen
  nomatch hin

end Oneshim
