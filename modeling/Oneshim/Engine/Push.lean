/-
  Does a push carry every row?

  The push position of the engine is ONE timestamp in memory: a cycle pushes the rows after it and,
  when the push succeeds, moves it to the maximum of the database.  A row is safe as long as it
  lies after that position or has been pushed; `Covered` says so, and a cycle keeps it for every
  row that was there before.  Three things can put an unpushed row below the position:

  * a restart: the position is seeded from the database, unpushed rows included;
  * a pull, of a row that is older than the position;
  * a write below the position, after a pulled deletion has lowered the maximum of the database.

  Runs are over any transport, pushes that fail included.
-/
import Mathlib.Logic.Relation
import Oneshim.Engine.Pull
import Oneshim.Engine.Revocation
import Oneshim.Storage.SyncRows

namespace Oneshim

open Lib

/-! ## Pairs and positions -/

/-- The pair `(wall_ms, counter)` of the stamp is above the one of the position. -/
def Stamp.Above (position : Hlc) (s : Stamp) : Prop :=
  (position.wallMs : Int) < s.hlcWallMs.toInt ∨
    ((position.wallMs : Int) = s.hlcWallMs.toInt ∧ (position.counter : Int) < s.hlcCounter.toInt)

/-- The pair of `a` is below the pair of `b`. -/
def Stamp.PairLt (a b : Stamp) : Prop :=
  a.hlcWallMs < b.hlcWallMs ∨ (a.hlcWallMs = b.hlcWallMs ∧ a.hlcCounter < b.hlcCounter)

/-- What is above the position in its pair is extracted, whoever owns it. -/
theorem changedSince_of_above {position : Hlc} {s : Stamp} (h : s.Above position) :
    ChangedSince position s := by
  have hw := Int64.toInt_lt s.hlcWallMs
  have hc := Int64.toInt_lt s.hlcCounter
  have hwall : (Int64.ofNat position.wallMs).toInt = position.wallMs := by
    apply Int64.toInt_ofNat_of_lt
    rcases h with h | ⟨h, -⟩
    · omega
    · omega
  simp only [ChangedSince, Stamp.changedSince, Bool.or_eq_true, Bool.and_eq_true,
    decide_eq_true_eq, beq_iff_eq]
  rcases h with hlt | ⟨heq, hlt⟩
  · exact .inl (.inl (Int64.lt_iff_toInt_lt.mpr (by omega)))
  · have hcounter : (bindU32 position.counter).toInt = position.counter :=
      Int64.toInt_ofNat_of_lt (by omega)
    exact .inl (.inr ⟨Int64.toInt_inj.mp (by omega), Int64.lt_iff_toInt_lt.mpr (by omega)⟩)

/-- What reads as a later timestamp is extracted. -/
theorem changedSince_of_readHlc {position h : Hlc} {s : Stamp} (hread : s.readHlc = some h)
    (hlt : position < h) : ChangedSince position s := by
  obtain ⟨hw, hc, -⟩ := Stamp.fits_of_readHlc hread
  rw [Stamp.eq_of_readHlc hread, Hlc.lt_iff] at hlt
  dsimp only at hlt
  rcases hlt with hlt | ⟨heq, hlt | ⟨hceq, hdev⟩⟩
  · exact changedSince_of_above (.inl (by omega))
  · exact changedSince_of_above (.inr ⟨by omega, by omega⟩)
  · -- the same pair: the device decides
    have hwall : Int64.ofNat position.wallMs = s.hlcWallMs := by
      rw [heq]
      exact ofNat_toNat_toInt hw
    have hcounter : bindU32 position.counter = s.hlcCounter := by
      rw [hceq, bindU32]
      exact ofNat_toNat_toInt hc
    simp only [ChangedSince, Stamp.changedSince, Bool.or_eq_true, Bool.and_eq_true,
      decide_eq_true_eq, beq_iff_eq]
    exact .inr ⟨⟨hwall.symm, hcounter.symm⟩, hdev⟩

/-- Giving a row an owner does not take it out of an extraction. -/
theorem changedSince_backfill {deviceId : String} {position : Hlc} {s : Stamp}
    (h : ChangedSince position s) : ChangedSince position (s.backfill deviceId) := by
  unfold Stamp.backfill
  split
  · next hempty =>
    simp only [ChangedSince, Stamp.changedSince, Bool.or_eq_true, Bool.and_eq_true,
      decide_eq_true_eq, beq_iff_eq] at h ⊢
    rcases h with h | ⟨-, hdev⟩
    · exact .inl h
    · rw [hempty] at hdev
      exact absurd hdev (not_lt.mpr (by
        rw [← not_lt, String.lt_iff_toList_lt]
        exact List.not_lt_nil _))
  · exact h

/-! ## What a cycle does to the rows and to the position -/

variable {events : List SyncEvent} {r : Except CoreError (Option SyncResult)}

section Cycle

variable {σ : Type} {engine : SyncEngine σ}

/-- The data changesets that were pushed successfully. -/
def pushedData (events : List SyncEvent) : List ChangeSet :=
  events.filterMap (fun
    | .pushed cs true => if cs.kind = .data then some cs else none
    | _ => none)

/-- The data changesets among the events that were pushed with success. -/
theorem mem_pushedData {cs : ChangeSet} :
    cs ∈ pushedData events ↔ SyncEvent.pushed cs true ∈ events ∧ cs.kind = .data := by
  simp only [pushedData, List.mem_filterMap]
  constructor
  · rintro ⟨e, he, hsome⟩
    split at hsome
    · next cs' =>
      split at hsome
      · next hkind =>
        cases hsome
        exact ⟨he, hkind⟩
      · nomatch hsome
    · nomatch hsome
  · rintro ⟨he, hkind⟩
    exact ⟨_, he, by simp only [hkind, if_true]⟩

theorem pushedData_append (xs ys : List SyncEvent) :
    pushedData (xs ++ ys) = pushedData xs ++ pushedData ys :=
  List.filterMap_append

variable {w w' : World σ}

/-- The pull loop brings in nothing but rows of the changesets it applies, and leaves the engine's
    own fields alone. -/
theorem pullLoop_brings {fuel : Nat} {since : Hlc} {m : Option SyncResult}
    (h : engine.pullLoop fuel since m w = some (r, w', events)) :
    w'.lastPushWatermark = w.lastPushWatermark ∧
    ∀ x ∈ w'.db.syncRows, x ∈ w.db.syncRows ∨
      ∃ cs, SyncEvent.applied cs ∈ events ∧ ∃ j ∈ cs.jsonRows, Stamped j x.stamp := by
  induction fuel generalizing since m w events with
  | zero => nomatch h
  | succ fuel ih =>
    obtain ⟨fuel', hfuel, hcases⟩ := engine.pullLoop_cases h
    cases hfuel
    rcases hcases with ⟨_, _, -, -, rfl, rfl⟩ | ⟨_, -, -, rfl, rfl⟩ | ⟨cs, net, -, hcases⟩
    · exact ⟨rfl, fun x hx => .inl hx⟩
    · exact ⟨rfl, fun x hx => .inl hx⟩
    · rcases hcases with ⟨_, db, happly, -, rfl, rfl⟩ | ⟨result, db, rest, happly, hrest, rfl⟩
      · refine ⟨rfl, fun x hx => ?_⟩
        rcases applyChanges_brings happly x hx with hold | hnew
        · exact .inl hold
        · exact .inr ⟨cs, List.mem_cons_self, hnew⟩
      · obtain ⟨hposition, hbrings⟩ := ih hrest
        refine ⟨hposition, fun x hx => ?_⟩
        rcases hbrings x hx with hmid | ⟨cs', hcs', hnew⟩
        · rcases applyChanges_brings happly x hmid with hold | hnew
          · exact .inl hold
          · exact .inr ⟨cs, List.mem_cons_self, hnew⟩
        · exact .inr ⟨cs', List.mem_cons_of_mem _ hcs', hnew⟩

/-- The push phase changes no owned row. -/
theorem pushPhase_ownedRows {p : Except CoreError Unit} (h : engine.pushPhase w = (p, w', events)) :
    w'.db.ownedRows engine.extractor.deviceId = w.db.ownedRows engine.extractor.deviceId := by
  have hbackfill : ∀ {x db}, engine.extractor.getChangesSince engine.jsonReal w.lastPushWatermark
      w.db = (x, db) → db = backfillOriginDeviceId engine.extractor.deviceId w.db := by
    intro x db hget
    unfold SqliteSyncExtractor.getChangesSince at hget
    dsimp only at hget
    split at hget
    · cases hget
      rfl
    · cases hget
      rfl
  rcases engine.pushPhase_cases h with ⟨_, db, hget, -, rfl, -⟩ | ⟨cs, db, hget, hcases⟩
  · rw [show _ = _ from hbackfill hget, ownedRows_backfill]
  · rcases hcases with ⟨-, -, rfl, -⟩ | ⟨-, _, _, -, -, rfl, -⟩ | ⟨-, _, -, -, rfl, -⟩
    · rw [show _ = _ from hbackfill hget, ownedRows_backfill]
    · rw [show _ = _ from hbackfill hget, ownedRows_backfill]
    · rw [show _ = _ from hbackfill hget, ownedRows_backfill]

/-- The rows the pull loop of a cycle leaves, whatever the loop returns. -/
def AfterPull (engine : SyncEngine σ) (fuel : Nat) (w : World σ) (x : SyncRow) : Prop :=
  ∃ position r w₁ pulls, engine.extractor.localWatermark w.db = .ok position ∧
    engine.pullLoop fuel position none w = some (r, w₁, pulls) ∧
    x ∈ w₁.db.ownedRows engine.extractor.deviceId

/-- **Where the rows after a cycle come from**: they were there before, or its pulls brought them
    in. -/
theorem cycle_rows {fuel now : Nat} (hrun : engine.runCycle fuel now w = some (r, w', events)) :
    ∀ x ∈ w'.db.ownedRows engine.extractor.deviceId,
      x ∈ w.db.ownedRows engine.extractor.deviceId ∨ AfterPull engine fuel w x := by
  rcases engine.runCycle_cases hrun with ⟨-, -, -, hsame⟩ | ⟨-, -, w₁, hpush, hsame⟩ |
    ⟨-, -, hcases⟩
  · rw [hsame.db]
    exact fun x hx => .inl hx
  · rw [hsame.db]
    rcases engine.pushDeletionEvent_cases hpush with ⟨_, _, -, -, rfl, -⟩ | ⟨_, -, -, rfl, -⟩
    · exact fun x hx => .inl hx
    · exact fun x hx => .inl hx
  · rcases hcases with ⟨_, -, -, -, hsame⟩ | ⟨position, hposition, hcases⟩
    · rw [hsame.db]
      exact fun x hx => .inl hx
    · rcases hcases with ⟨_, w₁, -, hloop, hsame⟩ |
        ⟨m, w₁, pulls, w₂, p, pushes, hloop, hphase, -, hsame, -⟩
      · rw [hsame.db]
        exact fun x hx => .inr ⟨position, _, w₁, events, hposition, hloop, hx⟩
      · rw [hsame.db, pushPhase_ownedRows hphase]
        exact fun x hx => .inr ⟨position, _, w₁, pulls, hposition, hloop, hx⟩

/-- The pull loop pushes nothing. -/
theorem pushedData_pullLoop {fuel : Nat} {since : Hlc} {m : Option SyncResult}
    (h : engine.pullLoop fuel since m w = some (r, w', events)) : pushedData events = [] := by
  rw [List.eq_nil_iff_forall_not_mem]
  intro cs hcs
  obtain ⟨_, heq⟩ := engine.pullLoop_events h _ (mem_pushedData.mp hcs).1
  nomatch heq

/-- No data is pushed and the position stays, or one changeset with every owned row after the
    position. -/
def PushesAll (engine : SyncEngine σ) (w w' : World σ) (events : List SyncEvent) : Prop :=
    (pushedData events = [] ∧ w'.lastPushWatermark = w.lastPushWatermark) ∨
    ∃ cs, pushedData events = [cs] ∧ w'.lastPushWatermark = cs.watermark ∧
      ∀ x ∈ w'.db.ownedRows engine.extractor.deviceId,
        ChangedSince w.lastPushWatermark x.stamp →
          Contains engine.jsonReal engine.extractor.syncConfig cs x

/-- A push phase pushes all that has changed, or nothing. -/
theorem pushPhase_pushes {p : Except CoreError Unit} (h : engine.pushPhase w = (p, w', events)) :
    PushesAll engine w w' events := by
  rcases engine.pushPhase_cases h with ⟨_, _, -, -, rfl, rfl⟩ | ⟨cs, db, hget, hcases⟩
  · exact .inl ⟨rfl, rfl⟩
  rcases hcases with ⟨-, -, rfl, rfl⟩ | ⟨-, _, _, -, -, rfl, rfl⟩ | ⟨-, net, -, -, rfl, rfl⟩
  · exact .inl ⟨rfl, rfl⟩
  · exact .inl ⟨rfl, rfl⟩
  · right
    obtain ⟨hdb, hex⟩ := getChangesSince_ok hget
    refine ⟨cs, by simp only [pushedData, List.filterMap_cons, hex.kind, if_true,
      List.filterMap_nil], rfl, ?_⟩
    intro x hx hafter
    refine contains_of_extracted hex ?_ hafter
    -- the extracted database is backfilled: owned rows are its rows
    show x ∈ db.syncRows
    rw [hdb, syncRows_backfill]
    have hx' : x ∈ db.ownedRows engine.extractor.deviceId := hx
    rw [hdb, ownedRows_backfill] at hx'
    exact hx'

/-- A cycle pushes what its push phase pushes. -/
theorem cycle_pushes {fuel now : Nat} (hrun : engine.runCycle fuel now w = some (r, w', events)) :
    PushesAll engine w w' events := by
  rcases engine.runCycle_cases hrun with ⟨-, -, rfl, hsame⟩ | ⟨-, -, w₁, hpush, hsame⟩ |
    ⟨-, -, hcases⟩
  · exact .inl ⟨rfl, hsame.lastPushWatermark⟩
  · left
    rw [hsame.lastPushWatermark]
    rcases engine.pushDeletionEvent_cases hpush with ⟨_, _, -, -, rfl, rfl⟩ | ⟨_, -, -, rfl, rfl⟩
    · exact ⟨rfl, rfl⟩
    · exact ⟨rfl, rfl⟩
  · rcases hcases with ⟨_, -, -, rfl, hsame⟩ | ⟨position, -, hcases⟩
    · exact .inl ⟨rfl, hsame.lastPushWatermark⟩
    rcases hcases with ⟨_, w₁, -, hloop, hsame⟩ |
      ⟨m, w₁, pulls, w₂, p, pushes, hloop, hphase, rfl, hsame, -⟩
    · exact .inl ⟨pushedData_pullLoop hloop,
        hsame.lastPushWatermark.trans (pullLoop_brings hloop).1⟩
    rw [PushesAll, pushedData_append, pushedData_pullLoop hloop, List.nil_append,
      hsame.lastPushWatermark, hsame.db, ← (pullLoop_brings hloop).1]
    exact pushPhase_pushes hphase

end Cycle

/-! ## Runs -/

section Runs

variable {σ : Type} {engine : SyncEngine σ}

/-- A local write: the database now holds `row`, its pair is above every pair that was there, and
    nothing else is new. -/
structure LocalWrite (db db' : Database) (row : SyncRow) : Prop where
  mem : row ∈ db'.syncRows
  others : ∀ r ∈ db'.syncRows, r = row ∨ r ∈ db.syncRows
  above : ∀ r ∈ db.syncRows, r.stamp.PairLt row.stamp

/-- The world; the data changesets this device has pushed successfully; and the rows that came in
    LATE, at or below the push position of their time. -/
structure PushHistory (σ : Type) where
  world : World σ
  pushed : List ChangeSet := []
  late : SyncRow → Prop := fun _ => False

/-- The history after a write or a cycle. -/
def PushHistory.afterStep (deviceId : String) (h : PushHistory σ) (w : World σ)
    (events : List SyncEvent) : PushHistory σ where
  world := w
  pushed := h.pushed ++ pushedData events
  late := fun x => h.late x ∨ (x ∈ w.db.ownedRows deviceId ∧
    x ∉ h.world.db.ownedRows deviceId ∧ ¬ ChangedSince h.world.lastPushWatermark x.stamp)

/-- The steps of a device. -/
inductive PushAction where
  | write (row : SyncRow)
  | cycle (fuel now : Nat)
  | restart

/-- One step of a device. -/
inductive PushStep (engine : SyncEngine σ) :
    PushHistory σ → PushAction → PushHistory σ → Prop
  | write {h : PushHistory σ} {db : Database} {row : SyncRow} :
      LocalWrite h.world.db db row →
      PushStep engine h (.write row)
        (h.afterStep engine.extractor.deviceId { h.world with db } [])
  | cycle {h : PushHistory σ} {fuel now : Nat} {r : Except CoreError (Option SyncResult)}
      {w : World σ} {events : List SyncEvent} :
      engine.runCycle fuel now h.world = some (r, w, events) →
      PushStep engine h (.cycle fuel now) (h.afterStep engine.extractor.deviceId w events)
  | restart {h : PushHistory σ} {cm : Option ConsentManager} :
      PushStep engine h .restart { h with world := engine.new h.world.db cm h.world.net }

/-- The row is in a changeset that was pushed successfully. -/
def Pushed (engine : SyncEngine σ) (pushed : List ChangeSet) (x : SyncRow) : Prop :=
  ∃ cs ∈ pushed, Contains engine.jsonReal engine.extractor.syncConfig cs x

/-- The row lies after the push position, or was pushed. -/
def Covered (engine : SyncEngine σ) (h : PushHistory σ) (x : SyncRow) : Prop :=
  ChangedSince h.world.lastPushWatermark x.stamp ∨ Pushed engine h.pushed x

/-- The owned rows of the history's database. -/
def PushHistory.rows (engine : SyncEngine σ) (h : PushHistory σ) : List SyncRow :=
  h.world.db.ownedRows engine.extractor.deviceId

theorem Pushed.append_left {xs ys : List ChangeSet} {x : SyncRow} (h : Pushed engine xs x) :
    Pushed engine (xs ++ ys) x := by
  obtain ⟨cs, hcs, hc⟩ := h
  exact ⟨cs, List.mem_append_left _ hcs, hc⟩

variable {h : PushHistory σ}

/-- **The step lemma of a cycle**, for the rows that are not exempt: if all are covered and what is
    pulled lies after the push position, then all are covered afterwards, and when data was pushed
    all of them are pushed. -/
theorem cycle_covers {exempt : SyncRow → Prop} {fuel now : Nat} {w : World σ}
    (hrun : engine.runCycle fuel now h.world = some (r, w, events))
    (hcovered : ∀ x ∈ h.rows engine, exempt x ∨ Covered engine h x)
    (hnew : ∀ x ∈ w.db.ownedRows engine.extractor.deviceId, x ∉ h.rows engine →
      exempt x ∨ ChangedSince h.world.lastPushWatermark x.stamp) :
    (∀ x ∈ (h.afterStep engine.extractor.deviceId w events).rows engine,
      exempt x ∨ Covered engine (h.afterStep engine.extractor.deviceId w events) x) ∧
    (pushedData events ≠ [] → ∀ x ∈ (h.afterStep engine.extractor.deviceId w events).rows engine,
      exempt x ∨ Pushed engine (h.pushed ++ pushedData events) x) := by
  have hbefore : ∀ x ∈ w.db.ownedRows engine.extractor.deviceId,
      exempt x ∨ ChangedSince h.world.lastPushWatermark x.stamp ∨ Pushed engine h.pushed x := by
    intro x hx
    by_cases hold : x ∈ h.rows engine
    · exact hcovered x hold
    · exact (hnew x hx hold).imp_right Or.inl
  rcases cycle_pushes hrun with ⟨hnone, hposition⟩ | ⟨cs, hone, -, hcontains⟩
  · -- nothing pushed: the position stays, and so does the case
    refine ⟨fun x hx => ?_, fun hne => absurd hnone hne⟩
    rcases hbefore x hx with hex | hafter | hpushed
    · exact .inl hex
    · refine .inr (.inl ?_)
      show ChangedSince w.lastPushWatermark x.stamp
      rw [hposition]
      exact hafter
    · exact .inr (.inr hpushed.append_left)
  · have hall : ∀ x ∈ w.db.ownedRows engine.extractor.deviceId,
        exempt x ∨ Pushed engine (h.pushed ++ pushedData events) x := by
      intro x hx
      rcases hbefore x hx with hex | hafter | hpushed
      · exact .inl hex
      · refine .inr ⟨cs, ?_, hcontains x hx hafter⟩
        rw [hone]
        exact List.mem_append_right _ List.mem_cons_self
      · exact .inr hpushed.append_left
    exact ⟨fun x hx => (hall x hx).imp_right Or.inr, fun _ => hall⟩

/-- The step lemma of a write, for the rows that are not exempt. -/
theorem write_covers {exempt : SyncRow → Prop} {db : Database}
    (hcovered : ∀ x ∈ h.rows engine, exempt x ∨ Covered engine h x)
    (hnew : ∀ x ∈ db.ownedRows engine.extractor.deviceId, x ∉ h.rows engine →
      exempt x ∨ ChangedSince h.world.lastPushWatermark x.stamp) :
    let h' := h.afterStep engine.extractor.deviceId { h.world with db } []
    ∀ x ∈ h'.rows engine, exempt x ∨ Covered engine h' x := by
  intro h' x hx
  have hpushed : h'.pushed = h.pushed := List.append_nil _
  unfold Covered
  rw [hpushed]
  by_cases hold : x ∈ h.rows engine
  · exact hcovered x hold
  · exact (hnew x hx hold).imp_right Or.inl

/-! ## Across restarts -/

/-- The steps that put no unpushed row below the push position: a write is above it, a pull brings
    in no row at or below it, and an engine starts only when every row has been pushed. -/
def Steady (engine : SyncEngine σ) (h : PushHistory σ) : PushAction → Prop
  | .write row => row.stamp.Above h.world.lastPushWatermark
  | .cycle fuel _ => ∀ x, AfterPull engine fuel h.world x → x ∉ h.rows engine →
      ChangedSince h.world.lastPushWatermark x.stamp
  | .restart => ∀ x ∈ h.rows engine, Pushed engine h.pushed x

/-- A cycle is steady when all it pulls lies after the push position. -/
theorem steady_of_pulled {fuel now : Nat}
    (hpulled : ∀ position r w pulls, engine.extractor.localWatermark h.world.db = .ok position →
      engine.pullLoop fuel position none h.world = some (r, w, pulls) →
      ∀ cs, SyncEvent.applied cs ∈ pulls → ∀ j ∈ cs.jsonRows, ∀ hlc, extractHlc j = .ok hlc →
        h.world.lastPushWatermark < hlc) :
    Steady engine h (.cycle fuel now) := by
  rintro x ⟨position, r, w, pulls, hposition, hloop, hx⟩ hnew
  obtain ⟨y, hy, rfl⟩ := List.mem_map.mp hx
  rcases (pullLoop_brings hloop).2 y hy with hold | ⟨cs, hcs, j, hj, hlc, hextract, hread⟩
  · exact absurd (List.mem_map_of_mem hold) hnew
  · rw [SyncRow.stamp_backfill]
    exact changedSince_backfill (changedSince_of_readHlc hread
      (hpulled position r w pulls hposition hloop cs hcs j hj hlc hextract))

/-- **The step lemma**: a steady step keeps every row covered. -/
theorem covered_step {h h' : PushHistory σ} {a : PushAction} (hsteady : Steady engine h a)
    (hstep : PushStep engine h a h') (hcovered : ∀ x ∈ h.rows engine, Covered engine h x) :
    ∀ x ∈ h'.rows engine, Covered engine h' x := by
  have hcov : ∀ x ∈ h.rows engine, False ∨ Covered engine h x :=
    fun x hx => .inr (hcovered x hx)
  cases hstep with
  | write hwrite =>
    refine fun x hx => (write_covers hcov ?_ x hx).resolve_left id
    intro y hy hnew
    obtain ⟨z, hz, rfl⟩ := List.mem_map.mp hy
    rcases hwrite.others z hz with rfl | hold
    · rw [SyncRow.stamp_backfill]
      exact .inr (changedSince_backfill (changedSince_of_above hsteady))
    · exact absurd (List.mem_map_of_mem hold) hnew
  | cycle hrun =>
    refine fun x hx => ((cycle_covers hrun hcov ?_).1 x hx).resolve_left id
    intro y hy hnew
    exact .inr (hsteady y ((cycle_rows hrun y hy).resolve_left hnew) hnew)
  | restart => exact fun x hx => .inr (hsteady x hx)

/-- **The run lemma.** -/
theorem covered_of_run {h₀ h : PushHistory σ}
    (hstart : ∀ x ∈ h₀.rows engine, Pushed engine h₀.pushed x)
    (hrun : Relation.ReflTransGen
      (fun a b => ∃ act, Steady engine a act ∧ PushStep engine a act b) h₀ h) :
    ∀ x ∈ h.rows engine, Covered engine h x := by
  induction hrun with
  | refl => exact fun x hx => .inr (hstart x hx)
  | tail _ hstep ih =>
    obtain ⟨act, hsteady, hact⟩ := hstep
    exact covered_step hsteady hact ih

/-- **No row is lost on push along a steady run**: every row that no successful push contains is in
    the changeset of the next successful push. -/
theorem unpushed_rows_pushed {h₀ h : PushHistory σ}
    (hstart : ∀ x ∈ h₀.rows engine, Pushed engine h₀.pushed x)
    (hrun : Relation.ReflTransGen
      (fun a b => ∃ act, Steady engine a act ∧ PushStep engine a act b) h₀ h)
    {fuel now : Nat} {r : Except CoreError (Option SyncResult)} {w : World σ}
    {events : List SyncEvent} {cs : ChangeSet} (hsteady : Steady engine h (.cycle fuel now))
    (hcycle : engine.runCycle fuel now h.world = some (r, w, events))
    (hpush : SyncEvent.pushed cs true ∈ events) (hkind : cs.kind = .data) :
    ∀ x ∈ w.db.ownedRows engine.extractor.deviceId, ¬ Pushed engine h.pushed x →
      Contains engine.jsonReal engine.extractor.syncConfig cs x := by
  have hcov : ∀ x ∈ h.rows engine, False ∨ Covered engine h x :=
    fun x hx => .inr (covered_of_run hstart hrun x hx)
  have hin : cs ∈ pushedData events := mem_pushedData.mpr ⟨hpush, hkind⟩
  have hone : pushedData events = [cs] := by
    rcases cycle_pushes hcycle with ⟨hnone, -⟩ | ⟨cs', hone, -⟩
    · rw [hnone] at hin
      nomatch hin
    · rw [hone] at hin ⊢
      rw [List.mem_singleton.mp hin]
  have hpushed := (cycle_covers hcycle hcov (fun y hy hnew =>
    Or.inr (hsteady y ((cycle_rows hcycle y hy).resolve_left hnew) hnew))).2
    (List.ne_nil_of_mem hin)
  intro x hx hnot
  obtain ⟨cs', hcs', hcontains⟩ := (hpushed x hx).resolve_left id
  rw [hone] at hcs'
  rcases List.mem_append.mp hcs' with hbefore | hnow
  · exact absurd ⟨cs', hbefore, hcontains⟩ hnot
  · rw [List.mem_singleton.mp hnow] at hcontains
    exact hcontains

/-! ## Within one lifetime -/

/-- A step of one engine lifetime: a write or a cycle. -/
def LifetimeStep (engine : SyncEngine σ) (h h' : PushHistory σ) : Prop :=
  (∃ row, PushStep engine h (.write row) h') ∨ ∃ fuel now, PushStep engine h (.cycle fuel now) h'

/-- Rows that need not be pushed: not above the seed, or late. -/
def Excused (seed : Hlc) (h : PushHistory σ) (x : SyncRow) : Prop :=
  ¬ x.stamp.Above seed ∨ h.late x

theorem Excused.afterStep {seed : Hlc} {deviceId : String} {w : World σ} {x : SyncRow}
    (hx : Excused seed h x) :
    Excused seed (h.afterStep deviceId w events) x :=
  hx.imp_right Or.inl

/-- What a step brings in is after the push position, or late. -/
theorem excused_or_after {seed : Hlc} {w : World σ} {x : SyncRow}
    (hx : x ∈ w.db.ownedRows engine.extractor.deviceId) (hnew : x ∉ h.rows engine) :
    Excused seed (h.afterStep engine.extractor.deviceId w events) x ∨
      ChangedSince h.world.lastPushWatermark x.stamp := by
  by_cases hafter : ChangedSince h.world.lastPushWatermark x.stamp
  · exact .inr hafter
  · exact .inl (.inr (.inr ⟨hx, hnew, hafter⟩))

/-- The step lemma of a cycle, for the rows that are not excused afterwards. -/
theorem lifetime_cycle {seed : Hlc} {fuel now : Nat} {w : World σ}
    (hcycle : engine.runCycle fuel now h.world = some (r, w, events))
    (hcovered : ∀ x ∈ h.rows engine, Excused seed h x ∨ Covered engine h x) :
    let h' := h.afterStep engine.extractor.deviceId w events
    (∀ x ∈ h'.rows engine, Excused seed h' x ∨ Covered engine h' x) ∧
    (pushedData events ≠ [] →
      ∀ x ∈ h'.rows engine, Excused seed h' x ∨ Pushed engine h'.pushed x) :=
  cycle_covers hcycle (fun x hx => (hcovered x hx).imp_left Excused.afterStep)
    (fun _ hx hnew => excused_or_after hx hnew)

/-- The invariant of a lifetime that was seeded at `seed`. -/
theorem covered_of_lifetime {w₀ : World σ}
    (hrun : Relation.ReflTransGen (LifetimeStep engine) { world := w₀ } h) :
    ∀ x ∈ h.rows engine, Excused w₀.lastPushWatermark h x ∨ Covered engine h x := by
  induction hrun with
  | refl =>
    intro x _
    by_cases habove : x.stamp.Above w₀.lastPushWatermark
    · exact .inr (.inl (changedSince_of_above habove))
    · exact .inl (.inl habove)
  | tail _ hstep ih =>
    rcases hstep with ⟨row, hwrite⟩ | ⟨fuel, now, hcycle⟩
    · cases hwrite with
      | write hwrite =>
        exact write_covers (fun x hx => (ih x hx).imp_left Excused.afterStep)
          (fun _ hx hnew => excused_or_after hx hnew)
    · cases hcycle with
      | cycle hcycle =>
        exact (lifetime_cycle hcycle ih).1

/-- **Push completeness within one lifetime**: after a successful push, every row above the seed
    that did not come in late is in a changeset whose push succeeded; and a cycle without a
    successful push leaves the position alone. -/
theorem rows_above_seed_pushed {w₀ : World σ} {h : PushHistory σ}
    (hrun : Relation.ReflTransGen (LifetimeStep engine) { world := w₀ } h)
    {fuel now : Nat} {r : Except CoreError (Option SyncResult)} {w : World σ}
    {events : List SyncEvent}
    (hcycle : engine.runCycle fuel now h.world = some (r, w, events)) :
    (pushedData events ≠ [] → ∀ x ∈ w.db.ownedRows engine.extractor.deviceId,
      x.stamp.Above w₀.lastPushWatermark →
      ¬ (h.afterStep engine.extractor.deviceId w events).late x →
      Pushed engine (h.pushed ++ pushedData events) x) ∧
    (pushedData events = [] → w.lastPushWatermark = h.world.lastPushWatermark) := by
  constructor
  · intro hpushed x hx habove hnotlate
    rcases (lifetime_cycle hcycle (covered_of_lifetime hrun)).2 hpushed x hx with
      (hbelow | hlate) | hin
    · exact absurd habove hbelow
    · exact absurd hlate hnotlate
    · exact hin
  · intro hnone
    rcases cycle_pushes hcycle with ⟨-, hposition⟩ | ⟨cs, hone, -⟩
    · exact hposition
    · rw [hone] at hnone
      nomatch hnone

end Runs

/-! ## Runs of one device -/

/-- Device `a`, started on an empty database. -/
def emptyStart : PushHistory Unit := { world := quietEngine.new (Database.empty true) none () }

theorem emptyStart_pushed : ∀ x ∈ emptyStart.rows quietEngine, Pushed quietEngine [] x := by
  intro x hx
  have hnil : x ∈ ([] : List SyncRow) := hx
  nomatch hnil

/-- The first row is written. -/
def firstWritten : PushHistory Unit :=
  emptyStart.afterStep "a" { emptyStart.world with db := databaseA 100 } []

theorem databaseA_written : LocalWrite (Database.empty true) (databaseA 100)
    (.paramSnapshot (snapshotAt "a-1" 100 "a")) :=
  ⟨List.mem_cons_self, fun _ hr => .inl (List.mem_singleton.mp hr), fun _ hr => (nomatch hr)⟩

theorem firstWritten_step : PushStep quietEngine emptyStart
    (.write (.paramSnapshot (snapshotAt "a-1" 100 "a"))) firstWritten :=
  PushStep.write databaseA_written

/-- The row is written, and the next push contains it. -/
theorem unpushed_rows_pushed_first : ∃ r w cs,
    quietEngine.runCycle 1 60 firstWritten.world = some (r, w, [.pushed cs true]) ∧
    Contains some {} cs (.paramSnapshot (snapshotAt "a-1" 100 "a")) := by
  have hcycle : ∃ r w cs, quietEngine.runCycle 1 60 firstWritten.world
      = some (r, w, [.pushed cs true]) ∧ cs.kind = .data ∧
      w.db.ownedRows "a" = [.paramSnapshot (snapshotAt "a-1" 100 "a")] :=
    ⟨_, _, _, rfl, rfl, rfl⟩
  obtain ⟨r, w, cs, hcycle, hkind, hrows⟩ := hcycle
  refine ⟨r, w, cs, hcycle, ?_⟩
  have hsteady : Steady quietEngine firstWritten (.cycle 1 60) := by
    refine steady_of_pulled (fun position r w pulls _ hloop cs hcs => ?_)
    cases hloop
    nomatch hcs
  have hrun : Relation.ReflTransGen
      (fun a b => ∃ act, Steady quietEngine a act ∧ PushStep quietEngine a act b)
      emptyStart firstWritten :=
    Relation.ReflTransGen.single
      ⟨.write (.paramSnapshot (snapshotAt "a-1" 100 "a")), .inl (by decide), firstWritten_step⟩
  refine unpushed_rows_pushed emptyStart_pushed hrun hsteady hcycle
    List.mem_cons_self hkind _ ?_ (fun ⟨_, hin, _⟩ => (nomatch hin))
  show _ ∈ w.db.ownedRows "a"
  rw [hrows]
  exact List.mem_cons_self

/-- What is pushed of the parameter snapshots. -/
theorem listed_of_pushed {σ : Type} {engine : SyncEngine σ} {pushed : List ChangeSet}
    {x : ParamSnapshotRow} (h : Pushed engine pushed (.paramSnapshot x)) :
    paramSnapshotJson x ∈ pushed.flatMap ChangeSet.paramSnapshots := by
  obtain ⟨cs, hcs, j, hj, hin⟩ := h
  cases hj
  exact List.mem_flatMap.mpr ⟨cs, hcs, hin⟩

theorem paramSnapshotJson_id {x y : ParamSnapshotRow}
    (h : paramSnapshotJson x = paramSnapshotJson y) : x.id = y.id := by
  have hid : (paramSnapshotJson x).get "id" = (paramSnapshotJson y).get "id" := by rw [h]
  exact Json.str.inj (Option.some.inj hid)

/-- Two rows of device `a`. -/
def databaseAA : Database :=
  { Database.empty true with
    paramSnapshots := ⟨[snapshotAt "a-1" 100 "a", snapshotAt "a-2" 200 "a"], by decide⟩ }

/-- A row, a restart, and a second row: the next push carries the second one only. -/
theorem restart_loses_row :
    ¬ ∀ (engine : SyncEngine Unit) (h₀ h : PushHistory Unit) (fuel now : Nat)
      (r : Except CoreError (Option SyncResult)) (w : World Unit) (events : List SyncEvent)
      (cs : ChangeSet), (∀ x ∈ h₀.rows engine, Pushed engine h₀.pushed x) →
      Relation.ReflTransGen (fun a b => ∃ act, PushStep engine a act b) h₀ h →
      engine.runCycle fuel now h.world = some (r, w, events) →
      SyncEvent.pushed cs true ∈ events → cs.kind = .data →
      ∀ x ∈ w.db.ownedRows engine.extractor.deviceId, ¬ Pushed engine h.pushed x →
        Contains engine.jsonReal engine.extractor.syncConfig cs x := by
  intro hall
  have hrestart : PushStep quietEngine firstWritten .restart
      { firstWritten with world := quietEngine.new (databaseA 100) none () } := PushStep.restart
  have hlocal : LocalWrite (databaseA 100) databaseAA
      (.paramSnapshot (snapshotAt "a-2" 200 "a")) := by
    refine ⟨List.mem_cons_of_mem _ List.mem_cons_self, ?_, ?_⟩
    · intro x hx
      rcases List.mem_cons.mp hx with rfl | hx
      · exact .inr List.mem_cons_self
      · exact .inl (List.mem_singleton.mp hx)
    · intro x hx
      cases List.mem_singleton.mp hx
      exact .inl (by decide)
  have hsecond : PushStep quietEngine
      { firstWritten with world := quietEngine.new (databaseA 100) none () }
      (.write (.paramSnapshot (snapshotAt "a-2" 200 "a"))) _ := PushStep.write hlocal
  have hrun := ((Relation.ReflTransGen.single (r := fun a b => ∃ act, PushStep quietEngine a act b)
    ⟨_, firstWritten_step⟩).tail ⟨_, hrestart⟩).tail ⟨_, hsecond⟩
  have hcontains := hall quietEngine emptyStart _ 1 60 _ _ _ _ emptyStart_pushed hrun rfl
    List.mem_cons_self rfl (.paramSnapshot (snapshotAt "a-1" 100 "a")) List.mem_cons_self
    (fun ⟨_, hin, _⟩ => (nomatch hin))
  obtain ⟨j, hj, hin⟩ := hcontains
  cases hj
  have hid := paramSnapshotJson_id (List.mem_singleton.mp hin)
  exact absurd hid (by decide)

/-- The first row again, within one lifetime. -/
theorem rows_above_seed_pushed_first : ∃ r w events,
    quietEngine.runCycle 1 60 firstWritten.world = some (r, w, events) ∧
    Pushed quietEngine (firstWritten.pushed ++ pushedData events)
      (.paramSnapshot (snapshotAt "a-1" 100 "a")) := by
  have hcycle : ∃ r w events, quietEngine.runCycle 1 60 firstWritten.world = some (r, w, events) ∧
      pushedData events ≠ [] ∧
      w.db.ownedRows "a" = [.paramSnapshot (snapshotAt "a-1" 100 "a")] :=
    ⟨_, _, _, rfl, (nomatch ·), rfl⟩
  obtain ⟨r, w, events, hcycle, hpushed, hrows⟩ := hcycle
  refine ⟨r, w, events, hcycle, ?_⟩
  have hrun : Relation.ReflTransGen (LifetimeStep quietEngine) emptyStart firstWritten :=
    Relation.ReflTransGen.single (.inl ⟨_, firstWritten_step⟩)
  refine (rows_above_seed_pushed hrun hcycle).1 hpushed _ ?_ (.inl (by decide)) ?_
  · show _ ∈ w.db.ownedRows "a"
    rw [hrows]
    exact List.mem_cons_self
  · rintro ((hnone | ⟨-, -, hbelow⟩) | ⟨-, hnew, -⟩)
    · exact hnone
    · exact hbelow (by decide)
    · exact hnew List.mem_cons_self

/-- What device `b` pushes at wall clock 200: an older row and a new one. -/
def lateChangesB : ChangeSet where
  originDeviceId := "b"
  originDeviceName := "B"
  watermark := ⟨200, 0, "b"⟩
  paramSnapshots := [paramSnapshotJson (snapshotAt "b-1" 50 "b"),
    paramSnapshotJson (snapshotAt "b-2" 200 "b")]

/-- An empty folder; the file of device `b` arrives before the second cycle. -/
def lateFolder : SharedFolder ChangeSet where
  files := Table.empty
  ahead := [{}, {}, { arriving := [⟨changesetFilename "b" ⟨200, 0, "b"⟩, lateChangesB⟩] }]

/-- Device `a`, started on an empty database and that folder. -/
def lateStart : PushHistory (SharedFolder ChangeSet) :=
  { world := folderEngine.new (Database.empty true) none lateFolder }

/-- Device `a` pushes its row at 100; then it pulls a row at 50, which no push ever contains. -/
theorem pulled_row_not_pushed :
    ¬ ∀ (engine : SyncEngine (SharedFolder ChangeSet)) (w₀ : World (SharedFolder ChangeSet))
      (h : PushHistory (SharedFolder ChangeSet)) (fuel now : Nat)
      (r : Except CoreError (Option SyncResult)) (w : World (SharedFolder ChangeSet))
      (events : List SyncEvent),
      Relation.ReflTransGen (LifetimeStep engine) { world := w₀ } h →
      engine.runCycle fuel now h.world = some (r, w, events) → pushedData events ≠ [] →
      ∀ x ∈ w.db.ownedRows engine.extractor.deviceId, x.stamp.Above w₀.lastPushWatermark →
        Pushed engine (h.pushed ++ pushedData events) x := by
  intro hall
  have hwrite : PushStep folderEngine lateStart
      (.write (.paramSnapshot (snapshotAt "a-1" 100 "a"))) _ := PushStep.write databaseA_written
  have hfirst : PushStep folderEngine _ (.cycle 3 110) _ := PushStep.cycle
    (show folderEngine.runCycle 3 110
      (lateStart.afterStep "a" { lateStart.world with db := databaseA 100 } []).world = _ from rfl)
  have hrun := (Relation.ReflTransGen.single (r := LifetimeStep folderEngine)
    (.inl ⟨_, hwrite⟩)).tail (.inr ⟨_, _, hfirst⟩)
  have hpushed := hall folderEngine lateStart.world _ 3 210 _ _ _ hrun rfl (nomatch ·)
    (.paramSnapshot (snapshotAt "b-1" 50 "b")) (List.mem_cons_of_mem _ List.mem_cons_self)
    (.inl (by decide))
  -- what was pushed: the row at 100, then the row at 200
  have hlisted := listed_of_pushed hpushed
  have hjson : paramSnapshotJson (snapshotAt "b-1" 50 "b") ∈
      [paramSnapshotJson (snapshotAt "a-1" 100 "a"),
        paramSnapshotJson (snapshotAt "b-2" 200 "b")] := hlisted
  rcases List.mem_cons.mp hjson with heq | hin
  · exact absurd (paramSnapshotJson_id heq) (by decide)
  · exact absurd (paramSnapshotJson_id (List.mem_singleton.mp hin)) (by decide)

end Oneshim
