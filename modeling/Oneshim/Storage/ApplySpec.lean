/-
  What a whole merge transaction does.

  `mergeAll` merges six lists of rows one after the other.  Each list touches ITS table only, so
  what the transaction leaves in a table is what the run over that table's rows left there
  (`mergeAll_ok`).  The append-only tables are registers too — of a trivial rank: the first
  version of a key is the latest one — so all six tables are banks of registers, and the run
  lemmas of `Lib.Register` speak about each of them.
-/
import Oneshim.Storage.MergeSpec

namespace Oneshim

open Lib

/-! ## Append-only tables -/

variable {row : Json}

/-- A row whose key is there is skipped. -/
theorem mergeAppendOnly_of_known {keyField : String} {known : String → Bool}
    {insert : String → Except StorageError Database} {tx : Tx} {id : String}
    (hid : jsonStr row keyField = .ok id) (hk : known id = true) :
    mergeAppendOnly keyField known insert tx row = .ok ⟨tx.db, tx.result.countSkippedDup⟩ := by
  simp only [mergeAppendOnly, hid, ok_bind, hk, if_true]
  rfl

variable {tx tx' : Tx}

/-- **A segment is never inserted**: the insert leaves out a `NOT NULL` column. -/
theorem mergeSegment_ok (h : mergeSegment tx row = .ok tx') :
    ∃ id, jsonStr row "id" = .ok id ∧ (tx.db.segments.find? id).isSome = true ∧
      tx' = ⟨tx.db, tx.result.countSkippedDup⟩ := by
  obtain ⟨id, hid, ⟨hk, rfl⟩ | ⟨-, db, hdb, -⟩⟩ := mergeAppendOnly_ok h
  · exact ⟨id, hid, hk, rfl⟩
  · obtain ⟨⟨columns, hlc⟩, -, hs⟩ := bind_eq_ok_iff.mp hdb
    obtain ⟨stamp, -, hs⟩ := sqlErr_bind_ok hs
    obtain ⟨_, hnull, -⟩ := bind_eq_ok_iff.mp hs
    nomatch hnull

/-- The row the merger stores for an incoming override. -/
def overrideVersion (row : Json) : Except StorageError OverrideRow := do
  let id ← jsonStr row "override_id"
  let (columns, hlc) ← overrideParams row id
  let stamp ← sqlErr "insert override" (Stamp.bind hlc)
  return { columns with stamp }

theorem overrideVersion_ok {r : OverrideRow} {id : String}
    (hid : jsonStr row "override_id" = .ok id) (hr : overrideVersion row = .ok r) :
    r.overrideId = id := by
  simp only [overrideVersion, overrideParams, hid, ok_bind, bind_eq_ok_iff] at hr
  obtain ⟨_, ⟨_, -, _, -, _, -, _, -, hp⟩, _, -, hret⟩ := hr
  cases hp
  cases hret
  rfl

/-- **What `merge_override` does** when it succeeds. -/
theorem mergeOverride_ok (h : mergeOverride tx row = .ok tx') :
    ∃ id, jsonStr row "override_id" = .ok id ∧
      (((tx.db.overrides.find? id).isSome = true ∧
          tx' = ⟨tx.db, tx.result.countSkippedDup⟩) ∨
       ((tx.db.overrides.find? id).isSome = false ∧ ∃ r t, overrideVersion row = .ok r ∧
          tx.db.overrides.insert? r = some t ∧
          tx' = ⟨{ tx.db with overrides := t }, tx.result.countApplied⟩)) := by
  obtain ⟨id, hid, ⟨hk, rfl⟩ | ⟨hk, db, hdb, rfl⟩⟩ := mergeAppendOnly_ok h
  · exact ⟨id, hid, .inl ⟨hk, rfl⟩⟩
  · obtain ⟨⟨columns, hlc⟩, hp, hs⟩ := bind_eq_ok_iff.mp hdb
    obtain ⟨stamp, hbind, hi⟩ := sqlErr_bind_ok hs
    obtain ⟨t, ht, hret⟩ := bind_eq_ok_iff.mp hi
    cases hret
    refine ⟨id, hid, .inr ⟨hk, { columns with stamp }, t, ?_, insertUnique_ok_iff.mp ht, rfl⟩⟩
    simp only [overrideVersion, hid, hp, hbind, ok_bind, sqlErr]
    rfl

/-- The row the merger stores for an incoming parameter snapshot. -/
def paramSnapshotVersion (row : Json) : Except StorageError ParamSnapshotRow := do
  let id ← jsonStr row "id"
  let (columns, hlc) ← paramSnapshotParams row id
  let stamp ← sqlErr "insert param_snapshot" (Stamp.bind hlc)
  return { columns with stamp }

theorem paramSnapshotVersion_ok {r : ParamSnapshotRow} {id : String}
    (hid : jsonStr row "id" = .ok id) (hr : paramSnapshotVersion row = .ok r) : r.id = id := by
  simp only [paramSnapshotVersion, paramSnapshotParams, hid, ok_bind, bind_eq_ok_iff] at hr
  obtain ⟨_, ⟨_, -, _, -, _, -, _, -, hp⟩, _, -, hret⟩ := hr
  cases hp
  cases hret
  rfl

/-- **What `merge_param_snapshot` does** when it succeeds. -/
theorem mergeParamSnapshot_ok (h : mergeParamSnapshot tx row = .ok tx') :
    ∃ id, jsonStr row "id" = .ok id ∧
      (((tx.db.paramSnapshots.find? id).isSome = true ∧
          tx' = ⟨tx.db, tx.result.countSkippedDup⟩) ∨
       ((tx.db.paramSnapshots.find? id).isSome = false ∧ ∃ r t,
          paramSnapshotVersion row = .ok r ∧ tx.db.paramSnapshots.insert? r = some t ∧
          tx' = ⟨{ tx.db with paramSnapshots := t }, tx.result.countApplied⟩)) := by
  obtain ⟨id, hid, ⟨hk, rfl⟩ | ⟨hk, db, hdb, rfl⟩⟩ := mergeAppendOnly_ok h
  · exact ⟨id, hid, .inl ⟨hk, rfl⟩⟩
  · obtain ⟨⟨columns, hlc⟩, hp, hs⟩ := bind_eq_ok_iff.mp hdb
    obtain ⟨stamp, hbind, hi⟩ := sqlErr_bind_ok hs
    obtain ⟨t, ht, hret⟩ := bind_eq_ok_iff.mp hi
    cases hret
    refine ⟨id, hid, .inr ⟨hk, { columns with stamp }, t, ?_, insertUnique_ok_iff.mp ht, rfl⟩⟩
    simp only [paramSnapshotVersion, hid, hp, hbind, ok_bind, sqlErr]
    rfl

/-! ## Append-only tables as registers of trivial rank -/

/-- The register of an append-only table: the row, whatever its timestamp. -/
def appendRegister {ρ : Type} {key : ρ → String} (t : Table key) :
    String → Option (PUnit × Option ρ) :=
  tableRegister (fun _ => some PUnit.unit) some t

/-- The key of an append-only row and the version it offers there. -/
def appendOffer {ρ : Type} (keyField : String) (version : Json → Except StorageError ρ)
    (row : Json) : Option (String × PUnit × Option ρ) :=
  match jsonStr row keyField with
  | .ok id => some (id, PUnit.unit, (version row).toOption)
  | .error _ => none

theorem appendOffer_eq_some {ρ : Type} {keyField : String} (version : Json → Except StorageError ρ)
    {k : String} {v : PUnit × Option ρ} (ho : appendOffer keyField version row = some (k, v)) :
    jsonStr row keyField = .ok k := by
  unfold appendOffer at ho
  split at ho
  case h_1 id hid =>
    cases ho
    exact hid
  case h_2 => nomatch ho

theorem appendRegister_of_known {ρ : Type} {key : ρ → String} {t : Table key} {id : String}
    (hk : (t.find? id).isSome = true) : Covers (appendRegister t id) PUnit.unit := by
  obtain ⟨r, hr⟩ := Option.isSome_iff_exists.mp hk
  refine ⟨(PUnit.unit, some r), ?_, le_rfl⟩
  rw [appendRegister, tableRegister, hr, Option.bind_some, Option.map_some]

theorem known_of_covers {ρ : Type} {key : ρ → String} {t : Table key} {id : String} {u : PUnit}
    (hc : Covers (appendRegister t id) u) : (t.find? id).isSome = true := by
  obtain ⟨w, hw, -⟩ := hc
  obtain ⟨r, hfind, -⟩ := Option.bind_eq_some_iff.mp hw
  rw [hfind]
  rfl

/-- A known key keeps its register: the offered version is a tie. -/
theorem appendRegister_skip {ρ : Type} {key : ρ → String} {t : Table key} {id : String}
    (v : Option ρ) (hk : (t.find? id).isSome = true) :
    appendRegister t = Function.update (appendRegister t) id
      (accept (appendRegister t id) (PUnit.unit, v)) := by
  rw [accept_of_covers (appendRegister_of_known hk), Function.update_eq_self]

/-- A fresh row fills the register of its key. -/
theorem appendRegister_insert {ρ : Type} {key : ρ → String} {t t' : Table key} {r : ρ}
    (h : t.insert? r = some t') :
    appendRegister t' = Function.update (appendRegister t) (key r)
      (accept (appendRegister t (key r)) (PUnit.unit, some r)) := by
  obtain ⟨hfree, hreg⟩ := tableRegister_insert? (fun _ => some PUnit.unit) some h rfl
  rw [show appendRegister t (key r) = none from hfree, accept_none]
  exact hreg

/-- The segments of a transaction, as a bank of registers. -/
def segmentBank : RegisterBank Tx Json String PUnit (Option SegmentRow) StorageError where
  register := fun tx => appendRegister tx.db.segments
  offer := appendOffer "id" (fun _ => .error (.internal ""))
  step := mergeSegment
  inv := fun _ => True
  fits := fun _ => True
  step_inv := fun _ _ _ => trivial
  step_offers := by
    intro tx tx' row _ _ h
    obtain ⟨id, hid, hk, rfl⟩ := mergeSegment_ok h
    exact ⟨id, (PUnit.unit, none), by simp only [appendOffer, hid]; rfl,
      appendRegister_skip none hk⟩

/-- The overrides of a transaction, as a bank of registers. -/
def overrideBank : RegisterBank Tx Json String PUnit (Option OverrideRow) StorageError where
  register := fun tx => appendRegister tx.db.overrides
  offer := appendOffer "override_id" overrideVersion
  step := mergeOverride
  inv := fun _ => True
  fits := fun _ => True
  step_inv := fun _ _ _ => trivial
  step_offers := by
    intro tx tx' row _ _ h
    obtain ⟨id, hid, hcases⟩ := mergeOverride_ok h
    refine ⟨id, (PUnit.unit, (overrideVersion row).toOption), by simp only [appendOffer, hid], ?_⟩
    rcases hcases with ⟨hk, rfl⟩ | ⟨-, r, t, hr, ht, rfl⟩
    · exact appendRegister_skip _ hk
    · obtain rfl := overrideVersion_ok hid hr
      rw [hr]
      exact appendRegister_insert ht

/-- The parameter snapshots of a transaction, as a bank of registers. -/
def paramSnapshotBank :
    RegisterBank Tx Json String PUnit (Option ParamSnapshotRow) StorageError where
  register := fun tx => appendRegister tx.db.paramSnapshots
  offer := appendOffer "id" paramSnapshotVersion
  step := mergeParamSnapshot
  inv := fun _ => True
  fits := fun _ => True
  step_inv := fun _ _ _ => trivial
  step_offers := by
    intro tx tx' row _ _ h
    obtain ⟨id, hid, hcases⟩ := mergeParamSnapshot_ok h
    refine ⟨id, (PUnit.unit, (paramSnapshotVersion row).toOption),
      by simp only [appendOffer, hid], ?_⟩
    rcases hcases with ⟨hk, rfl⟩ | ⟨-, r, t, hr, ht, rfl⟩
    · exact appendRegister_skip _ hk
    · obtain rfl := paramSnapshotVersion_ok hid hr
      rw [hr]
      exact appendRegister_insert ht

/-! ## Frames: a run over one table's rows leaves the other tables alone -/

variable {rows : List Json}

theorem runSegments_db (h : rows.foldlM mergeSegment tx = .ok tx') : tx'.db = tx.db := by
  refine foldlM_invariant (P := fun t => t.db = tx.db) ?_ rfl h
  intro row t t' ht hstep
  obtain ⟨id, -, -, rfl⟩ := mergeSegment_ok hstep
  exact ht

theorem runOverrides_db (h : rows.foldlM mergeOverride tx = .ok tx') :
    tx'.db = { tx.db with overrides := tx'.db.overrides } := by
  refine foldlM_invariant (P := fun t => t.db = { tx.db with overrides := t.db.overrides }) ?_ rfl h
  intro row t t' ht hstep
  obtain ⟨id, -, ⟨-, rfl⟩ | ⟨-, r, u, -, -, rfl⟩⟩ := mergeOverride_ok hstep
  · exact ht
  · show { t.db with overrides := u } = { tx.db with overrides := u }
    rw [ht]

theorem runParamSnapshots_db (h : rows.foldlM mergeParamSnapshot tx = .ok tx') :
    tx'.db = { tx.db with paramSnapshots := tx'.db.paramSnapshots } := by
  refine foldlM_invariant
    (P := fun t => t.db = { tx.db with paramSnapshots := t.db.paramSnapshots }) ?_ rfl h
  intro row t t' ht hstep
  obtain ⟨id, -, ⟨-, rfl⟩ | ⟨-, r, u, -, -, rfl⟩⟩ := mergeParamSnapshot_ok hstep
  · exact ht
  · show { t.db with paramSnapshots := u } = { tx.db with paramSnapshots := u }
    rw [ht]

theorem mergeRegime_db (h : mergeRegime tx row = .ok tx') :
    tx'.db = { tx.db with regimes := tx'.db.regimes } := by
  obtain ⟨id, hlc, -, -, ⟨-, r, db, -, hdb, rfl⟩ | ⟨old, -, -, r, db, -, hdb, rfl⟩ |
    ⟨old, -, -, rfl⟩⟩ := mergeRegime_ok h
  · obtain ⟨t, -, -, rfl⟩ := insertRegime_ok_iff.mp hdb
    rfl
  · rw [updateRegime_ok hdb]
  · rfl

theorem runRegimes_db (h : rows.foldlM mergeRegime tx = .ok tx') :
    tx'.db = { tx.db with regimes := tx'.db.regimes } := by
  refine foldlM_invariant (P := fun t => t.db = { tx.db with regimes := t.db.regimes }) ?_ rfl h
  intro row t t' ht hstep
  have hframe := mergeRegime_db hstep
  rw [ht] at hframe
  exact hframe

theorem mergeEmbedding_db (h : mergeEmbedding tx row = .ok tx') :
    tx'.db = { tx.db with embeddings := tx'.db.embeddings } := by
  obtain ⟨s, m, hlc, -, -, -, ⟨-, r, -, rfl⟩ | ⟨old, -, -, r, -, rfl⟩ | ⟨old, -, -, rfl⟩⟩ :=
    mergeEmbedding_ok h
  · rfl
  · rfl
  · rfl

theorem runEmbeddings_db (h : rows.foldlM mergeEmbedding tx = .ok tx') :
    tx'.db = { tx.db with embeddings := tx'.db.embeddings } := by
  refine foldlM_invariant (P := fun t => t.db = { tx.db with embeddings := t.db.embeddings }) ?_
    rfl h
  intro row t t' ht hstep
  have hframe := mergeEmbedding_db hstep
  rw [ht] at hframe
  exact hframe

theorem mergeSuggestion_db (h : mergeSuggestion tx row = .ok tx') :
    tx'.db = { tx.db with suggestions := tx'.db.suggestions } := by
  obtain ⟨id, hlc, -, -, ⟨-, r, c, db, -, -, hdb, rfl⟩ | ⟨old, -, -, r, -, rfl⟩ |
    ⟨old, -, -, rfl⟩⟩ := mergeSuggestion_ok h
  · obtain ⟨t, -, rfl⟩ := insertSuggestion_ok_iff.mp hdb
    rfl
  · rfl
  · rfl

theorem runSuggestions_db (h : rows.foldlM mergeSuggestion tx = .ok tx') :
    tx'.db = { tx.db with suggestions := tx'.db.suggestions } := by
  refine foldlM_invariant (P := fun t => t.db = { tx.db with suggestions := t.db.suggestions }) ?_
    rfl h
  intro row t t' ht hstep
  have hframe := mergeSuggestion_db hstep
  rw [ht] at hframe
  exact hframe

/-! ## The transaction -/

/-- The states a successful merge transaction passes through, and what each of them differs in
    from the database it started on. -/
structure MergeRun (db : Database) (cs : ChangeSet) (tx : Tx) where
  afterSegments : Tx
  afterOverrides : Tx
  afterParamSnapshots : Tx
  afterRegimes : Tx
  afterEmbeddings : Tx
  afterSuggestions : Tx
  segments_run : cs.segments.foldlM mergeSegment ⟨db, {}⟩ = .ok afterSegments
  overrides_run : cs.overrides.foldlM mergeOverride afterSegments = .ok afterOverrides
  paramSnapshots_run :
    cs.paramSnapshots.foldlM mergeParamSnapshot afterOverrides = .ok afterParamSnapshots
  regimes_run : cs.regimes.foldlM mergeRegime afterParamSnapshots = .ok afterRegimes
  embeddings_run : cs.embeddings.foldlM mergeEmbedding afterRegimes = .ok afterEmbeddings
  suggestions_run : cs.suggestions.foldlM mergeSuggestion afterEmbeddings = .ok afterSuggestions
  peers_run : updateSyncPeers afterSuggestions cs = .ok tx

theorem updateSyncPeers_ok {cs : ChangeSet} (h : updateSyncPeers tx cs = .ok tx') :
    tx'.result = tx.result ∧ tx'.db = { tx.db with syncPeers := tx'.db.syncPeers } := by
  obtain ⟨wall, -, hret⟩ := sqlErr_bind_ok h
  cases hret
  exact ⟨rfl, rfl⟩

/-- **Inversion of the transaction**. -/
theorem mergeAll_ok {db : Database} {cs : ChangeSet} {tx : Tx} (h : mergeAll db cs = .ok tx) :
    Nonempty (MergeRun db cs tx) := by
  unfold mergeAll at h
  obtain ⟨t₁, h₁, h⟩ := bind_eq_ok_iff.mp h
  obtain ⟨t₂, h₂, h⟩ := bind_eq_ok_iff.mp h
  obtain ⟨t₃, h₃, h⟩ := bind_eq_ok_iff.mp h
  obtain ⟨t₄, h₄, h⟩ := bind_eq_ok_iff.mp h
  obtain ⟨t₅, h₅, h⟩ := bind_eq_ok_iff.mp h
  obtain ⟨t₆, h₆, h⟩ := bind_eq_ok_iff.mp h
  exact ⟨⟨t₁, t₂, t₃, t₄, t₅, t₆, h₁, h₂, h₃, h₄, h₅, h₆, h⟩⟩

theorem MergeRun.mergeAll_eq {db : Database} {cs : ChangeSet} {tx : Tx} (run : MergeRun db cs tx) :
    mergeAll db cs = .ok tx := by
  simp only [mergeAll, run.segments_run, run.overrides_run, run.paramSnapshots_run,
    run.regimes_run, run.embeddings_run, run.suggestions_run, run.peers_run, ok_bind]

namespace MergeRun

variable {db : Database} {cs : ChangeSet} {tx : Tx} (run : MergeRun db cs tx)
include run

/-! What each table holds at the end is what the run over its rows left there. -/

theorem suggestions_eq : tx.db.suggestions = run.afterSuggestions.db.suggestions := by
  rw [(updateSyncPeers_ok run.peers_run).2]

theorem embeddings_eq : tx.db.embeddings = run.afterEmbeddings.db.embeddings := by
  rw [(updateSyncPeers_ok run.peers_run).2, runSuggestions_db run.suggestions_run]

theorem regimes_eq : tx.db.regimes = run.afterRegimes.db.regimes := by
  rw [(updateSyncPeers_ok run.peers_run).2, runSuggestions_db run.suggestions_run,
    runEmbeddings_db run.embeddings_run]

theorem paramSnapshots_eq :
    tx.db.paramSnapshots = run.afterParamSnapshots.db.paramSnapshots := by
  rw [(updateSyncPeers_ok run.peers_run).2, runSuggestions_db run.suggestions_run,
    runEmbeddings_db run.embeddings_run, runRegimes_db run.regimes_run]

theorem overrides_eq : tx.db.overrides = run.afterOverrides.db.overrides := by
  rw [(updateSyncPeers_ok run.peers_run).2, runSuggestions_db run.suggestions_run,
    runEmbeddings_db run.embeddings_run, runRegimes_db run.regimes_run,
    runParamSnapshots_db run.paramSnapshots_run]

/-! So the database after a run over rows is the old one with the final tables up to there. -/

theorem afterSegments_db : run.afterSegments.db = db := runSegments_db run.segments_run

theorem afterOverrides_db : run.afterOverrides.db = { db with overrides := tx.db.overrides } := by
  rw [runOverrides_db run.overrides_run, run.afterSegments_db, run.overrides_eq]

theorem afterParamSnapshots_db : run.afterParamSnapshots.db =
    { db with overrides := tx.db.overrides, paramSnapshots := tx.db.paramSnapshots } := by
  rw [runParamSnapshots_db run.paramSnapshots_run, run.afterOverrides_db, run.paramSnapshots_eq]

theorem afterRegimes_db : run.afterRegimes.db =
    { db with overrides := tx.db.overrides, paramSnapshots := tx.db.paramSnapshots,
              regimes := tx.db.regimes } := by
  rw [runRegimes_db run.regimes_run, run.afterParamSnapshots_db, run.regimes_eq]

theorem afterEmbeddings_db : run.afterEmbeddings.db =
    { db with overrides := tx.db.overrides, paramSnapshots := tx.db.paramSnapshots,
              regimes := tx.db.regimes, embeddings := tx.db.embeddings } := by
  rw [runEmbeddings_db run.embeddings_run, run.afterRegimes_db, run.embeddings_eq]

theorem afterSuggestions_db : run.afterSuggestions.db =
    { db with overrides := tx.db.overrides, paramSnapshots := tx.db.paramSnapshots,
              regimes := tx.db.regimes, embeddings := tx.db.embeddings,
              suggestions := tx.db.suggestions } := by
  rw [runSuggestions_db run.suggestions_run, run.afterEmbeddings_db, run.suggestions_eq]

/-- The transaction leaves the segments and the foreign-key switch alone. -/
theorem db_eq : tx.db =
    { db with overrides := tx.db.overrides, paramSnapshots := tx.db.paramSnapshots,
              regimes := tx.db.regimes, embeddings := tx.db.embeddings,
              suggestions := tx.db.suggestions, syncPeers := tx.db.syncPeers } := by
  have hpeers := (updateSyncPeers_ok run.peers_run).2
  rw [run.afterSuggestions_db] at hpeers
  exact hpeers

theorem segments_eq : tx.db.segments = run.afterSegments.db.segments := by
  rw [run.afterSegments_db, run.db_eq]

/-- The regimes are those of the start when their run begins. -/
theorem regimes_before : run.afterParamSnapshots.db.regimes = db.regimes := by
  rw [run.afterParamSnapshots_db]

theorem embeddings_before : run.afterRegimes.db.embeddings = db.embeddings := by
  rw [run.afterRegimes_db]

end MergeRun

/-! ## `apply_changes` on a data changeset -/

section DataChangeSet

variable {me : String} {cs : ChangeSet} {db db' : Database}

theorem applyChanges_self (hkind : cs.kind = .data) (hself : cs.originDeviceId = me) :
    applyChanges me cs db = (.ok { newWatermark := cs.watermark }, db) := by
  simp only [applyChanges, hkind, if_pos hself]

theorem applyChanges_merged {tx : Tx} (hkind : cs.kind = .data) (hother : cs.originDeviceId ≠ me)
    (h : mergeAll db cs = .ok tx) :
    applyChanges me cs db = (.ok { tx.result with newWatermark := cs.watermark }, tx.db) := by
  simp only [applyChanges, hkind, if_neg hother, h]

theorem applyChanges_rejected {e : StorageError} (hkind : cs.kind = .data)
    (hother : cs.originDeviceId ≠ me) (h : mergeAll db cs = .error e) :
    applyChanges me cs db = (.error e.toCore, db) := by
  simp only [applyChanges, hkind, if_neg hother, h]

/-- **What accepting a data changeset means**: it was this device's own, or its rows merged. -/
theorem applyChanges_data_ok {r : SyncResult} (hkind : cs.kind = .data)
    (h : applyChanges me cs db = (.ok r, db')) :
    (cs.originDeviceId = me ∧ r = { newWatermark := cs.watermark } ∧ db' = db) ∨
    (cs.originDeviceId ≠ me ∧ ∃ tx, mergeAll db cs = .ok tx ∧
      r = { tx.result with newWatermark := cs.watermark } ∧ db' = tx.db) := by
  by_cases hself : cs.originDeviceId = me
  · rw [applyChanges_self hkind hself] at h
    cases h
    exact .inl ⟨hself, rfl, rfl⟩
  · cases hm : mergeAll db cs with
    | ok tx =>
      rw [applyChanges_merged hkind hself hm] at h
      cases h
      exact .inr ⟨hself, tx, rfl, rfl, rfl⟩
    | error e =>
      rw [applyChanges_rejected hkind hself hm] at h
      nomatch (Prod.mk.inj h).1

end DataChangeSet

end Oneshim
