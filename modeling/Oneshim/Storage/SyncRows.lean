/-
  The rows of the six synced tables, as one type.

  The push side of the engine treats the tables alike: a row has a stamp, it renders to JSON, and a
  changeset either contains it or not.  Two facts about the storage are all it needs:

  * an extraction contains every row after its watermark (`contains_of_extracted`);
  * a merge brings in no row that was neither there before nor stamped by the changeset
    (`applyChanges_brings`).
-/
import Oneshim.Storage.Transfer

namespace Oneshim

open Lib

/-- A row of a synced table. -/
inductive SyncRow where
  | segment (r : SegmentRow)
  | regime (r : RegimeRow)
  | override (r : OverrideRow)
  | embedding (r : EmbeddingRow)
  | suggestion (r : SuggestionRow)
  | paramSnapshot (r : ParamSnapshotRow)

namespace SyncRow

/-- The sync columns. -/
def stamp : SyncRow → Stamp
  | segment r => r.stamp
  | regime r => r.stamp
  | override r => r.stamp
  | embedding r => r.stamp
  | suggestion r => r.stamp
  | paramSnapshot r => r.stamp

/-- The row, given to this device when nobody owns it. -/
def backfill (deviceId : String) : SyncRow → SyncRow
  | segment r => segment { r with stamp := r.stamp.backfill deviceId }
  | regime r => regime { r with stamp := r.stamp.backfill deviceId }
  | override r => override { r with stamp := r.stamp.backfill deviceId }
  | embedding r => embedding { r with stamp := r.stamp.backfill deviceId }
  | suggestion r => suggestion { r with stamp := r.stamp.backfill deviceId }
  | paramSnapshot r => paramSnapshot { r with stamp := r.stamp.backfill deviceId }

/-- The row as the extractor renders it. -/
def json (jsonReal : F64 → Option F64) (config : SyncConfig) : SyncRow → Option Json
  | segment r => some (segmentJson config.includeContentActivities r)
  | regime r => regimeJson jsonReal r
  | override r => some (overrideJson r)
  | embedding r => some (embeddingJson config.includeEmbeddingText r)
  | suggestion r => suggestionJson jsonReal r
  | paramSnapshot r => some (paramSnapshotJson r)

/-- The rows of a changeset for the row's table. -/
def listed (cs : ChangeSet) : SyncRow → List Json
  | segment _ => cs.segments
  | regime _ => cs.regimes
  | override _ => cs.overrides
  | embedding _ => cs.embeddings
  | suggestion _ => cs.suggestions
  | paramSnapshot _ => cs.paramSnapshots

@[simp] theorem stamp_backfill (deviceId : String) (r : SyncRow) :
    (r.backfill deviceId).stamp = r.stamp.backfill deviceId := by
  cases r <;> rfl

end SyncRow

/-- The rows of a database. -/
def Database.syncRows (db : Database) : List SyncRow :=
  db.segments.rows.map .segment ++ db.regimes.rows.map .regime ++
    db.overrides.rows.map .override ++ db.embeddings.rows.map .embedding ++
    db.suggestions.rows.map .suggestion ++ db.paramSnapshots.rows.map .paramSnapshot

theorem mem_syncRows {db : Database} {r : SyncRow} :
    r ∈ db.syncRows ↔ match r with
      | .segment x => x ∈ db.segments.rows
      | .regime x => x ∈ db.regimes.rows
      | .override x => x ∈ db.overrides.rows
      | .embedding x => x ∈ db.embeddings.rows
      | .suggestion x => x ∈ db.suggestions.rows
      | .paramSnapshot x => x ∈ db.paramSnapshots.rows := by
  cases r <;> simp [Database.syncRows]

/-- The JSON rows of a changeset. -/
def ChangeSet.jsonRows (cs : ChangeSet) : List Json :=
  cs.segments ++ cs.regimes ++ cs.overrides ++ cs.embeddings ++ cs.suggestions ++
    cs.paramSnapshots

/-- The changeset contains the row, in this version. -/
def Contains (jsonReal : F64 → Option F64) (config : SyncConfig) (cs : ChangeSet) (r : SyncRow) :
    Prop :=
  ∃ j, r.json jsonReal config = some j ∧ j ∈ r.listed cs

/-! ## Backfilling -/

theorem Stamp.backfill_idem (deviceId : String) (s : Stamp) :
    (s.backfill deviceId).backfill deviceId = s.backfill deviceId := by
  unfold Stamp.backfill
  by_cases h : s.originDeviceId = ""
  · rw [if_pos h]
    split
    · rfl
    · rfl
  · rw [if_neg h, if_neg h]

theorem SyncRow.backfill_idem (deviceId : String) (r : SyncRow) :
    (r.backfill deviceId).backfill deviceId = r.backfill deviceId := by
  cases r <;> simp only [SyncRow.backfill, Stamp.backfill_idem]

theorem syncRows_backfill (deviceId : String) (db : Database) :
    (backfillOriginDeviceId deviceId db).syncRows = db.syncRows.map (SyncRow.backfill deviceId) := by
  simp only [Database.syncRows, backfillOriginDeviceId, Table.mapRows, SerialTable.mapRows,
    List.map_append, List.map_map]
  rfl

/-- The rows of a database, each under its owner. -/
def Database.ownedRows (deviceId : String) (db : Database) : List SyncRow :=
  db.syncRows.map (SyncRow.backfill deviceId)

/-- Backfilling changes no owned row. -/
theorem ownedRows_backfill (deviceId : String) (db : Database) :
    (backfillOriginDeviceId deviceId db).ownedRows deviceId = db.ownedRows deviceId := by
  rw [Database.ownedRows, syncRows_backfill, List.map_map, Database.ownedRows]
  exact List.map_congr_left (fun r _ => SyncRow.backfill_idem deviceId r)

/-! ## Extraction -/

variable {cs : ChangeSet}

/-- **An extraction contains every row after its watermark.** -/
theorem contains_of_extracted {jsonReal : F64 → Option F64} {extractor : SqliteSyncExtractor}
    {since : Hlc} {db : Database} (hex : Extracted jsonReal extractor since db cs) {r : SyncRow}
    (hr : r ∈ db.syncRows) (hafter : ChangedSince since r.stamp) :
    Contains jsonReal extractor.syncConfig cs r := by
  simp only [Database.syncRows, List.mem_append, List.mem_map] at hr
  rcases hr with ((((⟨x, hx, rfl⟩ | ⟨x, hx, rfl⟩) | ⟨x, hx, rfl⟩) | ⟨x, hx, rfl⟩) | ⟨x, hx, rfl⟩) |
    ⟨x, hx, rfl⟩
  · refine ⟨_, rfl, ?_⟩
    show _ ∈ cs.segments
    rw [hex.segments]
    exact List.mem_map_of_mem (mem_extractedRows.mpr ⟨hx, hafter⟩)
  · obtain ⟨j, hj, hjson⟩ := exists_of_forall₂_left hex.regimes (mem_extractedRows.mpr ⟨hx, hafter⟩)
    exact ⟨j, hjson, hj⟩
  · refine ⟨_, rfl, ?_⟩
    show _ ∈ cs.overrides
    rw [hex.overrides]
    exact List.mem_map_of_mem (mem_extractedRows.mpr ⟨hx, hafter⟩)
  · refine ⟨_, rfl, ?_⟩
    show _ ∈ cs.embeddings
    rw [hex.embeddings]
    exact List.mem_map_of_mem (mem_extractedRows.mpr ⟨hx, hafter⟩)
  · obtain ⟨j, hj, hjson⟩ := exists_of_forall₂_left hex.suggestions
      (mem_extractedRows.mpr ⟨hx, hafter⟩)
    exact ⟨j, hjson, hj⟩
  · refine ⟨_, rfl, ?_⟩
    show _ ∈ cs.paramSnapshots
    rw [hex.paramSnapshots]
    exact List.mem_map_of_mem (mem_extractedRows.mpr ⟨hx, hafter⟩)

/-! ## Merges -/

/-- The stamp is the timestamp of the JSON row. -/
def Stamped (row : Json) (s : Stamp) : Prop :=
  ∃ hlc, extractHlc row = .ok hlc ∧ s.readHlc = some hlc

/-- The row is what the merger stores for the JSON row.  An embedding gets its number from the
    table, an updated suggestion keeps its `created_at`, and a segment is never stored. -/
def SyncRow.StoredFor (row : Json) : SyncRow → Prop
  | segment _ => False
  | regime x => regimeVersion row = .ok x
  | override x => overrideVersion row = .ok x
  | embedding x => ∃ y, embeddingVersion row = .ok y ∧ x = { y with id := x.id }
  | suggestion x => ∃ y, suggestionVersion row = .ok y ∧ x = { y with createdAt := x.createdAt }
  | paramSnapshot x => paramSnapshotVersion row = .ok x

theorem overrideVersion_stamped {row : Json} {r : OverrideRow} (hr : overrideVersion row = .ok r) :
    Stamped row r.stamp := by
  simp only [overrideVersion, overrideParams, bind_eq_ok_iff] at hr
  obtain ⟨id, -, _, ⟨_, -, _, -, _, -, hlc, hx, hp⟩, stamp, hs, hret⟩ := hr
  cases hp
  cases hret
  exact ⟨hlc, hx, Stamp.readHlc_of_bind (extractHlc_counter_lt hx) (sqlErr_eq_ok_iff.mp hs)⟩

theorem paramSnapshotVersion_stamped {row : Json} {r : ParamSnapshotRow}
    (hr : paramSnapshotVersion row = .ok r) : Stamped row r.stamp := by
  simp only [paramSnapshotVersion, paramSnapshotParams, bind_eq_ok_iff] at hr
  obtain ⟨id, -, _, ⟨_, -, _, -, _, -, hlc, hx, hp⟩, stamp, hs, hret⟩ := hr
  cases hp
  cases hret
  exact ⟨hlc, hx, Stamp.readHlc_of_bind (extractHlc_counter_lt hx) (sqlErr_eq_ok_iff.mp hs)⟩

/-- What is stored for a JSON row carries its timestamp. -/
theorem SyncRow.StoredFor.stamped {row : Json} {r : SyncRow} (h : r.StoredFor row) :
    Stamped row r.stamp := by
  cases r with
  | segment x => exact h.elim
  | override x => exact overrideVersion_stamped h
  | paramSnapshot x => exact paramSnapshotVersion_stamped h
  | regime x =>
    have h : regimeVersion row = .ok x := h
    obtain ⟨id, hid, hrest⟩ := bind_eq_ok_iff.mp h
    obtain ⟨hlc, hx, -⟩ := bind_eq_ok_iff.mp hrest
    exact ⟨hlc, hx, (regimeVersion_ok hid hx h).2⟩
  | embedding x =>
    obtain ⟨y, hy, hxy⟩ := h
    obtain ⟨s, hs, hrest⟩ := bind_eq_ok_iff.mp hy
    obtain ⟨m, hm, hrest⟩ := bind_eq_ok_iff.mp hrest
    obtain ⟨hlc, hx, -⟩ := bind_eq_ok_iff.mp hrest
    have hstamp : x.stamp = y.stamp := by rw [hxy]
    show Stamped row x.stamp
    rw [hstamp]
    exact ⟨hlc, hx, (embeddingVersion_ok hs hm hx hy).2.1⟩
  | suggestion x =>
    obtain ⟨y, hy, hxy⟩ := h
    obtain ⟨id, hid, hrest⟩ := bind_eq_ok_iff.mp hy
    obtain ⟨hlc, hx, -⟩ := bind_eq_ok_iff.mp hrest
    have hstamp : x.stamp = y.stamp := by rw [hxy]
    show Stamped row x.stamp
    rw [hstamp]
    exact ⟨hlc, hx, (suggestionVersion_ok hid hx hy).2.1⟩

/-- A merge of one table's rows that brings in nothing but what it stores for the JSON row. -/
def Stores (rowsOf : ChangeSet → List Json) (merge : Tx → Json → Except StorageError Tx) : Prop :=
  ∀ tx tx' row, merge tx row = .ok tx' → ∀ r ∈ tx'.db.syncRows,
    r ∈ tx.db.syncRows ∨ (r.StoredFor row ∧ ∀ cs, r.listed cs = rowsOf cs)

theorem mergeSegment_stores : Stores ChangeSet.segments mergeSegment := by
  intro tx tx' row h r hr
  obtain ⟨_, -, -, rfl⟩ := mergeSegment_ok h
  exact .inl hr

theorem mergeOverride_stores : Stores ChangeSet.overrides mergeOverride := by
  intro tx tx' row h r hr
  obtain ⟨_, -, ⟨-, rfl⟩ | ⟨-, x, t, hx, ht, rfl⟩⟩ := mergeOverride_ok h
  · exact .inl hr
  · rw [mem_syncRows] at hr ⊢
    cases r with
    | override y =>
      rcases (Table.mem_insert? ht).mp hr with hold | rfl
      · exact .inl hold
      · exact .inr ⟨hx, fun _ => rfl⟩
    | _ => exact .inl hr

theorem mergeParamSnapshot_stores : Stores ChangeSet.paramSnapshots mergeParamSnapshot := by
  intro tx tx' row h r hr
  obtain ⟨_, -, ⟨-, rfl⟩ | ⟨-, x, t, hx, ht, rfl⟩⟩ := mergeParamSnapshot_ok h
  · exact .inl hr
  · rw [mem_syncRows] at hr ⊢
    cases r with
    | paramSnapshot y =>
      rcases (Table.mem_insert? ht).mp hr with hold | rfl
      · exact .inl hold
      · exact .inr ⟨hx, fun _ => rfl⟩
    | _ => exact .inl hr

/-- A merged regime comes from the changeset. -/
theorem mergeRegime_stores : Stores ChangeSet.regimes mergeRegime := by
  intro tx tx' row h r hr
  obtain ⟨id, hlc, hid, hx, hcases⟩ := mergeRegime_ok h
  rw [mem_syncRows] at hr ⊢
  rcases hcases with ⟨-, x, db, hv, hdb, rfl⟩ | ⟨old, -, -, x, db, hv, hdb, rfl⟩ | ⟨_, -, -, rfl⟩
  · obtain ⟨t, ht, -, rfl⟩ := insertRegime_ok_iff.mp hdb
    cases r with
    | regime y =>
      rcases (Table.mem_insert? ht).mp hr with hold | rfl
      · exact .inl hold
      · exact .inr ⟨hv, fun _ => rfl⟩
    | _ => exact .inl hr
  · cases updateRegime_ok hdb
    cases r with
    | regime y =>
      rcases Table.mem_replace hr with hold | rfl
      · exact .inl hold
      · exact .inr ⟨hv, fun _ => rfl⟩
    | _ => exact .inl hr
  · exact .inl hr

/-- A merged embedding comes from the changeset. -/
theorem mergeEmbedding_stores : Stores ChangeSet.embeddings mergeEmbedding := by
  intro tx tx' row h r hr
  obtain ⟨seg, model, hlc, hs, hm, hx, hcases⟩ := mergeEmbedding_ok h
  rw [mem_syncRows] at hr ⊢
  rcases hcases with ⟨-, x, hv, rfl⟩ | ⟨old, -, -, x, hv, rfl⟩ | ⟨_, -, -, rfl⟩
  · cases r with
    | embedding y =>
      rcases List.mem_append.mp hr with hold | hnew
      · exact .inl hold
      · cases List.mem_singleton.mp hnew
        exact .inr ⟨⟨x, hv, rfl⟩, fun _ => rfl⟩
    | _ => exact .inl hr
  · cases r with
    | embedding y =>
      rcases SerialTable.mem_update hr with hold | rfl
      · exact .inl hold
      · exact .inr ⟨⟨x, hv, rfl⟩, fun _ => rfl⟩
    | _ => exact .inl hr
  · exact .inl hr

/-- A merged suggestion comes from the changeset. -/
theorem mergeSuggestion_stores : Stores ChangeSet.suggestions mergeSuggestion := by
  intro tx tx' row h r hr
  obtain ⟨id, hlc, hid, hx, hcases⟩ := mergeSuggestion_ok h
  rw [mem_syncRows] at hr ⊢
  rcases hcases with ⟨-, x, created, db, hv, -, hdb, rfl⟩ | ⟨old, -, -, x, hv, rfl⟩ |
    ⟨_, -, -, rfl⟩
  · obtain ⟨t, ht, rfl⟩ := insertSuggestion_ok_iff.mp hdb
    cases r with
    | suggestion y =>
      rcases (Table.mem_insert? ht).mp hr with hold | rfl
      · exact .inl hold
      · exact .inr ⟨⟨x, hv, rfl⟩, fun _ => rfl⟩
    | _ => exact .inl hr
  · cases r with
    | suggestion y =>
      rcases Table.mem_replace hr with hold | rfl
      · exact .inl hold
      · exact .inr ⟨⟨x, hv, rfl⟩, fun _ => rfl⟩
    | _ => exact .inl hr
  · exact .inl hr

/-- What one merge stores, a run over the rows of a changeset stores. -/
theorem Stores.run {rowsOf : ChangeSet → List Json} {merge : Tx → Json → Except StorageError Tx}
    (hmerge : Stores rowsOf merge) {tx tx' : Tx} (hrun : (rowsOf cs).foldlM merge tx = .ok tx') :
    ∀ r ∈ tx'.db.syncRows, r ∈ tx.db.syncRows ∨ ∃ row ∈ r.listed cs, r.StoredFor row := by
  refine foldlM_induction
    (P := fun _ t => ∀ r ∈ t.db.syncRows,
      r ∈ tx.db.syncRows ∨ ∃ row ∈ r.listed cs, r.StoredFor row)
    (fun _ row t t' hrow hP hstep r hr => ?_) [] (fun r hr => .inl hr) hrun
  rcases hmerge t t' row hstep r hr with hold | ⟨hnew, hlisted⟩
  · exact hP r hold
  · refine .inr ⟨row, ?_, hnew⟩
    rw [hlisted cs]
    exact hrow

/-- The transaction brings in nothing but what it stores for rows of the changeset. -/
theorem mergeAll_stores {db : Database} {tx : Tx} (h : mergeAll db cs = .ok tx) :
    ∀ r ∈ tx.db.syncRows, r ∈ db.syncRows ∨ ∃ row ∈ r.listed cs, r.StoredFor row := by
  obtain ⟨run⟩ := mergeAll_ok h
  have hpeers : tx.db.syncRows = run.afterSuggestions.db.syncRows := by
    rw [(updateSyncPeers_ok run.peers_run).2]
    rfl
  intro r hr
  rw [hpeers] at hr
  -- from the last table back to the first
  rcases mergeSuggestion_stores.run run.suggestions_run r hr with hr | hnew
  · rcases mergeEmbedding_stores.run run.embeddings_run r hr with hr | hnew
    · rcases mergeRegime_stores.run run.regimes_run r hr with hr | hnew
      · rcases mergeParamSnapshot_stores.run run.paramSnapshots_run r hr with hr | hnew
        · rcases mergeOverride_stores.run run.overrides_run r hr with hr | hnew
          · exact mergeSegment_stores.run run.segments_run r hr
          · exact .inr hnew
        · exact .inr hnew
      · exact .inr hnew
    · exact .inr hnew
  · exact .inr hnew

theorem mem_jsonRows_of_listed {r : SyncRow} {row : Json} (h : row ∈ r.listed cs) :
    row ∈ cs.jsonRows := by
  have hmem : row ∈ cs.jsonRows ↔ row ∈ cs.segments ∨ row ∈ cs.regimes ∨ row ∈ cs.overrides ∨
      row ∈ cs.embeddings ∨ row ∈ cs.suggestions ∨ row ∈ cs.paramSnapshots := by
    simp only [ChangeSet.jsonRows, List.mem_append, or_assoc]
  rw [hmem]
  cases r with
  | segment x => exact .inl h
  | regime x => exact .inr (.inl h)
  | override x => exact .inr (.inr (.inl h))
  | embedding x => exact .inr (.inr (.inr (.inl h)))
  | suggestion x => exact .inr (.inr (.inr (.inr (.inl h))))
  | paramSnapshot x => exact .inr (.inr (.inr (.inr (.inr h))))

/-! ## Deletions -/

/-- Each deletion only removes. -/
theorem deletionStatements_remove {origin : String} {db db' : Database} {n : Nat}
    {statement : String × (Database → Except SqlError (Nat × Database))}
    (hmem : statement ∈ deletionStatements origin) (h : statement.2 db = .ok (n, db')) :
    ∀ r ∈ db'.syncRows, r ∈ db.syncRows := by
  have hfilter : ∀ {ρ : Type} {p : ρ → Bool} {rows : List ρ} {x : ρ}, x ∈ rows.filter p → x ∈ rows :=
    fun hx => (List.mem_filter.mp hx).1
  intro r hr
  rw [mem_syncRows] at hr ⊢
  simp only [deletionStatements, List.mem_cons, List.not_mem_nil, or_false] at hmem
  rcases hmem with rfl | rfl | rfl | rfl | rfl | rfl
  · cases h
    cases r with
    | segment x => exact hfilter hr
    | _ => exact hr
  · obtain ⟨_, -, hret⟩ := bind_eq_ok_iff.mp h
    cases hret
    cases r with
    | regime x => exact hfilter hr
    | _ => exact hr
  · cases h
    cases r with
    | override x => exact hfilter hr
    | _ => exact hr
  · cases h
    cases r with
    | embedding x => exact hfilter hr
    | _ => exact hr
  · cases h
    cases r with
    | suggestion x => exact hfilter hr
    | _ => exact hr
  · obtain ⟨_, -, hret⟩ := bind_eq_ok_iff.mp h
    cases hret
    cases r with
    | paramSnapshot x => exact hfilter hr
    | _ => exact hr

/-- A run of deletions only removes, the one that stops half way included. -/
theorem runDeletions_remove {origin : String}
    {statements : List (String × (Database → Except SqlError (Nat × Database)))}
    (hsub : ∀ s ∈ statements, s ∈ deletionStatements origin) {n : Nat} {db db' : Database}
    {result : Except StorageError Nat} (h : runDeletions statements n db = (result, db')) :
    ∀ r ∈ db'.syncRows, r ∈ db.syncRows := by
  induction statements generalizing n db with
  | nil =>
    cases h
    exact fun r hr => hr
  | cons statement rest ih =>
    unfold runDeletions at h
    split at h
    case h_1 deleted db₁ hstep =>
      intro r hr
      have hrest := ih (fun s hs => hsub s (List.mem_cons_of_mem _ hs)) h r hr
      exact deletionStatements_remove (hsub _ List.mem_cons_self) hstep r hrest
    case h_2 e _ =>
      cases h
      exact fun r hr => hr

/-- **What applying a changeset stores**: a row that was not there before comes from a merged data
    changeset, and is what the merger stores for one of its rows. -/
theorem applyChanges_stores {me : String} {db db' : Database} {result : Except CoreError SyncResult}
    (h : applyChanges me cs db = (result, db')) :
    ∀ r ∈ db'.syncRows, r ∈ db.syncRows ∨
      (cs.kind = .data ∧ cs.originDeviceId ≠ me ∧ ∃ row ∈ r.listed cs, r.StoredFor row) := by
  unfold applyChanges at h
  split at h
  · split at h
    · next hdel =>
      cases h
      exact fun r hr => .inl (runDeletions_remove (fun s hs => hs) hdel r hr)
    · next hdel =>
      cases h
      exact fun r hr => .inl (runDeletions_remove (fun s hs => hs) hdel r hr)
  · next hkind =>
    split at h
    · cases h
      exact fun r hr => .inl hr
    · next hother =>
      split at h
      · next tx hmerge =>
        cases h
        intro r hr
        rcases mergeAll_stores hmerge r hr with hold | hnew
        · exact .inl hold
        · exact .inr ⟨hkind, hother, hnew⟩
      · cases h
        exact fun r hr => .inl hr

/-- **What applying a changeset brings in**: nothing but rows stamped by its JSON rows, whether it
    is accepted or not. -/
theorem applyChanges_brings {me : String} {db db' : Database} {result : Except CoreError SyncResult}
    (h : applyChanges me cs db = (result, db')) :
    ∀ r ∈ db'.syncRows, r ∈ db.syncRows ∨ ∃ row ∈ cs.jsonRows, Stamped row r.stamp := by
  intro r hr
  rcases applyChanges_stores h r hr with hold | ⟨-, -, row, hrow, hstored⟩
  · exact .inl hold
  · exact .inr ⟨row, mem_jsonRows_of_listed hrow, hstored.stamped⟩

end Oneshim
