/-
  Applying a changeset twice, and the row accounting.

  A row that has been merged is ABSORBED: the register of its key covers its version, so merging
  it again is a skip.  All six tables are banks of registers, and registers only grow, so after a
  successful transaction every row of the changeset is absorbed by the final database — not only
  by the state right after its own merge.  The second application therefore skips row by row.

  One thing can break this.  `merge_embedding` looks at the OLDEST row under its key through typed
  reads; when that row's timestamp does not fit `u64`/`u32` the read fails, the merger takes the
  key for free and inserts, and the next application inserts again.  `EmbeddingKeysReadable` rules
  that out.  (Regimes and suggestions have a unique key: there the same failure is an error.)
-/
import Oneshim.Storage.ApplySpec
import Oneshim.Storage.SyncExtractor

namespace Oneshim

open Lib

/-! ## Accounting -/

theorem mergeAppendOnly_total {keyField : String} {known : String → Bool}
    {insert : String → Except StorageError Database} {tx tx' : Tx} {row : Json}
    (h : mergeAppendOnly keyField known insert tx row = .ok tx') :
    tx'.result.total = tx.result.total + 1 := by
  obtain ⟨id, -, ⟨-, rfl⟩ | ⟨-, db, -, rfl⟩⟩ := mergeAppendOnly_ok h
  · exact SyncResult.total_countSkippedDup _
  · exact SyncResult.total_countApplied _

theorem resolve_total {ℓ : Type} {tx tx' : Tx} {stored : Option ℓ} {remoteWins : ℓ → Bool}
    {insert : Except StorageError Database} {update : ℓ → Except StorageError Database}
    {updated : SyncResult → SyncResult} (hupd : ∀ r, (updated r).total = r.total + 1)
    (h : resolve tx stored remoteWins insert update updated = .ok tx') :
    tx'.result.total = tx.result.total + 1 := by
  rcases resolve_ok h with ⟨-, db, -, rfl⟩ | ⟨l, -, -, db, -, rfl⟩ | ⟨l, -, -, rfl⟩
  · exact SyncResult.total_countApplied _
  · exact hupd _
  · exact SyncResult.total_countSkippedLww _

theorem mergeRegime_total {tx tx' : Tx} {row : Json} (h : mergeRegime tx row = .ok tx') :
    tx'.result.total = tx.result.total + 1 := by
  obtain ⟨_, -, h⟩ := bind_eq_ok_iff.mp h
  obtain ⟨_, -, h⟩ := bind_eq_ok_iff.mp h
  exact resolve_total (total_countUpdate row) h

theorem mergeEmbedding_total {tx tx' : Tx} {row : Json} (h : mergeEmbedding tx row = .ok tx') :
    tx'.result.total = tx.result.total + 1 := by
  obtain ⟨_, -, h⟩ := bind_eq_ok_iff.mp h
  obtain ⟨_, -, h⟩ := bind_eq_ok_iff.mp h
  obtain ⟨_, -, h⟩ := bind_eq_ok_iff.mp h
  exact resolve_total (total_countUpdate row) h

theorem mergeSuggestion_total {tx tx' : Tx} {row : Json} (h : mergeSuggestion tx row = .ok tx') :
    tx'.result.total = tx.result.total + 1 := by
  obtain ⟨_, -, h⟩ := bind_eq_ok_iff.mp h
  obtain ⟨_, -, h⟩ := bind_eq_ok_iff.mp h
  exact resolve_total SyncResult.total_countApplied h

/-- A step that counts one row gives a run that counts its rows. -/
theorem run_total {merge : Tx → Json → Except StorageError Tx}
    (hstep : ∀ {tx tx' : Tx} {row : Json}, merge tx row = .ok tx' →
      tx'.result.total = tx.result.total + 1)
    {rows : List Json} {tx tx' : Tx} (h : rows.foldlM merge tx = .ok tx') :
    tx'.result.total = tx.result.total + rows.length := by
  have hrun := foldlM_induction
    (P := fun seen t => t.result.total = tx.result.total + seen.length)
    (fun seen row t t' _ ht hs => by
      rw [hstep hs, ht, List.length_append, List.length_singleton]
      omega)
    [] rfl h
  exact hrun

/-- The rows the merger visits: none of its own device's, no preferences. -/
def visitedRows (localDeviceId : String) (cs : ChangeSet) : Nat :=
  if cs.originDeviceId = localDeviceId then 0
  else cs.segments.length + cs.overrides.length + cs.paramSnapshots.length + cs.regimes.length +
    cs.embeddings.length + cs.suggestions.length

theorem MergeRun.total {db : Database} {cs : ChangeSet} {tx : Tx} (run : MergeRun db cs tx) :
    tx.result.total = cs.segments.length + cs.overrides.length + cs.paramSnapshots.length +
      cs.regimes.length + cs.embeddings.length + cs.suggestions.length := by
  have h₁ := run_total mergeAppendOnly_total run.segments_run
  have h₂ := run_total mergeAppendOnly_total run.overrides_run
  have h₃ := run_total mergeAppendOnly_total run.paramSnapshots_run
  have h₄ := run_total mergeRegime_total run.regimes_run
  have h₅ := run_total mergeEmbedding_total run.embeddings_run
  have h₆ := run_total mergeSuggestion_total run.suggestions_run
  have h₀ : (⟨db, {}⟩ : Tx).result.total = 0 := rfl
  rw [(updateSyncPeers_ok run.peers_run).1]
  omega

/-- **Accounting**: in every accepted application the four counters add up to the rows visited. -/
theorem applyChanges_accounting {me : String} {cs : ChangeSet} {db db' : Database} {r : SyncResult}
    (hkind : cs.kind = .data) (h : applyChanges me cs db = (.ok r, db')) :
    r.total = visitedRows me cs := by
  unfold visitedRows
  rcases applyChanges_data_ok hkind h with ⟨hself, rfl, -⟩ | ⟨hself, tx, htx, rfl, -⟩
  · rw [if_pos hself]
    rfl
  · obtain ⟨run⟩ := mergeAll_ok htx
    rw [if_neg hself]
    exact run.total

/-! ## The second application -/

/-- The oldest row under each embedding key of the changeset has a readable timestamp. -/
def EmbeddingKeysReadable (db : Database) (cs : ChangeSet) : Prop :=
  ∀ row ∈ cs.embeddings, ∀ s m, jsonStr row "segment_id" = .ok s →
    jsonStr row "model_id" = .ok m → ReadableAt db (s, m)

/-- Rows that are skips at `db` give a run that leaves `db`, `applied` and `tombstoned` alone. -/
theorem run_skips {merge : Tx → Json → Except StorageError Tx} {db : Database} {rows : List Json}
    {skip : SyncResult → SyncResult}
    (hcount : ∀ r, (skip r).applied = r.applied ∧ (skip r).tombstoned = r.tombstoned)
    (hskip : ∀ row ∈ rows, ∀ r, merge ⟨db, r⟩ row = .ok ⟨db, skip r⟩) (r₀ : SyncResult) :
    ∃ r, rows.foldlM merge ⟨db, r₀⟩ = .ok ⟨db, r⟩ ∧ r.applied = r₀.applied ∧
      r.tombstoned = r₀.tombstoned := by
  obtain ⟨⟨db', r⟩, hrun, rfl, happ, htomb⟩ := foldlM_total (f := merge) (s := ⟨db, r₀⟩)
    (P := fun _ t => t.db = db ∧ t.result.applied = r₀.applied ∧
      t.result.tombstoned = r₀.tombstoned)
    (fun _ row t hrow ht => by
      obtain ⟨d, r⟩ := t
      obtain ⟨rfl, happ, htomb⟩ := ht
      refine ⟨_, hskip row hrow r, rfl, ?_, ?_⟩
      · rw [(hcount r).1]
        exact happ
      · rw [(hcount r).2]
        exact htomb)
    [] ⟨rfl, rfl, rfl⟩
  exact ⟨r, hrun, happ, htomb⟩

theorem embeddingOffer_eq_some {row : Json} {k : String × String} {v : Hlc × Option EmbeddingRow}
    (ho : embeddingOffer row = some (k, v)) :
    jsonStr row "segment_id" = .ok k.1 ∧ jsonStr row "model_id" = .ok k.2 ∧
      extractHlc row = .ok v.1 ∧ v.2 = (embeddingVersion row).toOption := by
  unfold embeddingOffer at ho
  split at ho
  case h_1 s m hlc hs hm hx =>
    cases ho
    exact ⟨hs, hm, hx, rfl⟩
  case h_2 => nomatch ho

/-! Rows merged into a table are skips at every database that still holds that table. -/

theorem segments_absorbed {rows : List Json} {tx tx' : Tx} {db : Database}
    (hrun : rows.foldlM mergeSegment tx = .ok tx') (hdb : db.segments = tx'.db.segments) :
    ∀ row ∈ rows, ∀ r, mergeSegment ⟨db, r⟩ row = .ok ⟨db, r.countSkippedDup⟩ := by
  intro row hrow r
  obtain ⟨k, v, ho, hc⟩ := segmentBank.run_absorbs (fun _ _ => trivial) trivial hrun row hrow
  have hc' : Covers (appendRegister db.segments k) v.1 := by
    rw [hdb]
    exact hc
  have hid : jsonStr row "id" = .ok k :=
    appendOffer_eq_some (fun _ => .error (.internal "")) ho
  exact mergeAppendOnly_of_known hid (known_of_covers hc')

theorem overrides_absorbed {rows : List Json} {tx tx' : Tx} {db : Database}
    (hrun : rows.foldlM mergeOverride tx = .ok tx') (hdb : db.overrides = tx'.db.overrides) :
    ∀ row ∈ rows, ∀ r, mergeOverride ⟨db, r⟩ row = .ok ⟨db, r.countSkippedDup⟩ := by
  intro row hrow r
  obtain ⟨k, v, ho, hc⟩ := overrideBank.run_absorbs (fun _ _ => trivial) trivial hrun row hrow
  have hc' : Covers (appendRegister db.overrides k) v.1 := by
    rw [hdb]
    exact hc
  have hid : jsonStr row "override_id" = .ok k := appendOffer_eq_some overrideVersion ho
  exact mergeAppendOnly_of_known hid (known_of_covers hc')

theorem paramSnapshots_absorbed {rows : List Json} {tx tx' : Tx} {db : Database}
    (hrun : rows.foldlM mergeParamSnapshot tx = .ok tx')
    (hdb : db.paramSnapshots = tx'.db.paramSnapshots) :
    ∀ row ∈ rows, ∀ r, mergeParamSnapshot ⟨db, r⟩ row = .ok ⟨db, r.countSkippedDup⟩ := by
  intro row hrow r
  obtain ⟨k, v, ho, hc⟩ := paramSnapshotBank.run_absorbs (fun _ _ => trivial) trivial hrun row hrow
  have hc' : Covers (appendRegister db.paramSnapshots k) v.1 := by
    rw [hdb]
    exact hc
  have hid : jsonStr row "id" = .ok k := appendOffer_eq_some paramSnapshotVersion ho
  exact mergeAppendOnly_of_known hid (known_of_covers hc')

theorem regimes_absorbed {rows : List Json} {tx tx' : Tx} {db : Database}
    (hrun : rows.foldlM mergeRegime tx = .ok tx') (hdb : db.regimes = tx'.db.regimes) :
    ∀ row ∈ rows, ∀ r, mergeRegime ⟨db, r⟩ row = .ok ⟨db, r.countSkippedLww⟩ := by
  intro row hrow r
  obtain ⟨k, v, ho, hc⟩ := regimeBank.run_absorbs (fun _ _ => trivial) trivial hrun row hrow
  have hc' : Covers (regimeRegister db.regimes k) v.1 := by
    rw [hdb]
    exact hc
  exact mergeRegime_of_covers ho hc'

theorem embeddings_absorbed {rows : List Json} {tx tx' : Tx} {db : Database}
    (hread : ∀ row ∈ rows, ∀ k v, embeddingOffer row = some (k, v) → ReadableAt tx.db k)
    (hrun : rows.foldlM mergeEmbedding tx = .ok tx') (hdb : db.embeddings = tx'.db.embeddings) :
    ∀ row ∈ rows, ∀ r, mergeEmbedding ⟨db, r⟩ row = .ok ⟨db, r.countSkippedLww⟩ := by
  intro row hrow r
  obtain ⟨k, v, ho, hc⟩ :=
    (embeddingBank { k | ReadableAt tx.db k }).run_absorbs hread (fun k hk => hk) hrun row hrow
  have hc' : Covers (embeddingRegister db.embeddings k) v.1 := by
    rw [hdb]
    exact hc
  exact mergeEmbedding_of_covers ho hc'

theorem suggestions_absorbed {rows : List Json} {tx tx' : Tx} {db : Database}
    (hrun : rows.foldlM mergeSuggestion tx = .ok tx')
    (hdb : db.suggestions = tx'.db.suggestions) :
    ∀ row ∈ rows, ∀ r, mergeSuggestion ⟨db, r⟩ row = .ok ⟨db, r.countSkippedLww⟩ := by
  intro row hrow r
  obtain ⟨k, v, ho, hc⟩ := suggestionBank.run_absorbs (fun _ _ => trivial) trivial hrun row hrow
  have hc' : Covers (suggestionRegister db.suggestions k) v.1 := by
    rw [hdb]
    exact hc
  exact mergeSuggestion_of_covers ho hc'

/-- **The second transaction**: every row of a merged changeset is skipped. -/
theorem MergeRun.again {db : Database} {cs : ChangeSet} {tx : Tx} (run : MergeRun db cs tx)
    (hread : EmbeddingKeysReadable db cs) :
    ∃ tx₂, mergeAll tx.db cs = .ok tx₂ ∧ tx₂.result.applied = 0 ∧ tx₂.result.tombstoned = 0 ∧
      tx₂.db = { tx.db with syncPeers := tx₂.db.syncPeers } := by
  have hdup : ∀ r : SyncResult, r.countSkippedDup.applied = r.applied ∧
      r.countSkippedDup.tombstoned = r.tombstoned := fun _ => ⟨rfl, rfl⟩
  have hlww : ∀ r : SyncResult, r.countSkippedLww.applied = r.applied ∧
      r.countSkippedLww.tombstoned = r.tombstoned := fun _ => ⟨rfl, rfl⟩
  have hkeys : ∀ row ∈ cs.embeddings, ∀ k v, embeddingOffer row = some (k, v) →
      ReadableAt run.afterRegimes.db k := by
    intro row hrow k v ho
    obtain ⟨hs, hm, -, -⟩ := embeddingOffer_eq_some ho
    rw [run.afterRegimes_db]
    exact hread row hrow k.1 k.2 hs hm
  -- table by table: the rows are absorbed at the end of their own run, and the later runs leave
  -- that table alone
  obtain ⟨r₁, h₁, happ₁, htomb₁⟩ := run_skips hdup
    (segments_absorbed run.segments_run run.segments_eq) {}
  obtain ⟨r₂, h₂, happ₂, htomb₂⟩ := run_skips hdup
    (overrides_absorbed run.overrides_run run.overrides_eq) r₁
  obtain ⟨r₃, h₃, happ₃, htomb₃⟩ := run_skips hdup
    (paramSnapshots_absorbed run.paramSnapshots_run run.paramSnapshots_eq) r₂
  obtain ⟨r₄, h₄, happ₄, htomb₄⟩ := run_skips hlww
    (regimes_absorbed run.regimes_run run.regimes_eq) r₃
  obtain ⟨r₅, h₅, happ₅, htomb₅⟩ := run_skips hlww
    (embeddings_absorbed hkeys run.embeddings_run run.embeddings_eq) r₄
  obtain ⟨r₆, h₆, happ₆, htomb₆⟩ := run_skips hlww
    (suggestions_absorbed run.suggestions_run run.suggestions_eq) r₅
  -- the position of the peer was bound once, so it can be bound again
  obtain ⟨wall, hwall, -⟩ := sqlErr_bind_ok run.peers_run
  have h₇ : ∃ tx₂, updateSyncPeers ⟨tx.db, r₆⟩ cs = .ok tx₂ := by
    unfold updateSyncPeers
    rw [hwall]
    exact ⟨_, rfl⟩
  obtain ⟨tx₂, h₇⟩ := h₇
  obtain ⟨hres, hdb⟩ := updateSyncPeers_ok h₇
  refine ⟨tx₂, ?_, ?_, ?_, hdb⟩
  · simp only [mergeAll, h₁, h₂, h₃, h₄, h₅, h₆, h₇, ok_bind]
  · rw [hres, happ₆, happ₅, happ₄, happ₃, happ₂, happ₁]
  · rw [hres, htomb₆, htomb₅, htomb₄, htomb₃, htomb₂, htomb₁]

/-- **Idempotence**: a changeset that was accepted is accepted again, applies and tombstones
    nothing and leaves every synced table as it is; and both applications account for every row
    they visit. -/
theorem applyChanges_twice {me : String} {cs : ChangeSet} {db db₁ : Database} {r₁ : SyncResult}
    (hkind : cs.kind = .data) (hread : EmbeddingKeysReadable db cs)
    (h : applyChanges me cs db = (.ok r₁, db₁)) :
    r₁.total = visitedRows me cs ∧
    ∃ r₂ db₂, applyChanges me cs db₁ = (.ok r₂, db₂) ∧ r₂.applied = 0 ∧ r₂.tombstoned = 0 ∧
      db₂ = { db₁ with syncPeers := db₂.syncPeers } ∧ r₂.total = visitedRows me cs := by
  refine ⟨applyChanges_accounting hkind h, ?_⟩
  have hsecond : ∃ r₂ db₂, applyChanges me cs db₁ = (.ok r₂, db₂) ∧ r₂.applied = 0 ∧
      r₂.tombstoned = 0 ∧ db₂ = { db₁ with syncPeers := db₂.syncPeers } := by
    rcases applyChanges_data_ok hkind h with ⟨hself, rfl, rfl⟩ | ⟨hself, tx, htx, rfl, rfl⟩
    · exact ⟨_, db₁, applyChanges_self hkind hself, rfl, rfl, rfl⟩
    · obtain ⟨run⟩ := mergeAll_ok htx
      obtain ⟨tx₂, htx₂, happ, htomb, hdb⟩ := run.again hread
      exact ⟨_, tx₂.db, applyChanges_merged hkind hself htx₂, happ, htomb, hdb⟩
  obtain ⟨r₂, db₂, h₂, happ, htomb, hdb⟩ := hsecond
  exact ⟨r₂, db₂, h₂, happ, htomb, hdb, applyChanges_accounting hkind h₂⟩

/-- An embedding row of device `a`. -/
def sampleEmbedding : EmbeddingRow :=
  { id := 1, segmentId := "seg", contentType := "summary", originalText := "text", vector := [1],
    modelId := "model", timestamp := "t", stamp := ⟨5, 0, "a"⟩ }

/-- A changeset of device `a` with one embedding. -/
def sampleEmbeddingChangeSet : ChangeSet :=
  { originDeviceId := "a", watermark := ⟨5, 0, "a"⟩,
    embeddings := [embeddingJson true sampleEmbedding] }

theorem applyChanges_twice_embedding :
    ∃ r₂ db₂, applyChanges "b" sampleEmbeddingChangeSet
        (applyChanges "b" sampleEmbeddingChangeSet (Database.empty true)).2 = (.ok r₂, db₂) ∧
      r₂.applied = 0 := by
  have hfirst : applyChanges "b" sampleEmbeddingChangeSet (Database.empty true)
      = (.ok { applied := 1, newWatermark := ⟨5, 0, "a"⟩ },
        (applyChanges "b" sampleEmbeddingChangeSet (Database.empty true)).2) := by rfl
  have hread : EmbeddingKeysReadable (Database.empty true) sampleEmbeddingChangeSet := by
    intro row hrow s m hs hm r hr
    nomatch hr
  obtain ⟨-, r₂, db₂, h₂, happ, -⟩ := applyChanges_twice rfl hread hfirst
  exact ⟨r₂, db₂, h₂, happ⟩

/-- A database whose only embedding has a wall clock that no `u64` read accepts. -/
def unreadableDatabase : Database :=
  (Database.empty true).insertEmbedding { sampleEmbedding with stamp := ⟨-1, 0, "a"⟩ }

/-- Without readable timestamps the second application inserts again. -/
theorem applyChanges_twice_unreadable :
    ¬ ∀ (me : String) (cs : ChangeSet) (db db₁ : Database) (r₁ : SyncResult), cs.kind = .data →
      applyChanges me cs db = (.ok r₁, db₁) →
      ∃ r₂ db₂, applyChanges me cs db₁ = (.ok r₂, db₂) ∧ r₂.applied = 0 ∧ r₂.tombstoned = 0 ∧
        db₂ = { db₁ with syncPeers := db₂.syncPeers } := by
  intro hall
  have hfirst : applyChanges "b" sampleEmbeddingChangeSet unreadableDatabase
      = (.ok { applied := 1, newWatermark := ⟨5, 0, "a"⟩ },
        (applyChanges "b" sampleEmbeddingChangeSet unreadableDatabase).2) := by rfl
  obtain ⟨r₂, db₂, h₂, happ, -⟩ := hall _ _ _ _ _ rfl hfirst
  have hsecond : (applyChanges "b" sampleEmbeddingChangeSet
      (applyChanges "b" sampleEmbeddingChangeSet unreadableDatabase).2).1
      = .ok { applied := 1, newWatermark := ⟨5, 0, "a"⟩ } := by rfl
  rw [h₂] at hsecond
  cases hsecond
  nomatch happ

end Oneshim
