/-
  The merger (`oneshim-storage/src/sync_merger.rs`): applying a changeset of a peer.

  A `Data` changeset runs in ONE transaction: its rows are merged table by table and any error
  rolls everything back.  Three rules decide what a row does:

  * append-only tables (segments, overrides, parameter snapshots): a known key is skipped;
  * last-writer-wins tables (regimes, embeddings): the later timestamp wins;
  * suggestions: the higher status wins (acted > dismissed > shown), a tie goes to the timestamp.

  A `DeletionEvent` hard-deletes every row of its origin, statement by statement and OUTSIDE a
  transaction.

  Every `merge…` below is one of two shapes, `mergeAppendOnly` and `resolve`, applied to the
  table's own columns; the row decoders (`…Params`) read the JSON fields in the order in which
  the source lists its parameters, so the first missing field is the one reported.
-/
import Oneshim.Lib.Hex
import Oneshim.Lib.Outcome
import Oneshim.Storage.Schema

namespace Oneshim

open Lib

/-! ## JSON extraction helpers -/

/-- The value of a required field, or the error that names it. -/
def required {α : Type} (kind : String) (read : Json → Option α) (v : Json) (key : String) :
    Except StorageError α :=
  match (v.get key).bind read with
  | some a => .ok a
  | none => .error (.internal ("missing " ++ kind ++ " field: " ++ key))

/-- `json_str`. -/
def jsonStr (v : Json) (key : String) : Except StorageError String :=
  required "string" Json.asStr v key

/-- `json_str_opt`. -/
def jsonStrOpt (v : Json) (key : String) : Option String := (v.get key).bind Json.asStr

/-- `json_str_or_default`. -/
def jsonStrOrDefault (v : Json) (key default : String) : String :=
  ((v.get key).bind Json.asStr).getD default

/-- `json_i64`. -/
def jsonI64 (v : Json) (key : String) : Except StorageError Int64 :=
  required "i64" Json.asI64 v key

/-- `json_i64_or_default`. -/
def jsonI64OrDefault (v : Json) (key : String) (default : Int64) : Int64 :=
  ((v.get key).bind Json.asI64).getD default

/-- `json_u64`. -/
def jsonU64 (v : Json) (key : String) : Except StorageError Nat :=
  required "u64" Json.asU64 v key

/-- `json_u32`: `as u32` keeps the low 32 bits. -/
def jsonU32 (v : Json) (key : String) : Except StorageError Nat := do
  let n ← jsonU64 v key
  return n % 2 ^ 32

/-- `json_f64`. -/
def jsonF64 (v : Json) (key : String) : Except StorageError F64 :=
  required "f64" Json.asF64 v key

/-- `extract_hlc`. -/
def extractHlc (row : Json) : Except StorageError Hlc := do
  let wallMs ← jsonU64 row "hlc_wall_ms"
  let counter ← jsonU32 row "hlc_counter"
  let deviceId ← jsonStr row "origin_device_id"
  return ⟨wallMs, counter, deviceId⟩

/-- A failed statement, under the context the source gives it. -/
def sqlErr {α : Type} (context : String) : Except SqlError α → Except StorageError α
  | .ok a => .ok a
  | .error e => .error (.internal (context ++ ": " ++ e.message))

/-! ## The two shapes of a merge -/

/-- The state of the merge transaction. -/
structure Tx where
  db : Database
  result : SyncResult

/-- Append-only: skip a known key, insert otherwise. -/
def mergeAppendOnly (keyField : String) (known : String → Bool)
    (insert : String → Except StorageError Database) (tx : Tx) (row : Json) :
    Except StorageError Tx := do
  let id ← jsonStr row keyField
  if known id then
    return { tx with result := tx.result.countSkippedDup }
  else
    let db ← insert id
    return ⟨db, tx.result.countApplied⟩

/-- Insert what is not there, update what loses, skip what wins. -/
def resolve {ℓ : Type} (tx : Tx) (stored : Option ℓ) (remoteWins : ℓ → Bool)
    (insert : Except StorageError Database) (update : ℓ → Except StorageError Database)
    (updated : SyncResult → SyncResult) : Except StorageError Tx :=
  match stored with
  | none => do
    let db ← insert
    return ⟨db, tx.result.countApplied⟩
  | some l =>
    if remoteWins l then do
      let db ← update l
      return ⟨db, updated tx.result⟩
    else
      return { tx with result := tx.result.countSkippedLww }

/-- The row and its timestamp, when the timestamp columns can be read (`query_row(..).ok()`). -/
def readable {ρ : Type} (stamp : ρ → Stamp) (r : Option ρ) : Option (ρ × Hlc) :=
  r.bind (fun r => (stamp r).readHlc.map (fun h => (r, h)))

/-- An LWW update counts as a tombstone when the incoming row is deleted. -/
def countUpdate (row : Json) (result : SyncResult) : SyncResult :=
  if jsonI64OrDefault row "is_deleted" 0 == 1 then result.countTombstoned
  else result.countApplied

/-! ## Append-only tables -/

/-- The parameters of the segment insert; `trigger_reason` is NOT among them. -/
def segmentParams (row : Json) (id : String) :
    Except StorageError ((String → Stamp → SegmentRow) × Hlc) := do
  let startTime ← jsonStr row "start_time"
  let endTime ← jsonStr row "end_time"
  let durationSecs ← jsonI64 row "duration_secs"
  let dominantCategory ← jsonStr row "dominant_category"
  let hlc ← extractHlc row
  return (fun triggerReason stamp =>
    { id, startTime, endTime, durationSecs, regimeId := jsonStrOpt row "regime_id",
      triggerReason, dominantCategory,
      appBreakdown := jsonStrOrDefault row "app_breakdown" "\x7b\x7d",
      llmSummary := jsonStrOpt row "llm_summary",
      contentActivitiesJson := jsonStrOrDefault row "content_activities_json" "[]", stamp }, hlc)

/-- `merge_segment`. -/
def mergeSegment (tx : Tx) (row : Json) : Except StorageError Tx :=
  mergeAppendOnly "id" (fun id => (tx.db.segments.find? id).isSome)
    (fun id => do
      let (columns, hlc) ← segmentParams row id
      sqlErr "insert segment" do
        let stamp ← Stamp.bind hlc
        -- the column list leaves `trigger_reason` to its default, and it has none
        let triggerReason ← notNull "activity_segments.trigger_reason" (none : Option String)
        tx.db.insertSegment (columns triggerReason stamp))
    tx row

/-- The parameters of the override insert. -/
def overrideParams (row : Json) (id : String) : Except StorageError (OverrideRow × Hlc) := do
  let segmentId ← jsonStr row "segment_id"
  let actionType ← jsonStr row "action_type"
  let createdAt ← jsonStr row "created_at"
  let hlc ← extractHlc row
  return ({ overrideId := id, segmentId, originalRegimeId := jsonStrOpt row "original_regime_id",
            actionType, actionData := jsonStrOpt row "action_data", createdAt }, hlc)

/-- `merge_override`. -/
def mergeOverride (tx : Tx) (row : Json) : Except StorageError Tx :=
  mergeAppendOnly "override_id" (fun id => (tx.db.overrides.find? id).isSome)
    (fun id => do
      let (columns, hlc) ← overrideParams row id
      sqlErr "insert override" do
        let stamp ← Stamp.bind hlc
        tx.db.insertOverride { columns with stamp })
    tx row

/-- The parameters of the parameter-snapshot insert. -/
def paramSnapshotParams (row : Json) (id : String) :
    Except StorageError (ParamSnapshotRow × Hlc) := do
  let createdAt ← jsonStr row "created_at"
  let preset ← jsonStr row "preset"
  let paramsJson ← jsonStr row "params_json"
  let hlc ← extractHlc row
  return ({ id, createdAt, preset, paramsJson }, hlc)

/-- `merge_param_snapshot`. -/
def mergeParamSnapshot (tx : Tx) (row : Json) : Except StorageError Tx :=
  mergeAppendOnly "id" (fun id => (tx.db.paramSnapshots.find? id).isSome)
    (fun id => do
      let (columns, hlc) ← paramSnapshotParams row id
      sqlErr "insert param_snapshot" do
        let stamp ← Stamp.bind hlc
        tx.db.insertParamSnapshot { columns with stamp })
    tx row

/-! ## Last-writer-wins tables -/

/-- The parameters of the regime insert and update: the same list in both. -/
def regimeParams (row : Json) (id : String) (remoteHlc : Hlc) :
    Except StorageError (RegimeRow × Hlc) := do
  let label ← jsonStr row "label"
  let detectedAt ← jsonStr row "detected_at"
  let lastSeenAt ← jsonStr row "last_seen_at"
  let occurrenceCount ← jsonI64 row "occurrence_count"
  let avgDensity ← jsonF64 row "avg_density"
  let avgImportance ← jsonF64 row "avg_importance"
  let dominantCategory ← jsonStr row "dominant_category"
  let isActive ← jsonI64 row "is_active"
  let originDeviceId ← jsonStr row "origin_device_id"
  return ({ id, label, detectedAt, lastSeenAt, occurrenceCount, avgDensity, avgImportance,
            dominantCategory, paramsSnapshotId := jsonStrOpt row "params_snapshot_id", isActive,
            isDeleted := jsonI64OrDefault row "is_deleted" 0,
            deletedAt := jsonStrOpt row "deleted_at" },
          ⟨remoteHlc.wallMs, remoteHlc.counter, originDeviceId⟩)

/-- `merge_regime`. -/
def mergeRegime (tx : Tx) (row : Json) : Except StorageError Tx := do
  let id ← jsonStr row "id"
  let remoteHlc ← extractHlc row
  resolve tx (readable RegimeRow.stamp (tx.db.regimes.find? id))
    (fun stored => remoteHlc.isAfter stored.2)
    (do
      let (columns, hlc) ← regimeParams row id remoteHlc
      sqlErr "insert regime" do
        let stamp ← Stamp.bind hlc
        tx.db.insertRegime { columns with stamp })
    (fun _ => do
      let (columns, hlc) ← regimeParams row id remoteHlc
      sqlErr "update regime" do
        let stamp ← Stamp.bind hlc
        tx.db.updateRegime { columns with stamp })
    (countUpdate row)

/-- The row under an embedding key that the merger looks at: the oldest one. -/
def Database.embeddingAt (db : Database) (segmentId modelId : String) : Option EmbeddingRow :=
  db.embeddings.first? (fun r => r.segmentId == segmentId && r.modelId == modelId)

/-- The parameters of the embedding insert and update, with the text still optional. -/
def embeddingParams (row : Json) (segmentId modelId : String) (remoteHlc : Hlc) :
    Except StorageError ((String → Stamp → EmbeddingRow) × Option String × Hlc) := do
  let vectorHex ← jsonStr row "vector"
  let contentType ← jsonStr row "content_type"
  let timestamp ← jsonStr row "timestamp"
  let originDeviceId ← jsonStr row "origin_device_id"
  return (fun originalText stamp =>
      { id := 0, segmentId, contentType, contentLabel := jsonStrOpt row "content_label",
        originalText, vector := (Hex.decode vectorHex).getD [], modelId, timestamp,
        isStale := jsonI64OrDefault row "is_stale" 0,
        isDeleted := jsonI64OrDefault row "is_deleted" 0,
        deletedAt := jsonStrOpt row "deleted_at", stamp },
    jsonStrOpt row "original_text", ⟨remoteHlc.wallMs, remoteHlc.counter, originDeviceId⟩)

/-- Bind the embedding parameters: `original_text` is `NOT NULL`. -/
def bindEmbedding (p : (String → Stamp → EmbeddingRow) × Option String × Hlc) :
    Except SqlError EmbeddingRow := do
  let stamp ← Stamp.bind p.2.2
  let text ← notNull "embedding_vectors.original_text" p.2.1
  return p.1 text stamp

/-- `merge_embedding`: the key is `(segment_id, model_id)`. -/
def mergeEmbedding (tx : Tx) (row : Json) : Except StorageError Tx := do
  let segmentId ← jsonStr row "segment_id"
  let modelId ← jsonStr row "model_id"
  let remoteHlc ← extractHlc row
  resolve tx (readable EmbeddingRow.stamp (tx.db.embeddingAt segmentId modelId))
    (fun stored => remoteHlc.isAfter stored.2)
    (do
      let params ← embeddingParams row segmentId modelId remoteHlc
      sqlErr "insert embedding" do
        let r ← bindEmbedding params
        return tx.db.insertEmbedding r)
    (fun stored => do
      let params ← embeddingParams row segmentId modelId remoteHlc
      sqlErr "update embedding" do
        let r ← bindEmbedding params
        return tx.db.updateEmbedding { r with id := stored.1.id })
    (countUpdate row)

/-! ## Suggestions: monotonic status merge -/

/-- acted (3) > dismissed (2) > shown (1) > none (0). -/
def statusOrdinal (shownAt dismissedAt actedAt : Option String) : Nat :=
  if actedAt.isSome then 3 else if dismissedAt.isSome then 2 else if shownAt.isSome then 1 else 0

/-- `suggestion_status_ordinal` of an incoming row. -/
def suggestionStatusOrdinal (row : Json) : Nat :=
  statusOrdinal (jsonStrOpt row "shown_at") (jsonStrOpt row "dismissed_at")
    (jsonStrOpt row "acted_at")

/-- The status of a stored row. -/
def SuggestionRow.status (r : SuggestionRow) : Nat :=
  statusOrdinal r.shownAt r.dismissedAt r.actedAt

/-- The parameters of the suggestion insert and update.  `created_at` is a parameter of the
    insert only; an update leaves the column as it is. -/
def suggestionParams (row : Json) (id : String) (remoteHlc : Hlc)
    (createdAt : Except StorageError String) : Except StorageError (SuggestionRow × Hlc) := do
  let suggestionType ← jsonStr row "suggestion_type"
  let source ← jsonStr row "source"
  let content ← jsonStr row "content"
  let priority ← jsonStr row "priority"
  let confidenceScore ← jsonF64 row "confidence_score"
  let relevanceScore ← jsonF64 row "relevance_score"
  let isActionable ← jsonI64 row "is_actionable"
  let createdAt ← createdAt
  let originDeviceId ← jsonStr row "origin_device_id"
  return ({ suggestionId := id, suggestionType, source, content, priority, confidenceScore,
            relevanceScore, isActionable, reasoning := jsonStrOpt row "reasoning",
            shownAt := jsonStrOpt row "shown_at", dismissedAt := jsonStrOpt row "dismissed_at",
            actedAt := jsonStrOpt row "acted_at", createdAt,
            expiresAt := jsonStrOpt row "expires_at",
            isDeleted := jsonI64OrDefault row "is_deleted" 0,
            deletedAt := jsonStrOpt row "deleted_at" },
          ⟨remoteHlc.wallMs, remoteHlc.counter, originDeviceId⟩)

/-- `merge_suggestion`. -/
def mergeSuggestion (tx : Tx) (row : Json) : Except StorageError Tx := do
  let id ← jsonStr row "suggestion_id"
  let remoteHlc ← extractHlc row
  let remoteStatus := suggestionStatusOrdinal row
  resolve tx (readable SuggestionRow.stamp (tx.db.suggestions.find? id))
    (fun stored =>
      let localStatus := stored.1.status
      -- higher status always wins; the same status falls back to the timestamp
      if remoteStatus != localStatus then decide (localStatus < remoteStatus)
      else remoteHlc.isAfter stored.2)
    (do
      let (columns, hlc) ← suggestionParams row id remoteHlc (jsonStr row "created_at")
      sqlErr "insert suggestion" do
        let stamp ← Stamp.bind hlc
        tx.db.insertSuggestion { columns with stamp })
    (fun stored => do
      let (columns, hlc) ← suggestionParams row id remoteHlc (.ok stored.1.createdAt)
      sqlErr "update suggestion" do
        let stamp ← Stamp.bind hlc
        return tx.db.updateSuggestion { columns with stamp })
    SyncResult.countApplied

/-! ## Applying a changeset -/

/-- `UPDATE sync_peers`: remember the peer's position. -/
def updateSyncPeers (tx : Tx) (cs : ChangeSet) : Except StorageError Tx :=
  sqlErr "update sync_peers" do
    let wall ← bindU64 cs.watermark.wallMs
    return { tx with
      db := tx.db.upsertSyncPeer
        ⟨cs.originDeviceId, cs.originDeviceName, wall, bindU32 cs.watermark.counter⟩ }

/-- The body of the merge transaction: six tables, then `sync_peers`. -/
def mergeAll (db : Database) (cs : ChangeSet) : Except StorageError Tx := do
  let tx ← cs.segments.foldlM mergeSegment ⟨db, {}⟩
  let tx ← cs.overrides.foldlM mergeOverride tx
  let tx ← cs.paramSnapshots.foldlM mergeParamSnapshot tx
  let tx ← cs.regimes.foldlM mergeRegime tx
  let tx ← cs.embeddings.foldlM mergeEmbedding tx
  let tx ← cs.suggestions.foldlM mergeSuggestion tx
  updateSyncPeers tx cs

/-! ## Deletion events -/

/-- Rows of another origin stay. -/
def keeps {ρ : Type} (stamp : ρ → Stamp) (origin : String) (r : ρ) : Bool :=
  (stamp r).originDeviceId != origin

/-- `DELETE FROM … WHERE origin_device_id = ?1` refused by a row that still refers to one of the
    deleted ones. -/
def checkDelete (db : Database) (referred : Bool) : Except SqlError Unit :=
  if db.foreignKeys && referred then .error .foreignKey else .ok ()

/-- The six deletions, in the order of the source, each with the rows it removes. -/
def deletionStatements (origin : String) :
    List (String × (Database → Except SqlError (Nat × Database))) :=
  [ ("activity_segments", fun db =>
      let kept := db.segments.filterRows (keeps SegmentRow.stamp origin)
      .ok (db.segments.rows.length - kept.rows.length, { db with segments := kept })),
    ("regimes", fun db => do
      let kept := db.regimes.filterRows (keeps RegimeRow.stamp origin)
      checkDelete db (db.regimes.rows.any (fun r => !keeps RegimeRow.stamp origin r &&
        db.segments.rows.any (fun s => s.regimeId == some r.id)))
      return (db.regimes.rows.length - kept.rows.length, { db with regimes := kept })),
    ("regime_overrides", fun db =>
      let kept := db.overrides.filterRows (keeps OverrideRow.stamp origin)
      .ok (db.overrides.rows.length - kept.rows.length, { db with overrides := kept })),
    ("embedding_vectors", fun db =>
      let kept := db.embeddings.filterRows (keeps EmbeddingRow.stamp origin)
      .ok (db.embeddings.rows.length - kept.rows.length, { db with embeddings := kept })),
    ("suggestions", fun db =>
      let kept := db.suggestions.filterRows (keeps SuggestionRow.stamp origin)
      .ok (db.suggestions.rows.length - kept.rows.length, { db with suggestions := kept })),
    ("trigger_params_snapshots", fun db => do
      let kept := db.paramSnapshots.filterRows (keeps ParamSnapshotRow.stamp origin)
      checkDelete db (db.paramSnapshots.rows.any (fun r =>
        !keeps ParamSnapshotRow.stamp origin r &&
          db.regimes.rows.any (fun s => s.paramsSnapshotId == some r.id)))
      return (db.paramSnapshots.rows.length - kept.rows.length,
        { db with paramSnapshots := kept })) ]

/-- Run the deletions one after the other; a failed one leaves the earlier ones done. -/
def runDeletions (statements : List (String × (Database → Except SqlError (Nat × Database))))
    (totalDeleted : Nat) (db : Database) : Except StorageError Nat × Database :=
  match statements with
  | [] => (.ok totalDeleted, db)
  | (table, statement) :: rest =>
    match statement db with
    | .ok (deleted, db') => runDeletions rest (totalDeleted + deleted) db'
    | .error e => (.error (.internal ("GDPR deletion on " ++ table ++ ": " ++ e.message)), db)

/-- `handle_deletion_event`. -/
def handleDeletionEvent (db : Database) (originDeviceId : String) :
    Except StorageError Nat × Database :=
  runDeletions (deletionStatements originDeviceId) 0 db

/-- `apply_changes`: the result, and the database afterwards. -/
def applyChanges (localDeviceId : String) (cs : ChangeSet) (db : Database) :
    Except CoreError SyncResult × Database :=
  match cs.kind with
  | .deletionEvent =>
    match handleDeletionEvent db cs.originDeviceId with
    | (.ok deleted, db') => (.ok { tombstoned := deleted, newWatermark := cs.watermark }, db')
    | (.error e, db') => (.error e.toCore, db')
  | .data =>
    -- skip self-originated changesets
    if cs.originDeviceId = localDeviceId then (.ok { newWatermark := cs.watermark }, db)
    else
      match mergeAll db cs with
      | .ok tx => (.ok { tx.result with newWatermark := cs.watermark }, tx.db)
      | .error e => (.error e.toCore, db)

end Oneshim
