/-
  The extractor (`oneshim-storage/src/sync_extractor.rs`): collecting what changed since a
  watermark.

  Each of the six tables is queried for rows whose stamp lies after the watermark, rendered with
  `json_object` and ordered by `(hlc_wall_ms, hlc_counter)`.  The watermark of the changeset is the
  maximum over ALL rows of ALL tables (`compute_max_hlc`), whatever device they came from, stamped
  with the local device id.

  A `REAL` column travels as decimal text: SQLite prints it and serde parses the text.  That
  conversion is the parameter `jsonReal`; it gives nothing when the text is no JSON number (an
  infinity).
-/
import Mathlib.Data.List.Sort
import Oneshim.Lib.Hex
import Oneshim.Lib.Outcome
import Oneshim.Storage.Schema

namespace Oneshim

open Lib

/-- The data-minimization flags of `SyncConfig`. -/
structure SyncConfig where
  includeContentActivities : Bool := false
  includeEmbeddingText : Bool := false

/-- `SqliteSyncExtractor`, less its connection. -/
structure SqliteSyncExtractor where
  deviceId : String
  deviceName : String
  syncConfig : SyncConfig := {}

/-! ## Rendering rows -/

/-- The three stamp columns at the end of every row. -/
def stampFields (s : Stamp) : List (String × Json) :=
  [("hlc_wall_ms", .ofInt64 s.hlcWallMs), ("hlc_counter", .ofInt64 s.hlcCounter),
   ("origin_device_id", .str s.originDeviceId)]

/-- `seg_cols`: `content_activities_json` only when it is included. -/
def segmentJson (includeContent : Bool) (r : SegmentRow) : Json :=
  .obj (([("id", .str r.id), ("start_time", .str r.startTime), ("end_time", .str r.endTime),
    ("duration_secs", .ofInt64 r.durationSecs), ("regime_id", .ofStr? r.regimeId),
    ("dominant_category", .str r.dominantCategory), ("app_breakdown", .str r.appBreakdown),
    ("llm_summary", .ofStr? r.llmSummary)] : List (String × Json))
    ++ (if includeContent then [("content_activities_json", .str r.contentActivitiesJson)] else [])
    ++ stampFields r.stamp)

/-- The columns of a regime, with the two reals as they come out of the text. -/
def regimeObject (r : RegimeRow) (avgDensity avgImportance : F64) : Json :=
  .obj (([("id", .str r.id), ("label", .str r.label), ("detected_at", .str r.detectedAt),
    ("last_seen_at", .str r.lastSeenAt), ("occurrence_count", .ofInt64 r.occurrenceCount),
    ("avg_density", .float avgDensity), ("avg_importance", .float avgImportance),
    ("dominant_category", .str r.dominantCategory),
    ("params_snapshot_id", .ofStr? r.paramsSnapshotId), ("is_active", .ofInt64 r.isActive),
    ("is_deleted", .ofInt64 r.isDeleted), ("deleted_at", .ofStr? r.deletedAt)]
      : List (String × Json))
    ++ stampFields r.stamp)

/-- A regime as JSON. -/
def regimeJson (jsonReal : F64 → Option F64) (r : RegimeRow) : Option Json := do
  let avgDensity ← jsonReal r.avgDensity
  let avgImportance ← jsonReal r.avgImportance
  return regimeObject r avgDensity avgImportance

/-- An override as JSON. -/
def overrideJson (r : OverrideRow) : Json :=
  .obj (([("override_id", .str r.overrideId), ("segment_id", .str r.segmentId),
    ("original_regime_id", .ofStr? r.originalRegimeId), ("action_type", .str r.actionType),
    ("action_data", .ofStr? r.actionData), ("created_at", .str r.createdAt)]
      : List (String × Json))
    ++ stampFields r.stamp)

/-- `embed_cols`: `original_text` only when it is included; the vector as `hex(vector)`. -/
def embeddingJson (includeText : Bool) (r : EmbeddingRow) : Json :=
  .obj (([("id", .int r.id), ("segment_id", .str r.segmentId),
    ("content_type", .str r.contentType), ("content_label", .ofStr? r.contentLabel)]
      : List (String × Json))
    ++ (if includeText then [("original_text", .str r.originalText)] else [])
    ++ ([("vector", .str (Hex.encode r.vector)), ("model_id", .str r.modelId),
        ("timestamp", .str r.timestamp), ("is_stale", .ofInt64 r.isStale),
        ("is_deleted", .ofInt64 r.isDeleted), ("deleted_at", .ofStr? r.deletedAt)]
        : List (String × Json))
    ++ stampFields r.stamp)

/-- The columns of a suggestion, with the two reals as they come out of the text. -/
def suggestionObject (r : SuggestionRow) (confidenceScore relevanceScore : F64) : Json :=
  .obj (([("suggestion_id", .str r.suggestionId), ("suggestion_type", .str r.suggestionType),
    ("source", .str r.source), ("content", .str r.content), ("priority", .str r.priority),
    ("confidence_score", .float confidenceScore), ("relevance_score", .float relevanceScore),
    ("is_actionable", .ofInt64 r.isActionable), ("reasoning", .ofStr? r.reasoning),
    ("shown_at", .ofStr? r.shownAt), ("dismissed_at", .ofStr? r.dismissedAt),
    ("acted_at", .ofStr? r.actedAt), ("created_at", .str r.createdAt),
    ("expires_at", .ofStr? r.expiresAt), ("is_deleted", .ofInt64 r.isDeleted),
    ("deleted_at", .ofStr? r.deletedAt)] : List (String × Json))
    ++ stampFields r.stamp)

/-- A suggestion as JSON. -/
def suggestionJson (jsonReal : F64 → Option F64) (r : SuggestionRow) : Option Json := do
  let confidenceScore ← jsonReal r.confidenceScore
  let relevanceScore ← jsonReal r.relevanceScore
  return suggestionObject r confidenceScore relevanceScore

/-- A parameter snapshot as JSON. -/
def paramSnapshotJson (r : ParamSnapshotRow) : Json :=
  .obj (([("id", .str r.id), ("created_at", .str r.createdAt), ("preset", .str r.preset),
    ("params_json", .str r.paramsJson)] : List (String × Json)) ++ stampFields r.stamp)

/-! ## The queries -/

/-- `UPDATE … SET origin_device_id = ?1 WHERE origin_device_id = ''`. -/
def Stamp.backfill (deviceId : String) (s : Stamp) : Stamp :=
  if s.originDeviceId = "" then { s with originDeviceId := deviceId } else s

/-- `backfill_origin_device_id`: give every unowned row to this device. -/
def backfillOriginDeviceId (deviceId : String) (db : Database) : Database :=
  { db with
    segments := db.segments.mapRows
      (fun r => { r with stamp := r.stamp.backfill deviceId }) (fun _ => rfl)
    regimes := db.regimes.mapRows
      (fun r => { r with stamp := r.stamp.backfill deviceId }) (fun _ => rfl)
    overrides := db.overrides.mapRows
      (fun r => { r with stamp := r.stamp.backfill deviceId }) (fun _ => rfl)
    embeddings := db.embeddings.mapRows
      (fun r => { r with stamp := r.stamp.backfill deviceId }) (fun _ => rfl)
    suggestions := db.suggestions.mapRows
      (fun r => { r with stamp := r.stamp.backfill deviceId }) (fun _ => rfl)
    paramSnapshots := db.paramSnapshots.mapRows
      (fun r => { r with stamp := r.stamp.backfill deviceId }) (fun _ => rfl) }

/-- The `WHERE` clause: the stamp lies after `(wall, counter, deviceId)`, column by column. -/
def Stamp.changedSince (wall counter : Int64) (deviceId : String) (s : Stamp) : Bool :=
  decide (wall < s.hlcWallMs) ||
    (s.hlcWallMs == wall && decide (counter < s.hlcCounter)) ||
    (s.hlcWallMs == wall && s.hlcCounter == counter && decide (deviceId < s.originDeviceId))

/-- `ORDER BY hlc_wall_ms, hlc_counter`. -/
def Stamp.before (a b : Stamp) : Prop :=
  a.hlcWallMs < b.hlcWallMs ∨ (a.hlcWallMs = b.hlcWallMs ∧ a.hlcCounter ≤ b.hlcCounter)

instance (a b : Stamp) : Decidable (Stamp.before a b) :=
  inferInstanceAs (Decidable (_ ∨ _))

/-- The rows of a table after `since`, in the order of the query. -/
def changedRows {ρ : Type} (stamp : ρ → Stamp) (rows : List ρ) (wall counter : Int64)
    (deviceId : String) : List ρ :=
  (rows.filter (fun r => (stamp r).changedSince wall counter deviceId)).insertionSort
    (fun a b => (stamp a).before (stamp b))

/-- `query_table_changes`. -/
def queryTableChanges {ρ : Type} (table : String) (rows : List ρ) (stamp : ρ → Stamp)
    (columns : ρ → Option Json) (since : Hlc) : Except StorageError (List Json) :=
  match bindU64 since.wallMs with
  | .error e => .error (.internal ("query " ++ table ++ ": " ++ e.message))
  | .ok wall =>
    (changedRows stamp rows wall (bindU32 since.counter) since.deviceId).mapM (fun r =>
      match columns r with
      | some value => .ok value
      | none => .error (.internal ("json parse " ++ table ++ ": number out of range")))

/-- `COALESCE(MAX(column), 0)`. -/
def coalesceMax (xs : List Int64) : Int := ((xs.map Int64.toInt).max?).getD 0

/-- The error of a maximum that does not fit the type it is read as. -/
def maxHlcError (table : String) (value : Int) (index : Nat) : String :=
  "max HLC query on " ++ table ++ ": Integer " ++ toString value ++ " out of range at index " ++
    toString index

/-- One table's maximum: the largest wall clock, and the largest counter among its rows. -/
def tableMaxHlc (table : String) (stamps : List Stamp) : Except StorageError (Nat × Nat) :=
  let maxWall := coalesceMax (stamps.map Stamp.hlcWallMs)
  let latest := stamps.filter (fun s => s.hlcWallMs.toInt == maxWall)
  let wall := coalesceMax (latest.map Stamp.hlcWallMs)
  let counter := coalesceMax (latest.map Stamp.hlcCounter)
  match readU64 wall, readU32 counter with
  | some wallMs, some counter => .ok (wallMs, counter)
  | none, _ => .error (.internal (maxHlcError table wall 0))
  | _, none => .error (.internal (maxHlcError table counter 1))

/-- The stamps of the six tables, under their names. -/
def syncedStamps (db : Database) : List (String × List Stamp) :=
  [("activity_segments", db.segments.rows.map SegmentRow.stamp),
   ("regimes", db.regimes.rows.map RegimeRow.stamp),
   ("regime_overrides", db.overrides.rows.map OverrideRow.stamp),
   ("embedding_vectors", db.embeddings.rows.map EmbeddingRow.stamp),
   ("suggestions", db.suggestions.rows.map SuggestionRow.stamp),
   ("trigger_params_snapshots", db.paramSnapshots.rows.map ParamSnapshotRow.stamp)]

/-- One round of the loop of `compute_max_hlc`. -/
def raiseMax (deviceId : String) (max : Hlc) (t : String × List Stamp) :
    Except StorageError Hlc := do
  let (wallMs, counter) ← tableMaxHlc t.1 t.2
  let candidate : Hlc := ⟨wallMs, counter, deviceId⟩
  return if candidate.isAfter max then candidate else max

/-- `compute_max_hlc`: the maximum over all tables, under the LOCAL device id. -/
def computeMaxHlc (deviceId : String) (db : Database) : Except StorageError Hlc :=
  (syncedStamps db).foldlM (raiseMax deviceId) Hlc.default

/-! ## The port -/

namespace SqliteSyncExtractor

/-- The body of `get_changes_since`, on the backfilled database. -/
def collect (jsonReal : F64 → Option F64) (self : SqliteSyncExtractor) (since : Hlc)
    (db : Database) : Except StorageError ChangeSet := do
  let includeContent := self.syncConfig.includeContentActivities
  let includeText := self.syncConfig.includeEmbeddingText
  let segments ← queryTableChanges "activity_segments" db.segments.rows SegmentRow.stamp
    (fun r => some (segmentJson includeContent r)) since
  let regimes ← queryTableChanges "regimes" db.regimes.rows RegimeRow.stamp
    (regimeJson jsonReal) since
  let overrides ← queryTableChanges "regime_overrides" db.overrides.rows OverrideRow.stamp
    (fun r => some (overrideJson r)) since
  let embeddings ← queryTableChanges "embedding_vectors" db.embeddings.rows EmbeddingRow.stamp
    (fun r => some (embeddingJson includeText r)) since
  let suggestions ← queryTableChanges "suggestions" db.suggestions.rows SuggestionRow.stamp
    (suggestionJson jsonReal) since
  let paramSnapshots ← queryTableChanges "trigger_params_snapshots" db.paramSnapshots.rows
    ParamSnapshotRow.stamp (fun r => some (paramSnapshotJson r)) since
  let watermark ← computeMaxHlc self.deviceId db
  return { kind := .data, originDeviceId := self.deviceId, originDeviceName := self.deviceName,
           watermark, segments, regimes, overrides, embeddings, suggestions, paramSnapshots,
           preferences := [] }

/-- `get_changes_since`: backfill, then collect. -/
def getChangesSince (jsonReal : F64 → Option F64) (self : SqliteSyncExtractor) (since : Hlc)
    (db : Database) : Except CoreError ChangeSet × Database :=
  let db := backfillOriginDeviceId self.deviceId db
  match self.collect jsonReal since db with
  | .ok changes => (.ok changes, db)
  | .error e => (.error e.toCore, db)

/-- `local_watermark`. -/
def localWatermark (self : SqliteSyncExtractor) (db : Database) : Except CoreError Hlc :=
  match computeMaxHlc self.deviceId db with
  | .ok h => .ok h
  | .error e => .error e.toCore

end SqliteSyncExtractor
end Oneshim
