/-
  The synced tables as the migrations leave them (`oneshim-storage/src/migration`).

  Six tables take part in the sync: `activity_segments`, `regimes`, `regime_overrides`,
  `embedding_vectors`, `suggestions` and `trigger_params_snapshots`.  Each row carries the three
  V14 columns `hlc_wall_ms`, `hlc_counter` and `origin_device_id` — its STAMP — next to the columns
  the sync code reads or writes.  `sync_peers` is the merger's own bookkeeping.

  A `Database` can only hold what the schema admits:

  * `INTEGER` columns are `Int64` — so a stamp may be NEGATIVE, or its counter wider than `u32`,
    and then the merger's typed reads (`u64`, `u32`) fail;
  * `NOT NULL` columns are not options; primary and unique keys are `Table` fields;
  * `embedding_vectors` is numbered by `AUTOINCREMENT` and has no other key.

  Foreign keys are enforced when the connection has them switched on (`foreignKeys`).
-/
import Oneshim.Core.Sync
import Oneshim.Lib.Table
import Oneshim.Lib.SerialTable

namespace Oneshim

open Lib

/-! ## Statement errors and typed columns -/

/-- The ways a statement can fail. -/
inductive SqlError where
  | notNull (column : String)
  | unique (column : String)
  | foreignKey
  /-- A `u64` parameter above `i64::MAX`, or a column that does not fit the type it is read as. -/
  | outOfRange
  /-- Whatever else stops a statement: I/O, a lock, a full disk. -/
  | other (message : String)

/-- The text SQLite (or rusqlite, for a conversion) gives. -/
def SqlError.message : SqlError → String
  | notNull column => "NOT NULL constraint failed: " ++ column
  | unique column => "UNIQUE constraint failed: " ++ column
  | foreignKey => "FOREIGN KEY constraint failed"
  | outOfRange => "out of range integral type conversion attempted"
  | other message => message

/-- A value for a `NOT NULL` column. -/
def notNull {α : Type} (column : String) : Option α → Except SqlError α
  | some a => .ok a
  | none => .error (.notNull column)

/-- Bind a `u64` parameter: SQLite integers are signed. -/
def bindU64 (n : Nat) : Except SqlError Int64 :=
  if n < 2 ^ 63 then .ok (Int64.ofNat n) else .error .outOfRange

/-- Bind a `u32` parameter: it always fits. -/
def bindU32 (n : Nat) : Int64 := Int64.ofNat n

/-- Read an `INTEGER` value as `u64`. -/
def readU64 (n : Int) : Option Nat := if 0 ≤ n then some n.toNat else none

/-- Read an `INTEGER` value as `u32`. -/
def readU32 (n : Int) : Option Nat := if 0 ≤ n ∧ n < 2 ^ 32 then some n.toNat else none

theorem readU64_of_bindU64 {n : Nat} {c : Int64} (h : bindU64 n = .ok c) :
    readU64 c.toInt = some n := by
  unfold bindU64 at h
  split at h
  case isTrue hn =>
    cases h
    rw [readU64, Int64.toInt_ofNat_of_lt hn, if_pos (Int.natCast_nonneg n), Int.toNat_natCast]
  case isFalse => nomatch h

theorem readU32_bindU32 {n : Nat} (h : n < 2 ^ 32) : readU32 (bindU32 n).toInt = some n := by
  have htoInt : (Int64.ofNat n).toInt = n := Int64.toInt_ofNat_of_lt (by omega)
  rw [readU32, bindU32, htoInt, if_pos ⟨by omega, by omega⟩, Int.toNat_natCast]

/-! ## Rows -/

/-- The V14 sync columns of a row. -/
structure Stamp where
  hlcWallMs : Int64 := 0
  hlcCounter : Int64 := 0
  originDeviceId : String := ""
deriving DecidableEq

namespace Stamp

/-- Read the stamp as `(u64, u32, String)`: nothing when a column does not fit. -/
def readHlc (s : Stamp) : Option Hlc :=
  match readU64 s.hlcWallMs.toInt, readU32 s.hlcCounter.toInt with
  | some w, some c => some ⟨w, c, s.originDeviceId⟩
  | _, _ => none

/-- Bind a timestamp to the three columns. -/
def bind (h : Hlc) : Except SqlError Stamp := do
  let wall ← bindU64 h.wallMs
  return ⟨wall, bindU32 h.counter, h.deviceId⟩

/-- A bound timestamp is readable, and reads as itself. -/
theorem readHlc_of_bind {h : Hlc} {s : Stamp} (hc : h.counter < 2 ^ 32) (hb : bind h = .ok s) :
    s.readHlc = some h := by
  unfold bind at hb
  cases hw : bindU64 h.wallMs with
  | error e => rw [hw] at hb; nomatch hb
  | ok wall =>
    rw [hw] at hb
    cases hb
    simp only [readHlc, readU64_of_bindU64 hw, readU32_bindU32 hc]

theorem bind_of_lt {h : Hlc} (hw : h.wallMs < 2 ^ 63) :
    bind h = .ok ⟨Int64.ofNat h.wallMs, bindU32 h.counter, h.deviceId⟩ := by
  rw [bind, bindU64, if_pos hw]
  rfl

end Stamp

/-- `activity_segments`; the columns without a default, and those the sync reads. -/
structure SegmentRow where
  id : String
  startTime : String
  endTime : String
  durationSecs : Int64
  regimeId : Option String := none
  triggerReason : String
  dominantCategory : String
  appBreakdown : String := "\x7b\x7d"
  llmSummary : Option String := none
  contentActivitiesJson : String := "[]"
  stamp : Stamp := {}

/-- `regimes`. -/
structure RegimeRow where
  id : String
  label : String
  detectedAt : String
  lastSeenAt : String
  occurrenceCount : Int64 := 1
  avgDensity : F64 := ⟨0⟩
  avgImportance : F64 := ⟨0⟩
  dominantCategory : String
  paramsSnapshotId : Option String := none
  isActive : Int64 := 1
  isDeleted : Int64 := 0
  deletedAt : Option String := none
  stamp : Stamp := {}
deriving DecidableEq

/-- `regime_overrides`. -/
structure OverrideRow where
  overrideId : String
  segmentId : String
  originalRegimeId : Option String := none
  actionType : String
  actionData : Option String := none
  createdAt : String
  stamp : Stamp := {}

/-- `embedding_vectors`. -/
structure EmbeddingRow where
  /-- `INTEGER PRIMARY KEY AUTOINCREMENT`. -/
  id : Nat
  segmentId : String
  contentType : String
  contentLabel : Option String := none
  originalText : String
  vector : List UInt8
  modelId : String
  timestamp : String
  isStale : Int64 := 0
  isDeleted : Int64 := 0
  deletedAt : Option String := none
  stamp : Stamp := {}
deriving DecidableEq

/-- `suggestions`, keyed by the `UNIQUE` column `suggestion_id`. -/
structure SuggestionRow where
  suggestionId : String
  suggestionType : String
  source : String := "RULE_BASED"
  content : String
  priority : String := "MEDIUM"
  confidenceScore : F64 := ⟨0⟩
  relevanceScore : F64 := ⟨0⟩
  isActionable : Int64 := 1
  reasoning : Option String := none
  shownAt : Option String := none
  dismissedAt : Option String := none
  actedAt : Option String := none
  createdAt : String
  expiresAt : Option String := none
  isDeleted : Int64 := 0
  deletedAt : Option String := none
  stamp : Stamp := {}

/-- `trigger_params_snapshots`. -/
structure ParamSnapshotRow where
  id : String
  createdAt : String
  preset : String
  paramsJson : String
  stamp : Stamp := {}

/-- `sync_peers`, less the time of the last sync. -/
structure SyncPeerRow where
  deviceId : String
  deviceName : String
  watermarkWallMs : Int64
  watermarkCounter : Int64

/-- A migrated database. -/
structure Database where
  /-- Are foreign keys enforced on this connection? -/
  foreignKeys : Bool
  segments : Table SegmentRow.id
  regimes : Table RegimeRow.id
  overrides : Table OverrideRow.overrideId
  embeddings : SerialTable EmbeddingRow.id
  suggestions : Table SuggestionRow.suggestionId
  paramSnapshots : Table ParamSnapshotRow.id
  syncPeers : Table SyncPeerRow.deviceId

/-- A freshly migrated database. -/
def Database.empty (foreignKeys : Bool) : Database where
  foreignKeys := foreignKeys
  segments := Table.empty
  regimes := Table.empty
  overrides := Table.empty
  embeddings := SerialTable.empty
  suggestions := Table.empty
  paramSnapshots := Table.empty
  syncPeers := Table.empty


/-! ## Statements -/

namespace Database

/-- The immediate check of a reference: `NULL`, or a key the parent table holds. -/
def checkReference (db : Database) (ref : Option String) (present : String → Bool) :
    Except SqlError Unit :=
  match ref with
  | none => .ok ()
  | some k => if db.foreignKeys && !present k then .error .foreignKey else .ok ()

/-- Does `regimes` hold the key? -/
def hasRegime (db : Database) (k : String) : Bool := (db.regimes.find? k).isSome

/-- Does `trigger_params_snapshots` hold the key? -/
def hasParamSnapshot (db : Database) (k : String) : Bool := (db.paramSnapshots.find? k).isSome

/-- A table after `INSERT`, unless the key is taken. -/
def insertUnique {ρ : Type} {key : ρ → String} (column : String) (t : Table key) (r : ρ) :
    Except SqlError (Table key) :=
  match t.insert? r with
  | some t' => .ok t'
  | none => .error (.unique column)

/-- `INSERT INTO activity_segments`. -/
def insertSegment (db : Database) (r : SegmentRow) : Except SqlError Database := do
  let t ← insertUnique "activity_segments.id" db.segments r
  db.checkReference r.regimeId db.hasRegime
  return { db with segments := t }

/-- `INSERT INTO regimes`. -/
def insertRegime (db : Database) (r : RegimeRow) : Except SqlError Database := do
  let t ← insertUnique "regimes.id" db.regimes r
  db.checkReference r.paramsSnapshotId db.hasParamSnapshot
  return { db with regimes := t }

/-- `UPDATE regimes SET … WHERE id = ?`, every synced column. -/
def updateRegime (db : Database) (r : RegimeRow) : Except SqlError Database := do
  db.checkReference r.paramsSnapshotId db.hasParamSnapshot
  return { db with regimes := db.regimes.replace r }

/-- `INSERT INTO regime_overrides`. -/
def insertOverride (db : Database) (r : OverrideRow) : Except SqlError Database := do
  let t ← insertUnique "regime_overrides.override_id" db.overrides r
  return { db with overrides := t }

/-- `INSERT INTO embedding_vectors`: the row gets the next number. -/
def insertEmbedding (db : Database) (r : EmbeddingRow) : Database :=
  { db with embeddings := db.embeddings.insert (fun n => { r with id := n }) (fun _ => rfl) }

/-- `UPDATE embedding_vectors SET … WHERE id = ?`. -/
def updateEmbedding (db : Database) (r : EmbeddingRow) : Database :=
  { db with embeddings := db.embeddings.update r }

/-- `INSERT INTO suggestions`. -/
def insertSuggestion (db : Database) (r : SuggestionRow) : Except SqlError Database := do
  let t ← insertUnique "suggestions.suggestion_id" db.suggestions r
  return { db with suggestions := t }

/-- `UPDATE suggestions SET … WHERE suggestion_id = ?`. -/
def updateSuggestion (db : Database) (r : SuggestionRow) : Database :=
  { db with suggestions := db.suggestions.replace r }

/-- `INSERT INTO trigger_params_snapshots`. -/
def insertParamSnapshot (db : Database) (r : ParamSnapshotRow) : Except SqlError Database := do
  let t ← insertUnique "trigger_params_snapshots.id" db.paramSnapshots r
  return { db with paramSnapshots := t }

/-- `INSERT INTO sync_peers … ON CONFLICT(device_id) DO UPDATE`. -/
def upsertSyncPeer (db : Database) (r : SyncPeerRow) : Database :=
  { db with
    syncPeers := match db.syncPeers.insert? r with
      | some t => t
      | none => db.syncPeers.replace r }

end Database
end Oneshim
