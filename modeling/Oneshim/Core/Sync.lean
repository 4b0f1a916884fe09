/-
  The sync data model (`oneshim-core/src/models/sync.rs`, `oneshim-core/src/error.rs`) and
  the transport port (`oneshim-core/src/ports/sync_transport.rs`).

  These are the values that travel between the extractor, the transports and the merger.  They
  carry no logic beyond counting rows.
-/
import Oneshim.Core.Hlc
import Oneshim.Core.Json

namespace Oneshim

/-- `NetworkCode`: the wire codes the retry logic distinguishes. -/
inductive NetworkCode where
  | timeout
  | rateLimit
  | generic

/-- `CoreError`, the variants the sync path can produce. -/
inductive CoreError where
  | network (code : NetworkCode) (message : String)
  | requestTimeout (code : NetworkCode) (timeoutMs : Nat)
  | rateLimit (code : NetworkCode) (retryAfterSecs : Nat)
  | serviceUnavailable (message : String)
  | auth (message : String)
  | notFound (resourceType id : String)
  | internal (message : String)
  | storage (message : String)
  | io (message : String)

/-- `StorageError`; the sync adapters only ever build `Internal`. -/
inductive StorageError where
  | internal (message : String)

/-- `impl From<StorageError> for CoreError`: a failed storage operation is `storage.failed`. -/
def StorageError.toCore : StorageError → CoreError
  | .internal msg => .storage msg

/-- `ChangeSetKind`. -/
inductive ChangeSetKind where
  /-- Normal data synchronization. -/
  | data
  /-- GDPR Article 17 deletion propagation. -/
  | deletionEvent
deriving DecidableEq

/-- `ChangeSet`: a batch of changes, one list of JSON rows per syncable table. -/
structure ChangeSet where
  kind : ChangeSetKind := .data
  originDeviceId : String := ""
  originDeviceName : String := ""
  watermark : Hlc := Hlc.default
  segments : List Json := []
  regimes : List Json := []
  overrides : List Json := []
  embeddings : List Json := []
  suggestions : List Json := []
  paramSnapshots : List Json := []
  preferences : List Json := []

namespace ChangeSet

/-- `is_empty`: the changeset carries no data rows. -/
def isEmpty (cs : ChangeSet) : Bool :=
  cs.segments.isEmpty && cs.regimes.isEmpty && cs.overrides.isEmpty && cs.embeddings.isEmpty &&
    cs.suggestions.isEmpty && cs.paramSnapshots.isEmpty && cs.preferences.isEmpty

end ChangeSet

/-- `SyncResult`: what applying a changeset did. -/
structure SyncResult where
  /-- Rows inserted, or updated because they won. -/
  applied : Nat := 0
  /-- Rows that lost against the local version. -/
  skippedLww : Nat := 0
  /-- Rows whose key was already there. -/
  skippedDup : Nat := 0
  /-- Rows soft-deleted by a tombstone (or hard-deleted by a deletion event). -/
  tombstoned : Nat := 0
  /-- The position after the changeset. -/
  newWatermark : Hlc := Hlc.default

namespace SyncResult

/-- The sum of the four counters. -/
def total (r : SyncResult) : Nat := r.applied + r.skippedLww + r.skippedDup + r.tombstoned

/-- `result.applied += 1`. -/
def countApplied (r : SyncResult) : SyncResult := { r with applied := r.applied + 1 }

/-- `result.skipped_lww += 1`. -/
def countSkippedLww (r : SyncResult) : SyncResult := { r with skippedLww := r.skippedLww + 1 }

/-- `result.skipped_dup += 1`. -/
def countSkippedDup (r : SyncResult) : SyncResult := { r with skippedDup := r.skippedDup + 1 }

/-- `result.tombstoned += 1`. -/
def countTombstoned (r : SyncResult) : SyncResult := { r with tombstoned := r.tombstoned + 1 }

@[simp] theorem total_countApplied (r : SyncResult) : r.countApplied.total = r.total + 1 := by
  simp only [total, countApplied]
  omega

@[simp] theorem total_countSkippedLww (r : SyncResult) :
    r.countSkippedLww.total = r.total + 1 := by
  simp only [total, countSkippedLww]
  omega

@[simp] theorem total_countSkippedDup (r : SyncResult) :
    r.countSkippedDup.total = r.total + 1 := by
  simp only [total, countSkippedDup]
  omega

@[simp] theorem total_countTombstoned (r : SyncResult) :
    r.countTombstoned.total = r.total + 1 := by
  simp only [total, countTombstoned]
  omega

end SyncResult

/-- The transport port: `push` and `pull`, over the state of what lies behind it. -/
structure SyncTransport (σ : Type) where
  push : ChangeSet → σ → Except CoreError Unit × σ
  pull : Hlc → σ → Except CoreError (Option ChangeSet) × σ

end Oneshim
