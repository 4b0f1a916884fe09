/-
  Rebuilding the partition in the database (`vector_index_impl/build.rs`).

  The index is built in memory from the vectors that are loaded, and then stored: the old rows are
  deleted, the centroids are inserted in one transaction and the assignments in others, a thousand
  in each, and last come the two entries that say when it was built and from how many vectors.

  1. **Code** — the tables, the statements, and where each of them may fail.

  2. **Chunks** (`flatten_take_chunks`) — so many whole chunks are so many thousands of rows.

  3. **What a statement leaves** — after the commit of the centroids the transactions only add
     chunks (`insertAssignments_error`), and then the metadata is written (`updateMeta_error`).

  4. **The result** (`failed_build_spec`) — a build that fails before it deletes anything leaves the
     tables; one that fails after the commit of the centroids leaves the new centroids and the first
     chunks of the new assignments.
-/
import Oneshim.Lib.Session
import Oneshim.Search.AdaptiveSearch
import Oneshim.Search.IvfPartition

namespace Oneshim.Search

open Lib (Connection Session Table)
open Lib.Session

variable {F D Instant : Type} [LinearOrder Instant] {rfc : Rfc3339 Instant}

/-! ## Code -/

/-- A row of `vector_index_meta`. -/
structure VectorIndexMeta where
  key : String
  value : String
  updatedAt : String

/-- The tables of a build. -/
structure IndexTables (F : Type) {Instant : Type} [LinearOrder Instant]
    (rfc : Rfc3339 Instant) where
  embeddingVectors : Table (fun ev : EmbeddingVector F rfc => ev.id)
  ivfCentroids : Table (fun centroid : IvfCentroid F => centroid.id)
  /-- The ids of the vectors and their clusters. -/
  ivfAssignments : Table (Prod.fst : Int × Nat → Int)
  vectorIndexMeta : Table VectorIndexMeta.key

/-- `SqliteVectorIndex`. -/
structure SqliteVectorIndex (F : Type) {Instant : Type} [LinearOrder Instant]
    (rfc : Rfc3339 Instant) where
  conn : Connection (IndexTables F rfc)
  centroidCache : Option (List (CachedCentroid F))

/-- The errors of a build. -/
inductive IndexError where
  | notFound (resourceType id : String)
  | search (e : SearchError)

/-- Where a build may fail; the chunks, the centroids and the rows of a chunk are numbered.  A row
    that a reference refuses is such a failure. -/
inductive BuildPoint where
  | lockToLoad | prepareLoad | queryLoad
  | readRow (id : Nat)
  | lockToStore | deleteAssignments | deleteCentroids
  | beginCentroids | prepareCentroids
  | insertCentroid (id : Nat)
  | commitCentroids
  | beginChunk (chunk : Nat)
  | prepareChunk (chunk : Nat)
  | insertAssignment (chunk row : Nat)
  | commitChunk (chunk : Nat)
  | builtAt | vectorCount

/-- What fails, and with which error. -/
abbrev BuildFaults : Type := BuildPoint → Option String

/-- The order in which a `HashMap` lists its entries. -/
structure HashOrder (α : Type) where
  listed : List α → List α
  perm : ∀ xs, (listed xs).Perm xs

/-- `StorageError::Internal`. -/
def indexInternal (message : String) : IndexError := .search (.internal message)

/-- Does it fail here? -/
def BuildFaults.pass {σ : Type} (faults : BuildFaults) (point : BuildPoint) (context : String) :
    Session σ IndexError Unit :=
  check (match faults point with
    | none => .ok ()
    | some e => .error (indexInternal (context ++ e)))

/-- What SQLite says to a `BEGIN` in an open transaction. -/
def nestedTransaction (context : String) : IndexError :=
  indexInternal (context ++ "cannot start a transaction within a transaction")

section

variable (faults : BuildFaults)

/-- The vectors that are not stale and have an INT8 copy; a row that cannot be read is left out. -/
def loadVectors : Session (IndexTables F rfc) IndexError (List (Int × QuantizedVector F)) := do
  faults.pass .lockToLoad "SQLite lock poisoned: "
  faults.pass .prepareLoad "Failed to prepare vector load: "
  faults.pass .queryLoad "Failed to load vectors: "
  query fun tables => tables.embeddingVectors.rows.filterMap fun ev =>
    if ev.isStale || (faults (.readRow ev.id)).isSome then none
    else ev.vectorInt8.map fun qv => ((ev.id : Int), qv)

/-- `DELETE FROM ivf_assignments`. -/
def clearAssignments : Session (IndexTables F rfc) IndexError Unit := do
  faults.pass .deleteAssignments "Failed to clear assignments: "
  execute fun tables => .ok { tables with ivfAssignments := .empty }

/-- `DELETE FROM ivf_centroids`; there is no assignment left that refers to them. -/
def clearCentroids : Session (IndexTables F rfc) IndexError Unit := do
  faults.pass .deleteCentroids "Failed to clear centroids: "
  execute fun tables => .ok { tables with ivfCentroids := .empty }

/-- `INSERT INTO ivf_centroids`. -/
def insertCentroid (centroid : IvfCentroid F) : Session (IndexTables F rfc) IndexError Unit := do
  let context := "Failed to insert centroid " ++ toString centroid.id ++ ": "
  faults.pass (.insertCentroid centroid.id) context
  execute fun tables =>
    match tables.ivfCentroids.insert? centroid with
    | some ivfCentroids => .ok { tables with ivfCentroids }
    | none => .error (indexInternal (context ++ "UNIQUE constraint failed: ivf_centroids.id"))

/-- The transaction of the centroids. -/
def insertCentroids (centroids : List (IvfCentroid F)) :
    Session (IndexTables F rfc) IndexError Unit := do
  faults.pass .beginCentroids "Failed to begin transaction: "
  transaction (nestedTransaction "Failed to begin transaction: ") do
    faults.pass .prepareCentroids "Failed to prepare centroid insert: "
    centroids.forM (insertCentroid faults)
    faults.pass .commitCentroids "Failed to commit centroids: "

/-- `INSERT OR REPLACE INTO ivf_assignments`. -/
def insertAssignment (chunk : Nat) (row : (Int × Nat) × Nat) :
    Session (IndexTables F rfc) IndexError Unit := do
  faults.pass (.insertAssignment chunk row.2)
    ("Failed to insert assignment for vector " ++ toString row.1.1 ++ ": ")
  execute fun tables => .ok { tables with ivfAssignments := tables.ivfAssignments.upsert row.1 }

/-- The transaction of a chunk. -/
def insertChunk (chunk : List (Int × Nat) × Nat) : Session (IndexTables F rfc) IndexError Unit := do
  faults.pass (.beginChunk chunk.2) "Failed to begin assignment tx: "
  transaction (nestedTransaction "Failed to begin assignment tx: ") do
    faults.pass (.prepareChunk chunk.2) "Failed to prepare assignment insert: "
    chunk.1.zipIdx.forM (insertAssignment faults chunk.2)
    faults.pass (.commitChunk chunk.2) "Failed to commit assignments: "

/-- `chunks`. -/
def chunks {α : Type} (size : Nat) (xs : List α) : List (List α) :=
  (List.range ((xs.length + size - 1) / size)).map fun i => (xs.drop (size * i)).take size

/-- The assignments, a thousand in each chunk. -/
def insertAssignments (assignments : List (Int × Nat)) :
    Session (IndexTables F rfc) IndexError Unit :=
  (chunks 1000 assignments).zipIdx.forM (insertChunk faults)

/-- `INSERT OR REPLACE INTO vector_index_meta`. -/
def upsertMeta (row : VectorIndexMeta) : Session (IndexTables F rfc) IndexError Unit :=
  execute fun tables => .ok { tables with vectorIndexMeta := tables.vectorIndexMeta.upsert row }

/-- When the index was built, and from how many vectors. -/
def updateMeta (now : String) (nVectors : Nat) : Session (IndexTables F rfc) IndexError Unit := do
  faults.pass .builtAt "Failed to update index meta: "
  upsertMeta ⟨"ivf_built_at", now, now⟩
  faults.pass .vectorCount "Failed to update vector count meta: "
  upsertMeta ⟨"ivf_vector_count", toString nVectors, now⟩

/-- The statements up to the first that deletes something. -/
def clearing : Session (IndexTables F rfc) IndexError Unit := do
  faults.pass .lockToStore "SQLite lock poisoned: "
  clearAssignments faults

/-- The statements up to the commit of the centroids. -/
def replaceCentroids (index : IvfIndex F) : Session (IndexTables F rfc) IndexError Unit := do
  clearing faults
  clearCentroids faults
  insertCentroids faults index.centroids

/-- The statements of the second `with_conn`.  The checkpoint and the `ANALYZE` at its end change no
    row, and when they fail that is only logged. -/
def storeIndex (order : HashOrder (Int × Nat)) (now : String) (index : IvfIndex F) :
    Session (IndexTables F rfc) IndexError Nat := do
  replaceCentroids faults index
  insertAssignments faults (order.listed index.assignments.rows)
  updateMeta faults now (order.listed index.assignments.rows).length
  return index.centroids.length

/-- `build_ivf_index`; none is a panic. -/
def buildIvfIndex (arith : FloatArithmetic F D) (order : HashOrder (Int × Nat)) (now : String)
    (nClusters nIterations : Nat) (self : SqliteVectorIndex F rfc) :
    Option (Except IndexError Nat × SqliteVectorIndex F rfc) :=
  match loadVectors faults self.conn with
  | (.error e, conn) => some (.error e, { self with conn })
  | (.ok vectors, conn) =>
    if vectors.isEmpty then
      some (.error (.notFound "embedding_vectors" "ivf_index_build"), { self with conn })
    else
      match IvfIndex.build arith vectors ⟨min nClusters vectors.length, nIterations, 42⟩ with
      | none => none
      | some (.error e) => some (.error (.search e), { self with conn })
      | some (.ok index) =>
        match storeIndex faults order now index conn with
        | (.error e, conn) => some (.error e, { self with conn })
        | (.ok nClusters, conn) => some (.ok nClusters, { conn, centroidCache := none })

end

/-! ## Chunks -/

/-- So many whole chunks are so many thousands of rows. -/
theorem flatten_take_chunks {α : Type} {size : Nat} (hsize : 0 < size) (xs : List α) (j : Nat) :
    ((chunks size xs).take j).flatten = xs.take (size * j) := by
  have hrange : ∀ k, ((List.range k).map fun i => (xs.drop (size * i)).take size).flatten =
      xs.take (size * k) := by
    intro k
    induction k with
    | zero => rfl
    | succ k ih =>
      rw [List.range_succ, List.map_append, List.flatten_append, ih, Nat.mul_succ, List.take_add]
      simp
  rw [chunks, ← List.map_take, List.take_range, hrange]
  by_cases hj : j ≤ (xs.length + size - 1) / size
  · rw [Nat.min_eq_left hj]
  · -- the last chunk ends the list
    have hall : xs.length ≤ size * ((xs.length + size - 1) / size) := by
      have hmod := Nat.mod_lt (xs.length + size - 1) hsize
      have hdiv := Nat.div_add_mod (xs.length + size - 1) size
      omega
    rw [Nat.min_eq_right (Nat.le_of_not_le hj), List.take_of_length_le hall,
      List.take_of_length_le (Nat.le_trans hall (Nat.mul_le_mul_left size (Nat.le_of_not_le hj)))]

theorem flatten_chunks {α : Type} {size : Nat} (hsize : 0 < size) (xs : List α) :
    (chunks size xs).flatten = xs := by
  have hflat := flatten_take_chunks hsize xs (max (chunks size xs).length xs.length)
  rwa [List.take_of_length_le (Nat.le_max_left _ _), List.take_of_length_le
    (Nat.le_trans (Nat.le_max_right (chunks size xs).length _) (Nat.le_mul_of_pos_left _ hsize))]
    at hflat

/-! ## What a statement leaves -/

/-- The tables with more assignments. -/
def IndexTables.withAssignments (self : IndexTables F rfc) (rows : List (Int × Nat)) :
    IndexTables F rfc :=
  { self with ivfAssignments := rows.foldl Table.upsert self.ivfAssignments }

/-- The tables with the time of a build. -/
def IndexTables.withBuiltAt (self : IndexTables F rfc) (now : String) : IndexTables F rfc :=
  { self with vectorIndexMeta := self.vectorIndexMeta.upsert ⟨"ivf_built_at", now, now⟩ }

theorem IndexTables.withAssignments_append (self : IndexTables F rfc) (xs ys : List (Int × Nat)) :
    self.withAssignments (xs ++ ys) = (self.withAssignments xs).withAssignments ys := by
  simp only [withAssignments, List.foldl_append]

section

variable {faults : BuildFaults} {point : BuildPoint} {context now : String} {e : IndexError}
  {conn conn' : Connection (IndexTables F rfc)}

theorem pass_conn {σ : Type} {conn conn' : Connection σ} {result : Except IndexError Unit}
    (h : faults.pass point context conn = (result, conn')) : conn' = conn :=
  (congrArg Prod.snd h).symm

theorem insertAssignment_ok {chunk : Nat} {row : (Int × Nat) × Nat}
    (h : insertAssignment faults chunk row conn = (.ok (), conn')) :
    conn' = { conn with current := conn.current.withAssignments [row.1] } := by
  obtain ⟨_, mid, hpass, hrun⟩ := bind_eq_ok h
  obtain ⟨s, hs, rfl⟩ := execute_eq_ok hrun
  cases hs
  rw [pass_conn hpass]
  rfl

/-- The transaction of a chunk adds all of its rows. -/
theorem insertChunk_ok {chunk : List (Int × Nat) × Nat}
    (h : insertChunk faults chunk conn = (.ok (), conn')) :
    conn' = ⟨conn.current.withAssignments chunk.1, none⟩ := by
  obtain ⟨_, mid, hpass, htx⟩ := bind_eq_ok h
  obtain ⟨-, written, hbody, rfl⟩ := transaction_eq_ok htx
  obtain ⟨_, prepared, hprepare, hloop⟩ := bind_eq_ok hbody
  obtain ⟨_, inserted, hinsert, hcommit⟩ := bind_eq_ok hloop
  rw [pass_conn hprepare, pass_conn hpass] at hinsert
  have hturn : ∀ (done : List ((Int × Nat) × Nat)) row before after,
      before.current = conn.current.withAssignments (done.map Prod.fst) →
      insertAssignment faults chunk.2 row before = (.ok (), after) →
      after.current = conn.current.withAssignments ((done ++ [row]).map Prod.fst) := by
    intro done row before after hdone hrow
    rw [insertAssignment_ok hrow, List.map_append, IndexTables.withAssignments_append, ← hdone]
    rfl
  have hstart : conn.opened.current = conn.current.withAssignments [] := rfl
  have hrows := forM_of_kept (P := fun done mid => mid.current =
    conn.current.withAssignments (done.map Prod.fst)) hturn [] hstart hinsert
  rw [List.nil_append, List.zipIdx_map_fst] at hrows
  rw [pass_conn hcommit, Connection.committed, hrows]

/-- One that fails adds none. -/
theorem insertChunk_error {chunk : List (Int × Nat) × Nat}
    (h : insertChunk faults chunk conn = (.error e, conn')) : conn' = conn := by
  rcases bind_eq_error h with hpass | ⟨_, mid, hpass, htx⟩
  · exact pass_conn hpass
  · rw [← pass_conn hpass]
    refine transaction_eq_error ?_ htx
    refine Inside.bind (inside_check _) fun _ => Inside.bind (Inside.forM fun row => ?_) fun _ =>
      inside_check _
    exact Inside.bind (inside_check _) fun _ => inside_execute _

theorem chunks_kept {start : IndexTables F rfc} {done : List (List (Int × Nat) × Nat)}
    (h : done.forM (insertChunk faults) ⟨start, none⟩ = (.ok (), conn)) :
    conn = ⟨start.withAssignments (done.map Prod.fst).flatten, none⟩ := by
  have hturn : ∀ (done : List (List (Int × Nat) × Nat)) chunk before after,
      before = ⟨start.withAssignments (done.map Prod.fst).flatten, none⟩ →
      insertChunk faults chunk before = (.ok (), after) →
      after = ⟨start.withAssignments ((done ++ [chunk]).map Prod.fst).flatten, none⟩ := by
    intro done chunk before after hdone hchunk
    rw [insertChunk_ok hchunk, hdone, List.map_append, List.flatten_append,
      IndexTables.withAssignments_append]
    simp
  exact forM_of_kept (P := fun done conn => conn =
    ⟨start.withAssignments (done.map Prod.fst).flatten, none⟩) hturn [] rfl h

/-- The transaction of the chunk with number `j` is what fails. -/
def ChunkFails (faults : BuildFaults) (assignments : List (Int × Nat)) (j : Nat) (e : IndexError)
    (conn : Connection (IndexTables F rfc)) : Prop :=
  ∃ chunk, (chunks 1000 assignments)[j]? = some chunk ∧
    insertChunk faults (chunk, j) conn = (.error e, conn)

/-- **The chunks**: those before the one that fails are stored. -/
theorem insertAssignments_error {start : IndexTables F rfc} {assignments : List (Int × Nat)}
    (h : insertAssignments faults assignments ⟨start, none⟩ = (.error e, conn')) :
    ∃ j, ChunkFails faults assignments j e conn' ∧
      conn' = ⟨start.withAssignments (assignments.take (1000 * j)), none⟩ := by
  obtain ⟨done, chunk, rest, mid, hlist, hdone, hchunk⟩ := forM_eq_error h
  have hget : (chunks 1000 assignments).zipIdx[done.length]? = some chunk := by
    rw [hlist, List.getElem?_append_right le_rfl, Nat.sub_self, List.getElem?_cons_zero]
  rw [List.getElem?_zipIdx, Nat.zero_add, Option.map_eq_some_iff] at hget
  obtain ⟨first, hfirst, hpair⟩ := hget
  have hprefix : done.map Prod.fst = (chunks 1000 assignments).take done.length := by
    rw [← List.zipIdx_map_fst 0 (chunks 1000 assignments), hlist, List.map_append]
    exact (List.take_left' (List.length_map _)).symm
  refine ⟨done.length, ⟨first, hfirst, ?_⟩, ?_⟩
  · rw [hpair]
    rw [← insertChunk_error hchunk] at hchunk
    exact hchunk
  · rw [insertChunk_error hchunk, chunks_kept hdone, hprefix, flatten_take_chunks (by decide)]

theorem insertAssignments_ok {start : IndexTables F rfc} {assignments : List (Int × Nat)}
    (h : insertAssignments faults assignments ⟨start, none⟩ = (.ok (), conn')) :
    conn' = ⟨start.withAssignments assignments, none⟩ := by
  rw [chunks_kept h, List.zipIdx_map_fst, flatten_chunks (by decide)]

/-- A centroid is inserted under a free id, and nothing else changes. -/
theorem insertCentroid_ok {centroid : IvfCentroid F}
    (h : insertCentroid faults centroid conn = (.ok (), conn')) :
    ∃ table, conn.current.ivfCentroids.insert? centroid = some table ∧
      conn' = { conn with current := { conn.current with ivfCentroids := table } } := by
  obtain ⟨_, mid, hpass, hrun⟩ := bind_eq_ok h
  obtain ⟨s, hs, rfl⟩ := execute_eq_ok hrun
  rw [pass_conn hpass] at hs ⊢
  cases hinsert : conn.current.ivfCentroids.insert? centroid with
  | none =>
    rw [hinsert] at hs
    cases hs
  | some table =>
    rw [hinsert] at hs
    cases hs
    exact ⟨table, rfl, rfl⟩

/-- **The commit of the centroids**: the new ones are there, and no assignment. -/
theorem replaceCentroids_ok {index : IvfIndex F}
    (h : replaceCentroids faults index conn = (.ok (), conn')) :
    ∃ table, table.rows = index.centroids ∧ conn' =
      ⟨{ conn.current with ivfCentroids := table, ivfAssignments := .empty }, none⟩ := by
  obtain ⟨_, cleared, hclearing, hrest⟩ := bind_eq_ok h
  obtain ⟨_, locked, hlock, hassignments⟩ := bind_eq_ok hclearing
  obtain ⟨_, deleting, hdelete, hrun⟩ := bind_eq_ok hassignments
  obtain ⟨s, hs, rfl⟩ := execute_eq_ok hrun
  cases hs
  obtain ⟨_, emptied, hcentroids, hinsert⟩ := bind_eq_ok hrest
  obtain ⟨_, deletingCentroids, hdeleteCentroids, hrunCentroids⟩ := bind_eq_ok hcentroids
  obtain ⟨s, hs, rfl⟩ := execute_eq_ok hrunCentroids
  cases hs
  obtain ⟨_, beginning, hbegin, htx⟩ := bind_eq_ok hinsert
  obtain ⟨-, written, hbody, rfl⟩ := transaction_eq_ok htx
  obtain ⟨_, prepared, hprepare, hloop⟩ := bind_eq_ok hbody
  obtain ⟨_, inserted, hinserted, hcommit⟩ := bind_eq_ok hloop
  rw [pass_conn hprepare, pass_conn hbegin, pass_conn hdeleteCentroids, pass_conn hdelete,
    pass_conn hlock] at hinserted
  have hturn : ∀ (done : List (IvfCentroid F)) centroid before after,
      (∃ table, table.rows = done ∧ before.current =
        { conn.current with ivfCentroids := table, ivfAssignments := .empty }) →
      insertCentroid faults centroid before = (.ok (), after) →
      ∃ table, table.rows = done ++ [centroid] ∧ after.current =
        { conn.current with ivfCentroids := table, ivfAssignments := .empty } := by
    rintro done centroid before after ⟨table, rfl, hbefore⟩ hcentroid
    obtain ⟨table', hinsert', rfl⟩ := insertCentroid_ok hcentroid
    rw [hbefore] at hinsert'
    refine ⟨table', (Table.insert?_eq_some_iff.mp hinsert').2, ?_⟩
    show { before.current with ivfCentroids := table' } = _
    rw [hbefore]
  obtain ⟨table, hrows, hcurrent⟩ := forM_of_kept (P := fun done mid => ∃ table, table.rows = done ∧
    mid.current = { conn.current with ivfCentroids := table, ivfAssignments := .empty }) hturn []
      ⟨.empty, rfl, rfl⟩ hinserted
  refine ⟨table, hrows, ?_⟩
  rw [pass_conn hcommit, Connection.committed, hcurrent]

/-- The metadata when it cannot be written: at most the time is new. -/
theorem updateMeta_error {nVectors : Nat}
    (h : updateMeta faults now nVectors conn = (.error e, conn')) :
    conn' = conn ∨ conn' = { conn with current := conn.current.withBuiltAt now } := by
  rcases bind_eq_error h with hpass | ⟨_, passed, hpass, hlater⟩
  · exact .inl (pass_conn hpass)
  rw [pass_conn hpass] at hlater
  rcases bind_eq_error hlater with hbuilt | ⟨_, built, hbuilt, hcount⟩
  · cases hbuilt
  cases hbuilt
  rcases bind_eq_error hcount with hpass | ⟨_, counting, -, hwritten⟩
  · exact .inr (pass_conn hpass)
  · cases hwritten

theorem loadVectors_conn {result : Except IndexError (List (Int × QuantizedVector F))}
    (h : loadVectors faults conn = (result, conn')) : conn' = conn := by
  have hconn : (loadVectors faults conn).2 = conn := by
    simp only [loadVectors, BuildFaults.pass, check, query, bind]
    cases faults .lockToLoad <;> cases faults .prepareLoad <;> cases faults .queryLoad <;> rfl
  rw [h] at hconn
  exact hconn

end

/-! ## The result -/

section

variable (arith : FloatArithmetic F D) (order : HashOrder (Int × Nat)) (faults : BuildFaults)
  (now : String) (nClusters nIterations : Nat)

/-- The index is built in memory. -/
def Builds (self : SqliteVectorIndex F rfc) (index : IvfIndex F) : Prop :=
  ∃ vectors, loadVectors faults self.conn = (.ok vectors, self.conn) ∧ vectors ≠ [] ∧
    IvfIndex.build arith vectors ⟨min nClusters vectors.length, nIterations, 42⟩ = some (.ok index)

/-- A build that fails leaves the tables. -/
def AllOrNothing (self : SqliteVectorIndex F rfc) : Prop :=
  ∀ e self', buildIvfIndex faults arith order now nClusters nIterations self =
      some (.error e, self') →
    self'.conn.current.ivfCentroids = self.conn.current.ivfCentroids ∧
    self'.conn.current.ivfAssignments = self.conn.current.ivfAssignments ∧
    self'.conn.current.vectorIndexMeta = self.conn.current.vectorIndexMeta

/-- Where a build fails: before there is an index, or where it is stored. -/
theorem buildIvfIndex_error {self self' : SqliteVectorIndex F rfc} {e : IndexError}
    (h : buildIvfIndex faults arith order now nClusters nIterations self =
      some (.error e, self')) :
    self'.centroidCache = self.centroidCache ∧
    ((¬ ∃ index, Builds arith faults nClusters nIterations self index) ∧ self'.conn = self.conn ∨
      ∃ index, Builds arith faults nClusters nIterations self index ∧
        storeIndex faults order now index self.conn = (.error e, self'.conn)) := by
  cases hload : loadVectors faults self.conn with
  | mk result mid =>
    obtain rfl := loadVectors_conn hload
    rw [buildIvfIndex, hload] at h
    cases result with
    | error e' =>
      cases h
      refine ⟨rfl, .inl ⟨?_, rfl⟩⟩
      rintro ⟨index, vectors, hvectors, -⟩
      rw [hload] at hvectors
      cases hvectors
    | ok vectors =>
      have hloaded : ∀ {other}, loadVectors faults self.conn = (.ok other, self.conn) →
          vectors = other := by
        intro other hother
        rw [hload] at hother
        cases hother
        rfl
      by_cases hempty : vectors = []
      · subst hempty
        cases h
        refine ⟨rfl, .inl ⟨?_, rfl⟩⟩
        rintro ⟨index, vectors, hvectors, hne, -⟩
        exact hne (hloaded hvectors).symm
      · simp only [List.isEmpty_iff, hempty, if_false] at h
        cases hbuild : IvfIndex.build arith vectors
          ⟨min nClusters vectors.length, nIterations, 42⟩ with
        | none =>
          rw [hbuild] at h
          cases h
        | some built =>
          rw [hbuild] at h
          cases built with
          | error e' =>
            cases h
            refine ⟨rfl, .inl ⟨?_, rfl⟩⟩
            rintro ⟨index, vectors', hvectors, -, hindex⟩
            rw [← hloaded hvectors, hbuild] at hindex
            cases hindex
          | ok index =>
            cases hstore : storeIndex faults order now index self.conn with
            | mk result last =>
              simp only [hstore] at h
              cases result with
              | ok n => cases h
              | error e' =>
                cases h
                exact ⟨rfl, .inr ⟨index, ⟨vectors, hload, hempty, hbuild⟩, hstore⟩⟩

end

section

variable {order : HashOrder (Int × Nat)} {faults : BuildFaults} {now : String} {e : IndexError}
  {conn conn' : Connection (IndexTables F rfc)} {index : IvfIndex F}

/-- A build that clears nothing stores nothing. -/
theorem storeIndex_error_of_not_cleared
    (hclears : ∀ cleared, clearing faults conn ≠ (.ok (), cleared))
    (h : storeIndex faults order now index conn = (.error e, conn')) : conn' = conn := by
  have hnever : ∀ {first : Except IndexError Unit} {mid}, clearing faults conn = (first, mid) →
      ∀ u, first ≠ .ok u := by
    rintro first mid hfirst u rfl
    exact hclears mid hfirst
  rcases bind_eq_error h with hreplace | ⟨_, mid, hreplace, -⟩
  · rcases bind_eq_error hreplace with hclearing | ⟨_, mid, hclearing, -⟩
    · rcases bind_eq_error hclearing with hlock | ⟨_, locked, hlock, hassignments⟩
      · exact pass_conn hlock
      · rw [pass_conn hlock] at hassignments
        rcases bind_eq_error hassignments with hdelete | ⟨_, deleting, -, hrun⟩
        · exact pass_conn hdelete
        · cases hrun
    · exact absurd rfl (hnever hclearing _)
  · obtain ⟨_, cleared, hclearing, -⟩ := bind_eq_ok hreplace
    exact absurd rfl (hnever hclearing _)

/-- **After the commit of the centroids** the chunks follow, and then the metadata. -/
theorem storeIndex_error_of_committed {committed : Connection (IndexTables F rfc)}
    (hcommitted : replaceCentroids faults index conn = (.ok (), committed))
    (h : storeIndex faults order now index conn = (.error e, conn')) :
    conn'.begun = none ∧ conn'.current.ivfCentroids.rows = index.centroids ∧
    conn'.current.embeddingVectors = conn.current.embeddingVectors ∧
    ∃ j, conn'.current.ivfAssignments.rows =
        (order.listed index.assignments.rows).take (1000 * j) ∧
      (ChunkFails faults (order.listed index.assignments.rows) j e conn' ∧
          conn'.current.vectorIndexMeta = conn.current.vectorIndexMeta ∨
        index.assignments.rows.length ≤ 1000 * j ∧
          (conn'.current.vectorIndexMeta = conn.current.vectorIndexMeta ∨
            conn'.current.vectorIndexMeta = (conn.current.withBuiltAt now).vectorIndexMeta)) := by
  obtain ⟨table, hcentroids, rfl⟩ := replaceCentroids_ok hcommitted
  have hlisted := order.perm index.assignments.rows
  have hids : ((order.listed index.assignments.rows).map Prod.fst).Nodup :=
    (hlisted.map Prod.fst).nodup_iff.mpr index.assignments.nodup
  have hrows : ∀ j, (((order.listed index.assignments.rows).take j).foldl Table.upsert
      (Table.empty : Table (Prod.fst : Int × Nat → Int))).rows =
        (order.listed index.assignments.rows).take j := by
    intro j
    refine foldl_upsert_rows Table.empty ?_
    exact hids.sublist ((List.take_sublist j _).map Prod.fst)
  have hlater := (bind_of_ok hcommitted).symm.trans h
  rcases bind_eq_error hlater with hchunks | ⟨_, mid, hchunks, hmeta⟩
  · obtain ⟨j, hfails, rfl⟩ := insertAssignments_error hchunks
    exact ⟨rfl, hcentroids, rfl, j, hrows _, .inl ⟨hfails, rfl⟩⟩
  · obtain rfl := insertAssignments_ok hchunks
    have hall : ∃ j, index.assignments.rows.length ≤ 1000 * j :=
      ⟨index.assignments.rows.length, Nat.le_mul_of_pos_left _ (by decide)⟩
    obtain ⟨j, hj⟩ := hall
    have htake : (order.listed index.assignments.rows).take (1000 * j) =
        order.listed index.assignments.rows :=
      List.take_of_length_le (hlisted.length_eq.trans_le hj)
    have hstored := hrows (1000 * j)
    rw [htake] at hstored
    rcases bind_eq_error hmeta with hupdate | ⟨_, last, -, hreturn⟩
    · rcases updateMeta_error hupdate with rfl | rfl
      · exact ⟨rfl, hcentroids, rfl, j, hstored.trans htake.symm, .inr ⟨hj, .inl rfl⟩⟩
      · exact ⟨rfl, hcentroids, rfl, j, hstored.trans htake.symm, .inr ⟨hj, .inr rfl⟩⟩
    · cases hreturn

end

/-- **A build that fails.**  If nothing was deleted yet, the database is as it was.  If the new
    centroids are committed, they are the centroids, the assignments are the chunks of the new ones
    before the one that fails, and the metadata is as it was; when all chunks are there, the time of
    the build may be new. -/
theorem failed_build_spec (arith : FloatArithmetic F D) (order : HashOrder (Int × Nat))
    (faults : BuildFaults) (now : String) (nClusters nIterations : Nat)
    (self self' : SqliteVectorIndex F rfc) (e : IndexError)
    (h : buildIvfIndex faults arith order now nClusters nIterations self =
      some (.error e, self')) :
    self'.centroidCache = self.centroidCache ∧
    ((¬ ∃ index cleared, Builds arith faults nClusters nIterations self index ∧
        clearing faults self.conn = (.ok (), cleared)) → self'.conn = self.conn) ∧
    ∀ index committed, Builds arith faults nClusters nIterations self index →
      replaceCentroids faults index self.conn = (.ok (), committed) →
        self'.conn.begun = none ∧ self'.conn.current.ivfCentroids.rows = index.centroids ∧
        self'.conn.current.embeddingVectors = self.conn.current.embeddingVectors ∧
        ∃ j, self'.conn.current.ivfAssignments.rows =
            (order.listed index.assignments.rows).take (1000 * j) ∧
          (ChunkFails faults (order.listed index.assignments.rows) j e self'.conn ∧
              self'.conn.current.vectorIndexMeta = self.conn.current.vectorIndexMeta ∨
            index.assignments.rows.length ≤ 1000 * j ∧
              (self'.conn.current.vectorIndexMeta = self.conn.current.vectorIndexMeta ∨
                self'.conn.current.vectorIndexMeta =
                  (self.conn.current.withBuiltAt now).vectorIndexMeta)) := by
  obtain ⟨hcache, hwhere⟩ := buildIvfIndex_error arith order faults now nClusters nIterations h
  refine ⟨hcache, fun hnotCleared => ?_, fun index committed hbuilds hcommitted => ?_⟩
  · rcases hwhere with ⟨-, hsame⟩ | ⟨index, hbuilds, hstore⟩
    · exact hsame
    · exact storeIndex_error_of_not_cleared
        (fun cleared hcleared => hnotCleared ⟨index, cleared, hbuilds, hcleared⟩) hstore
  · rcases hwhere with ⟨hnone, -⟩ | ⟨index', hbuilds', hstore⟩
    · exact absurd ⟨index, hbuilds⟩ hnone
    · -- the index is the one that was built
      obtain ⟨vectors, hvectors, -, hindex⟩ := hbuilds
      obtain ⟨vectors', hvectors', -, hindex'⟩ := hbuilds'
      rw [hvectors] at hvectors'
      cases hvectors'
      rw [hindex] at hindex'
      cases hindex'
      exact storeIndex_error_of_committed hcommitted hstore

/-! ## An interrupted build -/

/-- Whole numbers, none of which needs a root. -/
def rootless : FloatArithmetic Int Int := { wholeNumbers with sqrt := fun a => a }

/-- One vector and its index. -/
def indexedTables : IndexTables Int sampleRfc where
  embeddingVectors := ⟨[⟨1, "seg-1", "SEGMENT_SUMMARY", none, "review", [5], some ⟨[5], 1, 0⟩,
    "2026-03-22T09:00:00+00:00", false, sampleRfc_written⟩], List.nodup_singleton _⟩
  ivfCentroids := ⟨[⟨0, ⟨[5], 1, 0⟩, 1⟩], List.nodup_singleton _⟩
  ivfAssignments := ⟨[(1, 0)], List.nodup_singleton _⟩
  vectorIndexMeta := ⟨[⟨"ivf_built_at", "2026-03-21T09:00:00+00:00", "2026-03-21T09:00:00+00:00"⟩,
    ⟨"ivf_vector_count", "1", "2026-03-21T09:00:00+00:00"⟩], by decide⟩

/-- Its connection. -/
def indexed : SqliteVectorIndex Int sampleRfc := ⟨⟨indexedTables, none⟩, none⟩

/-- The disk is full when the first chunk is committed. -/
def fullDisk : BuildFaults
  | .commitChunk 0 => some "database or disk is full"
  | _ => none

/-- A `HashMap` of one entry. -/
def asInserted : HashOrder (Int × Nat) := ⟨id, fun xs => .refl xs⟩

theorem failed_build_spec_sample :
    ∃ e self' j, buildIvfIndex fullDisk rootless asInserted "2026-03-22T09:00:00+00:00" 1 0 indexed =
        some (.error e, self') ∧
      self'.conn.current.ivfCentroids.rows = [⟨0, ⟨[5], 1, 0⟩, 1⟩] ∧
      self'.conn.current.ivfAssignments.rows = [(1, 0)].take (1000 * j) := by
  obtain ⟨e, self', h⟩ : ∃ e self', buildIvfIndex fullDisk rootless asInserted
      "2026-03-22T09:00:00+00:00" 1 0 indexed = some (.error e, self') := ⟨_, _, rfl⟩
  obtain ⟨-, hcentroids, -, j, hassignments, -⟩ :=
    (failed_build_spec _ _ _ _ _ _ _ _ _ h).2.2 _ _ ⟨_, rfl, List.cons_ne_nil _ _, rfl⟩ rfl
  exact ⟨e, self', j, h, hcentroids, hassignments⟩

/-- **The old assignments are gone**, and the new ones are not there. -/
theorem interrupted_build :
    ¬ AllOrNothing rootless asInserted fullDisk "2026-03-22T09:00:00+00:00" 1 0 indexed := by
  intro hall
  have hassignments : ([] : List (Int × Nat)) = [(1, 0)] := congrArg Table.rows (hall _ _ rfl).2.1
  cases hassignments

end Oneshim.Search
