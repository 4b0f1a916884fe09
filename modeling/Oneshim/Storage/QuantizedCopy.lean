/-
  The INT8 copy of a vector (`vector_store_impl/trait_impl.rs`, `quantization.rs`, `sync_merger.rs`).

  A row of `embedding_vectors` holds its vector as `f32` bytes and, in three more columns, as the
  bytes that `quantize` makes of it.  Five writers touch the one or the other.

  1. **Floats** — an `f32` is its 32 bits; what the arithmetic does with them is a parameter.

  2. **The table** — the rows of `Database.embeddings`, and their three INT8 columns by row number.
     `store` and the merger insert rows without a copy, `store_quantized` with the one it is given,
     and `backfill_quantized` fills in the copies that are missing.

  3. **An open transaction** — a backfill that meets a vector it cannot quantize returns between
     `BEGIN` and `COMMIT`.  From then on no transaction can begin, and closing the connection takes
     back what was written since.

  4. **The result** — `update_vector` and the merger's update set the vector and leave the copy
     (`superseded_copy_kept`).  Where they meet rows without a copy, every copy is the one that
     `quantize` makes (`copies_in_step`).
-/
import Oneshim.Core.F32
import Oneshim.Lib.Calls
import Oneshim.Lib.Rfc3339
import Oneshim.Search.VectorTable
import Oneshim.Storage.ApplySpec

namespace Oneshim.QuantizedCopy

open Lib (Along SerialTable states states_invariant foldl_mem_states foldlM_invariant
  bind_eq_ok_iff ok_bind)
open Search (EmbeddingContentType QuantizedVector contentTypeToStr)

/-! ## Floats -/

/-- `f32_vec_to_bytes`. -/
def f32VecToBytes (v : List F32) : List UInt8 := v.flatMap F32.toLeBytes

/-- `bytes_to_f32_vec`: whole groups of four, what is left over is dropped. -/
def bytesToF32Vec : List UInt8 → List F32
  | a :: b :: c :: d :: rest => F32.fromLeBytes a b c d :: bytesToF32Vec rest
  | _ => []

/-- What the processor computes. -/
structure F32Arithmetic where
  min : F32 → F32 → F32
  max : F32 → F32 → F32
  sub : F32 → F32 → F32
  div : F32 → F32 → F32
  mul : F32 → F32 → F32
  lt : F32 → F32 → Bool
  round : F32 → F32
  /-- `as i16`. -/
  toI16 : F32 → Int16

/-- `CoreError::InvalidArguments`. -/
structure InvalidArguments where
  message : String
deriving DecidableEq

/-- The text of the error. -/
def InvalidArguments.text (self : InvalidArguments) : String :=
  "Invalid arguments [validation.invalid_arguments]: " ++ self.message

/-- The errors of the vector store. -/
inductive VectorStoreError where
  | invalidArguments (e : InvalidArguments)
  | core (e : CoreError)

/-- `StorageError::Internal`, as `with_conn` passes it on. -/
def internal (message : String) : VectorStoreError := .core (StorageError.internal message).toCore

/-- `ScalarQuantizer::quantize`. -/
def quantize (arith : F32Arithmetic) (vector : List F32) :
    Except InvalidArguments (QuantizedVector F32) :=
  if vector.isEmpty then .error ⟨"cannot quantize zero-length vector"⟩
  else if !vector.all F32.isFinite then .error ⟨"vector contains NaN or Inf values"⟩
  else
    let min := vector.foldl arith.min F32.infinity
    let max := vector.foldl arith.max F32.negInfinity
    let range := arith.sub max min
    let flat := arith.lt range F32.epsilon
    let data := vector.map fun v =>
      let normalized :=
        if flat then F32.zero else arith.mul (arith.div (arith.sub v min) range) F32.byteRange
      Int8.ofInt (Max.max (-128) (Min.min 127
        ((arith.toI16 (arith.round normalized)).toInt - 128)))
    .ok { data, scale := if flat then F32.one else arith.div range F32.byteRange, offset := min }

/-! ## The table -/

/-- `EmbeddingMetadata`; the timestamp in nanoseconds. -/
structure EmbeddingMetadata where
  segmentId : String
  contentType : EmbeddingContentType
  contentLabel : Option String
  timestamp : Int
  originalText : String
  modelId : String

/-- The row of a new vector. -/
def EmbeddingMetadata.row (metadata : EmbeddingMetadata) (blob : List UInt8) : EmbeddingRow :=
  { id := 0, segmentId := metadata.segmentId, contentType := contentTypeToStr metadata.contentType,
    contentLabel := metadata.contentLabel, originalText := metadata.originalText, vector := blob,
    modelId := metadata.modelId, timestamp := Lib.Rfc3339.toRfc3339 metadata.timestamp }

/-- `embedding_vectors` in its database. -/
structure VectorTable where
  db : Database
  /-- `vector_int8`, `quant_scale` and `quant_offset` of the row with a number. -/
  int8 : Nat → Option (QuantizedVector F32)
  /-- They are `NULL` until the row is there. -/
  unwritten : ∀ n, db.embeddings.seq < n → int8 n = none

namespace VectorTable

/-- `INSERT INTO embedding_vectors`, with a copy or without. -/
def insert (self : VectorTable) (row : EmbeddingRow) (copy : Option (QuantizedVector F32)) :
    VectorTable where
  db := self.db.insertEmbedding row
  int8 := fun n => if n = self.db.embeddings.seq + 1 then copy else self.int8 n
  unwritten := by
    intro n hn
    have hseq : self.db.embeddings.seq + 1 < n := hn
    rw [if_neg (by omega)]
    exact self.unwritten n (by omega)

/-- A row after `SET vector = ?1, model_id = ?2, is_stale = 0 WHERE id = ?3`. -/
def withVector (id : Int) (blob : List UInt8) (modelId : String) (r : EmbeddingRow) :
    EmbeddingRow :=
  if (r.id : Int) = id then { r with vector := blob, modelId, isStale := 0 } else r

theorem withVector_id (id : Int) (blob : List UInt8) (modelId : String) (r : EmbeddingRow) :
    (withVector id blob modelId r).id = r.id := by
  simp only [withVector]
  split <;> rfl

/-- `UPDATE embedding_vectors SET vector = ?1, model_id = ?2, is_stale = 0 WHERE id = ?3`. -/
def setVector (self : VectorTable) (id : Int) (blob : List UInt8) (modelId : String) :
    VectorTable where
  db := { self.db with embeddings :=
    self.db.embeddings.mapRows (withVector id blob modelId) (withVector_id id blob modelId) }
  int8 := self.int8
  unwritten := self.unwritten

/-- `UPDATE embedding_vectors SET vector_int8 = ?1, quant_scale = ?2, quant_offset = ?3
    WHERE id = ?4`. -/
def setInt8 (self : VectorTable) (id : Nat) (copy : QuantizedVector F32) : VectorTable where
  db := self.db
  int8 := fun n =>
    if n = id ∧ ∃ r ∈ self.db.embeddings.rows, r.id = n then some copy else self.int8 n
  unwritten := by
    intro n hn
    have hnone : ¬ (n = id ∧ ∃ r ∈ self.db.embeddings.rows, r.id = n) := by
      rintro ⟨-, r, hr, rfl⟩
      have hle := self.db.embeddings.bounded r hr
      omega
    rw [if_neg hnone]
    exact self.unwritten n hn

end VectorTable

/-! ## What a changeset does to the rows -/

/-- The merge transaction when it comes to the embeddings. -/
def beforeEmbeddings (db : Database) (cs : ChangeSet) : Except StorageError Tx := do
  let tx ← cs.segments.foldlM mergeSegment ⟨db, {}⟩
  let tx ← cs.overrides.foldlM mergeOverride tx
  let tx ← cs.paramSnapshots.foldlM mergeParamSnapshot tx
  cs.regimes.foldlM mergeRegime tx

/-- Is it a changeset whose rows are merged? -/
def Foreign (me : String) (cs : ChangeSet) : Prop := cs.kind = .data ∧ cs.originDeviceId ≠ me

instance (me : String) (cs : ChangeSet) : Decidable (Foreign me cs) :=
  inferInstanceAs (Decidable (_ ∧ _))

/-- Embeddings are only deleted. -/
structure OnlyDeletes (before after : SerialTable EmbeddingRow.id) : Prop where
  seq : after.seq = before.seq
  rows : ∀ r ∈ after.rows, r ∈ before.rows

namespace OnlyDeletes

theorem refl (t : SerialTable EmbeddingRow.id) : OnlyDeletes t t := ⟨rfl, fun _ h => h⟩

theorem trans {s t u : SerialTable EmbeddingRow.id} (hst : OnlyDeletes s t)
    (htu : OnlyDeletes t u) : OnlyDeletes s u :=
  ⟨htu.seq.trans hst.seq, fun r hr => hst.rows r (htu.rows r hr)⟩

end OnlyDeletes

/-- A deletion statement inserts no embedding and rewrites none. -/
theorem deletionStatements_onlyDeletes {origin : String} :
    ∀ statement ∈ deletionStatements origin, ∀ db deleted db',
      statement.2 db = .ok (deleted, db') → OnlyDeletes db.embeddings db'.embeddings := by
  intro statement hmem db deleted db' h
  simp only [deletionStatements, List.mem_cons, List.not_mem_nil, or_false] at hmem
  rcases hmem with rfl | rfl | rfl | rfl | rfl | rfl
  case inr.inr.inr.inl =>
    cases h
    exact ⟨rfl, fun r hr => (List.mem_filter.mp hr).1⟩
  case inr.inl | inr.inr.inr.inr.inr =>
    -- the two that a reference may refuse
    obtain ⟨-, -, hret⟩ := bind_eq_ok_iff.mp h
    cases hret
    exact .refl _
  all_goals
    cases h
    exact .refl _

/-- Deletions change no embedding that stays. -/
theorem runDeletions_onlyDeletes
    {statements : List (String × (Database → Except SqlError (Nat × Database)))}
    (hstatements : ∀ statement ∈ statements, ∀ db deleted db',
      statement.2 db = .ok (deleted, db') → OnlyDeletes db.embeddings db'.embeddings)
    (total : Nat) (db : Database) :
    OnlyDeletes db.embeddings (runDeletions statements total db).2.embeddings := by
  induction statements generalizing total db with
  | nil => exact .refl _
  | cons statement rest ih =>
    obtain ⟨table, run⟩ := statement
    have hrest := ih fun s hs => hstatements s (List.mem_cons_of_mem _ hs)
    rw [runDeletions]
    cases hrun : run db with
    | error e => exact .refl _
    | ok p =>
      have hhead := hstatements _ List.mem_cons_self db p.1 p.2 hrun
      exact hhead.trans (hrest (total + p.1) p.2)

/-- **What a changeset does to the embeddings**: it merges rows, or it deletes some. -/
theorem applyChanges_embeddings (me : String) (cs : ChangeSet) (db : Database) :
    OnlyDeletes db.embeddings (applyChanges me cs db).2.embeddings ∨
      Foreign me cs ∧ ∃ before after, beforeEmbeddings db cs = .ok before ∧
        before.db.embeddings = db.embeddings ∧
        cs.embeddings.foldlM mergeEmbedding before = .ok after ∧
        (applyChanges me cs db).2.embeddings = after.db.embeddings := by
  cases hkind : cs.kind with
  | deletionEvent =>
    left
    have hdel := runDeletions_onlyDeletes
      (@deletionStatements_onlyDeletes cs.originDeviceId) 0 db
    simp only [applyChanges, hkind, handleDeletionEvent]
    cases hrun : runDeletions (deletionStatements cs.originDeviceId) 0 db with
    | mk result db' =>
      rw [hrun] at hdel
      cases result <;> exact hdel
  | data =>
    by_cases hself : cs.originDeviceId = me
    · left
      rw [applyChanges_self hkind hself]
      exact .refl _
    · cases hm : mergeAll db cs with
      | error e =>
        left
        rw [applyChanges_rejected hkind hself hm]
        exact .refl _
      | ok tx =>
        right
        obtain ⟨run⟩ := mergeAll_ok hm
        have hbefore : beforeEmbeddings db cs = .ok run.afterRegimes := by
          simp only [beforeEmbeddings, run.segments_run, run.overrides_run,
            run.paramSnapshots_run, run.regimes_run, ok_bind]
        rw [applyChanges_merged hkind hself hm]
        exact ⟨⟨hkind, hself⟩, run.afterRegimes, run.afterEmbeddings, hbefore,
          run.embeddings_before, run.embeddings_run, run.embeddings_eq⟩

/-- Merging a row does not take numbers back. -/
theorem mergeEmbedding_seq_le {tx tx' : Tx} {row : Json} (h : mergeEmbedding tx row = .ok tx') :
    tx.db.embeddings.seq ≤ tx'.db.embeddings.seq := by
  obtain ⟨s, m, hlc, -, -, -, ⟨-, r, -, rfl⟩ | ⟨old, -, -, r, -, rfl⟩ | ⟨old, -, -, rfl⟩⟩ :=
    mergeEmbedding_ok h
  · exact Nat.le_succ _
  · exact Nat.le_refl _
  · exact Nat.le_refl _

/-- Nor does a changeset. -/
theorem applyChanges_seq_le (me : String) (cs : ChangeSet) (db : Database) :
    db.embeddings.seq ≤ (applyChanges me cs db).2.embeddings.seq := by
  rcases applyChanges_embeddings me cs db with hdel | ⟨-, before, after, -, hbefore, hrun, heq⟩
  · exact Nat.le_of_eq hdel.seq.symm
  · rw [heq, ← hbefore]
    exact foldlM_invariant (P := fun tx => before.db.embeddings.seq ≤ tx.db.embeddings.seq)
      (fun row tx tx' hle hstep => Nat.le_trans hle (mergeEmbedding_seq_le hstep))
      (Nat.le_refl _) hrun

/-! ## The operations -/

/-- The connection that the vector store and the merger share. -/
structure Connection where
  table : VectorTable
  /-- What a transaction left open would go back to. -/
  begun : Option VectorTable

/-- A fresh database. -/
def Connection.fresh (foreignKeys : Bool) : Connection where
  table := { db := .empty foreignKeys, int8 := fun _ => none, unwritten := fun _ _ => rfl }
  begun := none

namespace Connection

/-- `store`. -/
def store (self : Connection) (vector : List F32) (metadata : EmbeddingMetadata) :
    Except VectorStoreError Unit × Connection :=
  if vector.isEmpty then
    (.error (.invalidArguments ⟨"Cannot store empty f32 vector"⟩), self)
  else
    (.ok (), { self with table := self.table.insert (metadata.row (f32VecToBytes vector)) none })

/-- `store_quantized`. -/
def storeQuantized (self : Connection) (vectorF32 : List F32) (vectorInt8 : QuantizedVector F32)
    (metadata : EmbeddingMetadata) (skipFloat32 : Bool) :
    Except VectorStoreError Unit × Connection :=
  if vectorInt8.data.isEmpty then
    (.error (.invalidArguments ⟨"Cannot store empty INT8 vector"⟩), self)
  else if !skipFloat32 && vectorF32.length != vectorInt8.data.length then
    (.error (.invalidArguments ⟨"Vector dimension mismatch: f32 has " ++ toString vectorF32.length ++
      ", INT8 has " ++ toString vectorInt8.data.length⟩), self)
  else
    -- the column is `NOT NULL`, so a vector that is not kept is an empty blob
    let f32Blob := if skipFloat32 then [] else f32VecToBytes vectorF32
    (.ok (), { self with table := self.table.insert (metadata.row f32Blob) (some vectorInt8) })

/-- `update_vector`. -/
def updateVector (self : Connection) (id : Int) (vector : List F32) (modelId : String) :
    Connection :=
  { self with table := self.table.setVector id (f32VecToBytes vector) modelId }

/-- `SELECT id, vector FROM embedding_vectors WHERE vector_int8 IS NULL LIMIT ?1`; a limit that
    `as i64` makes negative is none. -/
def unquantized (self : Connection) (batchSize : Nat) : List (Nat × List UInt8) :=
  let rows := self.table.db.embeddings.rows.filter fun r => (self.table.int8 r.id).isNone
  (if batchSize < 2 ^ 63 then rows.take batchSize else rows).map fun r => (r.id, r.vector)

/-- The updates of `backfill_quantized`, up to a vector that cannot be quantized. -/
def backfillRows (arith : F32Arithmetic) :
    List (Nat × List UInt8) → VectorTable → Nat → Except VectorStoreError Nat × VectorTable
  | [], table, count => (.ok count, table)
  | (id, blob) :: rest, table, count =>
    match quantize arith (bytesToF32Vec blob) with
    | .error e =>
      (.error (internal ("Backfill quantize failed for id=" ++ toString id ++ ": " ++ e.text)),
        table)
    | .ok quantized => backfillRows arith rest (table.setInt8 id quantized) (count + 1)

/-- What SQLite says to a `BEGIN` in an open transaction. -/
def nestedBegin : String := "cannot start a transaction within a transaction"

/-- `backfill_quantized`. -/
def backfillQuantized (arith : F32Arithmetic) (self : Connection) (batchSize : Nat) :
    Except VectorStoreError Nat × Connection :=
  let rows := self.unquantized batchSize
  if rows.isEmpty then (.ok 0, self)
  else if self.begun.isSome then
    (.error (internal ("Backfill BEGIN failed: " ++ nestedBegin)), self)
  else
    match backfillRows arith rows self.table 0 with
    | (.ok count, table) => (.ok count, ⟨table, none⟩)
    -- returns without `COMMIT` or `ROLLBACK`
    | (.error e, table) => (.error e, ⟨table, some self.table⟩)

/-- `apply_changes` on the shared connection. -/
def applyChanges (me : String) (self : Connection) (cs : ChangeSet) :
    Except CoreError SyncResult × Connection :=
  if Foreign me cs ∧ self.begun.isSome then
    (.error (.storage ("begin transaction: " ++ nestedBegin)), self)
  else
    let applied := Oneshim.applyChanges me cs self.table.db
    (applied.1, { self with table :=
      { db := applied.2, int8 := self.table.int8,
        unwritten := fun n hn => self.table.unwritten n
          (Nat.lt_of_le_of_lt (applyChanges_seq_le me cs self.table.db) hn) } })

/-- The connection is closed and opened again. -/
def reopen (self : Connection) : Connection := ⟨self.begun.getD self.table, none⟩

end Connection

/-- What happens to the table. -/
inductive Op where
  | store (vector : List F32) (metadata : EmbeddingMetadata)
  | storeQuantized (vectorF32 : List F32) (vectorInt8 : QuantizedVector F32)
      (metadata : EmbeddingMetadata) (skipFloat32 : Bool)
  | updateVector (id : Int) (vector : List F32) (modelId : String)
  | backfillQuantized (batchSize : Nat)
  | applyChanges (cs : ChangeSet)
  | reopen

/-- One operation. -/
def step (arith : F32Arithmetic) (me : String) (self : Connection) : Op → Connection
  | .store vector metadata => (self.store vector metadata).2
  | .storeQuantized vectorF32 vectorInt8 metadata skipFloat32 =>
    (self.storeQuantized vectorF32 vectorInt8 metadata skipFloat32).2
  | .updateVector id vector modelId => self.updateVector id vector modelId
  | .backfillQuantized batchSize => (Connection.backfillQuantized arith self batchSize).2
  | .applyChanges cs => (Connection.applyChanges me self cs).2
  | .reopen => self.reopen

/-! ## Copies in step -/

/-- A copy beside the bytes of a vector is the one that `quantize` makes; a row without a copy or
    without a full vector has nothing to agree. -/
def Matches (arith : F32Arithmetic) (copy : Option (QuantizedVector F32)) (blob : List UInt8) :
    Prop :=
  ∀ q, copy = some q → bytesToF32Vec blob ≠ [] → quantize arith (bytesToF32Vec blob) = .ok q

/-- Every row with a full vector and a copy has the copy of that vector. -/
def InStep (arith : F32Arithmetic) (self : VectorTable) : Prop :=
  ∀ r ∈ self.db.embeddings.rows, Matches arith (self.int8 r.id) r.vector

/-- A row that the merger writes over, and the bytes it gets. -/
def Overwrites (tx : Tx) (row : Json) (id : Nat) (blob : List UInt8) : Prop :=
  ∃ segmentId modelId hlc old r, jsonStr row "segment_id" = .ok segmentId ∧
    jsonStr row "model_id" = .ok modelId ∧ extractHlc row = .ok hlc ∧
    readable EmbeddingRow.stamp (tx.db.embeddingAt segmentId modelId) = some old ∧
    old.2 < hlc ∧ embeddingVersion row = .ok r ∧ id = old.1.id ∧ blob = r.vector

/-- One after the other, the merged rows write over vectors without a copy only, or over those whose
    copy is also that of the new vector. -/
def OverwritesInStep (arith : F32Arithmetic) (int8 : Nat → Option (QuantizedVector F32)) :
    Tx → List Json → Prop
  | _, [] => True
  | tx, row :: rest =>
    (∀ id blob, Overwrites tx row id blob → Matches arith (int8 id) blob) ∧
      ∀ tx', mergeEmbedding tx row = .ok tx' → OverwritesInStep arith int8 tx' rest

/-- An operation that leaves no copy behind: a quantized vector comes with its own copy, and a
    vector is written over where there is no copy, or where the copy fits it too. -/
def KeepsCopies (arith : F32Arithmetic) (me : String) (self : Connection) : Op → Prop
  | .storeQuantized vectorF32 vectorInt8 _ skipFloat32 =>
    skipFloat32 = false → vectorInt8.data ≠ [] → vectorF32.length = vectorInt8.data.length →
      quantize arith vectorF32 = .ok vectorInt8
  | .updateVector id vector _ =>
    ∀ r ∈ self.table.db.embeddings.rows, (r.id : Int) = id →
      Matches arith (self.table.int8 r.id) (f32VecToBytes vector)
  | .applyChanges cs =>
    Foreign me cs → self.begun = none →
      ∀ tx, beforeEmbeddings self.table.db cs = .ok tx →
        OverwritesInStep arith self.table.int8 tx cs.embeddings
  | .store .. | .backfillQuantized _ | .reopen => True

/-! ## Bytes of floats -/

theorem F32.fromLeBytes_toLeBytes (x : F32) :
    F32.fromLeBytes (UInt8.ofNat x.bits.toNat) (UInt8.ofNat (x.bits.toNat / 2 ^ 8))
      (UInt8.ofNat (x.bits.toNat / 2 ^ 16)) (UInt8.ofNat (x.bits.toNat / 2 ^ 24)) = x := by
  have hlt : x.bits.toNat < 2 ^ 32 := x.bits.toNat_lt
  have hsum : x.bits.toNat % 2 ^ 8 + 2 ^ 8 * (x.bits.toNat / 2 ^ 8 % 2 ^ 8) +
      2 ^ 16 * (x.bits.toNat / 2 ^ 16 % 2 ^ 8) + 2 ^ 24 * (x.bits.toNat / 2 ^ 24 % 2 ^ 8) =
      x.bits.toNat := by omega
  simp only [F32.fromLeBytes, UInt8.toNat_ofNat', hsum, UInt32.ofNat_toNat]

/-- **Round trip**: the bytes of a vector are read back. -/
theorem bytesToF32Vec_f32VecToBytes (v : List F32) : bytesToF32Vec (f32VecToBytes v) = v := by
  induction v with
  | nil => rfl
  | cons x xs ih =>
    show F32.fromLeBytes _ _ _ _ :: bytesToF32Vec (f32VecToBytes xs) = x :: xs
    rw [ih, F32.fromLeBytes_toLeBytes]

/-! ## What each writer keeps -/

section

variable {arith : F32Arithmetic} {me : String}

theorem Matches.none (blob : List UInt8) : Matches arith none blob := by
  intro q hq
  cases hq

/-- Nothing has to agree with an empty blob. -/
theorem Matches.empty (copy : Option (QuantizedVector F32)) : Matches arith copy [] := by
  intro q _ hfull
  exact absurd rfl hfull

theorem Matches.of_quantize {blob : List UInt8} {copy : QuantizedVector F32}
    (h : quantize arith (bytesToF32Vec blob) = .ok copy) : Matches arith (some copy) blob := by
  intro q hq _
  cases hq
  exact h

namespace VectorTable

variable {self : VectorTable}

/-- A row that comes with its copy keeps the copies in step. -/
theorem insert_inStep {row : EmbeddingRow} {copy : Option (QuantizedVector F32)}
    (h : InStep arith self) (hrow : Matches arith copy row.vector) :
    InStep arith (self.insert row copy) := by
  intro r hr
  rcases List.mem_append.mp hr with hold | hnew
  · have hle := self.db.embeddings.bounded r hold
    show Matches arith (if r.id = self.db.embeddings.seq + 1 then copy else self.int8 r.id) r.vector
    rw [if_neg (by omega)]
    exact h r hold
  · obtain rfl := List.mem_singleton.mp hnew
    show Matches arith (if self.db.embeddings.seq + 1 = self.db.embeddings.seq + 1 then copy
      else self.int8 (self.db.embeddings.seq + 1)) row.vector
    rw [if_pos rfl]
    exact hrow

/-- **Writing over a vector** keeps the copies in step exactly when the copy left beside it fits. -/
theorem setVector_inStep_iff {id : Int} {blob : List UInt8} {modelId : String}
    (h : InStep arith self) :
    InStep arith (self.setVector id blob modelId) ↔
      ∀ r ∈ self.db.embeddings.rows, (r.id : Int) = id → Matches arith (self.int8 r.id) blob := by
  constructor
  · intro hafter r hr hid
    have hmem : withVector id blob modelId r ∈
        (self.setVector id blob modelId).db.embeddings.rows := List.mem_map_of_mem hr
    have hmatch := hafter _ hmem
    rw [withVector_id] at hmatch
    simp only [withVector, if_pos hid] at hmatch
    exact hmatch
  · intro hfits r' hr'
    obtain ⟨r, hr, rfl⟩ := List.mem_map.mp hr'
    show Matches arith (self.int8 (withVector id blob modelId r).id)
      (withVector id blob modelId r).vector
    rw [withVector_id]
    by_cases hid : (r.id : Int) = id
    · simp only [withVector, if_pos hid]
      exact hfits r hr hid
    · simp only [withVector, if_neg hid]
      exact h r hr

theorem setInt8_inStep {id : Nat} {blob : List UInt8} {copy : QuantizedVector F32}
    (h : InStep arith self) (hblob : ∀ r ∈ self.db.embeddings.rows, r.id = id → r.vector = blob)
    (hcopy : quantize arith (bytesToF32Vec blob) = .ok copy) :
    InStep arith (self.setInt8 id copy) := by
  intro r hr
  show Matches arith (if r.id = id ∧ ∃ s ∈ self.db.embeddings.rows, s.id = r.id then some copy
    else self.int8 r.id) r.vector
  split
  case isTrue hthis =>
    rw [hblob r hr hthis.1]
    exact .of_quantize hcopy
  case isFalse => exact h r hr

end VectorTable

namespace Connection

/-- A backfill writes the copies of the vectors it reads. -/
theorem backfillRows_inStep {rows : List (Nat × List UInt8)} {table : VectorTable}
    (hread : ∀ p ∈ rows, ∀ r ∈ table.db.embeddings.rows, r.id = p.1 → r.vector = p.2)
    (h : InStep arith table) (count : Nat) : InStep arith (backfillRows arith rows table count).2 := by
  induction rows generalizing table count with
  | nil => exact h
  | cons p rest ih =>
    obtain ⟨id, blob⟩ := p
    rw [backfillRows]
    cases hq : quantize arith (bytesToF32Vec blob) with
    | error e => exact h
    | ok copy =>
      have hblob := hread _ List.mem_cons_self
      have hset : InStep arith (table.setInt8 id copy) := VectorTable.setInt8_inStep h hblob hq
      have hrest : ∀ p ∈ rest, ∀ r ∈ (table.setInt8 id copy).db.embeddings.rows,
          r.id = p.1 → r.vector = p.2 := fun p hp => hread p (List.mem_cons_of_mem _ hp)
      exact ih hrest hset (count + 1)

/-- The rows of a backfill are as they are in the table. -/
theorem unquantized_read {self : Connection} {batchSize : Nat} :
    ∀ p ∈ self.unquantized batchSize, ∀ r ∈ self.table.db.embeddings.rows,
      r.id = p.1 → r.vector = p.2 := by
  intro p hp r hr hid
  obtain ⟨s, hs, rfl⟩ := List.mem_map.mp hp
  have hmem : s ∈ self.table.db.embeddings.rows := by
    split at hs
    · exact (List.mem_filter.mp (List.mem_of_mem_take hs)).1
    · exact (List.mem_filter.mp hs).1
  have hsame : r = s := SerialTable.eq_of_key_eq hr hmem hid
  rw [hsame]

end Connection

/-- **Merging a row** keeps the copies in step if what it writes over allows it. -/
theorem mergeEmbedding_inStep {int8 : Nat → Option (QuantizedVector F32)} {tx tx' : Tx} {row : Json}
    (hunwritten : ∀ n, tx.db.embeddings.seq < n → int8 n = none)
    (h : ∀ r ∈ tx.db.embeddings.rows, Matches arith (int8 r.id) r.vector)
    (hover : ∀ id blob, Overwrites tx row id blob → Matches arith (int8 id) blob)
    (hstep : mergeEmbedding tx row = .ok tx') :
    ∀ r ∈ tx'.db.embeddings.rows, Matches arith (int8 r.id) r.vector := by
  obtain ⟨segmentId, modelId, hlc, hs, hm, hx, ⟨-, r, -, rfl⟩ | ⟨old, hold, hlt, r, hr, rfl⟩ |
    ⟨old, -, -, rfl⟩⟩ := mergeEmbedding_ok hstep
  · intro x hx
    rcases List.mem_append.mp hx with hin | hnew
    · exact h x hin
    · -- a new number has no copy yet
      obtain rfl := List.mem_singleton.mp hnew
      show Matches arith (int8 (tx.db.embeddings.seq + 1)) r.vector
      rw [hunwritten _ (Nat.lt_succ_self _)]
      exact .none _
  · intro x hx'
    rcases SerialTable.mem_update hx' with hin | rfl
    · exact h x hin
    · exact hover _ _ ⟨segmentId, modelId, hlc, old, r, hs, hm, hx, hold, hlt, hr, rfl, rfl⟩
  · exact h

/-- A merge keeps the copies in step when no overwritten row has one that differs. -/
theorem mergeEmbeddings_inStep {int8 : Nat → Option (QuantizedVector F32)} {rows : List Json}
    {tx tx' : Tx} (hunwritten : ∀ n, tx.db.embeddings.seq < n → int8 n = none)
    (h : ∀ r ∈ tx.db.embeddings.rows, Matches arith (int8 r.id) r.vector)
    (hover : OverwritesInStep arith int8 tx rows)
    (hrun : rows.foldlM mergeEmbedding tx = .ok tx') :
    ∀ r ∈ tx'.db.embeddings.rows, Matches arith (int8 r.id) r.vector := by
  induction rows generalizing tx with
  | nil =>
    cases hrun
    exact h
  | cons row rest ih =>
    rw [List.foldlM_cons] at hrun
    obtain ⟨next, hstep, hrest⟩ := bind_eq_ok_iff.mp hrun
    have hseq := mergeEmbedding_seq_le hstep
    exact ih (fun n hn => hunwritten n (Nat.lt_of_le_of_lt hseq hn))
      (mergeEmbedding_inStep hunwritten h hover.1 hstep) (hover.2 next hstep) hrest

/-! ## Runs -/

/-- The copies are in step in the table, and in what a rollback would go back to. -/
structure Kept (arith : F32Arithmetic) (conn : Connection) : Prop where
  table : InStep arith conn.table
  begun : ∀ table, conn.begun = some table → InStep arith table

theorem kept_fresh (foreignKeys : Bool) : Kept arith (.fresh foreignKeys) where
  table := by
    intro r hr
    cases hr
  begun := by
    intro table h
    cases h

/-- A changeset keeps the copies in step, merged or not. -/
theorem applyChanges_kept {self : Connection} {cs : ChangeSet} (h : Kept arith self)
    (hcs : KeepsCopies arith me self (.applyChanges cs)) :
    Kept arith (Connection.applyChanges me self cs).2 := by
  simp only [Connection.applyChanges]
  split
  case isTrue => exact h
  case isFalse hbegins =>
    refine ⟨?_, h.begun⟩
    rcases applyChanges_embeddings me cs self.table.db with
      hdel | ⟨hforeign, before, after, hbefore, hsame, hrun, heq⟩
    · intro r hr
      exact h.table r (hdel.rows r hr)
    · have hclosed : self.begun = none := by
        rw [← Option.not_isSome_iff_eq_none]
        exact fun hsome => hbegins ⟨hforeign, hsome⟩
      have hunwritten : ∀ n, before.db.embeddings.seq < n → self.table.int8 n = none := by
        rw [hsame]
        exact self.table.unwritten
      have hstart : ∀ r ∈ before.db.embeddings.rows,
          Matches arith (self.table.int8 r.id) r.vector := by
        rw [hsame]
        exact h.table
      have hkept := mergeEmbeddings_inStep hunwritten hstart
        (hcs hforeign hclosed before hbefore) hrun
      rw [← heq] at hkept
      exact hkept

/-- **One operation** keeps the copies in step if it leaves none behind. -/
theorem step_kept (self : Connection) (op : Op) (h : Kept arith self)
    (hop : KeepsCopies arith me self op) : Kept arith (step arith me self op) := by
  cases op with
  | store vector metadata =>
    simp only [step, Connection.store]
    split
    · exact h
    · exact ⟨VectorTable.insert_inStep h.table (.none _), h.begun⟩
  | storeQuantized vectorF32 vectorInt8 metadata skipFloat32 =>
    simp only [step, Connection.storeQuantized]
    split
    case isTrue => exact h
    case isFalse hdata =>
      split
      case isTrue => exact h
      case isFalse hlength =>
        refine ⟨VectorTable.insert_inStep h.table ?_, h.begun⟩
        cases skipFloat32 with
        | true => exact .empty _
        | false =>
          have hcopy := hop rfl (by simpa using hdata) (by simpa using hlength)
          refine .of_quantize ?_
          show quantize arith (bytesToF32Vec (f32VecToBytes vectorF32)) = .ok vectorInt8
          rw [bytesToF32Vec_f32VecToBytes]
          exact hcopy
  | updateVector id vector modelId =>
    exact ⟨(VectorTable.setVector_inStep_iff h.table).mpr hop, h.begun⟩
  | backfillQuantized batchSize =>
    have hrows : InStep arith
        (Connection.backfillRows arith (self.unquantized batchSize) self.table 0).2 :=
      Connection.backfillRows_inStep Connection.unquantized_read h.table 0
    simp only [step, Connection.backfillQuantized]
    split
    · exact h
    split
    · exact h
    split
    case h_1 heq =>
      rw [heq] at hrows
      exact ⟨hrows, fun table hnone => by cases hnone⟩
    case h_2 heq =>
      rw [heq] at hrows
      refine ⟨hrows, fun table hsome => ?_⟩
      cases hsome
      exact h.table
  | applyChanges cs => exact applyChanges_kept h hop
  | reopen =>
    refine ⟨?_, fun table hnone => by cases hnone⟩
    show InStep arith (self.begun.getD self.table)
    cases hbegun : self.begun with
    | none => exact h.table
    | some table => exact h.begun table hbegun

end

/-- **Copies in step.**  In a run whose operations leave no copy behind, every row with a full
    vector and an INT8 copy has at every moment the copy that `quantize` makes of that vector. -/
theorem copies_in_step (arith : F32Arithmetic) (me : String) (foreignKeys : Bool) (ops : List Op)
    (hrun : Along (step arith me) (KeepsCopies arith me) (.fresh foreignKeys) ops) :
    ∀ self ∈ states (step arith me) (.fresh foreignKeys) ops, InStep arith self.table := by
  intro self hself
  have hkept : Kept arith self :=
    states_invariant (fun s op h hop => step_kept s op h hop) (kept_fresh foreignKeys) hrun self
      hself
  exact hkept.table

/-! ## A copy that is left behind -/

deriving instance DecidableEq for QuantizedVector

/-- The arithmetic on `0.0`, `1.0` and `255.0`: nothing is added to zero or taken from it, a number
    is divided by itself or into zero, and one and zero are multiplied. -/
def exampleArithmetic : F32Arithmetic where
  min x y := if x.place ≤ y.place then x else y
  max x y := if x.place ≤ y.place then y else x
  sub x y := if x = y then .zero else x
  div x y := if x = y then .one else if x = .zero then .zero else x
  mul x y := if x = .zero then .zero else if x = .one then y else x
  lt x y := decide (x.place < y.place)
  round x := x
  toI16 x := if x = .byteRange then 255 else if x = .one then 1 else 0

/-- A segment summary. -/
def exampleMetadata : EmbeddingMetadata where
  segmentId := "s1"
  contentType := .segmentSummary
  contentLabel := none
  timestamp := 0
  originalText := "notes"
  modelId := "m1"

/-- What `quantize` makes of `[0.0, 255.0]`. -/
def exampleCopy : QuantizedVector F32 := ⟨[-128, 127], .one, .zero⟩

/-- A quantized vector is stored, another one is stored, re-embedded and then quantized, and the
    connection is opened again. -/
def orderlyRun : List Op :=
  [.storeQuantized [.zero, .byteRange] exampleCopy exampleMetadata false,
    .store [.zero, .byteRange] exampleMetadata, .updateVector 2 [.byteRange, .zero] "m2",
    .backfillQuantized 10, .reopen]

theorem copies_in_step_orderly :
    InStep exampleArithmetic
      (orderlyRun.foldl (step exampleArithmetic "a") (.fresh true)).table := by
  refine copies_in_step exampleArithmetic "a" true orderlyRun
    ⟨fun _ _ _ => by decide, trivial, ?_, trivial, trivial, trivial⟩ _ (foldl_mem_states _ _)
  intro r hr hid
  have htwo : r.id = 2 := by omega
  rw [htwo]
  exact .none _

/-- A quantized vector is re-embedded. -/
def supersedingRun : List Op :=
  [.store [.zero, .byteRange] exampleMetadata, .backfillQuantized 10,
    .updateVector 1 [.byteRange, .zero] "m2"]

/-- **A superseded copy is kept**: beside the new vector stands the copy of the old one. -/
theorem superseded_copy_kept :
    ¬ ∀ self ∈ states (step exampleArithmetic "a") (.fresh true) supersedingRun,
      InStep exampleArithmetic self.table := by
  intro h
  have hlast := h _ (foldl_mem_states _ _)
  have hmatch := hlast
    { exampleMetadata.row (f32VecToBytes [.byteRange, .zero]) with id := 1, modelId := "m2" }
    (by decide +kernel) exampleCopy (by decide +kernel) (by decide +kernel)
  revert hmatch
  decide +kernel

end Oneshim.QuantizedCopy
