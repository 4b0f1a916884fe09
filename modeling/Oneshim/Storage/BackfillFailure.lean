/-
  A backfill that fails (`vector_store_impl/trait_impl.rs`).

  `backfill_quantized` begins and commits its transaction by hand.  Between the two every error is
  returned at once, and nothing rolls back; only SQLite itself does, after some errors.

  1. **Code** — the call with all that may fail.

  2. **A failure inside** (`Inside`, `Inside.bind`) — of a sequence of steps in an open transaction
     the first that fails decides whether the transaction stays open.

  3. **The result** (`backfill_clean_iff`).
-/
import Oneshim.Lib.Session
import Oneshim.Storage.QuantizedCopy

namespace Oneshim.QuantizedCopy

open Lib.Session (check query execute begins commits bind_of_ok)

/-! ## Code -/

/-- A session on the vectors. -/
abbrev VectorSession (α : Type) : Type := Lib.Session VectorTable VectorStoreError α

/-- Where a backfill may fail; rows by their ids. -/
inductive BackfillPoint where
  | lock | prepareQuery | queryRows
  | readRow (id : Nat)
  | beginBatch | prepareUpdate
  | update (id : Nat)
  | commit

/-- An error of SQLite; some make it roll back by itself. -/
structure SqliteFailure where
  message : String
  rollsBack : Bool

/-- What fails. -/
abbrev BackfillFaults : Type := BackfillPoint → Option SqliteFailure

section

variable (arith : F32Arithmetic) (faults : BackfillFaults)

/-- Is the mutex poisoned? -/
def BackfillFaults.locks : VectorSession Unit :=
  check (match faults .lock with
    | none => .ok ()
    | some failure => .error (internal ("SQLite lock poisoned: " ++ failure.message)))

/-- Does it fail here?  A transaction that is open may then be rolled back. -/
def BackfillFaults.pass (point : BackfillPoint) (context : String) : VectorSession Unit :=
  fun conn =>
    match faults point with
    | none => (.ok (), conn)
    | some failure =>
      (.error (internal (context ++ failure.message)),
        if failure.rollsBack then conn.rolledBack else conn)

/-- The rows without a copy; one that cannot be read is left out. -/
def readableRows (batchSize : Nat) (table : VectorTable) : List (Nat × List UInt8) :=
  ((Connection.mk table none).unquantized batchSize).filter fun row =>
    (faults (.readRow row.1)).isNone

/-- `SELECT id, vector FROM embedding_vectors WHERE vector_int8 IS NULL LIMIT ?1`. -/
def readUnquantized (batchSize : Nat) : VectorSession (List (Nat × List UInt8)) := do
  faults.locks
  faults.pass .prepareQuery "Failed to prepare backfill query: "
  faults.pass .queryRows "Failed to query backfill rows: "
  query (readableRows faults batchSize)

/-- The loop over the rows. -/
def updateRows : List (Nat × List UInt8) → Nat → VectorSession Nat
  | [], count => pure count
  | (id, blob) :: rest, count => do
    let quantized ← check (match quantize arith (bytesToF32Vec blob) with
      | .ok quantized => .ok quantized
      | .error e =>
        .error (internal ("Backfill quantize failed for id=" ++ toString id ++ ": " ++ e.text)))
    faults.pass (.update id) ("Backfill update failed for id=" ++ toString id ++ ": ")
    execute fun table => .ok (table.setInt8 id quantized)
    updateRows rest (count + 1)

/-- What comes after the `BEGIN`, up to a `COMMIT` that may still fail. -/
def updateAll (rows : List (Nat × List UInt8)) : VectorSession Nat := do
  faults.pass .prepareUpdate "Failed to prepare backfill update: "
  let count ← updateRows arith faults rows 0
  faults.pass .commit "Backfill COMMIT failed: "
  return count

/-- Everything after the `BEGIN`. -/
def updateAndCommit (rows : List (Nat × List UInt8)) : VectorSession Nat := do
  let count ← updateAll arith faults rows
  commits
  return count

/-- `backfill_quantized`. -/
def backfillQuantized (batchSize : Nat) : VectorSession Nat := do
  let rows ← readUnquantized faults batchSize
  if rows.isEmpty then return 0
  faults.pass .beginBatch "Backfill BEGIN failed: "
  begins (internal ("Backfill BEGIN failed: " ++ Connection.nestedBegin))
  updateAndCommit arith faults rows

end

/-! ## Nothing but the vectors -/

/-- The connection, as sessions see it. -/
def Connection.toLib (self : Connection) : Lib.Connection VectorTable := ⟨self.table, self.begun⟩

/-! ## A failure inside -/

/-- Does it fail here, and does SQLite roll back then? -/
def BackfillFaults.failure (faults : BackfillFaults) (point : BackfillPoint) : Option Bool :=
  (faults point).map SqliteFailure.rollsBack

/-- Can the vector not be quantized?  Then nothing rolls back. -/
def quantizeFailure (arith : F32Arithmetic) (blob : List UInt8) : Option Bool :=
  match quantize arith (bytesToF32Vec blob) with
  | .ok _ => none
  | .error _ => some false

/-- The first failure of the loop. -/
def rowsFailure (arith : F32Arithmetic) (faults : BackfillFaults) :
    List (Nat × List UInt8) → Option Bool
  | [] => none
  | (id, blob) :: rest =>
    (quantizeFailure arith blob).or ((faults.failure (.update id)).or (rowsFailure arith faults rest))

/-- The first failure after the `BEGIN`. -/
def insideFailure (arith : F32Arithmetic) (faults : BackfillFaults)
    (rows : List (Nat × List UInt8)) : Option Bool :=
  (faults.failure .prepareUpdate).or ((rowsFailure arith faults rows).or (faults.failure .commit))

/-- How a step ends in a transaction that would go back to `saved`: nothing fails, or SQLite rolls
    back, or the transaction stays open. -/
def EndsInside {α : Type} (saved : VectorTable)
    (ending : Except VectorStoreError α × Lib.Connection VectorTable) : Option Bool → Prop
  | none => (∃ a, ending.1 = .ok a) ∧ ending.2.begun = some saved
  | some true => (∃ e, ending.1 = .error e) ∧ ending.2 = ⟨saved, none⟩
  | some false => (∃ e, ending.1 = .error e) ∧ ending.2.begun = some saved

section

variable {arith : F32Arithmetic} {faults : BackfillFaults} {saved : VectorTable}
  {conn : Lib.Connection VectorTable}

/-- **Of two steps** the first that fails decides. -/
theorem EndsInside.bind {α β : Type} {x : VectorSession α} {f : α → VectorSession β}
    {first second : Option Bool} (hx : EndsInside saved (x conn) first)
    (hf : ∀ a mid, mid.begun = some saved → EndsInside saved (f a mid) second) :
    EndsInside saved ((x >>= f) conn) (first.or second) := by
  simp only [Bind.bind]
  cases hrun : x conn with
  | mk result mid =>
    rw [hrun] at hx
    match first, hx with
    | none, ⟨⟨a, hok⟩, hbegun⟩ =>
      cases hok
      exact hf a mid hbegun
    | some true, ⟨⟨e, herror⟩, hback⟩ =>
      cases herror
      exact ⟨⟨e, rfl⟩, hback⟩
    | some false, ⟨⟨e, herror⟩, hbegun⟩ =>
      cases herror
      exact ⟨⟨e, rfl⟩, hbegun⟩

theorem pass_ends (point : BackfillPoint) (context : String) (h : conn.begun = some saved) :
    EndsInside saved (faults.pass point context conn) (faults.failure point) := by
  simp only [BackfillFaults.pass, BackfillFaults.failure]
  cases faults point with
  | none => exact ⟨⟨_, rfl⟩, h⟩
  | some failure =>
    obtain ⟨message, rollsBack⟩ := failure
    cases rollsBack with
    | true =>
      refine ⟨⟨_, rfl⟩, ?_⟩
      show conn.rolledBack = _
      rw [Lib.Connection.rolledBack, h, Option.getD_some]
    | false => exact ⟨⟨_, rfl⟩, h⟩

/-- The loop ends at its first failure. -/
theorem updateRows_ends (rows : List (Nat × List UInt8)) (count : Nat)
    (h : conn.begun = some saved) :
    EndsInside saved (updateRows arith faults rows count conn) (rowsFailure arith faults rows) := by
  induction rows generalizing count conn with
  | nil => exact ⟨⟨count, rfl⟩, h⟩
  | cons row rest ih =>
    obtain ⟨id, blob⟩ := row
    rw [updateRows, rowsFailure]
    refine EndsInside.bind ?_ fun quantized mid hmid =>
      EndsInside.bind (pass_ends _ _ hmid) fun _ last hlast => ih (count + 1) hlast
    simp only [quantizeFailure]
    cases quantize arith (bytesToF32Vec blob) with
    | ok quantized => exact ⟨⟨_, rfl⟩, h⟩
    | error e => exact ⟨⟨_, rfl⟩, h⟩

theorem updateAll_ends (rows : List (Nat × List UInt8)) (h : conn.begun = some saved) :
    EndsInside saved (updateAll arith faults rows conn) (insideFailure arith faults rows) := by
  refine EndsInside.bind (pass_ends _ _ h) fun _ prepared hprepared =>
    EndsInside.bind (updateRows_ends rows 0 hprepared) fun count updated hupdated => ?_
  rw [← Option.or_none (o := faults.failure .commit)]
  exact EndsInside.bind (pass_ends _ _ hupdated) fun _ ready hready => ⟨⟨count, rfl⟩, hready⟩

/-! ## The result -/

/-- What fails before the rows are read; a poisoned lock is no error of SQLite. -/
def BackfillFaults.readFailure (faults : BackfillFaults) : Option Bool :=
  ((faults .lock).map fun _ => false).or
    ((faults.failure .prepareQuery).or (faults.failure .queryRows))

/-- What is left of a connection after an error. -/
def afterError (conn : Lib.Connection VectorTable) (rollsBack : Bool) : Lib.Connection VectorTable :=
  if rollsBack then conn.rolledBack else conn

theorem readUnquantized_ends (batchSize : Nat) :
    match faults.readFailure with
    | none => readUnquantized faults batchSize conn =
        (.ok (readableRows faults batchSize conn.current), conn)
    | some rollsBack =>
      ∃ e, readUnquantized faults batchSize conn = (.error e, afterError conn rollsBack) := by
  simp only [BackfillFaults.readFailure, BackfillFaults.failure, readUnquantized,
    BackfillFaults.locks, BackfillFaults.pass, check, query, bind]
  cases faults .lock <;> cases faults .prepareQuery <;> cases faults .queryRows <;>
    simp [afterError]

end

/-- An error leaves the rows as they were, and no transaction open. -/
def FailsCleanly (call : VectorSession Nat) (conn : Lib.Connection VectorTable) : Prop :=
  ∀ e after, call conn = (.error e, after) → after.current = conn.current ∧ after.begun = none

/-- A call that fails before its `BEGIN`: what SQLite may have rolled back had to be nothing. -/
theorem failsCleanly_of_failed {call : VectorSession Nat} {conn : Lib.Connection VectorTable}
    {e : VectorStoreError} {rollsBack : Bool}
    (hcall : call conn = (.error e, afterError conn rollsBack)) :
    FailsCleanly call conn ↔
      conn.begun = none ∨ conn.begun = some conn.current ∧ rollsBack = true := by
  obtain ⟨current, begun⟩ := conn
  have hiff : FailsCleanly call ⟨current, begun⟩ ↔
      (afterError ⟨current, begun⟩ rollsBack).current = current ∧
        (afterError ⟨current, begun⟩ rollsBack).begun = none := by
    constructor
    · intro hclean
      exact hclean e _ hcall
    · intro hafter e' after h
      rw [hcall] at h
      cases h
      exact hafter
  rw [hiff]
  cases rollsBack <;> cases begun <;> simp [afterError, Lib.Connection.rolledBack]

/-- Without an open transaction before, the first failure after the `BEGIN` decides. -/
theorem updateAndCommit_clean_iff {arith : F32Arithmetic} {faults : BackfillFaults}
    {conn : Lib.Connection VectorTable} (rows : List (Nat × List UInt8)) :
    (∀ e after, updateAndCommit arith faults rows conn.opened = (.error e, after) →
      after.current = conn.current ∧ after.begun = none) ↔
    insideFailure arith faults rows ≠ some false := by
  have hends := @updateAll_ends arith faults conn.current conn.opened rows rfl
  simp only [updateAndCommit, bind]
  cases hall : updateAll arith faults rows conn.opened with
  | mk result last =>
    rw [hall] at hends
    match insideFailure arith faults rows, hends with
    | none, ⟨⟨count, hok⟩, _⟩ =>
      cases hok
      refine iff_of_true (fun e after h => ?_) (Option.some_ne_none false).symm
      cases h
    | some true, ⟨⟨e, herror⟩, hback⟩ =>
      cases herror
      cases hback
      refine iff_of_true (fun e after h => ?_) (by decide)
      cases h
      exact ⟨rfl, rfl⟩
    | some false, ⟨⟨e, herror⟩, hbegun⟩ =>
      cases herror
      refine iff_of_false (fun hclean => ?_) (fun hne => hne rfl)
      have hnone := (hclean e last rfl).2
      rw [hbegun] at hnone
      cases hnone

/-- **When a backfill fails cleanly.**  An error leaves the rows as they were and no transaction open
    exactly when there was nothing to write, or when no transaction was open before and the first
    failure after the `BEGIN`, if there is one, makes SQLite roll back; or when SQLite rolls back
    before the `BEGIN`, in a transaction that had changed nothing. -/
theorem backfill_clean_iff (arith : F32Arithmetic) (faults : BackfillFaults) (batchSize : Nat)
    (conn : Lib.Connection VectorTable) :
    FailsCleanly (backfillQuantized arith faults batchSize) conn ↔
      (faults.readFailure = none ∧ readableRows faults batchSize conn.current = []) ∨
      (conn.begun = none ∧ ((faults.readFailure.or (faults.failure .beginBatch)).isSome ∨
        insideFailure arith faults (readableRows faults batchSize conn.current) ≠ some false)) ∨
      (conn.begun = some conn.current ∧
        faults.readFailure.or (faults.failure .beginBatch) = some true) := by
  have hends := @readUnquantized_ends faults conn batchSize
  cases hearly : faults.readFailure with
  | some rollsBack =>
    rw [hearly] at hends
    obtain ⟨e, hread⟩ := hends
    have hcall : backfillQuantized arith faults batchSize conn =
        (.error e, afterError conn rollsBack) := by
      simp only [backfillQuantized, bind, hread]
    refine (failsCleanly_of_failed hcall).trans ?_
    simp
  | none =>
  rw [hearly] at hends
  simp only [FailsCleanly]
  rw [backfillQuantized, bind_of_ok hends]
  cases hrows : readableRows faults batchSize conn.current with
  | nil =>
    refine iff_of_true (fun e after h => ?_) (.inl ⟨trivial, rfl⟩)
    cases h
  | cons row rest =>
    rw [List.isEmpty_cons, if_neg Bool.false_ne_true]
    simp only [reduceCtorEq, and_false, false_or, Option.none_or]
    cases hbegin : faults .beginBatch with
    | some failure =>
      have hcall : (faults.pass .beginBatch "Backfill BEGIN failed: " >>= fun _ =>
          begins (internal ("Backfill BEGIN failed: " ++ Connection.nestedBegin)) >>= fun _ =>
            updateAndCommit arith faults (row :: rest)) conn =
          (.error (internal ("Backfill BEGIN failed: " ++ failure.message)),
            afterError conn failure.rollsBack) := by
        simp only [bind, BackfillFaults.pass, hbegin, afterError]
      refine (failsCleanly_of_failed hcall).trans ?_
      simp [BackfillFaults.failure, hbegin]
    | none =>
      have hpass : faults.pass .beginBatch "Backfill BEGIN failed: " conn = (.ok (), conn) := by
        simp only [BackfillFaults.pass, hbegin]
      rw [bind_of_ok hpass]
      cases hbegun : conn.begun with
      | some saved =>
        -- a `BEGIN` in the open transaction, which stays open
        have hcall : (begins (internal ("Backfill BEGIN failed: " ++ Connection.nestedBegin)) >>=
            fun _ => updateAndCommit arith faults (row :: rest)) conn =
            (.error (internal ("Backfill BEGIN failed: " ++ Connection.nestedBegin)),
              afterError conn false) := by
          simp only [bind, begins, hbegun, afterError, Bool.false_eq_true, if_false]
        refine (failsCleanly_of_failed hcall).trans ?_
        simp [BackfillFaults.failure, hbegin, hbegun]
      | none =>
        have hbegins : begins (internal ("Backfill BEGIN failed: " ++ Connection.nestedBegin)) conn =
            (.ok (), conn.opened) := by
          simp only [begins, hbegun]
        rw [bind_of_ok hbegins, updateAndCommit_clean_iff]
        simp [BackfillFaults.failure, hbegin]

/-! ## A vector that is not a number -/

/-- A vector of which `store` only asks that it is not empty. -/
def notANumber : Connection :=
  ((Connection.fresh true).store [⟨0x7FC00000⟩] exampleMetadata).2

/-- **A transaction left open.**  Nothing fails but the vector, and the next call cannot begin. -/
theorem failed_backfill_stays_open :
    ¬ FailsCleanly (backfillQuantized exampleArithmetic (fun _ => none) 10) notANumber.toLib := by
  intro hclean
  have hopen := (hclean _ _ rfl).2
  cases hopen

end Oneshim.QuantizedCopy
