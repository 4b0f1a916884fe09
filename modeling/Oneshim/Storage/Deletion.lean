/-
  Deletion events: what they erase, whether it stays erased, and what a failed one leaves behind.

  A `DeletionEvent` of device `D` deletes D's rows from six tables, one statement per table and
  each statement on its own — there is NO transaction around them.  Nothing is written that would
  remember the event.  Two things follow:

  * a data changeset applied later brings D's rows back, for the merge knows nothing of the event;
  * a statement that is refused leaves the deletions before it done.

  The first refused statement decides the second point, and which one that is can be read off the
  database BEFORE the call: a row of another device that refers to one of D's blocks the deletion
  (`Database.blocks`), and deletions of other tables do not change that.
-/
import Mathlib.Data.List.TakeWhile
import Oneshim.Storage.Convergence
import Oneshim.Storage.SyncRows

namespace Oneshim

open Lib

/-! ## The tables in the order of the source -/

/-- The synced tables. -/
inductive SyncedTable where
  | segments
  | regimes
  | overrides
  | embeddings
  | suggestions
  | paramSnapshots
deriving DecidableEq

/-- The order in which `handle_deletion_event` goes through them. -/
def deletionOrder : List SyncedTable :=
  [.segments, .regimes, .overrides, .embeddings, .suggestions, .paramSnapshots]

namespace Database

/-- The database without the rows of `origin` in one table. -/
def deleteFrom (origin : String) (db : Database) : SyncedTable → Database
  | .segments => { db with segments := db.segments.filterRows (keeps SegmentRow.stamp origin) }
  | .regimes => { db with regimes := db.regimes.filterRows (keeps RegimeRow.stamp origin) }
  | .overrides => { db with overrides := db.overrides.filterRows (keeps OverrideRow.stamp origin) }
  | .embeddings =>
    { db with embeddings := db.embeddings.filterRows (keeps EmbeddingRow.stamp origin) }
  | .suggestions =>
    { db with suggestions := db.suggestions.filterRows (keeps SuggestionRow.stamp origin) }
  | .paramSnapshots =>
    { db with paramSnapshots := db.paramSnapshots.filterRows (keeps ParamSnapshotRow.stamp origin) }

/-- Does the table hold a row of `origin`? -/
def holds (origin : String) (db : Database) : SyncedTable → Bool
  | .segments => db.segments.rows.any (fun r => !keeps SegmentRow.stamp origin r)
  | .regimes => db.regimes.rows.any (fun r => !keeps RegimeRow.stamp origin r)
  | .overrides => db.overrides.rows.any (fun r => !keeps OverrideRow.stamp origin r)
  | .embeddings => db.embeddings.rows.any (fun r => !keeps EmbeddingRow.stamp origin r)
  | .suggestions => db.suggestions.rows.any (fun r => !keeps SuggestionRow.stamp origin r)
  | .paramSnapshots => db.paramSnapshots.rows.any (fun r => !keeps ParamSnapshotRow.stamp origin r)

/-- Does a row that stays refer to a row of `origin` in the table?  Segments refer to regimes and
    regimes to parameter snapshots. -/
def blocks (origin : String) (db : Database) : SyncedTable → Bool
  | .regimes => db.foreignKeys && db.regimes.rows.any (fun r => !keeps RegimeRow.stamp origin r &&
      db.segments.rows.any (fun s => keeps SegmentRow.stamp origin s && s.regimeId == some r.id))
  | .paramSnapshots => db.foreignKeys && db.paramSnapshots.rows.any (fun r =>
      !keeps ParamSnapshotRow.stamp origin r &&
        db.regimes.rows.any (fun s =>
          keeps RegimeRow.stamp origin s && s.paramsSnapshotId == some r.id))
  | _ => false

end Database

/-! ## What a deletion does to the tables -/

section DeleteFrom

variable {origin : String} {db : Database} {t t' : SyncedTable}

theorem filter_keeps_eq {ρ : Type} {stamp : ρ → Stamp} {rows : List ρ}
    (h : rows.any (fun r => !keeps stamp origin r) = false) :
    rows.filter (keeps stamp origin) = rows := by
  rw [List.any_eq_false] at h
  exact List.filter_eq_self.mpr (fun r hr => by simpa using h r hr)

/-- Nothing to delete: the database stays as it is. -/
theorem deleteFrom_of_not_holds (h : db.holds origin t = false) : db.deleteFrom origin t = db := by
  cases t with
  | segments =>
    show { db with segments := _ } = db
    rw [show db.segments.filterRows _ = db.segments from Table.ext (filter_keeps_eq h)]
  | regimes =>
    show { db with regimes := _ } = db
    rw [show db.regimes.filterRows _ = db.regimes from Table.ext (filter_keeps_eq h)]
  | overrides =>
    show { db with overrides := _ } = db
    rw [show db.overrides.filterRows _ = db.overrides from Table.ext (filter_keeps_eq h)]
  | embeddings =>
    show { db with embeddings := _ } = db
    rw [show db.embeddings.filterRows _ = db.embeddings from
      SerialTable.ext (filter_keeps_eq h) rfl]
  | suggestions =>
    show { db with suggestions := _ } = db
    rw [show db.suggestions.filterRows _ = db.suggestions from Table.ext (filter_keeps_eq h)]
  | paramSnapshots =>
    show { db with paramSnapshots := _ } = db
    rw [show db.paramSnapshots.filterRows _ = db.paramSnapshots from Table.ext (filter_keeps_eq h)]

theorem any_filter_keeps {ρ : Type} {stamp : ρ → Stamp} {rows : List ρ} :
    (rows.filter (keeps stamp origin)).any (fun r => !keeps stamp origin r) = false := by
  rw [List.any_eq_false]
  intro r hr
  simp [(List.mem_filter.mp hr).2]

theorem holds_deleteFrom_self : (db.deleteFrom origin t).holds origin t = false := by
  cases t <;> exact any_filter_keeps

theorem holds_deleteFrom_of_ne (h : t' ≠ t) :
    (db.deleteFrom origin t).holds origin t' = db.holds origin t' := by
  cases t <;> cases t' <;> first | rfl | exact absurd rfl h

/-- A deletion does not change what blocks the deletion of another table: the rows that refer and
    STAY are none of the deleted ones. -/
theorem blocks_deleteFrom_of_ne (h : t' ≠ t) :
    (db.deleteFrom origin t).blocks origin t' = db.blocks origin t' := by
  have hany : ∀ {ρ : Type} (stamp : ρ → Stamp) (rows : List ρ) (p : ρ → Bool),
      (rows.filter (keeps stamp origin)).any (fun s => keeps stamp origin s && p s)
        = rows.any (fun s => keeps stamp origin s && p s) := by
    intro ρ stamp rows p
    rw [List.any_filter]
    congr 1
    funext s
    cases keeps stamp origin s <;> rfl
  cases t' with
  | regimes =>
    cases t with
    | regimes => exact absurd rfl h
    | segments =>
      show (_ && List.any _ _) = (_ && List.any _ _)
      simp only [Database.deleteFrom, Table.filterRows, hany]
    | _ => rfl
  | paramSnapshots =>
    cases t with
    | paramSnapshots => exact absurd rfl h
    | regimes =>
      show (_ && List.any _ _) = (_ && List.any _ _)
      simp only [Database.deleteFrom, Table.filterRows, hany]
    | _ => rfl
  | _ => rfl

theorem holds_foldl_deleteFrom {ts : List SyncedTable} (h : db.holds origin t = false ∨ t ∈ ts) :
    (ts.foldl (Database.deleteFrom origin) db).holds origin t = false := by
  induction ts generalizing db with
  | nil => exact h.elim id (fun hmem => absurd hmem List.not_mem_nil)
  | cons a ts ih =>
    apply ih
    by_cases hta : t = a
    · rw [hta]
      exact .inl holds_deleteFrom_self
    · rw [holds_deleteFrom_of_ne hta]
      exact h.imp_right (fun hmem => (List.mem_cons.mp hmem).resolve_left hta)

/-- Deletions leave the database as it was exactly when there was nothing to delete. -/
theorem foldl_deleteFrom_eq_iff {ts : List SyncedTable} :
    ts.foldl (Database.deleteFrom origin) db = db ↔ ∀ t ∈ ts, db.holds origin t = false := by
  constructor
  · intro h t ht
    rw [← h]
    exact holds_foldl_deleteFrom (.inr ht)
  · intro h
    induction ts with
    | nil => rfl
    | cons a ts ih =>
      rw [List.foldl_cons, deleteFrom_of_not_holds (h a List.mem_cons_self)]
      exact ih (fun t ht => h t (List.mem_cons_of_mem _ ht))

end DeleteFrom

/-! ## Failures from outside -/

/-- The failures of one call of `apply_changes` that the data do not explain: I/O errors, locks, a
    full disk.  A merge of a row reports its failed statement under the row's own context. -/
structure Faults where
  beginTransaction : Option SqlError := none
  row : SyncedTable → Nat → Option StorageError := fun _ _ => none
  syncPeers : Option SqlError := none
  commit : Option SqlError := none
  delete : SyncedTable → Option SqlError := fun _ => none

/-- A statement that fails from outside, or runs. -/
def failing {ε α : Type} (fault : Option ε) (statement : Except ε α) : Except ε α :=
  match fault with
  | some e => .error e
  | none => statement

@[simp] theorem failing_none {ε α : Type} (statement : Except ε α) :
    failing none statement = statement := rfl

/-- Merge the rows of a table, each of which may fail from outside. -/
def Faults.mergeRows (faults : Faults) (table : SyncedTable)
    (merge : Tx → Json → Except StorageError Tx) (rows : List Json) (tx : Tx) :
    Except StorageError Tx :=
  rows.zipIdx.foldlM (fun tx (row, i) => failing (faults.row table i) (merge tx row)) tx

/-- `mergeAll`, from the begin of the transaction to its commit. -/
def mergeAllUnder (faults : Faults) (db : Database) (cs : ChangeSet) : Except StorageError Tx := do
  sqlErr "begin transaction" (failing faults.beginTransaction (.ok ()))
  let tx ← faults.mergeRows .segments mergeSegment cs.segments ⟨db, {}⟩
  let tx ← faults.mergeRows .overrides mergeOverride cs.overrides tx
  let tx ← faults.mergeRows .paramSnapshots mergeParamSnapshot cs.paramSnapshots tx
  let tx ← faults.mergeRows .regimes mergeRegime cs.regimes tx
  let tx ← faults.mergeRows .embeddings mergeEmbedding cs.embeddings tx
  let tx ← faults.mergeRows .suggestions mergeSuggestion cs.suggestions tx
  sqlErr "update sync_peers" (failing faults.syncPeers (.ok ()))
  let tx ← updateSyncPeers tx cs
  sqlErr "commit transaction" (failing faults.commit (.ok ()))
  return tx

/-- The deletions of `handle_deletion_event`, each of which may fail from outside. -/
def deletionStatementsUnder (faults : Faults) (origin : String) :
    List (String × (Database → Except SqlError (Nat × Database))) :=
  List.zipWith (fun table statement => (statement.1, fun db =>
    failing (faults.delete table) (statement.2 db))) deletionOrder (deletionStatements origin)

/-- `apply_changes` under failures from outside: the result, and the database afterwards.  A data
    changeset that fails is rolled back. -/
def applyChangesUnder (faults : Faults) (localDeviceId : String) (cs : ChangeSet) (db : Database) :
    Except CoreError SyncResult × Database :=
  match cs.kind with
  | .deletionEvent =>
    match runDeletions (deletionStatementsUnder faults cs.originDeviceId) 0 db with
    | (.ok deleted, db') => (.ok { tombstoned := deleted, newWatermark := cs.watermark }, db')
    | (.error e, db') => (.error e.toCore, db')
  | .data =>
    if cs.originDeviceId = localDeviceId then (.ok { newWatermark := cs.watermark }, db)
    else
      match mergeAllUnder faults db cs with
      | .ok tx => (.ok { tx.result with newWatermark := cs.watermark }, tx.db)
      | .error e => (.error e.toCore, db)

theorem mergeRows_eq {table : SyncedTable} {merge : Tx → Json → Except StorageError Tx}
    (rows : List Json) (tx : Tx) :
    ({} : Faults).mergeRows table merge rows tx = rows.foldlM merge tx := by
  show rows.zipIdx.foldlM (fun tx p => merge tx p.1) tx = _
  rw [← List.foldlM_map (f := Prod.fst) (g := merge), List.zipIdx_map_fst]

/-- Without failures from outside it is `apply_changes`. -/
theorem applyChangesUnder_eq (me : String) (cs : ChangeSet) (db : Database) :
    applyChangesUnder {} me cs db = applyChanges me cs db := by
  have hmerge : mergeAllUnder {} db cs = mergeAll db cs := by
    simp only [mergeAllUnder, mergeRows_eq, failing_none, sqlErr, ok_bind]
    simp only [mergeAll, bind_pure]
  rw [applyChangesUnder, applyChanges, hmerge]
  rfl

/-! ## Which deletions are done -/

/-- The table whose rows refer to this one. -/
def SyncedTable.referrer : SyncedTable → Option SyncedTable
  | regimes => some .segments
  | paramSnapshots => some .regimes
  | _ => none

/-- Is the deletion refused, from outside or by a reference? -/
def Faults.refuses (faults : Faults) (origin : String) (db : Database) (t : SyncedTable) : Bool :=
  (faults.delete t).isSome || db.blocks origin t

/-- What a deletion statement of one table does, once the rows of `origin` are gone from the table
    that refers to it: it is refused, or the rows are deleted. -/
def DeletesFrom (faults : Faults) (origin : String) (t : SyncedTable)
    (statement : Database → Except SqlError (Nat × Database)) : Prop :=
  ∀ db, (∀ t', t.referrer = some t' → db.holds origin t' = false) →
    if faults.refuses origin db t then ∃ e, statement db = .error e
    else ∃ n, statement db = .ok (n, db.deleteFrom origin t)

section Deletions

variable {faults : Faults} {origin : String} {db : Database}

theorem deletesFrom_plain {t : SyncedTable}
    {statement : Database → Except SqlError (Nat × Database)}
    (hblocks : ∀ db : Database, db.blocks origin t = false)
    (hrun : ∀ db, ∃ n, statement db = .ok (n, db.deleteFrom origin t)) :
    DeletesFrom faults origin t (fun db => failing (faults.delete t) (statement db)) := by
  intro db _
  rw [Faults.refuses, hblocks db, Bool.or_false]
  cases hf : faults.delete t with
  | some e => exact ⟨e, rfl⟩
  | none => exact hrun db

theorem any_refers_kept {ρ : Type} {stamp : ρ → Stamp} {rows : List ρ} (p : ρ → Bool)
    (h : rows.any (fun r => !keeps stamp origin r) = false) :
    rows.any p = rows.any (fun s => keeps stamp origin s && p s) := by
  conv_lhs => rw [← filter_keeps_eq h]
  rw [List.any_filter]

/-- A table that is referred to can be emptied once the rows that refer to it are gone. -/
theorem deletesFrom_referred {t t' : SyncedTable}
    {statement : Database → Except SqlError (Nat × Database)} {referred : Database → Bool}
    (href : t.referrer = some t')
    (hblocks : ∀ db : Database, db.holds origin t' = false →
      db.blocks origin t = (db.foreignKeys && referred db))
    (hrun : ∀ db, ∃ n, statement db =
      (do checkDelete db (referred db); return (n, db.deleteFrom origin t))) :
    DeletesFrom faults origin t (fun db => failing (faults.delete t) (statement db)) := by
  intro db hclear
  obtain ⟨n, hn⟩ := hrun db
  rw [Faults.refuses, hblocks db (hclear t' href)]
  cases hf : faults.delete t with
  | some e => exact ⟨e, rfl⟩
  | none =>
    simp only [failing_none, hn, checkDelete, Option.isSome_none, Bool.false_or]
    cases hb : (db.foreignKeys && referred db) with
    | true => exact ⟨.foreignKey, rfl⟩
    | false => exact ⟨n, rfl⟩

/-- The six statements, each against its table. -/
theorem deletionStatementsUnder_spec (faults : Faults) (origin : String) : List.Forall₂
    (fun t (s : String × (Database → Except SqlError (Nat × Database))) =>
      DeletesFrom faults origin t s.2) deletionOrder (deletionStatementsUnder faults origin) := by
  refine .cons ?_ (.cons ?_ (.cons ?_ (.cons ?_ (.cons ?_ (.cons ?_ .nil)))))
  · exact deletesFrom_plain (fun _ => rfl) (fun db => ⟨_, rfl⟩)
  · refine deletesFrom_referred (t := .regimes) rfl (fun db hclear => ?_) (fun db => ⟨_, rfl⟩)
    refine congrArg (fun p => db.foreignKeys && db.regimes.rows.any p) (funext (fun r => ?_))
    rw [any_refers_kept (fun s : SegmentRow => s.regimeId == some r.id) hclear]
  · exact deletesFrom_plain (fun _ => rfl) (fun db => ⟨_, rfl⟩)
  · exact deletesFrom_plain (fun _ => rfl) (fun db => ⟨_, rfl⟩)
  · exact deletesFrom_plain (fun _ => rfl) (fun db => ⟨_, rfl⟩)
  · refine deletesFrom_referred (t := .paramSnapshots) rfl (fun db hclear => ?_)
      (fun db => ⟨_, rfl⟩)
    refine congrArg (fun p => db.foreignKeys && db.paramSnapshots.rows.any p)
      (funext (fun r => ?_))
    rw [any_refers_kept (fun s : RegimeRow => s.paramsSnapshotId == some r.id) hclear]

/-- The tables still to do are ready: what refers to each of them is cleared before its turn. -/
def Ready (origin : String) : List SyncedTable → Database → Prop
  | [], _ => True
  | t :: rest, db => (∀ t', t.referrer = some t' → db.holds origin t' = false) ∧
      Ready origin rest (db.deleteFrom origin t)

/-- In the order of the deletions every table is ready when its turn comes. -/
theorem ready_deletionOrder : Ready origin deletionOrder db := by
  refine ⟨?_, ?_, ?_, ?_, ?_, ?_, trivial⟩
  · exact fun _ h => (nomatch h)
  · intro t' h
    cases h
    exact holds_deleteFrom_self
  · exact fun _ h => (nomatch h)
  · exact fun _ h => (nomatch h)
  · exact fun _ h => (nomatch h)
  · intro t' h
    cases h
    -- the regimes were deleted four statements ago
    have hdone : SyncedTable.regimes ∈
        [SyncedTable.segments, .regimes, .overrides, .embeddings, .suggestions] := by decide
    exact holds_foldl_deleteFrom (.inr hdone)

theorem refuses_deleteFrom_of_ne {t t' : SyncedTable} (h : t' ≠ t) :
    faults.refuses origin (db.deleteFrom origin t) t' = faults.refuses origin db t' := by
  rw [Faults.refuses, Faults.refuses, blocks_deleteFrom_of_ne h]

/-- The tables whose deletion is done: those before the first that is refused. -/
def Faults.deleted (faults : Faults) (origin : String) (db : Database) (ts : List SyncedTable) :
    List SyncedTable :=
  ts.takeWhile (fun t => !faults.refuses origin db t)

theorem deleted_deleteFrom {t : SyncedTable} {ts : List SyncedTable} (h : t ∉ ts) :
    faults.deleted origin (db.deleteFrom origin t) ts = faults.deleted origin db ts := by
  induction ts with
  | nil => rfl
  | cons a ts ih =>
    have hne : a ≠ t := fun e => h (e ▸ List.mem_cons_self)
    have hrest := ih (fun hmem => h (List.mem_cons_of_mem _ hmem))
    simp only [Faults.deleted, List.takeWhile_cons, refuses_deleteFrom_of_ne hne] at hrest ⊢
    rw [hrest]

/-- **What a run of deletions leaves**: it fails exactly when one is refused, and what it has done
    by then stays done. -/
theorem runDeletions_spec {ts : List SyncedTable}
    {statements : List (String × (Database → Except SqlError (Nat × Database)))}
    (hspec : List.Forall₂ (fun t s => DeletesFrom faults origin t s.2) ts statements)
    (hnodup : ts.Nodup) (hready : Ready origin ts db) (n : Nat) :
    ((∃ e, (runDeletions statements n db).1 = .error e) ↔
        ∃ t ∈ ts, faults.refuses origin db t = true) ∧
      (runDeletions statements n db).2
        = (faults.deleted origin db ts).foldl (Database.deleteFrom origin) db := by
  induction hspec generalizing db n with
  | nil => exact ⟨⟨fun ⟨_, h⟩ => (nomatch h), fun ⟨_, h, _⟩ => (nomatch h)⟩, rfl⟩
  | @cons t s ts statements hs _ ih =>
    obtain ⟨table, statement⟩ := s
    have hstep : if faults.refuses origin db t then ∃ e, statement db = .error e
        else ∃ n, statement db = .ok (n, db.deleteFrom origin t) := hs db hready.1
    have hfresh : t ∉ ts := (List.nodup_cons.mp hnodup).1
    have hne : ∀ t' ∈ ts, t' ≠ t := fun t' ht' e => hfresh (e ▸ ht')
    cases href : faults.refuses origin db t with
    | true =>
      rw [if_pos href] at hstep
      obtain ⟨e, he⟩ := hstep
      simp only [runDeletions, he]
      refine ⟨⟨fun _ => ⟨t, List.mem_cons_self, href⟩, fun _ => ⟨_, rfl⟩⟩, ?_⟩
      rw [Faults.deleted, List.takeWhile_cons, href]
      rfl
    | false =>
      rw [if_neg (by rw [href]; decide)] at hstep
      obtain ⟨k, hk⟩ := hstep
      obtain ⟨hfails, hdb⟩ := ih (List.nodup_cons.mp hnodup).2 hready.2 (n + k)
      simp only [runDeletions, hk]
      constructor
      · rw [hfails]
        constructor
        · rintro ⟨t', ht', hr⟩
          rw [refuses_deleteFrom_of_ne (hne t' ht')] at hr
          exact ⟨t', List.mem_cons_of_mem _ ht', hr⟩
        · rintro ⟨t', ht', hr⟩
          rcases List.mem_cons.mp ht' with rfl | ht'
          · rw [href] at hr
            nomatch hr
          · exact ⟨t', ht', (refuses_deleteFrom_of_ne (hne t' ht')).trans hr⟩
      · rw [hdb, deleted_deleteFrom hfresh]
        simp only [Faults.deleted, List.takeWhile_cons, href]
        rfl

/-- A second run of deletions gets no further than the first. -/
theorem deleted_again {ts : List SyncedTable} (hnodup : ts.Nodup) : ∀ t ∈ faults.deleted origin
    ((faults.deleted origin db ts).foldl (Database.deleteFrom origin) db) ts,
    t ∈ faults.deleted origin db ts := by
  induction ts generalizing db with
  | nil => exact fun t ht => ht
  | cons a ts ih =>
    obtain ⟨hfresh, hrest⟩ := List.nodup_cons.mp hnodup
    cases href : faults.refuses origin db a with
    | true =>
      have hnone : faults.deleted origin db (a :: ts) = [] := by
        rw [Faults.deleted, List.takeWhile_cons, href]
        rfl
      rw [hnone, List.foldl_nil, hnone]
      exact fun t ht => ht
    | false =>
      have hcons : faults.deleted origin db (a :: ts)
          = a :: faults.deleted origin (db.deleteFrom origin a) ts := by
        rw [deleted_deleteFrom hfresh, Faults.deleted, List.takeWhile_cons, href]
        rfl
      rw [hcons, List.foldl_cons]
      intro t ht
      rw [Faults.deleted, List.takeWhile_cons] at ht
      split at ht
      · rcases List.mem_cons.mp ht with rfl | ht
        · exact List.mem_cons_self
        · exact List.mem_cons_of_mem _ (ih hrest t ht)
      · nomatch ht

end Deletions

/-- **What a deletion event does**: it fails exactly when a deletion is refused, and the tables
    before the first refused one have lost the device's rows. -/
theorem applyChangesUnder_deletion (faults : Faults) (me : String) {cs : ChangeSet} (db : Database)
    (hkind : cs.kind = .deletionEvent) :
    ((∃ e, (applyChangesUnder faults me cs db).1 = .error e) ↔
        ∃ t ∈ deletionOrder, faults.refuses cs.originDeviceId db t = true) ∧
      (applyChangesUnder faults me cs db).2
        = (faults.deleted cs.originDeviceId db deletionOrder).foldl
            (Database.deleteFrom cs.originDeviceId) db := by
  have hready : Ready cs.originDeviceId deletionOrder db := ready_deletionOrder
  obtain ⟨hfails, hdb⟩ := runDeletions_spec (deletionStatementsUnder_spec faults _)
    (by decide) hready 0
  simp only [applyChangesUnder, hkind]
  cases hrun : runDeletions (deletionStatementsUnder faults cs.originDeviceId) 0 db with
  | mk result db' =>
    rw [hrun] at hfails hdb
    cases result with
    | ok n => exact ⟨⟨fun ⟨_, h⟩ => (nomatch h), fun h => (nomatch (hfails.mpr h).choose_spec)⟩, hdb⟩
    | error e => exact ⟨⟨fun _ => hfails.mp ⟨e, rfl⟩, fun _ => ⟨_, rfl⟩⟩, hdb⟩

/-- A repeated deletion event changes nothing, also where the first one stopped half way and the
    peer table has moved since. -/
theorem applyChanges_deletion_again (me : String) {cs cs' : ChangeSet} {db d : Database}
    (hkind : cs.kind = .deletionEvent) (hkind' : cs'.kind = .deletionEvent)
    (horigin : cs'.originDeviceId = cs.originDeviceId)
    (hd : d = { (applyChanges me cs db).2 with syncPeers := d.syncPeers }) :
    (applyChanges me cs' d).2 = d := by
  rw [← applyChangesUnder_eq me cs, (applyChangesUnder_deletion {} me db hkind).2] at hd
  rw [← applyChangesUnder_eq me cs', (applyChangesUnder_deletion {} me d hkind').2, horigin,
    foldl_deleteFrom_eq_iff]
  intro t ht
  rw [hd] at ht ⊢
  have hdone := deleted_again (by decide) t ht
  have hholds := @holds_foldl_deleteFrom cs.originDeviceId db t _ (.inr hdone)
  cases t <;> exact hholds

/-! ## Atomicity -/

/-- A deletion event that stops half way: a statement is refused, and a table before the first
    refused one holds rows of the device. -/
def Faults.tears (faults : Faults) (origin : String) (db : Database) : Prop :=
  (∃ t ∈ deletionOrder, faults.refuses origin db t = true) ∧
    ∃ t ∈ faults.deleted origin db deletionOrder, db.holds origin t = true

/-- A data changeset that fails is rolled back, whatever failed. -/
theorem applyChangesUnder_data_error {faults : Faults} {me : String} {cs : ChangeSet}
    {db : Database} {e : CoreError} (hkind : cs.kind = .data)
    (he : (applyChangesUnder faults me cs db).1 = .error e) :
    (applyChangesUnder faults me cs db).2 = db := by
  simp only [applyChangesUnder, hkind] at he ⊢
  split at he
  · nomatch he
  · next hother =>
    rw [if_neg hother]
    split at he
    · nomatch he
    · rfl

/-- **When a failed `apply_changes` leaves the database as it was**: always for a data changeset;
    for a deletion event exactly when no rows were deleted before the first refused statement. -/
theorem applyChanges_atomic_iff (faults : Faults) (me : String) (cs : ChangeSet) (db : Database) :
    (∀ e, (applyChangesUnder faults me cs db).1 = .error e →
      (applyChangesUnder faults me cs db).2 = db) ↔
    (cs.kind = .data ∨ ¬ faults.tears cs.originDeviceId db) := by
  cases hkind : cs.kind with
  | data => exact iff_of_true (fun e he => applyChangesUnder_data_error hkind he) (.inl rfl)
  | deletionEvent =>
    obtain ⟨hfails, hdb⟩ := applyChangesUnder_deletion faults me db hkind
    rw [hdb, foldl_deleteFrom_eq_iff]
    constructor
    · rintro h
      refine .inr (fun ⟨hrefused, t, ht, hholds⟩ => ?_)
      obtain ⟨e, he⟩ := hfails.mpr hrefused
      have hnone := h e he t ht
      rw [hholds] at hnone
      nomatch hnone
    · rintro h e he t ht
      have htorn := h.resolve_left (fun hk => (nomatch hk))
      rw [← Bool.not_eq_true]
      exact fun hholds => htorn ⟨hfails.mp ⟨e, he⟩, t, ht, hholds⟩

/-- Device `c` has a regime under the snapshot of `a`. -/
def referringChangeSet : ChangeSet :=
  { originDeviceId := "c",
    regimes := [regimeObject { sampleRegime with id := "q", stamp := ⟨1, 0, "c"⟩ } ⟨0⟩ ⟨0⟩] }

/-- Device `a` erases its data. -/
def erasureOfA : ChangeSet :=
  { kind := .deletionEvent, originDeviceId := "a", watermark := ⟨5, 0, "a"⟩ }

/-- A peer that has merged the regime and the snapshot of `a`, and the regime of `c`. -/
def databaseB : Database :=
  deliverAll "b" (Database.empty true) [snapshotChangeSet, regimeChangeSet, referringChangeSet]

theorem deletion_not_atomic :
    ¬ ∀ (me : String) (cs : ChangeSet) (db : Database) (e : CoreError),
      (applyChanges me cs db).1 = .error e → (applyChanges me cs db).2 = db := by
  intro h
  have hfails : (applyChanges "b" erasureOfA databaseB).1 = .error (.storage
      "GDPR deletion on trigger_params_snapshots: FOREIGN KEY constraint failed") := by rfl
  -- the regime of `a` is gone all the same
  have hrows := congrArg (fun db => db.regimes.rows.length) (h _ _ _ _ hfails)
  have hbefore : databaseB.regimes.rows.length = 2 := by rfl
  have hafter : (applyChanges "b" erasureOfA databaseB).2.regimes.rows.length = 1 := by rfl
  rw [hbefore, hafter] at hrows
  nomatch hrows

/-! ## Erasure -/

/-- The row is live: not a tombstone.  Append-only tables have none. -/
def SyncRow.live : SyncRow → Bool
  | segment _ => true
  | regime r => r.isDeleted != 1
  | override _ => true
  | embedding r => r.isDeleted != 1
  | suggestion r => r.isDeleted != 1
  | paramSnapshot _ => true

/-- The columns of the stamp, as a timestamp, are after `w`. -/
def Stamp.After (w : Hlc) (s : Stamp) : Prop :=
  (w.wallMs : Int) < s.hlcWallMs.toInt ∨ ((w.wallMs : Int) = s.hlcWallMs.toInt ∧
    ((w.counter : Int) < s.hlcCounter.toInt ∨ ((w.counter : Int) = s.hlcCounter.toInt ∧
      w.deviceId < s.originDeviceId)))

/-- The tables hold no live row of `device` with a timestamp not after `w`. -/
def Erased (device : String) (w : Hlc) (db : Database) : Prop :=
  ∀ r ∈ db.syncRows, r.live = true → r.stamp.originDeviceId = device → r.stamp.After w

/-- The rows of a changeset that the merger may store as live rows: no segment is ever stored, and
    a tombstone stays one. -/
def ChangeSet.liveRows (cs : ChangeSet) : List Json :=
  cs.overrides ++ cs.paramSnapshots ++
    (cs.regimes ++ cs.embeddings ++ cs.suggestions).filter
      (fun row => jsonI64OrDefault row "is_deleted" 0 != 1)

/-- The changeset is merged by `me` and carries a live row of `device` not after `w`. -/
def Revives (me device : String) (w : Hlc) (cs : ChangeSet) : Prop :=
  cs.kind = .data ∧ cs.originDeviceId ≠ me ∧
    ∃ row ∈ cs.liveRows, ∃ hlc, extractHlc row = .ok hlc ∧ hlc.deviceId = device ∧ hlc ≤ w

theorem Stamp.after_of_readHlc {w h : Hlc} {s : Stamp} (hread : s.readHlc = some h) (hlt : w < h) :
    s.After w := by
  obtain ⟨hw, hc, -⟩ := Stamp.fits_of_readHlc hread
  rw [Stamp.eq_of_readHlc hread, Hlc.lt_iff] at hlt
  dsimp only at hlt
  rcases hlt with hlt | ⟨heq, hlt | ⟨hceq, hdev⟩⟩
  · exact .inl (by omega)
  · exact .inr ⟨by omega, .inl (by omega)⟩
  · exact .inr ⟨by omega, .inr ⟨by omega, hdev⟩⟩

section Deleted

variable {row : Json}

theorem regimeVersion_isDeleted {r : RegimeRow} (h : regimeVersion row = .ok r) :
    r.isDeleted = jsonI64OrDefault row "is_deleted" 0 := by
  simp only [regimeVersion, regimeParams, bind_eq_ok_iff] at h
  obtain ⟨_, -, _, -, _, ⟨_, -, _, -, _, -, _, -, _, -, _, -, _, -, _, -, _, -, hp⟩, _, -, hret⟩ := h
  cases hp
  cases hret
  rfl

theorem suggestionVersion_isDeleted {r : SuggestionRow} (h : suggestionVersion row = .ok r) :
    r.isDeleted = jsonI64OrDefault row "is_deleted" 0 := by
  simp only [suggestionVersion, suggestionParams, bind_eq_ok_iff] at h
  obtain ⟨_, -, _, -, _, ⟨_, -, _, -, _, -, _, -, _, -, _, -, _, -, _, -, _, -, hp⟩, _, -, hret⟩ := h
  cases hp
  cases hret
  rfl

theorem embeddingVersion_isDeleted {r : EmbeddingRow} (h : embeddingVersion row = .ok r) :
    r.isDeleted = jsonI64OrDefault row "is_deleted" 0 := by
  simp only [embeddingVersion, embeddingParams, bind_eq_ok_iff] at h
  obtain ⟨_, -, _, -, _, -, params, ⟨_, -, _, -, _, -, _, -, hp⟩, hb⟩ := h
  obtain ⟨_, _, -, -, rfl⟩ := bindEmbedding_ok (sqlErr_eq_ok_iff.mp hb)
  cases hp
  rfl

end Deleted

/-- A live row that the merger stores is stored for a live row of the changeset. -/
theorem mem_liveRows {cs : ChangeSet} {row : Json} {r : SyncRow} (hrow : row ∈ r.listed cs)
    (hstored : r.StoredFor row) (hlive : r.live = true) : row ∈ cs.liveRows := by
  have hmem : row ∈ cs.liveRows ↔ (row ∈ cs.overrides ∨ row ∈ cs.paramSnapshots) ∨
      ((row ∈ cs.regimes ∨ row ∈ cs.embeddings) ∨ row ∈ cs.suggestions) ∧
        (jsonI64OrDefault row "is_deleted" 0 != 1) = true := by
    simp only [ChangeSet.liveRows, List.mem_append, List.mem_filter]
  rw [hmem]
  cases r with
  | segment x => exact hstored.elim
  | override x => exact .inl (.inl hrow)
  | paramSnapshot x => exact .inl (.inr hrow)
  | regime x =>
    have hlive : (x.isDeleted != 1) = true := hlive
    rw [regimeVersion_isDeleted hstored] at hlive
    exact .inr ⟨.inl (.inl hrow), hlive⟩
  | embedding x =>
    have hlive : (x.isDeleted != 1) = true := hlive
    obtain ⟨y, hy, hxy⟩ := hstored
    rw [hxy, embeddingVersion_isDeleted hy] at hlive
    exact .inr ⟨.inl (.inr hrow), hlive⟩
  | suggestion x =>
    have hlive : (x.isDeleted != 1) = true := hlive
    obtain ⟨y, hy, hxy⟩ := hstored
    rw [hxy, suggestionVersion_isDeleted hy] at hlive
    exact .inr ⟨.inr hrow, hlive⟩

/-- One delivery keeps what is erased erased, unless it revives. -/
theorem erased_step {me device : String} {w : Hlc} {cs : ChangeSet} {db : Database}
    (herased : Erased device w db) (hquiet : ¬ Revives me device w cs) :
    Erased device w (applyChanges me cs db).2 := by
  intro r hr hlive hdev
  rcases applyChanges_stores rfl r hr with hold | ⟨hkind, hother, row, hrow, hstored⟩
  · exact herased r hold hlive hdev
  · obtain ⟨hlc, hx, hread⟩ := hstored.stamped
    have howner : hlc.deviceId = device := by rw [Stamp.eq_of_readHlc hread, ← hdev]
    have hafter : w < hlc := by
      rw [← not_le]
      exact fun hle => hquiet ⟨hkind, hother, row, mem_liveRows hrow hstored hlive, hlc, hx,
        howner, hle⟩
    exact Stamp.after_of_readHlc hread hafter

theorem erased_deliverAll {me device : String} {w : Hlc} {css : List ChangeSet} {db : Database}
    (herased : Erased device w db) (hquiet : ∀ cs ∈ css, ¬ Revives me device w cs) :
    Erased device w (deliverAll me db css) := by
  induction css generalizing db with
  | nil => exact herased
  | cons cs css ih =>
    exact ih (erased_step herased (hquiet cs List.mem_cons_self))
      (fun cs' h => hquiet cs' (List.mem_cons_of_mem _ h))

/-- The table of a row. -/
def SyncRow.table : SyncRow → SyncedTable
  | segment _ => .segments
  | regime _ => .regimes
  | override _ => .overrides
  | embedding _ => .embeddings
  | suggestion _ => .suggestions
  | paramSnapshot _ => .paramSnapshots

/-- Where a table holds nothing of a device, its rows are of others. -/
theorem originDeviceId_ne_of_not_holds {origin : String} {db : Database} {r : SyncRow}
    (hr : r ∈ db.syncRows) (h : db.holds origin r.table = false) :
    r.stamp.originDeviceId ≠ origin := by
  have hkept : ∀ {ρ : Type} (stamp : ρ → Stamp) {rows : List ρ} {x : ρ}, x ∈ rows →
      rows.any (fun r => !keeps stamp origin r) = false → (stamp x).originDeviceId ≠ origin := by
    intro ρ stamp rows x hx hany
    simpa [keeps] using List.any_eq_false.mp hany x hx
  rw [mem_syncRows] at hr
  cases r with
  | segment x => exact hkept SegmentRow.stamp hr h
  | regime x => exact hkept RegimeRow.stamp hr h
  | override x => exact hkept OverrideRow.stamp hr h
  | embedding x => exact hkept EmbeddingRow.stamp hr h
  | suggestion x => exact hkept SuggestionRow.stamp hr h
  | paramSnapshot x => exact hkept ParamSnapshotRow.stamp hr h

/-- A deletion event that was applied has erased the device. -/
theorem erased_of_applied {me : String} {event : ChangeSet} {db : Database} {result : SyncResult}
    (hkind : event.kind = .deletionEvent) (happlied : (applyChanges me event db).1 = .ok result)
    (w : Hlc) : Erased event.originDeviceId w (applyChanges me event db).2 := by
  rw [← applyChangesUnder_eq] at happlied ⊢
  obtain ⟨hfails, hdb⟩ := applyChangesUnder_deletion {} me db hkind
  -- no statement was refused, so all six deletions are done
  have hnone : ∀ t ∈ deletionOrder, ({} : Faults).refuses event.originDeviceId db t = false := by
    intro t ht
    rw [← Bool.not_eq_true]
    intro href
    obtain ⟨e, he⟩ := hfails.mpr ⟨t, ht, href⟩
    rw [happlied] at he
    nomatch he
  have hall : ({} : Faults).deleted event.originDeviceId db deletionOrder = deletionOrder :=
    List.takeWhile_eq_self_iff.mpr (fun t ht => by rw [hnone t ht]; rfl)
  rw [hall] at hdb
  have hclear : ∀ t ∈ deletionOrder,
      (applyChangesUnder {} me event db).2.holds event.originDeviceId t = false := by
    intro t ht
    rw [hdb]
    exact holds_foldl_deleteFrom (.inr ht)
  intro r hr _ hdev
  have hmem : ∀ t : SyncedTable, t ∈ deletionOrder := by intro t; cases t <;> decide
  exact absurd hdev (originDeviceId_ne_of_not_holds hr (hclear r.table (hmem _)))

/-- **Erasure lasts as long as nothing revives**: whatever was delivered before the deletion event,
    and whatever is delivered after it, the device's rows up to the event's watermark stay away
    while no changeset carries one of them. -/
theorem erasure_permanent (me : String) (db : Database) (before after : List ChangeSet)
    (event : ChangeSet) (result : SyncResult) (hkind : event.kind = .deletionEvent)
    (happlied : (applyChanges me event (deliverAll me db before)).1 = .ok result)
    (hquiet : ∀ cs ∈ after, ¬ Revives me event.originDeviceId event.watermark cs) :
    Erased event.originDeviceId event.watermark (deliverAll me db (before ++ event :: after)) := by
  have hrun : deliverAll me db (before ++ event :: after)
      = deliverAll me (applyChanges me event (deliverAll me db before)).2 after := by
    simp only [deliverAll, List.foldl_append, List.foldl_cons]
  rw [hrun]
  exact erased_deliverAll (erased_of_applied hkind happlied _) hquiet

/-- The erasure comes twice, with a changeset in between. -/
theorem erasure_permanent_repeated :
    Erased "a" ⟨5, 0, "a"⟩ (deliverAll "b" (Database.empty true)
      ([snapshotChangeSet] ++ erasureOfA :: [referringChangeSet, erasureOfA])) := by
  refine erasure_permanent "b" (Database.empty true) [snapshotChangeSet]
    [referringChangeSet, erasureOfA] erasureOfA
    { tombstoned := 1, newWatermark := ⟨5, 0, "a"⟩ } rfl (by rfl) ?_
  intro cs hcs
  rcases List.mem_cons.mp hcs with rfl | hcs
  · rintro ⟨-, -, row, hrow, hlc, hx, hdev, -⟩
    cases List.mem_singleton.mp hrow
    cases hx
    exact absurd hdev (by decide)
  · cases List.mem_singleton.mp hcs
    rintro ⟨hk, -⟩
    nomatch hk

/-- The snapshot of `a` comes back with the changeset that had brought it. -/
theorem erasure_undone :
    ¬ ∀ (me : String) (db : Database) (before after : List ChangeSet) (event : ChangeSet)
      (result : SyncResult), event.kind = .deletionEvent →
      (applyChanges me event (deliverAll me db before)).1 = .ok result →
      Erased event.originDeviceId event.watermark
        (deliverAll me db (before ++ event :: after)) := by
  intro h
  have herased := h "b" (Database.empty true) [snapshotChangeSet] [snapshotChangeSet] erasureOfA
    { tombstoned := 1, newWatermark := ⟨5, 0, "a"⟩ } rfl (by rfl)
  have hback : sampleSnapshot ∈ (deliverAll "b" (Database.empty true)
      ([snapshotChangeSet] ++ erasureOfA :: [snapshotChangeSet])).paramSnapshots.rows := by
    have hrows : (deliverAll "b" (Database.empty true)
        ([snapshotChangeSet] ++ erasureOfA :: [snapshotChangeSet])).paramSnapshots.rows
          = [sampleSnapshot] := by rfl
    rw [hrows]
    exact List.mem_cons_self
  have hafter := herased (.paramSnapshot sampleSnapshot) (mem_syncRows.mpr hback) rfl rfl
  -- it is of instant 1, and the event of instant 5
  exact absurd hafter (by unfold Stamp.After; decide)

end Oneshim
