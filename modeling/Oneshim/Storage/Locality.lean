/-
  A merge looks at its own table.

  Merging a row of one table reads and writes that table only: two databases that hold the same
  overrides do the same to an incoming override, whatever else they hold.  The one exception are the
  regimes, whose reference to a parameter snapshot is checked: there the second database has to hold
  at least the snapshots of the first.

  So a merge of several changesets can be taken apart by table and put together again.  For each
  table the section `Runs` says that the merge of one changeset can be repeated on every database
  that agrees on the table; `Locality` is what `Network.CompositePull` needs to merge the rows of a
  whole list of changesets, table after table, in one transaction.
-/
import Oneshim.Storage.Transfer

namespace Oneshim

open Lib

/-! ## The two shapes of a merge -/

section Shapes

variable {α : Type} {T : Database → α} {s s' t : Tx} {row : Json}

theorem mergeAppendOnly_local {keyField : String} {known : String → Bool}
    {insert insert' : String → Except StorageError Database} (hT : T s.db = T t.db)
    (hinsert : ∀ id db, insert id = .ok db → ∃ db', insert' id = .ok db' ∧ T db = T db')
    (h : mergeAppendOnly keyField known insert s row = .ok s') :
    ∃ t', mergeAppendOnly keyField known insert' t row = .ok t' ∧ T s'.db = T t'.db := by
  obtain ⟨id, hid, ⟨hknown, rfl⟩ | ⟨hknown, db, hdb, rfl⟩⟩ := mergeAppendOnly_ok h
  · refine ⟨⟨t.db, t.result.countSkippedDup⟩, ?_, hT⟩
    simp only [mergeAppendOnly, hid, hknown, ok_bind]
    rfl
  · obtain ⟨db', hdb', hT'⟩ := hinsert id db hdb
    refine ⟨⟨db', t.result.countApplied⟩, ?_, hT'⟩
    simp only [mergeAppendOnly, hid, hknown, hdb', ok_bind]
    rfl

/-- What is done about a row depends on its own table only. -/
theorem resolve_local {ℓ : Type} {stored : Option ℓ} {remoteWins : ℓ → Bool}
    {insert insert' : Except StorageError Database}
    {update update' : ℓ → Except StorageError Database} {updated : SyncResult → SyncResult}
    (hT : T s.db = T t.db)
    (hinsert : ∀ db, insert = .ok db → ∃ db', insert' = .ok db' ∧ T db = T db')
    (hupdate : ∀ l db, update l = .ok db → ∃ db', update' l = .ok db' ∧ T db = T db')
    (h : resolve s stored remoteWins insert update updated = .ok s') :
    ∃ t', resolve t stored remoteWins insert' update' updated = .ok t' ∧ T s'.db = T t'.db := by
  rcases resolve_ok h with ⟨rfl, db, hdb, rfl⟩ | ⟨l, rfl, hw, db, hdb, rfl⟩ | ⟨l, rfl, hw, rfl⟩
  · obtain ⟨db', hdb', hT'⟩ := hinsert db hdb
    exact ⟨⟨db', t.result.countApplied⟩, by rw [resolve, hdb', ok_bind]; rfl, hT'⟩
  · obtain ⟨db', hdb', hT'⟩ := hupdate l db hdb
    refine ⟨⟨db', updated t.result⟩, ?_, hT'⟩
    simp only [resolve, hw, if_true, hdb', ok_bind]
    rfl
  · refine ⟨⟨t.db, t.result.countSkippedLww⟩, ?_, hT⟩
    simp only [resolve, hw, Bool.false_eq_true, if_false]
    rfl

end Shapes

/-! ## One row of each table -/

/-- The merge reads and writes the part `T` of the database only. -/
def LocalTo {α : Type} (T : Database → α) (merge : Tx → Json → Except StorageError Tx) : Prop :=
  ∀ {s s' t : Tx} {row : Json}, T s.db = T t.db → merge s row = .ok s' →
    ∃ t', merge t row = .ok t' ∧ T s'.db = T t'.db

theorem mergeSegment_local : LocalTo Database.segments mergeSegment := by
  intro s s' t row hT h
  obtain ⟨id, hid, hknown, rfl⟩ := mergeSegment_ok h
  rw [hT] at hknown
  exact ⟨_, mergeAppendOnly_of_known hid hknown, hT⟩

theorem mergeOverride_local : LocalTo Database.overrides mergeOverride := by
  intro s s' t row hT h
  unfold mergeOverride at h ⊢
  rw [hT] at h
  refine mergeAppendOnly_local (T := Database.overrides) hT (fun id db hdb => ?_) h
  obtain ⟨⟨columns, hlc⟩, hp, hs⟩ := bind_eq_ok_iff.mp hdb
  obtain ⟨stamp, hbind, hi⟩ := sqlErr_bind_ok hs
  obtain ⟨tab, htab, hret⟩ := bind_eq_ok_iff.mp hi
  cases hret
  rw [hT] at htab
  refine ⟨{ t.db with overrides := tab }, ?_, rfl⟩
  simp only [hp, hbind, ok_bind, Database.insertOverride, htab, sqlErr]
  rfl

theorem mergeParamSnapshot_local : LocalTo Database.paramSnapshots mergeParamSnapshot := by
  intro s s' t row hT h
  unfold mergeParamSnapshot at h ⊢
  rw [hT] at h
  refine mergeAppendOnly_local (T := Database.paramSnapshots) hT (fun id db hdb => ?_) h
  obtain ⟨⟨columns, hlc⟩, hp, hs⟩ := bind_eq_ok_iff.mp hdb
  obtain ⟨stamp, hbind, hi⟩ := sqlErr_bind_ok hs
  obtain ⟨tab, htab, hret⟩ := bind_eq_ok_iff.mp hi
  cases hret
  rw [hT] at htab
  refine ⟨{ t.db with paramSnapshots := tab }, ?_, rfl⟩
  simp only [hp, hbind, ok_bind, Database.insertParamSnapshot, htab, sqlErr]
  rfl

/-- The databases hold the same regimes, and every reference that holds in the first holds in the
    second. -/
structure RegimesAgree (s t : Database) : Prop where
  regimes : s.regimes = t.regimes
  foreignKeys : s.foreignKeys = t.foreignKeys
  snapshots : ∀ k, s.hasParamSnapshot k = true → t.hasParamSnapshot k = true

theorem RegimesAgree.checkReference {s t : Database} (h : RegimesAgree s t) {ref : Option String}
    (href : s.checkReference ref s.hasParamSnapshot = .ok ()) :
    t.checkReference ref t.hasParamSnapshot = .ok () := by
  rw [checkReference_ok_iff] at href ⊢
  intro hfk k hk
  exact h.snapshots k (href (h.foreignKeys.trans hfk) k hk)

/-- The merge of a regime looks at the regimes and at its reference. -/
theorem mergeRegime_local {s s' t : Tx} {row : Json} (hagree : RegimesAgree s.db t.db)
    (h : mergeRegime s row = .ok s') :
    ∃ t', mergeRegime t row = .ok t' ∧ RegimesAgree s'.db t'.db := by
  have hlocal : ∃ t', mergeRegime t row = .ok t' ∧ s'.db.regimes = t'.db.regimes := by
    unfold mergeRegime at h ⊢
    obtain ⟨id, hid, h⟩ := bind_eq_ok_iff.mp h
    obtain ⟨hlc, hx, h⟩ := bind_eq_ok_iff.mp h
    simp only [hid, hx, ok_bind]
    rw [hagree.regimes] at h
    refine resolve_local (T := Database.regimes) hagree.regimes (fun db hdb => ?_)
      (fun l db hdb => ?_) h
    · obtain ⟨⟨columns, hlc'⟩, hp, hs⟩ := bind_eq_ok_iff.mp hdb
      obtain ⟨stamp, hbind, hi⟩ := sqlErr_bind_ok hs
      obtain ⟨tab, htab, href, rfl⟩ := insertRegime_ok_iff.mp hi
      rw [hagree.regimes] at htab
      refine ⟨{ t.db with regimes := tab }, ?_, rfl⟩
      have hins := insertRegime_ok_iff.mpr ⟨tab, htab, hagree.checkReference href, rfl⟩
      simp only [hp, hbind, ok_bind, hins, sqlErr]
    · obtain ⟨⟨columns, hlc'⟩, hp, hs⟩ := bind_eq_ok_iff.mp hdb
      obtain ⟨stamp, hbind, hu⟩ := sqlErr_bind_ok hs
      obtain ⟨_, href, hret⟩ := bind_eq_ok_iff.mp hu
      cases hret
      have hupd : t.db.updateRegime { columns with stamp }
          = .ok { t.db with regimes := t.db.regimes.replace { columns with stamp } } := by
        simp only [Database.updateRegime, hagree.checkReference href, ok_bind]
        rfl
      refine ⟨_, by simp only [hp, hbind, ok_bind, hupd, sqlErr]; rfl, ?_⟩
      show s.db.regimes.replace _ = t.db.regimes.replace _
      rw [hagree.regimes]
  obtain ⟨t', ht', hregimes⟩ := hlocal
  refine ⟨t', ht', hregimes, ?_, ?_⟩
  · rw [mergeRegime_db h, mergeRegime_db ht']
    exact hagree.foreignKeys
  · rw [mergeRegime_db h, mergeRegime_db ht']
    exact hagree.snapshots

/-- Merging an embedding looks at the embeddings only. -/
theorem mergeEmbedding_local : LocalTo Database.embeddings mergeEmbedding := by
  intro s s' t row hT h
  have hat : s.db.embeddingAt = t.db.embeddingAt := by
    funext segmentId modelId
    rw [Database.embeddingAt, Database.embeddingAt, hT]
  unfold mergeEmbedding at h ⊢
  obtain ⟨segmentId, hseg, h⟩ := bind_eq_ok_iff.mp h
  obtain ⟨modelId, hmodel, h⟩ := bind_eq_ok_iff.mp h
  obtain ⟨hlc, hx, h⟩ := bind_eq_ok_iff.mp h
  simp only [hseg, hmodel, hx, ok_bind]
  rw [hat] at h
  refine resolve_local (T := Database.embeddings) hT (fun db hdb => ?_) (fun l db hdb => ?_) h
  · obtain ⟨params, hp, hs⟩ := bind_eq_ok_iff.mp hdb
    obtain ⟨r, hr, hret⟩ := sqlErr_bind_ok hs
    cases hret
    refine ⟨t.db.insertEmbedding r, by simp only [hp, hr, ok_bind, sqlErr]; rfl, ?_⟩
    simp only [Database.insertEmbedding, hT]
  · obtain ⟨params, hp, hs⟩ := bind_eq_ok_iff.mp hdb
    obtain ⟨r, hr, hret⟩ := sqlErr_bind_ok hs
    cases hret
    refine ⟨t.db.updateEmbedding { r with id := l.1.id },
      by simp only [hp, hr, ok_bind, sqlErr]; rfl, ?_⟩
    show s.db.embeddings.update _ = t.db.embeddings.update _
    rw [hT]

/-- Merging a suggestion looks at the suggestions only. -/
theorem mergeSuggestion_local : LocalTo Database.suggestions mergeSuggestion := by
  intro s s' t row hT h
  unfold mergeSuggestion at h ⊢
  obtain ⟨id, hid, h⟩ := bind_eq_ok_iff.mp h
  obtain ⟨hlc, hx, h⟩ := bind_eq_ok_iff.mp h
  simp only [hid, hx, ok_bind]
  rw [hT] at h
  refine resolve_local (T := Database.suggestions) hT (fun db hdb => ?_) (fun l db hdb => ?_) h
  · obtain ⟨⟨columns, hlc'⟩, hp, hs⟩ := bind_eq_ok_iff.mp hdb
    obtain ⟨stamp, hbind, hi⟩ := sqlErr_bind_ok hs
    obtain ⟨tab, htab, rfl⟩ := insertSuggestion_ok_iff.mp hi
    rw [hT] at htab
    refine ⟨{ t.db with suggestions := tab }, ?_, rfl⟩
    have hins := insertSuggestion_ok_iff.mpr ⟨tab, htab, rfl⟩
    simp only [hp, hbind, ok_bind, hins, sqlErr]
  · obtain ⟨⟨columns, hlc'⟩, hp, hs⟩ := bind_eq_ok_iff.mp hdb
    obtain ⟨stamp, hbind, hret⟩ := sqlErr_bind_ok hs
    cases hret
    refine ⟨t.db.updateSuggestion { columns with stamp },
      by simp only [hp, hbind, ok_bind, sqlErr]; rfl, ?_⟩
    show s.db.suggestions.replace _ = t.db.suggestions.replace _
    rw [hT]

/-! ## The rows of one changeset -/

/-- A local merge repeats a run over a list of rows. -/
theorem LocalTo.run {α : Type} {T : Database → α} {merge : Tx → Json → Except StorageError Tx}
    (hlocal : LocalTo T merge) {rows : List Json} {s s' t : Tx}
    (hrun : rows.foldlM merge s = .ok s') (hT : T s.db = T t.db) :
    ∃ t', rows.foldlM merge t = .ok t' ∧ T s'.db = T t'.db :=
  foldlM_simulates (f := merge) (g := merge) (R := fun s t : Tx => T s.db = T t.db)
    (Q := fun _ => True) (fun _ _ _ _ _ _ => trivial)
    (fun _ _ _ _ _ hR hstep _ => hlocal hR hstep) hT hrun trivial

namespace MergeRun

variable {db : Database} {cs : ChangeSet} {tx t : Tx} (run : MergeRun db cs tx)
include run

theorem segments_repeat (hT : db.segments = t.db.segments) :
    ∃ t', cs.segments.foldlM mergeSegment t = .ok t' ∧
      tx.db.segments = t'.db.segments := by
  rw [run.segments_eq]
  exact mergeSegment_local.run run.segments_run hT

theorem overrides_repeat (hT : db.overrides = t.db.overrides) :
    ∃ t', cs.overrides.foldlM mergeOverride t = .ok t' ∧
      tx.db.overrides = t'.db.overrides := by
  rw [run.overrides_eq]
  exact mergeOverride_local.run run.overrides_run (by rw [run.afterSegments_db]; exact hT)

theorem paramSnapshots_repeat (hT : db.paramSnapshots = t.db.paramSnapshots) :
    ∃ t', cs.paramSnapshots.foldlM mergeParamSnapshot t = .ok t' ∧
      tx.db.paramSnapshots = t'.db.paramSnapshots := by
  rw [run.paramSnapshots_eq]
  exact mergeParamSnapshot_local.run run.paramSnapshots_run (by rw [run.afterOverrides_db]; exact hT)

theorem embeddings_repeat (hT : db.embeddings = t.db.embeddings) :
    ∃ t', cs.embeddings.foldlM mergeEmbedding t = .ok t' ∧
      tx.db.embeddings = t'.db.embeddings := by
  rw [run.embeddings_eq]
  exact mergeEmbedding_local.run run.embeddings_run (by rw [run.afterRegimes_db]; exact hT)

theorem suggestions_repeat (hT : db.suggestions = t.db.suggestions) :
    ∃ t', cs.suggestions.foldlM mergeSuggestion t = .ok t' ∧
      tx.db.suggestions = t'.db.suggestions := by
  rw [run.suggestions_eq]
  exact mergeSuggestion_local.run run.suggestions_run (by rw [run.afterEmbeddings_db]; exact hT)

/-- The regimes, where the snapshots of the changeset are already there. -/
theorem regimes_repeat (hT : db.regimes = t.db.regimes) (hfk : db.foreignKeys = t.db.foreignKeys)
    (hsnap : ∀ k, tx.db.hasParamSnapshot k = true → t.db.hasParamSnapshot k = true) :
    ∃ t', cs.regimes.foldlM mergeRegime t = .ok t' ∧ tx.db.regimes = t'.db.regimes ∧
      t'.db.foreignKeys = t.db.foreignKeys ∧ t'.db.hasParamSnapshot = t.db.hasParamSnapshot := by
  have h0 : RegimesAgree run.afterParamSnapshots.db t.db := by
    refine ⟨run.regimes_before.trans hT, ?_, ?_⟩
    · rw [run.afterParamSnapshots_db]
      exact hfk
    · rw [run.afterParamSnapshots_db]
      exact hsnap
  obtain ⟨t', ht', hagree⟩ := foldlM_simulates (f := mergeRegime) (g := mergeRegime)
    (R := fun s t : Tx => RegimesAgree s.db t.db) (Q := fun _ => True) (fun _ _ _ _ _ _ => trivial)
    (fun _ _ _ _ _ hR hstep _ => mergeRegime_local hR hstep) h0 run.regimes_run trivial
  have hframe := runRegimes_db ht'
  refine ⟨t', ht', run.regimes_eq.trans hagree.regimes, ?_, ?_⟩
  · rw [hframe]
  · rw [hframe]
    rfl

/-- No parameter snapshot disappears. -/
theorem hasParamSnapshot_of_before {k : String} (h : db.hasParamSnapshot k = true) :
    tx.db.hasParamSnapshot k = true := by
  have hP := foldlM_invariant (P := fun s : Tx => s.db.hasParamSnapshot k = true)
    (fun row s s' hs hstep => ?_) (s := run.afterOverrides) ?_ run.paramSnapshots_run
  · show (tx.db.paramSnapshots.find? k).isSome = true
    rw [run.paramSnapshots_eq]
    exact hP
  · obtain ⟨_, -, ⟨-, rfl⟩ | ⟨-, x, tab, -, ht, rfl⟩⟩ := mergeParamSnapshot_ok hstep
    · exact hs
    · show (tab.find? k).isSome = true
      rw [Table.find?_insert? ht]
      split
      · rfl
      · exact hs
  · show (run.afterOverrides.db.paramSnapshots.find? k).isSome = true
    rw [run.afterOverrides_db]
    exact h

end MergeRun

end Oneshim
