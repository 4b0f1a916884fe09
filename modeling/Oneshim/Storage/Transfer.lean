/-
  From one device to another: does the merger accept what the extractor returns?

  The two sides list their columns independently.  Where they agree, a row travels unchanged:
  every table's rendering decodes to the row it came from (`Storage.Extraction`).  They disagree
  in two places, and `Transferable` is the exact condition under which that does not show:

  * the segment insert leaves out `trigger_reason`, so NO new segment is ever accepted;
  * `embedding_vectors.original_text` is `NOT NULL`, so an embedding sent without its text (the
    default) is refused.

  The rest of the condition is what the types and the schema ask for: counters that fit `u32`, and
  parameter snapshots that are there when a regime refers to them.
-/
import Oneshim.Storage.Extraction
import Oneshim.Storage.Watermark

namespace Oneshim

open Lib

/-! ## Statements of the property and of its condition -/

/-- `B` has no row under a key that an extraction from `A` returns. -/
structure FreshFor (since : Hlc) (A B : Database) : Prop where
  segments : ∀ r ∈ A.segments.rows, ChangedSince since r.stamp → B.segments.find? r.id = none
  regimes : ∀ r ∈ A.regimes.rows, ChangedSince since r.stamp → B.regimes.find? r.id = none
  overrides : ∀ r ∈ A.overrides.rows, ChangedSince since r.stamp →
    B.overrides.find? r.overrideId = none
  embeddings : ∀ r ∈ A.embeddings.rows, ChangedSince since r.stamp →
    B.embeddings.first? (hasKey (r.segmentId, r.modelId)) = none
  suggestions : ∀ r ∈ A.suggestions.rows, ChangedSince since r.stamp →
    B.suggestions.find? r.suggestionId = none
  paramSnapshots : ∀ r ∈ A.paramSnapshots.rows, ChangedSince since r.stamp →
    B.paramSnapshots.find? r.id = none

/-- Every extracted row is there, with the extracted values of the synced columns. -/
structure Received (extractor : SqliteSyncExtractor) (cs : ChangeSet) (B : Database) : Prop where
  segments : ∀ j ∈ cs.segments, ∃ r ∈ B.segments.rows,
    segmentJson extractor.syncConfig.includeContentActivities r = j
  regimes : ∀ j ∈ cs.regimes, ∃ r ∈ B.regimes.rows, regimeObject r r.avgDensity r.avgImportance = j
  overrides : ∀ j ∈ cs.overrides, ∃ r ∈ B.overrides.rows, overrideJson r = j
  suggestions : ∀ j ∈ cs.suggestions, ∃ r ∈ B.suggestions.rows,
    suggestionObject r r.confidenceScore r.relevanceScore = j
  paramSnapshots : ∀ j ∈ cs.paramSnapshots, ∃ r ∈ B.paramSnapshots.rows, paramSnapshotJson r = j

/-- The condition under which the changed rows of `A` arrive at `B`. -/
structure Transferable (extractor : SqliteSyncExtractor) (since : Hlc) (A B : Database) : Prop where
  noSegment : ∀ r ∈ A.segments.rows, ¬ ChangedSince since r.stamp
  embeddingText : extractor.syncConfig.includeEmbeddingText = true ∨
    ∀ r ∈ A.embeddings.rows, ¬ ChangedSince since r.stamp
  embeddingCounter : ∀ r ∈ A.embeddings.rows, ChangedSince since r.stamp →
    0 ≤ r.stamp.hlcCounter.toInt
  regimes : ∀ r ∈ A.regimes.rows, ChangedSince since r.stamp → r.stamp.Fits
  overrides : ∀ r ∈ A.overrides.rows, ChangedSince since r.stamp → r.stamp.Fits
  suggestions : ∀ r ∈ A.suggestions.rows, ChangedSince since r.stamp → r.stamp.Fits
  paramSnapshots : ∀ r ∈ A.paramSnapshots.rows, ChangedSince since r.stamp → r.stamp.Fits
  references : B.foreignKeys = true → ∀ r ∈ A.regimes.rows, ChangedSince since r.stamp →
    ∀ p, r.paramsSnapshotId = some p → B.hasParamSnapshot p = true ∨
      ∃ s ∈ A.paramSnapshots.rows, ChangedSince since s.stamp ∧ s.id = p

/-! ## Runs that insert every row -/

/-- Rows under fresh and distinct keys are inserted one after the other. -/
theorem run_inserts {ρ : Type} {key : ρ → String} (table : Database → Table key)
    {merge : Tx → Json → Except StorageError Tx} (I : Database → Prop) {rs : List ρ}
    {js : List Json}
    (hstep : List.Forall₂ (fun r j => ∀ tx : Tx, I tx.db → (table tx.db).find? (key r) = none →
      ∃ tx', merge tx j = .ok tx' ∧ I tx'.db ∧
        (table tx'.db).rows = (table tx.db).rows ++ [r]) rs js)
    (hnd : (rs.map key).Nodup) {tx : Tx} (hI : I tx.db)
    (hfree : ∀ r ∈ rs, (table tx.db).find? (key r) = none) :
    ∃ tx', js.foldlM merge tx = .ok tx' ∧ I tx'.db ∧
      (table tx'.db).rows = (table tx.db).rows ++ rs := by
  induction hstep generalizing tx with
  | nil => exact ⟨tx, rfl, hI, by rw [List.append_nil]⟩
  | @cons r j rs js hj _ ih =>
    rw [List.map_cons, List.nodup_cons] at hnd
    obtain ⟨t, ht, hIt, hrows⟩ := hj tx hI (hfree r List.mem_cons_self)
    -- the inserted key is none of the keys still to come
    have hfree' : ∀ s ∈ rs, (table t.db).find? (key s) = none := by
      intro s hs
      refine Table.find?_eq_none_iff.mpr (fun x hx => ?_)
      rw [hrows] at hx
      rcases List.mem_append.mp hx with hold | hnew
      · exact Table.find?_eq_none_iff.mp (hfree s (List.mem_cons_of_mem _ hs)) x hold
      · rw [List.mem_singleton.mp hnew]
        exact fun heq => hnd.1 (List.mem_map.mpr ⟨s, hs, heq.symm⟩)
    obtain ⟨tx', htx', hI', hrows'⟩ := ih hnd.2 hIt hfree'
    refine ⟨tx', ?_, hI', ?_⟩
    · rw [List.foldlM_cons, ht, ok_bind]
      exact htx'
    · rw [hrows', hrows, List.append_assoc, List.singleton_append]

/-- A fresh override is inserted. -/
theorem mergeOverride_inserts {tx : Tx} {j : Json} {r : OverrideRow}
    (hv : overrideVersion j = .ok r) (hfree : tx.db.overrides.find? r.overrideId = none) :
    ∃ tx', mergeOverride tx j = .ok tx' ∧
      tx'.db.overrides.rows = tx.db.overrides.rows ++ [r] := by
  obtain ⟨id, hid, hv'⟩ := bind_eq_ok_iff.mp hv
  obtain rfl := overrideVersion_ok hid hv
  obtain ⟨⟨columns, hlc⟩, hp, hs⟩ := bind_eq_ok_iff.mp hv'
  obtain ⟨stamp, hbind, hret⟩ := bind_eq_ok_iff.mp hs
  have hbind' := sqlErr_eq_ok_iff.mp hbind
  cases hret
  obtain ⟨t, ht, hrows⟩ := Table.insert?_of_fresh hfree
  simp only [mergeOverride, mergeAppendOnly, hid, hfree, hp, hbind', ok_bind, Option.isSome_none,
    Bool.false_eq_true, if_false, Database.insertOverride, Database.insertUnique, ht]
  exact ⟨_, rfl, hrows⟩

/-- A fresh parameter snapshot is inserted. -/
theorem mergeParamSnapshot_inserts {tx : Tx} {j : Json} {r : ParamSnapshotRow}
    (hv : paramSnapshotVersion j = .ok r) (hfree : tx.db.paramSnapshots.find? r.id = none) :
    ∃ tx', mergeParamSnapshot tx j = .ok tx' ∧
      tx'.db.paramSnapshots.rows = tx.db.paramSnapshots.rows ++ [r] := by
  obtain ⟨id, hid, hv'⟩ := bind_eq_ok_iff.mp hv
  obtain rfl := paramSnapshotVersion_ok hid hv
  obtain ⟨⟨columns, hlc⟩, hp, hs⟩ := bind_eq_ok_iff.mp hv'
  obtain ⟨stamp, hbind, hret⟩ := bind_eq_ok_iff.mp hs
  have hbind' := sqlErr_eq_ok_iff.mp hbind
  cases hret
  obtain ⟨t, ht, hrows⟩ := Table.insert?_of_fresh hfree
  simp only [mergeParamSnapshot, mergeAppendOnly, hid, hfree, hp, hbind', ok_bind,
    Option.isSome_none, Bool.false_eq_true, if_false, Database.insertParamSnapshot,
    Database.insertUnique, ht]
  exact ⟨_, rfl, hrows⟩

/-- A fresh regime is inserted, when its snapshot is there. -/
theorem mergeRegime_inserts {tx : Tx} {j : Json} {r : RegimeRow} (hv : regimeVersion j = .ok r)
    (hfree : tx.db.regimes.find? r.id = none)
    (href : tx.db.checkReference r.paramsSnapshotId tx.db.hasParamSnapshot = .ok ()) :
    ∃ tx', mergeRegime tx j = .ok tx' ∧ tx'.db.regimes.rows = tx.db.regimes.rows ++ [r] := by
  obtain ⟨id, hid, hv'⟩ := bind_eq_ok_iff.mp hv
  obtain ⟨hlc, hx, hv'⟩ := bind_eq_ok_iff.mp hv'
  obtain ⟨rfl, -⟩ := regimeVersion_ok hid hx hv
  obtain ⟨⟨columns, h⟩, hp, hs⟩ := bind_eq_ok_iff.mp hv'
  obtain ⟨stamp, hbind, hret⟩ := bind_eq_ok_iff.mp hs
  have hbind' := sqlErr_eq_ok_iff.mp hbind
  cases hret
  obtain ⟨t, ht, hrows⟩ := Table.insert?_of_fresh hfree
  have hins : tx.db.insertRegime { columns with stamp := stamp }
      = .ok { tx.db with regimes := t } := insertRegime_ok_iff.mpr ⟨t, ht, href, rfl⟩
  simp only [mergeRegime, hid, hx, hfree, hp, hbind', ok_bind, resolve, readable, Option.bind_none,
    hins]
  exact ⟨_, rfl, hrows⟩

/-- A fresh suggestion is inserted. -/
theorem mergeSuggestion_inserts {tx : Tx} {j : Json} {r : SuggestionRow} {c : String}
    (hv : suggestionVersion j = .ok r) (hc : jsonStr j "created_at" = .ok c)
    (hfree : tx.db.suggestions.find? r.suggestionId = none) :
    ∃ tx', mergeSuggestion tx j = .ok tx' ∧
      tx'.db.suggestions.rows = tx.db.suggestions.rows ++ [{ r with createdAt := c }] := by
  obtain ⟨id, hid, hv'⟩ := bind_eq_ok_iff.mp hv
  obtain ⟨hlc, hx, hv'⟩ := bind_eq_ok_iff.mp hv'
  obtain ⟨rfl, -⟩ := suggestionVersion_ok hid hx hv
  obtain ⟨⟨columns, h⟩, hp, hs⟩ := bind_eq_ok_iff.mp hv'
  obtain ⟨stamp, hbind, hret⟩ := bind_eq_ok_iff.mp hs
  have hbind' := sqlErr_eq_ok_iff.mp hbind
  obtain ⟨-, -, -, -, hany⟩ := suggestionParams_ok hx hp
  cases hret
  obtain ⟨t, ht, hrows⟩ := Table.insert?_of_fresh (t := tx.db.suggestions)
    (r := { columns with createdAt := c, stamp := stamp }) hfree
  simp only [mergeSuggestion, hid, hx, hfree, hc, hany, hbind', ok_bind, resolve, readable,
    Option.bind_none, Database.insertSuggestion, Database.insertUnique, ht]
  exact ⟨_, rfl, hrows⟩

/-- A complete embedding is accepted by every table. -/
theorem mergeEmbedding_accepts {j : Json} {r : EmbeddingRow} (hv : embeddingVersion j = .ok r)
    (tx : Tx) : ∃ tx', mergeEmbedding tx j = .ok tx' := by
  obtain ⟨seg, hs, hv⟩ := bind_eq_ok_iff.mp hv
  obtain ⟨model, hm, hv⟩ := bind_eq_ok_iff.mp hv
  obtain ⟨hlc, hx, hv⟩ := bind_eq_ok_iff.mp hv
  obtain ⟨p, hp, hb⟩ := bind_eq_ok_iff.mp hv
  have hb' := sqlErr_eq_ok_iff.mp hb
  simp only [mergeEmbedding, hs, hm, hx, ok_bind]
  refine resolve_accepts ?_ ?_
  · intro _
    simp only [hp, hb', ok_bind]
    exact ⟨_, rfl⟩
  · intro old _ _
    simp only [hp, hb', ok_bind]
    exact ⟨_, rfl⟩

/-! ## The condition is enough -/

/-- The regime `B` stores for an extracted row: the reals come from the text. -/
def regimeReceived (jsonReal : F64 → Option F64) (r : RegimeRow) : RegimeRow :=
  { r with avgDensity := (jsonReal r.avgDensity).getD r.avgDensity,
           avgImportance := (jsonReal r.avgImportance).getD r.avgImportance }

/-- The suggestion `B` stores for an extracted row. -/
def suggestionReceived (jsonReal : F64 → Option F64) (r : SuggestionRow) : SuggestionRow :=
  { r with confidenceScore := (jsonReal r.confidenceScore).getD r.confidenceScore,
           relevanceScore := (jsonReal r.relevanceScore).getD r.relevanceScore }

variable {jsonReal : F64 → Option F64}

theorem regimeJson_eq_some {r : RegimeRow} {j : Json} (h : regimeJson jsonReal r = some j) :
    j = regimeObject r (regimeReceived jsonReal r).avgDensity
      (regimeReceived jsonReal r).avgImportance := by
  obtain ⟨d, hd, h⟩ := Option.bind_eq_some_iff.mp h
  obtain ⟨i, hi, hret⟩ := Option.bind_eq_some_iff.mp h
  cases hret
  simp only [regimeReceived, hd, hi, Option.getD_some]

theorem suggestionJson_eq_some {r : SuggestionRow} {j : Json}
    (h : suggestionJson jsonReal r = some j) :
    j = suggestionObject r (suggestionReceived jsonReal r).confidenceScore
      (suggestionReceived jsonReal r).relevanceScore := by
  obtain ⟨c, hc, h⟩ := Option.bind_eq_some_iff.mp h
  obtain ⟨v, hv, hret⟩ := Option.bind_eq_some_iff.mp h
  cases hret
  simp only [suggestionReceived, hc, hv, Option.getD_some]

/-- An immediate reference check, spelled out. -/
theorem checkReference_ok_iff {db : Database} {ref : Option String} {present : String → Bool} :
    db.checkReference ref present = .ok () ↔
      (db.foreignKeys = true → ∀ k, ref = some k → present k = true) := by
  cases ref with
  | none => exact ⟨fun _ _ k hk => (nomatch hk), fun _ => rfl⟩
  | some k =>
    simp only [Database.checkReference]
    split
    case isTrue h =>
      simp only [Bool.and_eq_true, Bool.not_eq_true'] at h
      refine ⟨fun he => (nomatch he), fun hall => ?_⟩
      rw [hall h.1 k rfl] at h
      nomatch h.2
    case isFalse h =>
      refine ⟨fun _ hfk k' hk' => ?_, fun _ => rfl⟩
      cases hk'
      simpa [hfk] using h

section Runs

variable {jsonReal : F64 → Option F64} {extractor : SqliteSyncExtractor} {since : Hlc}
  {A B : Database} {cs : ChangeSet} (hex : Extracted jsonReal extractor since A cs)
  (hcond : Transferable extractor since A B)
include hex hcond

/-- Fresh overrides are all inserted. -/
theorem overrides_inserted (tx : Tx)
    (hfree : ∀ r ∈ extractedRows OverrideRow.stamp since A.overrides.rows,
      tx.db.overrides.find? r.overrideId = none) :
    ∃ tx', cs.overrides.foldlM mergeOverride tx = .ok tx' ∧ tx'.db.overrides.rows
      = tx.db.overrides.rows ++ extractedRows OverrideRow.stamp since A.overrides.rows := by
  have hstep : List.Forall₂ (fun r j => ∀ tx : Tx, True → tx.db.overrides.find? r.overrideId = none →
      ∃ tx', mergeOverride tx j = .ok tx' ∧ True ∧
        tx'.db.overrides.rows = tx.db.overrides.rows ++ [r])
      (extractedRows OverrideRow.stamp since A.overrides.rows) cs.overrides := by
    rw [hex.overrides, List.forall₂_map_right_iff, List.forall₂_same]
    intro r hr tx _ hfree
    obtain ⟨hin, hch⟩ := mem_extractedRows.mp hr
    have hfits := hcond.overrides r hin hch
    have hv := overrideVersion_overrideJson hfits.1 hfits.2.1
    rw [Stamp.truncated_of_fits hfits] at hv
    obtain ⟨tx', htx', hrows⟩ := mergeOverride_inserts hv hfree
    exact ⟨tx', htx', trivial, hrows⟩
  obtain ⟨tx', htx', -, hrows⟩ := run_inserts Database.overrides (fun _ => True) hstep
    (nodup_extractedRows since A.overrides.nodup) trivial hfree
  exact ⟨tx', htx', hrows⟩

/-- Fresh parameter snapshots are all inserted. -/
theorem paramSnapshots_inserted (tx : Tx)
    (hfree : ∀ r ∈ extractedRows ParamSnapshotRow.stamp since A.paramSnapshots.rows,
      tx.db.paramSnapshots.find? r.id = none) :
    ∃ tx', cs.paramSnapshots.foldlM mergeParamSnapshot tx = .ok tx' ∧ tx'.db.paramSnapshots.rows
      = tx.db.paramSnapshots.rows
        ++ extractedRows ParamSnapshotRow.stamp since A.paramSnapshots.rows := by
  have hstep : List.Forall₂ (fun r j => ∀ tx : Tx, True → tx.db.paramSnapshots.find? r.id = none →
      ∃ tx', mergeParamSnapshot tx j = .ok tx' ∧ True ∧
        tx'.db.paramSnapshots.rows = tx.db.paramSnapshots.rows ++ [r])
      (extractedRows ParamSnapshotRow.stamp since A.paramSnapshots.rows) cs.paramSnapshots := by
    rw [hex.paramSnapshots, List.forall₂_map_right_iff, List.forall₂_same]
    intro r hr tx _ hfree
    obtain ⟨hin, hch⟩ := mem_extractedRows.mp hr
    have hfits := hcond.paramSnapshots r hin hch
    have hv := paramSnapshotVersion_paramSnapshotJson hfits.1 hfits.2.1
    rw [Stamp.truncated_of_fits hfits] at hv
    obtain ⟨tx', htx', hrows⟩ := mergeParamSnapshot_inserts hv hfree
    exact ⟨tx', htx', trivial, hrows⟩
  obtain ⟨tx', htx', -, hrows⟩ := run_inserts Database.paramSnapshots (fun _ => True) hstep
    (nodup_extractedRows since A.paramSnapshots.nodup) trivial hfree
  exact ⟨tx', htx', hrows⟩

/-- Fresh regimes are inserted, once their snapshots are there. -/
theorem regimes_inserted (tx : Tx)
    (hfree : ∀ r ∈ extractedRows RegimeRow.stamp since A.regimes.rows,
      tx.db.regimes.find? r.id = none)
    (href : ∀ r ∈ extractedRows RegimeRow.stamp since A.regimes.rows,
      tx.db.checkReference r.paramsSnapshotId tx.db.hasParamSnapshot = .ok ()) :
    ∃ tx', cs.regimes.foldlM mergeRegime tx = .ok tx' ∧ tx'.db.regimes.rows
      = tx.db.regimes.rows ++ (extractedRows RegimeRow.stamp since A.regimes.rows).map
        (regimeReceived jsonReal) := by
  -- the references of all rows hold, and no regime merge can break them
  let I : Database → Prop := fun db =>
    ∀ r ∈ extractedRows RegimeRow.stamp since A.regimes.rows,
      db.checkReference r.paramsSnapshotId db.hasParamSnapshot = .ok ()
  have hstep : List.Forall₂ (fun r j => ∀ tx : Tx, I tx.db → tx.db.regimes.find? r.id = none →
      ∃ tx', mergeRegime tx j = .ok tx' ∧ I tx'.db ∧
        tx'.db.regimes.rows = tx.db.regimes.rows ++ [r])
      ((extractedRows RegimeRow.stamp since A.regimes.rows).map (regimeReceived jsonReal))
      cs.regimes := by
    rw [List.forall₂_map_left_iff]
    refine ((List.forall₂_and_left _ _).mpr ⟨fun r hr => hr, hex.regimes⟩).imp ?_
    rintro r j ⟨hr, hj⟩ tx hI hfree
    obtain ⟨hin, hch⟩ := mem_extractedRows.mp hr
    have hfits := hcond.regimes r hin hch
    have hv := regimeVersion_regimeObject hfits.1 hfits.2.1
      (regimeReceived jsonReal r).avgDensity (regimeReceived jsonReal r).avgImportance
    rw [Stamp.truncated_of_fits hfits] at hv
    rw [regimeJson_eq_some hj]
    obtain ⟨tx', htx', hrows⟩ := mergeRegime_inserts hv hfree (hI r hr)
    refine ⟨tx', htx', ?_, hrows⟩
    intro s hs
    rw [mergeRegime_db htx']
    exact hI s hs
  obtain ⟨tx', htx', -, hrows⟩ := run_inserts Database.regimes I hstep
    (by
      rw [List.map_map]
      exact nodup_extractedRows since A.regimes.nodup)
    href
    (by
      intro r hr
      obtain ⟨s, hs, rfl⟩ := List.mem_map.mp hr
      exact hfree s hs)
  exact ⟨tx', htx', hrows⟩

/-- Fresh suggestions are inserted. -/
theorem suggestions_inserted (tx : Tx)
    (hfree : ∀ r ∈ extractedRows SuggestionRow.stamp since A.suggestions.rows,
      tx.db.suggestions.find? r.suggestionId = none) :
    ∃ tx', cs.suggestions.foldlM mergeSuggestion tx = .ok tx' ∧ tx'.db.suggestions.rows
      = tx.db.suggestions.rows ++ (extractedRows SuggestionRow.stamp since A.suggestions.rows).map
        (suggestionReceived jsonReal) := by
  have hstep : List.Forall₂ (fun r j => ∀ tx : Tx, True →
      tx.db.suggestions.find? r.suggestionId = none →
      ∃ tx', mergeSuggestion tx j = .ok tx' ∧ True ∧
        tx'.db.suggestions.rows = tx.db.suggestions.rows ++ [r])
      ((extractedRows SuggestionRow.stamp since A.suggestions.rows).map
        (suggestionReceived jsonReal)) cs.suggestions := by
    rw [List.forall₂_map_left_iff]
    refine ((List.forall₂_and_left _ _).mpr ⟨fun r hr => hr, hex.suggestions⟩).imp ?_
    rintro r j ⟨hr, hj⟩ tx _ hfree
    obtain ⟨hin, hch⟩ := mem_extractedRows.mp hr
    have hfits := hcond.suggestions r hin hch
    have hv := suggestionVersion_suggestionObject hfits.1 hfits.2.1
      (suggestionReceived jsonReal r).confidenceScore (suggestionReceived jsonReal r).relevanceScore
    rw [Stamp.truncated_of_fits hfits] at hv
    rw [suggestionJson_eq_some hj]
    obtain ⟨tx', htx', hrows⟩ := mergeSuggestion_inserts hv
      (show jsonStr (suggestionObject r _ _) "created_at" = .ok r.createdAt from rfl) hfree
    exact ⟨tx', htx', trivial, hrows⟩
  obtain ⟨tx', htx', -, hrows⟩ := run_inserts Database.suggestions (fun _ => True) hstep
    (by
      rw [List.map_map]
      exact nodup_extractedRows since A.suggestions.nodup)
    trivial
    (by
      intro r hr
      obtain ⟨s, hs, rfl⟩ := List.mem_map.mp hr
      exact hfree s hs)
  exact ⟨tx', htx', hrows⟩

theorem embeddings_accepted (tx : Tx) :
    ∃ tx', cs.embeddings.foldlM mergeEmbedding tx = .ok tx' := by
  refine foldlM_total_of_each (fun t j hj => ?_) tx
  rw [hex.embeddings] at hj
  obtain ⟨r, hr, rfl⟩ := List.mem_map.mp hj
  obtain ⟨hin, hch⟩ := mem_extractedRows.mp hr
  have htext : extractor.syncConfig.includeEmbeddingText = true :=
    hcond.embeddingText.resolve_right (fun hnone => hnone r hin hch)
  rw [htext]
  exact mergeEmbedding_accepts (embeddingVersion_embeddingJson
    (wall_nonneg_of_changedSince hex.sinceBound hch) (hcond.embeddingCounter r hin hch)) t

end Runs

variable {extractor : SqliteSyncExtractor}

/-- A regime finds its snapshot in `B`, or among the snapshots that have just arrived. -/
theorem Transferable.reference_found {since : Hlc} {A B db : Database}
    (hcond : Transferable extractor since A B) (hfk : db.foreignKeys = B.foreignKeys)
    (hrows : db.paramSnapshots.rows = B.paramSnapshots.rows
      ++ extractedRows ParamSnapshotRow.stamp since A.paramSnapshots.rows) {r : RegimeRow}
    (hr : r ∈ extractedRows RegimeRow.stamp since A.regimes.rows) :
    db.checkReference r.paramsSnapshotId db.hasParamSnapshot = .ok () := by
  obtain ⟨hin, hch⟩ := mem_extractedRows.mp hr
  refine checkReference_ok_iff.mpr (fun hon p hp => ?_)
  have hmem : ∃ s ∈ db.paramSnapshots.rows, s.id = p := by
    rw [hrows]
    rcases hcond.references (hfk ▸ hon) r hin hch p hp with hB | ⟨s, hs, hsch, hsp⟩
    · obtain ⟨s, hs⟩ := Option.isSome_iff_exists.mp hB
      obtain ⟨hsin, hsp⟩ := Table.find?_eq_some_iff.mp hs
      exact ⟨s, List.mem_append_left _ hsin, hsp⟩
    · exact ⟨s, List.mem_append_right _ (mem_extractedRows.mpr ⟨hs, hsch⟩), hsp⟩
  obtain ⟨s, hs, hsp⟩ := hmem
  rw [Database.hasParamSnapshot, Table.find?_eq_some_iff.mpr ⟨hs, hsp⟩]
  rfl

/-- The watermark of an extraction can be stored. -/
theorem updateSyncPeers_accepts {since : Hlc} {A : Database} {cs : ChangeSet}
    (hex : Extracted jsonReal extractor since A cs) (tx : Tx) :
    ∃ tx', updateSyncPeers tx cs = .ok tx' := by
  unfold updateSyncPeers bindU64
  rw [if_pos (computeMaxHlc_lt hex.watermark).1]
  exact ⟨_, rfl⟩

/-- No segment is extracted. -/
theorem segments_eq_nil {since : Hlc} {A B : Database} {cs : ChangeSet}
    (hex : Extracted jsonReal extractor since A cs) (hcond : Transferable extractor since A B) :
    cs.segments = [] := by
  rw [hex.segments, List.map_eq_nil_iff, List.eq_nil_iff_forall_not_mem]
  intro r hr
  obtain ⟨hin, hch⟩ := mem_extractedRows.mp hr
  exact hcond.noSegment r hin hch

/-- The changeset is merged, and each extracted row is in its table afterwards. -/
theorem mergeAll_of_transferable {since : Hlc} {A B : Database} {cs : ChangeSet}
    (hex : Extracted jsonReal extractor since A cs) (hfresh : FreshFor since A B)
    (hcond : Transferable extractor since A B) :
    ∃ tx, mergeAll B cs = .ok tx ∧
      (∀ r ∈ extractedRows OverrideRow.stamp since A.overrides.rows, r ∈ tx.db.overrides.rows) ∧
      (∀ r ∈ extractedRows ParamSnapshotRow.stamp since A.paramSnapshots.rows,
        r ∈ tx.db.paramSnapshots.rows) ∧
      (∀ r ∈ extractedRows RegimeRow.stamp since A.regimes.rows,
        regimeReceived jsonReal r ∈ tx.db.regimes.rows) ∧
      ∀ r ∈ extractedRows SuggestionRow.stamp since A.suggestions.rows,
        suggestionReceived jsonReal r ∈ tx.db.suggestions.rows := by
  have h₁ : cs.segments.foldlM mergeSegment ⟨B, {}⟩ = .ok ⟨B, {}⟩ := by
    rw [segments_eq_nil hex hcond]
    rfl
  obtain ⟨t₂, h₂, hrows₂⟩ := overrides_inserted hex hcond ⟨B, {}⟩ (fun r hr => by
    obtain ⟨hin, hch⟩ := mem_extractedRows.mp hr
    exact hfresh.overrides r hin hch)
  have hdb₂ := runOverrides_db h₂
  obtain ⟨t₃, h₃, hrows₃⟩ := paramSnapshots_inserted hex hcond t₂ (fun r hr => by
    obtain ⟨hin, hch⟩ := mem_extractedRows.mp hr
    rw [hdb₂]
    exact hfresh.paramSnapshots r hin hch)
  have hdb₃ := runParamSnapshots_db h₃
  obtain ⟨t₄, h₄, hrows₄⟩ := regimes_inserted hex hcond t₃
    (fun r hr => by
      obtain ⟨hin, hch⟩ := mem_extractedRows.mp hr
      rw [hdb₃, hdb₂]
      exact hfresh.regimes r hin hch)
    (fun r hr => hcond.reference_found (by rw [hdb₃, hdb₂]) (by rw [hrows₃, hdb₂]) hr)
  have hdb₄ := runRegimes_db h₄
  obtain ⟨t₅, h₅⟩ := embeddings_accepted hex hcond t₄
  have hdb₅ := runEmbeddings_db h₅
  obtain ⟨t₆, h₆, hrows₆⟩ := suggestions_inserted hex hcond t₅ (fun r hr => by
    obtain ⟨hin, hch⟩ := mem_extractedRows.mp hr
    rw [hdb₅, hdb₄, hdb₃, hdb₂]
    exact hfresh.suggestions r hin hch)
  obtain ⟨tx, h₇⟩ := updateSyncPeers_accepts hex t₆
  let run : MergeRun B cs tx := ⟨_, t₂, t₃, t₄, t₅, t₆, h₁, h₂, h₃, h₄, h₅, h₆, h₇⟩
  have hoverrides : tx.db.overrides = t₂.db.overrides := run.overrides_eq
  have hsnapshots : tx.db.paramSnapshots = t₃.db.paramSnapshots := run.paramSnapshots_eq
  have hregimes : tx.db.regimes = t₄.db.regimes := run.regimes_eq
  have hsuggestions : tx.db.suggestions = t₆.db.suggestions := run.suggestions_eq
  refine ⟨tx, run.mergeAll_eq, ?_⟩
  rw [hoverrides, hrows₂, hsnapshots, hrows₃, hregimes, hrows₄, hsuggestions, hrows₆]
  exact ⟨fun r hr => List.mem_append_right _ hr,
    fun r hr => List.mem_append_right _ hr,
    fun r hr => List.mem_append_right _ (List.mem_map_of_mem hr),
    fun r hr => List.mem_append_right _ (List.mem_map_of_mem hr)⟩

/-- **The condition is enough**: the changeset is accepted and every row arrives. -/
theorem received_of_transferable {since : Hlc} {A B : Database} {cs : ChangeSet}
    (hex : Extracted jsonReal extractor since A cs) (hfresh : FreshFor since A B)
    (hcond : Transferable extractor since A B) :
    ∃ tx, mergeAll B cs = .ok tx ∧ Received extractor cs tx.db := by
  obtain ⟨tx, hmerge, hoverrides, hsnapshots, hregimes, hsuggestions⟩ :=
    mergeAll_of_transferable hex hfresh hcond
  refine ⟨tx, hmerge, ?_⟩
  constructor
  · intro j hj
    rw [segments_eq_nil hex hcond] at hj
    nomatch hj
  · intro j hj
    obtain ⟨r, hr, hrj⟩ := exists_of_forall₂_right hex.regimes hj
    refine ⟨regimeReceived jsonReal r, hregimes r hr, ?_⟩
    rw [regimeJson_eq_some hrj]
    rfl
  · intro j hj
    rw [hex.overrides] at hj
    obtain ⟨r, hr, rfl⟩ := List.mem_map.mp hj
    exact ⟨r, hoverrides r hr, rfl⟩
  · intro j hj
    obtain ⟨r, hr, hrj⟩ := exists_of_forall₂_right hex.suggestions hj
    refine ⟨suggestionReceived jsonReal r, hsuggestions r hr, ?_⟩
    rw [suggestionJson_eq_some hrj]
    rfl
  · intro j hj
    rw [hex.paramSnapshots] at hj
    obtain ⟨r, hr, rfl⟩ := List.mem_map.mp hj
    exact ⟨r, hsnapshots r hr, rfl⟩

/-! ## The condition is necessary -/

/-- Two stamps on one JSON row are the same. -/
theorem CarriesStamp.stamp_eq {j j' : Json} {s s' : Stamp} (h : CarriesStamp j s)
    (h' : CarriesStamp j' s') (heq : j = j') : s = s' := by
  rw [← heq] at h'
  have hint : ∀ {a b : Int64}, Json.ofInt64 a = Json.ofInt64 b → a = b :=
    fun hab => Int64.toInt_inj.mp (Json.int.inj hab)
  have hw := hint (Option.some.inj (h.wall.symm.trans h'.wall))
  have hc := hint (Option.some.inj (h.counter.symm.trans h'.counter))
  have ho := Json.str.inj (Option.some.inj (h.origin.symm.trans h'.origin))
  cases s
  cases s'
  cases hw
  cases hc
  cases ho
  rfl

theorem fits_of_extractHlc {row : Json} {hlc : Hlc} {stamp : Stamp}
    (hx : extractHlc row = .ok hlc) (hb : Stamp.bind hlc = .ok stamp) : stamp.Fits :=
  Stamp.fits_of_readHlc (Stamp.readHlc_of_bind (extractHlc_counter_lt hx) hb)

theorem overrideVersion_fits {row : Json} {r : OverrideRow} (h : overrideVersion row = .ok r) :
    r.stamp.Fits := by
  obtain ⟨id, -, h⟩ := bind_eq_ok_iff.mp h
  obtain ⟨⟨columns, hlc⟩, hp, h⟩ := bind_eq_ok_iff.mp h
  obtain ⟨stamp, hbind, hret⟩ := bind_eq_ok_iff.mp h
  simp only [overrideParams, bind_eq_ok_iff] at hp
  obtain ⟨_, -, _, -, _, -, hlc', hx, hpair⟩ := hp
  cases hpair
  cases hret
  exact fits_of_extractHlc hx (sqlErr_eq_ok_iff.mp hbind)

theorem paramSnapshotVersion_fits {row : Json} {r : ParamSnapshotRow}
    (h : paramSnapshotVersion row = .ok r) : r.stamp.Fits := by
  obtain ⟨id, -, h⟩ := bind_eq_ok_iff.mp h
  obtain ⟨⟨columns, hlc⟩, hp, h⟩ := bind_eq_ok_iff.mp h
  obtain ⟨stamp, hbind, hret⟩ := bind_eq_ok_iff.mp h
  simp only [paramSnapshotParams, bind_eq_ok_iff] at hp
  obtain ⟨_, -, _, -, _, -, hlc', hx, hpair⟩ := hp
  cases hpair
  cases hret
  exact fits_of_extractHlc hx (sqlErr_eq_ok_iff.mp hbind)

/-! Where the rows of a table come from: they were there, or they are versions of rows merged. -/

theorem overrides_origin {rows : List Json} {tx tx' : Tx}
    (hrun : rows.foldlM mergeOverride tx = .ok tx') :
    ∀ x ∈ tx'.db.overrides.rows, x ∈ tx.db.overrides.rows ∨ x.stamp.Fits := by
  refine foldlM_invariant (P := fun t => ∀ x ∈ t.db.overrides.rows,
    x ∈ tx.db.overrides.rows ∨ x.stamp.Fits) ?_ (fun _ h => .inl h) hrun
  intro row t t' ht hstep
  obtain ⟨id, -, ⟨-, rfl⟩ | ⟨-, r, u, hr, hu, rfl⟩⟩ := mergeOverride_ok hstep
  · exact ht
  · intro x hx
    rcases (Table.mem_insert? hu).mp hx with hold | rfl
    · exact ht x hold
    · exact .inr (overrideVersion_fits hr)

/-- A snapshot was there before, or it is that of a row. -/
theorem paramSnapshots_origin {rows : List Json} {tx tx' : Tx}
    (hrun : rows.foldlM mergeParamSnapshot tx = .ok tx') :
    ∀ x ∈ tx'.db.paramSnapshots.rows, x ∈ tx.db.paramSnapshots.rows ∨
      (x.stamp.Fits ∧ ∃ j ∈ rows, paramSnapshotVersion j = .ok x) := by
  refine foldlM_induction (P := fun _ t => ∀ x ∈ t.db.paramSnapshots.rows,
    x ∈ tx.db.paramSnapshots.rows ∨ (x.stamp.Fits ∧ ∃ j ∈ rows, paramSnapshotVersion j = .ok x))
    ?_ [] (fun _ h => .inl h) hrun
  intro _ row t t' hrow ht hstep
  obtain ⟨id, -, ⟨-, rfl⟩ | ⟨-, r, u, hr, hu, rfl⟩⟩ := mergeParamSnapshot_ok hstep
  · exact ht
  · intro x hx
    rcases (Table.mem_insert? hu).mp hx with hold | rfl
    · exact ht x hold
    · exact .inr ⟨paramSnapshotVersion_fits hr, row, hrow, hr⟩

/-- A regime was there before, or it fits and its reference holds. -/
theorem regimes_origin {rows : List Json} {tx tx' : Tx}
    (hrun : rows.foldlM mergeRegime tx = .ok tx') :
    ∀ x ∈ tx'.db.regimes.rows, x ∈ tx.db.regimes.rows ∨ (x.stamp.Fits ∧
      tx.db.checkReference x.paramsSnapshotId tx.db.hasParamSnapshot = .ok ()) := by
  -- only regimes change along the run, so the references are checked against one database
  have hinv := foldlM_invariant (P := fun t => t.db = { tx.db with regimes := t.db.regimes } ∧
    ∀ x ∈ t.db.regimes.rows, x ∈ tx.db.regimes.rows ∨ (x.stamp.Fits ∧
      tx.db.checkReference x.paramsSnapshotId tx.db.hasParamSnapshot = .ok ())) ?_
    ⟨rfl, fun _ h => .inl h⟩ hrun
  · exact hinv.2
  intro row t t' ht hstep
  obtain ⟨hframe, ht⟩ := ht
  have hframe' : t'.db = { tx.db with regimes := t'.db.regimes } := by
    have := mergeRegime_db hstep
    rw [hframe] at this
    exact this
  refine ⟨hframe', ?_⟩
  obtain ⟨id, hlc, hid, hx, ⟨-, r, db, hr, hdb, rfl⟩ | ⟨old, -, -, r, db, hr, hdb, rfl⟩ |
    ⟨old, -, -, rfl⟩⟩ := mergeRegime_ok hstep
  · obtain ⟨-, hread⟩ := regimeVersion_ok hid hx hr
    obtain ⟨u, hu, href, rfl⟩ := insertRegime_ok_iff.mp hdb
    rw [hframe] at href
    intro x hxin
    rcases (Table.mem_insert? hu).mp hxin with hold | rfl
    · exact ht x hold
    · exact .inr ⟨Stamp.fits_of_readHlc hread, href⟩
  · obtain ⟨-, hread⟩ := regimeVersion_ok hid hx hr
    obtain ⟨_, href, hret⟩ := bind_eq_ok_iff.mp hdb
    cases hret
    rw [hframe] at href
    intro x hxin
    rcases Table.mem_replace hxin with hold | rfl
    · exact ht x hold
    · exact .inr ⟨Stamp.fits_of_readHlc hread, href⟩
  · exact ht

/-- A suggestion was there before, or it has come with a timestamp that fits. -/
theorem suggestions_origin {rows : List Json} {tx tx' : Tx}
    (hrun : rows.foldlM mergeSuggestion tx = .ok tx') :
    ∀ x ∈ tx'.db.suggestions.rows, x ∈ tx.db.suggestions.rows ∨ x.stamp.Fits := by
  refine foldlM_invariant (P := fun t => ∀ x ∈ t.db.suggestions.rows,
    x ∈ tx.db.suggestions.rows ∨ x.stamp.Fits) ?_ (fun _ h => .inl h) hrun
  intro row t t' ht hstep
  obtain ⟨id, hlc, hid, hx, ⟨-, r, c, db, hr, -, hdb, rfl⟩ | ⟨old, -, -, r, hr, rfl⟩ |
    ⟨old, -, -, rfl⟩⟩ := mergeSuggestion_ok hstep
  · obtain ⟨-, hread, -⟩ := suggestionVersion_ok hid hx hr
    obtain ⟨u, hu, rfl⟩ := insertSuggestion_ok_iff.mp hdb
    intro x hxin
    rcases (Table.mem_insert? hu).mp hxin with hold | rfl
    · exact ht x hold
    · exact .inr (Stamp.fits_of_readHlc hread)
  · obtain ⟨-, hread, -⟩ := suggestionVersion_ok hid hx hr
    intro x hxin
    rcases Table.mem_replace hxin with hold | rfl
    · exact ht x hold
    · exact .inr (Stamp.fits_of_readHlc hread)
  · exact ht

/-! A row of the result under the key of an extracted row is not one of `B`'s, which has none:
    it was merged, and so it fits. -/

section Necessary

variable {jsonReal : F64 → Option F64} {extractor : SqliteSyncExtractor} {since : Hlc}
  {A B : Database} {cs : ChangeSet} {tx : Tx}
  (hex : Extracted jsonReal extractor since A cs) (hfresh : FreshFor since A B)
  (run : MergeRun B cs tx) (hrec : Received extractor cs tx.db)
include hex run

/-- A parameter snapshot of the result was `B`'s, or it is one that changed on `A`. -/
theorem paramSnapshot_of_run {x : ParamSnapshotRow} (hx : x ∈ tx.db.paramSnapshots.rows) :
    x ∈ B.paramSnapshots.rows ∨
      (x.stamp.Fits ∧ ∃ s ∈ A.paramSnapshots.rows, ChangedSince since s.stamp ∧ s.id = x.id) := by
  rw [run.paramSnapshots_eq] at hx
  rcases paramSnapshots_origin run.paramSnapshots_run x hx with hB | ⟨hfits, j, hj, hv⟩
  · rw [run.afterOverrides_db] at hB
    exact .inl hB
  · rw [hex.paramSnapshots] at hj
    obtain ⟨s, hs, rfl⟩ := List.mem_map.mp hj
    obtain ⟨hsin, hsch⟩ := mem_extractedRows.mp hs
    have hid : x.id = s.id := paramSnapshotVersion_ok rfl hv
    exact .inr ⟨hfits, s, hsin, hsch, hid.symm⟩

theorem embeddingCounter_of_run {r : EmbeddingRow} (hr : r ∈ A.embeddings.rows)
    (hch : ChangedSince since r.stamp) : 0 ≤ r.stamp.hlcCounter.toInt := by
  have hj : embeddingJson extractor.syncConfig.includeEmbeddingText r ∈ cs.embeddings := by
    rw [hex.embeddings]
    exact List.mem_map.mpr ⟨r, mem_extractedRows.mpr ⟨hr, hch⟩, rfl⟩
  obtain ⟨t, t', ht⟩ := foldlM_mem_ok run.embeddings_run _ hj
  obtain ⟨_, _, hlc, -, -, hx, -⟩ := mergeEmbedding_ok ht
  exact counter_nonneg_of_extractHlc (carries_embeddingJson _ r) hx

include hfresh

/-- An extracted segment would have to be known to `B`. -/
theorem noSegment_of_run {r : SegmentRow} (hr : r ∈ A.segments.rows) :
    ¬ ChangedSince since r.stamp := by
  intro hch
  have hj : segmentJson extractor.syncConfig.includeContentActivities r ∈ cs.segments := by
    rw [hex.segments]
    exact List.mem_map.mpr ⟨r, mem_extractedRows.mpr ⟨hr, hch⟩, rfl⟩
  obtain ⟨k, v, ho, hc⟩ := segmentBank.run_absorbs (fun _ _ => trivial) trivial
    run.segments_run _ hj
  have hid : ∀ b, jsonStr (segmentJson b r) "id" = .ok r.id := by
    intro b
    cases b
    · rfl
    · rfl
  have hid' : jsonStr (segmentJson extractor.syncConfig.includeContentActivities r) "id"
      = .ok k := appendOffer_eq_some (fun _ => .error (.internal "")) ho
  have hk : r.id = k := Except.ok.inj ((hid _).symm.trans hid')
  have hknown := known_of_covers hc
  rw [run.afterSegments_db, ← hk, hfresh.segments r hr hch] at hknown
  nomatch hknown

/-- The first embedding without its text would have to be inserted. -/
theorem embeddingText_of_run : extractor.syncConfig.includeEmbeddingText = true ∨
    ∀ r ∈ A.embeddings.rows, ¬ ChangedSince since r.stamp := by
  cases htext : extractor.syncConfig.includeEmbeddingText with
  | true => exact .inl rfl
  | false =>
    refine .inr (fun r hr hch => ?_)
    have hmem := mem_extractedRows.mpr ⟨hr, hch⟩
    cases hrows : extractedRows EmbeddingRow.stamp since A.embeddings.rows with
    | nil =>
      rw [hrows] at hmem
      nomatch hmem
    | cons e es =>
      have he : e ∈ extractedRows EmbeddingRow.stamp since A.embeddings.rows := by
        rw [hrows]
        exact List.mem_cons_self
      obtain ⟨hein, hech⟩ := mem_extractedRows.mp he
      have hrun := run.embeddings_run
      rw [hex.embeddings, htext, hrows, List.map_cons, List.foldlM_cons] at hrun
      obtain ⟨t, ht, -⟩ := bind_eq_ok_iff.mp hrun
      obtain ⟨s, m, hlc, hs, hm, -, hcases⟩ := mergeEmbedding_ok ht
      have hseg : jsonStr (embeddingJson false e) "segment_id" = .ok e.segmentId := rfl
      have hmod : jsonStr (embeddingJson false e) "model_id" = .ok e.modelId := rfl
      rw [hseg] at hs
      rw [hmod] at hm
      cases hs
      cases hm
      have hfree : run.afterRegimes.db.embeddingAt e.segmentId e.modelId = none := by
        rw [run.afterRegimes_db]
        exact hfresh.embeddings e hein hech
      rcases hcases with ⟨-, v, hv, -⟩ | ⟨old, hold, -⟩ | ⟨old, hold, -⟩
      · exact embeddingVersion_without_text e v hv
      · rw [hfree] at hold
        nomatch hold
      · rw [hfree] at hold
        nomatch hold

include hrec

/-- A regime that is received fits, and its snapshot is there by then. -/
theorem regime_of_received {r : RegimeRow} (hr : r ∈ A.regimes.rows)
    (hch : ChangedSince since r.stamp) :
    r.stamp.Fits ∧ run.afterParamSnapshots.db.checkReference r.paramsSnapshotId
      run.afterParamSnapshots.db.hasParamSnapshot = .ok () := by
  obtain ⟨j, hj, hrj⟩ := exists_of_forall₂_left hex.regimes (mem_extractedRows.mpr ⟨hr, hch⟩)
  obtain ⟨x, hxin, hxj⟩ := hrec.regimes j hj
  rw [regimeJson_eq_some hrj] at hxj
  have hid : x.id = r.id := Json.str.inj (Option.some.inj (congrArg (fun v => v.get "id") hxj))
  have href : x.paramsSnapshotId = r.paramsSnapshotId := by
    have hsent : ∀ r d i, jsonStrOpt (regimeObject r d i) "params_snapshot_id"
        = r.paramsSnapshotId := fun r d i => jsonStrOpt_of_get rfl
    have hget := congrArg (fun v => jsonStrOpt v "params_snapshot_id") hxj
    exact (hsent x _ _).symm.trans (hget.trans (hsent r _ _))
  have hstamp : x.stamp = r.stamp :=
    (carries_regimeObject x _ _).stamp_eq (carries_regimeObject r _ _) hxj
  rw [run.regimes_eq] at hxin
  rcases regimes_origin run.regimes_run x hxin with hB | ⟨hfits, hcheck⟩
  · rw [run.afterParamSnapshots_db] at hB
    exact absurd hid (Table.find?_eq_none_iff.mp (hfresh.regimes r hr hch) x hB)
  · rw [hstamp] at hfits
    rw [href] at hcheck
    exact ⟨hfits, hcheck⟩

/-- An override that is received fits. -/
theorem override_fits_of_received {r : OverrideRow} (hr : r ∈ A.overrides.rows)
    (hch : ChangedSince since r.stamp) : r.stamp.Fits := by
  have hj : overrideJson r ∈ cs.overrides := by
    rw [hex.overrides]
    exact List.mem_map.mpr ⟨r, mem_extractedRows.mpr ⟨hr, hch⟩, rfl⟩
  obtain ⟨x, hxin, hxj⟩ := hrec.overrides _ hj
  have hid : x.overrideId = r.overrideId :=
    Json.str.inj (Option.some.inj (congrArg (fun v => v.get "override_id") hxj))
  have hstamp : x.stamp = r.stamp :=
    (carries_overrideJson x).stamp_eq (carries_overrideJson r) hxj
  rw [run.overrides_eq] at hxin
  rcases overrides_origin run.overrides_run x hxin with hB | hfits
  · rw [run.afterSegments_db] at hB
    exact absurd hid (Table.find?_eq_none_iff.mp (hfresh.overrides r hr hch) x hB)
  · exact hstamp ▸ hfits

/-- A suggestion that is received fits. -/
theorem suggestion_fits_of_received {r : SuggestionRow} (hr : r ∈ A.suggestions.rows)
    (hch : ChangedSince since r.stamp) : r.stamp.Fits := by
  obtain ⟨j, hj, hrj⟩ := exists_of_forall₂_left hex.suggestions (mem_extractedRows.mpr ⟨hr, hch⟩)
  obtain ⟨x, hxin, hxj⟩ := hrec.suggestions j hj
  rw [suggestionJson_eq_some hrj] at hxj
  have hid : x.suggestionId = r.suggestionId :=
    Json.str.inj (Option.some.inj (congrArg (fun v => v.get "suggestion_id") hxj))
  have hstamp : x.stamp = r.stamp :=
    (carries_suggestionObject x _ _).stamp_eq (carries_suggestionObject r _ _) hxj
  rw [run.suggestions_eq] at hxin
  rcases suggestions_origin run.suggestions_run x hxin with hB | hfits
  · rw [run.afterEmbeddings_db] at hB
    exact absurd hid (Table.find?_eq_none_iff.mp (hfresh.suggestions r hr hch) x hB)
  · exact hstamp ▸ hfits

theorem paramSnapshot_fits_of_received {r : ParamSnapshotRow} (hr : r ∈ A.paramSnapshots.rows)
    (hch : ChangedSince since r.stamp) : r.stamp.Fits := by
  have hj : paramSnapshotJson r ∈ cs.paramSnapshots := by
    rw [hex.paramSnapshots]
    exact List.mem_map.mpr ⟨r, mem_extractedRows.mpr ⟨hr, hch⟩, rfl⟩
  obtain ⟨x, hxin, hxj⟩ := hrec.paramSnapshots _ hj
  have hid : x.id = r.id := Json.str.inj (Option.some.inj (congrArg (fun v => v.get "id") hxj))
  have hstamp : x.stamp = r.stamp :=
    (carries_paramSnapshotJson x).stamp_eq (carries_paramSnapshotJson r) hxj
  rcases paramSnapshot_of_run hex run hxin with hB | ⟨hfits, -⟩
  · exact absurd hid (Table.find?_eq_none_iff.mp (hfresh.paramSnapshots r hr hch) x hB)
  · exact hstamp ▸ hfits

/-- The snapshot of a received regime was there, or has come with it. -/
theorem reference_of_received (hfk : B.foreignKeys = true) {r : RegimeRow}
    (hr : r ∈ A.regimes.rows) (hch : ChangedSince since r.stamp) {p : String}
    (hp : r.paramsSnapshotId = some p) : B.hasParamSnapshot p = true ∨
      ∃ s ∈ A.paramSnapshots.rows, ChangedSince since s.stamp ∧ s.id = p := by
  obtain ⟨-, hcheck⟩ := regime_of_received hex hfresh run hrec hr hch
  rw [checkReference_ok_iff] at hcheck
  have hhas := hcheck (by rw [run.afterParamSnapshots_db]; exact hfk) p hp
  obtain ⟨x, hx⟩ := Option.isSome_iff_exists.mp hhas
  obtain ⟨hxin, hxp⟩ := Table.find?_eq_some_iff.mp hx
  rw [← run.paramSnapshots_eq] at hxin
  rcases paramSnapshot_of_run hex run hxin with hB | ⟨-, s, hs, hsch, hsid⟩
  · left
    rw [Database.hasParamSnapshot, Table.find?_eq_some_iff.mpr ⟨hB, hxp⟩]
    rfl
  · exact .inr ⟨s, hs, hsch, hsid.trans hxp⟩

/-- **The condition is necessary**: what was accepted and arrived was transferable. -/
theorem transferable_of_received : Transferable extractor since A B where
  noSegment := fun _ hr => noSegment_of_run hex hfresh run hr
  embeddingText := embeddingText_of_run hex hfresh run
  embeddingCounter := fun _ hr hch => embeddingCounter_of_run hex run hr hch
  regimes := fun _ hr hch => (regime_of_received hex hfresh run hrec hr hch).1
  overrides := fun _ hr hch => override_fits_of_received hex hfresh run hrec hr hch
  suggestions := fun _ hr hch => suggestion_fits_of_received hex hfresh run hrec hr hch
  paramSnapshots := fun _ hr hch => paramSnapshot_fits_of_received hex hfresh run hrec hr hch
  references := fun hfk _ hr hch _ hp => reference_of_received hex hfresh run hrec hfk hr hch hp

end Necessary

/-- **The extractor and the merger agree exactly on the transferable databases**: the extracted
    changeset is accepted by another device without those keys, and every segment, regime,
    override, suggestion and parameter snapshot arrives with its extracted values, if and only if
    the condition holds. -/
theorem transfer_iff {jsonReal : F64 → Option F64} {extractor : SqliteSyncExtractor} {since : Hlc}
    {A A' B : Database} {me : String} {cs : ChangeSet}
    (hextract : extractor.getChangesSince jsonReal since A = (.ok cs, A'))
    (hother : extractor.deviceId ≠ me)
    (hfresh : FreshFor since (backfillOriginDeviceId extractor.deviceId A) B) :
    (∃ r B', applyChanges me cs B = (.ok r, B') ∧ Received extractor cs B') ↔
      Transferable extractor since (backfillOriginDeviceId extractor.deviceId A) B := by
  obtain ⟨rfl, hex⟩ := getChangesSince_ok hextract
  have horigin : cs.originDeviceId ≠ me := by
    rw [hex.origin]
    exact hother
  constructor
  · rintro ⟨r, B', happly, hrec⟩
    rcases applyChanges_data_ok hex.kind happly with ⟨hself, -⟩ | ⟨-, tx, htx, -, rfl⟩
    · exact absurd hself horigin
    · obtain ⟨run⟩ := mergeAll_ok htx
      exact transferable_of_received hex hfresh run hrec
  · intro hcond
    obtain ⟨tx, htx, hrec⟩ := received_of_transferable hex hfresh hcond
    exact ⟨_, tx.db, applyChanges_merged hex.kind horigin htx, hrec⟩

/-- A parameter snapshot of device `a`. -/
def sampleSnapshotRow : ParamSnapshotRow :=
  { id := "p", createdAt := "t", preset := "balanced", paramsJson := "\x7b\x7d",
    stamp := ⟨5, 0, "a"⟩ }

/-- A device with one parameter snapshot. -/
def snapshotDatabase : Database :=
  { Database.empty true with paramSnapshots := ⟨[sampleSnapshotRow], by decide⟩ }

/-- Device `a`, with the default flags. -/
def sampleExtractor : SqliteSyncExtractor := { deviceId := "a", deviceName := "A" }

/-- What device `a` sends when its parameter snapshot is new. -/
def snapshotExtract : ChangeSet :=
  { originDeviceId := "a", originDeviceName := "A", watermark := ⟨5, 0, "a"⟩,
    paramSnapshots := [paramSnapshotJson sampleSnapshotRow] }

/-- A parameter snapshot is received by an empty database. -/
theorem transfer_iff_snapshot :
    ∃ r B', applyChanges "b" snapshotExtract (Database.empty true) = (.ok r, B') ∧
      Received sampleExtractor snapshotExtract B' := by
  have hextract : sampleExtractor.getChangesSince some Hlc.default snapshotDatabase
      = (.ok snapshotExtract, backfillOriginDeviceId "a" snapshotDatabase) := by rfl
  have hfresh : FreshFor Hlc.default (backfillOriginDeviceId "a" snapshotDatabase)
      (Database.empty true) :=
    ⟨fun _ _ _ => rfl, fun _ _ _ => rfl, fun _ _ _ => rfl, fun _ _ _ => rfl, fun _ _ _ => rfl,
      fun _ _ _ => rfl⟩
  have hcond : Transferable sampleExtractor Hlc.default
      (backfillOriginDeviceId "a" snapshotDatabase) (Database.empty true) := by
    refine ⟨fun _ h => (nomatch h), .inr (fun _ h => (nomatch h)), fun _ h => (nomatch h),
      fun _ h => (nomatch h), fun _ h => (nomatch h), fun _ h => (nomatch h), ?_,
      fun _ _ h => (nomatch h)⟩
    intro r hr _
    obtain rfl : r = sampleSnapshotRow := List.mem_singleton.mp hr
    exact ⟨by decide, by decide, by decide⟩
  exact (transfer_iff hextract (by decide) hfresh).mpr hcond

/-- An activity segment of device `a`. -/
def sampleSegment : SegmentRow :=
  { id := "s", startTime := "t0", endTime := "t1", durationSecs := 60, triggerReason := "idle",
    dominantCategory := "dev", stamp := ⟨5, 0, "a"⟩ }

/-- A device with one activity segment. -/
def segmentDatabase : Database :=
  { Database.empty true with segments := ⟨[sampleSegment], by decide⟩ }

/-- What device `a` sends when its segment is new. -/
def segmentExtract : ChangeSet :=
  { originDeviceId := "a", originDeviceName := "A", watermark := ⟨5, 0, "a"⟩,
    segments := [segmentJson false sampleSegment] }

/-- A new segment is refused, and with it the whole changeset. -/
theorem segment_not_received :
    ¬ ∀ (jsonReal : F64 → Option F64) (extractor : SqliteSyncExtractor) (since : Hlc)
      (A A' B : Database) (me : String) (cs : ChangeSet),
      extractor.getChangesSince jsonReal since A = (.ok cs, A') → extractor.deviceId ≠ me →
      FreshFor since (backfillOriginDeviceId extractor.deviceId A) B →
      ∃ r B', applyChanges me cs B = (.ok r, B') ∧ Received extractor cs B' := by
  intro hall
  have hextract : sampleExtractor.getChangesSince some Hlc.default segmentDatabase
      = (.ok segmentExtract, backfillOriginDeviceId "a" segmentDatabase) := by rfl
  have hfresh : FreshFor Hlc.default (backfillOriginDeviceId "a" segmentDatabase)
      (Database.empty true) :=
    ⟨fun _ _ _ => rfl, fun _ _ _ => rfl, fun _ _ _ => rfl, fun _ _ _ => rfl, fun _ _ _ => rfl,
      fun _ _ _ => rfl⟩
  obtain ⟨r, B', happly, -⟩ := hall _ _ _ _ _ _ "b" _ hextract (by decide) hfresh
  have hrefused : (applyChanges "b" segmentExtract (Database.empty true)).1
      = .error (.storage
        "insert segment: NOT NULL constraint failed: activity_segments.trigger_reason") := by rfl
  rw [happly] at hrefused
  nomatch hrefused

end Oneshim
