/-
  Which embeddings survive a transfer?

  `embedding_vectors` may hold several rows under one `(segment_id, model_id)` — one per content
  type or text — but `merge_embedding` looks at the oldest of them only.  Seen through one key, a
  run over the incoming embeddings is a run of `headStore` (`run_embeddingsAt`): of several rows
  under one key the FIRST OF THE LATEST stays and the others are gone.

  `embeddings_received_iff` is the exact condition under which no embedding is lost that way, for
  every receiver: also one that refuses the changeset, and one that has rows of its own under a key.
-/
import Oneshim.Storage.Acceptance
import Oneshim.Storage.Convergence

namespace Oneshim

open Lib

/-- The key of an embedding. -/
def EmbeddingRow.key (r : EmbeddingRow) : String × String := (r.segmentId, r.modelId)

/-- The row a peer stores for an embedding, less its number. -/
def EmbeddingRow.received (r : EmbeddingRow) : EmbeddingRow :=
  { r with id := 0, stamp := r.stamp.truncated }

/-- The timestamp a stored embedding is compared by. -/
def EmbeddingRow.rank (r : EmbeddingRow) : Option Hlc := r.stamp.readHlc

/-- The timestamp an incoming embedding is compared by. -/
def EmbeddingRow.cutHlc (r : EmbeddingRow) : Hlc := r.stamp.cutHlc

theorem hasKey_key (r : EmbeddingRow) : hasKey r.key r = true := hasKey_iff.mpr rfl

/-! ## One key of the table, statement by statement -/

theorem head?_embeddingsAt (db : Database) (k : String × String) :
    (embeddingsAt db k).head? = (db.embeddings.first? (hasKey k)).map EmbeddingRow.columns := by
  rw [embeddingsAt, List.head?_map, List.head?_filter]
  rfl

variable {k : String × String}

/-- The rows under a key start with the row the merger looks at. -/
theorem embeddingsAt_of_first {db : Database} {old : EmbeddingRow}
    (hfirst : db.embeddings.first? (hasKey k) = some old) :
    ∃ rest, embeddingsAt db k = old.columns :: rest := by
  have hhead := head?_embeddingsAt db k
  rw [hfirst, Option.map_some] at hhead
  exact ⟨_, List.eq_cons_of_mem_head? hhead⟩

theorem embeddingsAt_insertEmbedding {db : Database} {r : EmbeddingRow} :
    embeddingsAt (db.insertEmbedding r) k
      = embeddingsAt db k ++ (if hasKey k r then [r.columns] else []) := by
  have hnew : hasKey k { r with id := db.embeddings.seq + 1 } = hasKey k r := rfl
  show ((db.embeddings.rows ++ [{ r with id := db.embeddings.seq + 1 }]).filter (hasKey k)).map
    EmbeddingRow.columns = _
  rw [List.filter_append, List.map_append, List.filter_singleton, hnew]
  cases hasKey k r with
  | true => rfl
  | false => rfl

/-- Overwriting the oldest row of its key replaces the head under that key and nothing else. -/
theorem embeddingsAt_updateEmbedding {db : Database} {r old : EmbeddingRow} (hr : hasKey k r = true)
    (hfirst : db.embeddings.first? (hasKey k) = some old) (k' : String × String) :
    embeddingsAt (db.updateEmbedding { r with id := old.id }) k'
      = if k' = k then r.columns :: (embeddingsAt db k).tail else embeddingsAt db k' := by
  have hold : old ∈ db.embeddings.rows := List.mem_of_find?_eq_some hfirst
  have hkold : hasKey k old = true := List.find?_some hfirst
  have hnew : hasKey k { r with id := old.id } = true := hr
  have hnum : EmbeddingRow.id { r with id := old.id } = old.id := rfl
  show ((db.embeddings.update { r with id := old.id }).rows.filter (hasKey k')).map
    EmbeddingRow.columns = _
  by_cases hk : k' = k
  · subst hk
    rw [if_pos rfl, SerialTable.filter_update_of_first hfirst hnum hnew, embeddingsAt,
      List.map_cons, List.map_tail]
    rfl
  · rw [if_neg hk, SerialTable.filter_update_of_not hold hnum (hasKey_eq_false hk hkold)
      (hasKey_eq_false hk hnew), embeddingsAt]

/-! ## A run over the incoming embeddings, seen through one key -/

variable {e : EmbeddingRow}

/-- Merging an extracted embedding inserts it, overwrites the oldest row of its key, or skips it. -/
theorem mergeEmbedding_received {tx tx' : Tx} (hw : 0 ≤ e.stamp.hlcWallMs.toInt)
    (hc : 0 ≤ e.stamp.hlcCounter.toInt) (h : mergeEmbedding tx (embeddingJson true e) = .ok tx') :
    (readable EmbeddingRow.stamp (tx.db.embeddings.first? (hasKey e.key)) = none ∧
      tx'.db = tx.db.insertEmbedding e.received) ∨
    ∃ old hlc, tx.db.embeddings.first? (hasKey e.key) = some old ∧ old.rank = some hlc ∧
      ((hlc < e.cutHlc ∧ tx'.db = tx.db.updateEmbedding { e.received with id := old.id }) ∨
       (e.cutHlc ≤ hlc ∧ tx'.db = tx.db)) := by
  have hv : embeddingVersion (embeddingJson true e) = .ok e.received :=
    embeddingVersion_embeddingJson hw hc
  obtain ⟨s, m, hlc, hs, hm, hx, hcases⟩ := mergeEmbedding_ok h
  obtain rfl : e.segmentId = s := Except.ok.inj hs
  obtain rfl : e.modelId = m := Except.ok.inj hm
  rw [extractHlc_of_carries (carries_embeddingJson true e) hw hc] at hx
  cases hx
  rcases hcases with ⟨hnone, v, hv', rfl⟩ | ⟨old, hold, hlt, v, hv', rfl⟩ | ⟨old, hold, hle, rfl⟩
  · rw [hv] at hv'
    cases hv'
    exact .inl ⟨hnone, rfl⟩
  · rw [hv] at hv'
    cases hv'
    obtain ⟨hfirst, hread⟩ := readable_eq_some_iff.mp hold
    exact .inr ⟨old.1, old.2, hfirst, hread, .inl ⟨hlt, rfl⟩⟩
  · obtain ⟨hfirst, hread⟩ := readable_eq_some_iff.mp hold
    exact .inr ⟨old.1, old.2, hfirst, hread, .inr ⟨hle, rfl⟩⟩

/-- **The step lemma**: merging an embedding stores it at the head of its key. -/
theorem mergeEmbedding_embeddingsAt {tx tx' : Tx} (hw : 0 ≤ e.stamp.hlcWallMs.toInt)
    (hc : 0 ≤ e.stamp.hlcCounter.toInt) (h : mergeEmbedding tx (embeddingJson true e) = .ok tx')
    (k : String × String) :
    embeddingsAt tx'.db k = if hasKey k e then
      headStore EmbeddingRow.rank (embeddingsAt tx.db k) e.cutHlc e.received
      else embeddingsAt tx.db k := by
  have hkey : hasKey e.key e.received = true := hasKey_key e
  by_cases hk : k = e.key
  · subst hk
    rw [if_pos (hasKey_key e)]
    rcases mergeEmbedding_received hw hc h with ⟨hnone, hdb⟩ | ⟨old, hlc, hfirst, hrank, hcases⟩
    · -- inserted: no row, or a row whose timestamp cannot be read
      rw [hdb, embeddingsAt_insertEmbedding, if_pos hkey]
      cases hat : tx.db.embeddings.first? (hasKey e.key) with
      | none =>
        have hhead := head?_embeddingsAt tx.db e.key
        rw [hat, Option.map_none, List.head?_eq_none_iff] at hhead
        rw [hhead]
        rfl
      | some x =>
        obtain ⟨rest, hlist⟩ := embeddingsAt_of_first hat
        have hunread : x.columns.rank = none := by
          rw [hat, readable, Option.bind_some, Option.map_eq_none_iff] at hnone
          exact hnone
        rw [hlist, headStore, hunread]
        rfl
    · obtain ⟨rest, hlist⟩ := embeddingsAt_of_first hfirst
      have hread : old.columns.rank = some hlc := hrank
      rcases hcases with ⟨hlt, hdb⟩ | ⟨hle, hdb⟩
      · -- overwritten: the oldest row is earlier
        rw [hdb, embeddingsAt_updateEmbedding hkey hfirst, if_pos rfl, hlist, headStore, hread]
        exact (if_pos hlt).symm
      · -- skipped: the oldest row is not earlier
        rw [hdb, hlist, headStore, hread]
        exact (if_neg (not_lt.mpr hle)).symm
  · rw [hasKey_eq_false hk (hasKey_key e)]
    have hne : hasKey k e.received = false := hasKey_eq_false hk hkey
    rcases mergeEmbedding_received hw hc h with ⟨-, hdb⟩ | ⟨old, -, hfirst, -, ⟨-, hdb⟩ | ⟨-, hdb⟩⟩
    · rw [hdb, embeddingsAt_insertEmbedding, hne]
      exact List.append_nil _
    · rw [hdb, embeddingsAt_updateEmbedding hkey hfirst, if_neg hk]
      rfl
    · rw [hdb]
      rfl

variable {es : List EmbeddingRow}

/-- **The run lemma**: a key holds what storing its embeddings one after the other leaves. -/
theorem run_embeddingsAt {tx tx' : Tx} (hw : ∀ e ∈ es, 0 ≤ e.stamp.hlcWallMs.toInt)
    (hc : ∀ e ∈ es, 0 ≤ e.stamp.hlcCounter.toInt)
    (hrun : (es.map (embeddingJson true)).foldlM mergeEmbedding tx = .ok tx') (k : String × String) :
    embeddingsAt tx'.db k = (es.filter (hasKey k)).foldl
      (fun l e => headStore EmbeddingRow.rank l e.cutHlc e.received)
      (embeddingsAt tx.db k) := by
  induction es generalizing tx with
  | nil =>
    cases hrun
    rfl
  | cons e es ih =>
    rw [List.map_cons, List.foldlM_cons] at hrun
    obtain ⟨t, ht, hrest⟩ := bind_eq_ok_iff.mp hrun
    have hstep := mergeEmbedding_embeddingsAt (hw e List.mem_cons_self) (hc e List.mem_cons_self)
      ht k
    rw [ih (fun x hx => hw x (List.mem_cons_of_mem _ hx))
      (fun x hx => hc x (List.mem_cons_of_mem _ hx)) hrest, hstep]
    cases hk : hasKey k e with
    | true => rw [List.filter_cons_of_pos hk, List.foldl_cons, if_pos rfl]
    | false =>
      rw [List.filter_cons_of_neg (by rw [hk]; exact Bool.false_ne_true)]
      rfl

/-- Without their texts no embedding is stored: the accepted ones were skipped. -/
theorem run_without_text {tx tx' : Tx}
    (hrun : (es.map (embeddingJson false)).foldlM mergeEmbedding tx = .ok tx') :
    tx'.db = tx.db := by
  refine foldlM_induction (P := fun _ t => t.db = tx.db) ?_ [] rfl hrun
  intro _ j t t' hj ht hstep
  obtain ⟨e, -, rfl⟩ := List.mem_map.mp hj
  obtain ⟨_, _, _, -, -, -, ⟨-, v, hv, -⟩ | ⟨old, -, -, v, hv, -⟩ | ⟨old, -, -, rfl⟩⟩ :=
    mergeEmbedding_ok hstep
  · exact absurd hv (embeddingVersion_without_text e v)
  · exact absurd hv (embeddingVersion_without_text e v)
  · exact ht

/-! ## Which embeddings stay -/

/-- `B` keeps the embedding `e` of the incoming `es`: it wins its key — or the key has a row whose
    timestamp cannot be read, and then everything is appended. -/
def Kept (B : Database) (es : List EmbeddingRow) (e : EmbeddingRow) : Prop :=
  (∃ r, B.embeddings.first? (hasKey e.key) = some r ∧ r.rank = none) ∨
  ((∀ r h, B.embeddings.first? (hasKey e.key) = some r → r.rank = some h → h < e.cutHlc) ∧
    (es.filter (hasKey e.key)).argmax EmbeddingRow.cutHlc = some e)

/-- What is found under a key afterwards: rows of `B`, and the embeddings kept. -/
theorem mem_run_embeddingsAt {tx tx' : Tx} (hw : ∀ e ∈ es, 0 ≤ e.stamp.hlcWallMs.toInt)
    (hc : ∀ e ∈ es, 0 ≤ e.stamp.hlcCounter.toInt)
    (hrun : (es.map (embeddingJson true)).foldlM mergeEmbedding tx = .ok tx') {x : EmbeddingRow}
    (hx : x ∈ embeddingsAt tx'.db k) :
    x ∈ embeddingsAt tx.db k ∨
      ∃ e ∈ es, e.key = k ∧ Kept tx.db es e ∧ x = e.received := by
  rw [run_embeddingsAt hw hc hrun k] at hx
  have hhead := head?_embeddingsAt tx.db k
  have hranks : ∀ e ∈ es.filter (hasKey k), e.received.rank = some e.cutHlc :=
    fun e he => Stamp.readHlc_truncated (hw e (List.mem_filter.mp he).1)
  have hkey : ∀ e ∈ es.filter (hasKey k), e ∈ es ∧ e.key = k := fun e he =>
    ⟨(List.mem_filter.mp he).1, hasKey_iff.mp (List.mem_filter.mp he).2⟩
  cases hlist : embeddingsAt tx.db k with
  | nil =>
    rw [hlist, List.head?_nil] at hhead
    have hfirst : tx.db.embeddings.first? (hasKey k) = none :=
      Option.map_eq_none_iff.mp hhead.symm
    rw [hlist, foldl_headStore_nil EmbeddingRow.rank EmbeddingRow.cutHlc EmbeddingRow.received hranks,
      Option.mem_toList] at hx
    obtain ⟨e, he, rfl⟩ := Option.map_eq_some_iff.mp hx
    obtain ⟨hin, rfl⟩ := hkey e (List.argmax_mem he)
    refine .inr ⟨e, hin, rfl, .inr ⟨?_, he⟩, rfl⟩
    intro r h hr
    rw [hfirst] at hr
    nomatch hr
  | cons r rest =>
    rw [hlist, List.head?_cons] at hhead
    obtain ⟨o, hfirst, hor⟩ := Option.map_eq_some_iff.mp hhead.symm
    have hrank : o.rank = r.rank := by rw [← hor]; rfl
    rw [hlist] at hx
    cases hr : r.rank with
    | none =>
      rw [foldl_headStore_unranked EmbeddingRow.rank EmbeddingRow.cutHlc EmbeddingRow.received hr] at hx
      rcases List.mem_append.mp hx with hold | hnew
      · exact .inl hold
      · obtain ⟨e, he, rfl⟩ := List.mem_map.mp hnew
        obtain ⟨hin, rfl⟩ := hkey e he
        exact .inr ⟨e, hin, rfl, .inl ⟨o, hfirst, by rw [hrank, hr]⟩, rfl⟩
    | some s =>
      rcases foldl_headStore_ranked EmbeddingRow.rank EmbeddingRow.cutHlc EmbeddingRow.received
        hranks hr rest with
        ⟨e, hmax, hlt, hfold⟩ | ⟨-, hfold⟩
      · rw [hfold] at hx
        rcases List.mem_cons.mp hx with rfl | hin
        · obtain ⟨hin, rfl⟩ := hkey e (List.argmax_mem hmax)
          refine .inr ⟨e, hin, rfl, .inr ⟨?_, hmax⟩, rfl⟩
          intro r' h' hr' hread'
          rw [hfirst] at hr'
          cases hr'
          rw [hrank, hr] at hread'
          cases hread'
          exact hlt
        · exact .inl (List.mem_cons_of_mem _ hin)
      · rw [hfold] at hx
        exact .inl hx

/-- What is kept is found under its key. -/
theorem received_mem_of_kept {tx tx' : Tx} (hw : ∀ e ∈ es, 0 ≤ e.stamp.hlcWallMs.toInt)
    (hc : ∀ e ∈ es, 0 ≤ e.stamp.hlcCounter.toInt)
    (hrun : (es.map (embeddingJson true)).foldlM mergeEmbedding tx = .ok tx') (he : e ∈ es)
    (hkept : Kept tx.db es e) :
    e.received ∈ embeddingsAt tx'.db e.key := by
  rw [run_embeddingsAt hw hc hrun e.key]
  have hhead := head?_embeddingsAt tx.db e.key
  have hranks : ∀ x ∈ es.filter (hasKey e.key),
      x.received.rank = some x.cutHlc :=
    fun x hx => Stamp.readHlc_truncated (hw x (List.mem_filter.mp hx).1)
  cases hlist : embeddingsAt tx.db e.key with
  | nil =>
    rw [hlist, List.head?_nil] at hhead
    have hfirst : tx.db.embeddings.first? (hasKey e.key) = none :=
      Option.map_eq_none_iff.mp hhead.symm
    rcases hkept with ⟨r, hr, -⟩ | ⟨-, hmax⟩
    · rw [hfirst] at hr
      nomatch hr
    · rw [foldl_headStore_nil EmbeddingRow.rank EmbeddingRow.cutHlc EmbeddingRow.received hranks, hmax]
      exact List.mem_singleton.mpr rfl
  | cons r rest =>
    rw [hlist, List.head?_cons] at hhead
    obtain ⟨o, hfirst, hor⟩ := Option.map_eq_some_iff.mp hhead.symm
    have hrank : o.rank = r.rank := by rw [← hor]; rfl
    cases hr : r.rank with
    | none =>
      rw [foldl_headStore_unranked EmbeddingRow.rank EmbeddingRow.cutHlc EmbeddingRow.received hr]
      exact List.mem_append_right _ (List.mem_map.mpr
        ⟨e, List.mem_filter.mpr ⟨he, hasKey_key e⟩, rfl⟩)
    | some s =>
      rcases hkept with ⟨r', hr', hnone⟩ | ⟨hbeat, hmax⟩
      · rw [hfirst] at hr'
        cases hr'
        rw [hrank, hr] at hnone
        nomatch hnone
      · have hlt : s < e.cutHlc := hbeat o s hfirst (by rw [hrank, hr])
        rcases foldl_headStore_ranked EmbeddingRow.rank EmbeddingRow.cutHlc EmbeddingRow.received
          hranks hr rest with ⟨c, hmax', -, hfold⟩ | ⟨hnot, -⟩
        · rw [hmax] at hmax'
          cases hmax'
          rw [hfold]
          exact List.mem_cons_self
        · exact absurd hlt (hnot e hmax)

/-! ## No embedding is lost -/

/-- The two rows hold the same vector of the same content type for the same segment. -/
def SameEmbedding (x e : EmbeddingRow) : Prop :=
  x.vector = e.vector ∧ x.contentType = e.contentType ∧ x.segmentId = e.segmentId

theorem mem_embeddingsAt_iff {db : Database} {c : EmbeddingRow} :
    c ∈ embeddingsAt db k ↔ ∃ x ∈ db.embeddings.rows, x.key = k ∧ x.columns = c := by
  simp only [embeddingsAt, List.mem_map, List.mem_filter, hasKey_iff, and_assoc]
  exact Iff.rfl

section Arrival

variable {jsonReal : F64 → Option F64} {extractor : SqliteSyncExtractor} {since : Hlc}
  {A B : Database} {cs : ChangeSet} {tx : Tx}

theorem MergeRun.kept_iff (run : MergeRun B cs tx) :
    Kept run.afterRegimes.db es e ↔ Kept B es e := by
  unfold Kept
  rw [run.embeddings_before]

theorem Acceptable.extractedCounters (hacc : Acceptable since A B) :
    ∀ e ∈ extractedRows EmbeddingRow.stamp since A.embeddings.rows,
      0 ≤ e.stamp.hlcCounter.toInt := by
  intro e he
  obtain ⟨hin, hch⟩ := mem_extractedRows.mp he
  exact hacc.embeddingCounters e hin hch

variable (hex : Extracted jsonReal extractor since A cs) (run : MergeRun B cs tx)
include hex run

/-- Without the texts nothing arrives. -/
theorem text_of_arrived {e x : EmbeddingRow} (hx : x ∈ tx.db.embeddings.rows)
    (hsame : SameEmbedding x e) (hwithout : ∀ y ∈ B.embeddings.rows, ¬ SameEmbedding y e) :
    extractor.syncConfig.includeEmbeddingText = true := by
  cases htext : extractor.syncConfig.includeEmbeddingText with
  | true => rfl
  | false =>
    have hrun := run.embeddings_run
    rw [hex.embeddings, htext] at hrun
    rw [run.embeddings_eq, run_without_text hrun, run.embeddings_before] at hx
    exact absurd hsame (hwithout x hx)

variable (htext : extractor.syncConfig.includeEmbeddingText = true) (hacc : Acceptable since A B)
include htext hacc

/-- What arrives and was not there is kept. -/
theorem kept_of_arrived {e x : EmbeddingRow} (hx : x ∈ tx.db.embeddings.rows)
    (hsame : SameEmbedding x e) (hwithout : ∀ y ∈ B.embeddings.rows, ¬ SameEmbedding y e) :
    ∃ e' ∈ extractedRows EmbeddingRow.stamp since A.embeddings.rows, SameEmbedding e' e ∧
      Kept B (extractedRows EmbeddingRow.stamp since A.embeddings.rows) e' := by
  have hrun := run.embeddings_run
  rw [hex.embeddings, htext] at hrun
  rw [run.embeddings_eq] at hx
  rcases mem_run_embeddingsAt (fun _ he => wall_nonneg_of_mem hex he) hacc.extractedCounters hrun
    (mem_embeddingsAt_iff.mpr ⟨x, hx, rfl, rfl⟩) with hB | ⟨e', he', -, hkept, hcols⟩
  · obtain ⟨y, hy, -, hyx⟩ := mem_embeddingsAt_iff.mp hB
    rw [run.embeddings_before] at hy
    have hysame : SameEmbedding y.columns e := by
      rw [hyx]
      exact hsame
    exact absurd hysame (hwithout y hy)
  · refine ⟨e', he', ?_, run.kept_iff.mp hkept⟩
    show SameEmbedding e'.received e
    rw [← hcols]
    exact hsame

/-- What is kept arrives. -/
theorem arrived_of_kept (he : e ∈ extractedRows EmbeddingRow.stamp since A.embeddings.rows)
    (hkept : Kept B (extractedRows EmbeddingRow.stamp since A.embeddings.rows) e) :
    ∃ x ∈ tx.db.embeddings.rows, x.columns = e.received := by
  have hrun := run.embeddings_run
  rw [hex.embeddings, htext] at hrun
  have hmem := received_mem_of_kept (fun _ he => wall_nonneg_of_mem hex he)
    hacc.extractedCounters hrun he (run.kept_iff.mpr hkept)
  obtain ⟨x, hx, -, hcols⟩ := mem_embeddingsAt_iff.mp hmem
  rw [← run.embeddings_eq] at hx
  exact ⟨x, hx, hcols⟩

end Arrival

/-- **Which embeddings arrive**: for every receiver that has none of the extracted embeddings, all
    of them are there afterwards if and only if there was none to send, or the texts are included,
    the changeset is acceptable, and every one of them equals one that is kept. -/
theorem embeddings_received_iff {jsonReal : F64 → Option F64} {extractor : SqliteSyncExtractor}
    {since : Hlc} {A A' B : Database} {me : String} {cs : ChangeSet}
    (hextract : extractor.getChangesSince jsonReal since A = (.ok cs, A'))
    (hother : extractor.deviceId ≠ me)
    (hwithout : ∀ e ∈ extractedRows EmbeddingRow.stamp since A'.embeddings.rows,
      ∀ x ∈ B.embeddings.rows, ¬ SameEmbedding x e) :
    (∀ e ∈ extractedRows EmbeddingRow.stamp since A'.embeddings.rows,
      ∃ x ∈ (applyChanges me cs B).2.embeddings.rows, SameEmbedding x e) ↔
    (∀ r ∈ A'.embeddings.rows, ¬ ChangedSince since r.stamp) ∨
    (extractor.syncConfig.includeEmbeddingText = true ∧ Acceptable since A' B ∧
      ∀ e ∈ extractedRows EmbeddingRow.stamp since A'.embeddings.rows,
        ∃ e' ∈ extractedRows EmbeddingRow.stamp since A'.embeddings.rows, SameEmbedding e' e ∧
          Kept B (extractedRows EmbeddingRow.stamp since A'.embeddings.rows) e') := by
  obtain ⟨-, hex⟩ := getChangesSince_ok hextract
  have horigin : cs.originDeviceId ≠ me := by
    rw [hex.origin]
    exact hother
  constructor
  · intro hall
    by_cases hnone : ∀ r ∈ A'.embeddings.rows, ¬ ChangedSince since r.stamp
    · exact .inl hnone
    right
    push Not at hnone
    obtain ⟨r, hr, hch⟩ := hnone
    have hre := mem_extractedRows.mpr ⟨hr, hch⟩
    -- some embedding arrived, so the changeset was merged
    have hmerged : ∃ tx, mergeAll B cs = .ok tx := by
      cases hm : mergeAll B cs with
      | ok tx => exact ⟨tx, rfl⟩
      | error e =>
        obtain ⟨x, hx, hsame⟩ := hall r hre
        rw [applyChanges_rejected hex.kind horigin hm] at hx
        exact absurd hsame (hwithout r hre x hx)
    obtain ⟨tx, htx⟩ := hmerged
    rw [applyChanges_merged hex.kind horigin htx] at hall
    obtain ⟨run⟩ := mergeAll_ok htx
    obtain ⟨x, hx, hsame⟩ := hall r hre
    have htext := text_of_arrived hex run hx hsame (hwithout r hre)
    have hacc := (mergeAll_accepts_iff hex htext).mp ⟨tx, htx⟩
    refine ⟨htext, hacc, ?_⟩
    intro e he
    obtain ⟨x, hx, hsame⟩ := hall e he
    exact kept_of_arrived hex run htext hacc hx hsame (hwithout e he)
  · rintro (hnone | ⟨htext, hacc, hkept⟩) e he
    · exact absurd (mem_extractedRows.mp he).2 (hnone e (mem_extractedRows.mp he).1)
    · obtain ⟨tx, htx⟩ := (mergeAll_accepts_iff hex htext).mpr hacc
      obtain ⟨run⟩ := mergeAll_ok htx
      obtain ⟨e', he', hsame, hk⟩ := hkept e he
      obtain ⟨x, hx, hcols⟩ := arrived_of_kept hex run htext hacc he' hk
      rw [applyChanges_merged hex.kind horigin htx]
      refine ⟨x, hx, ?_⟩
      show SameEmbedding x.columns e
      rw [hcols]
      exact hsame

/-- Device `a`, with embedding texts. -/
def textExtractor : SqliteSyncExtractor :=
  { deviceId := "a", deviceName := "A", syncConfig := { includeEmbeddingText := true } }

/-- An embedding of a segment's summary. -/
def summaryEmbedding : EmbeddingRow :=
  { id := 1, segmentId := "seg", contentType := "segment_summary", originalText := "wrote code",
    vector := [1], modelId := "model", timestamp := "t", stamp := ⟨5, 0, "a"⟩ }

/-- An embedding of an activity in the same segment, by the same model. -/
def activityEmbedding : EmbeddingRow :=
  { id := 2, segmentId := "seg", contentType := "content_activity", originalText := "edited a file",
    vector := [2], modelId := "model", timestamp := "t", stamp := ⟨6, 0, "a"⟩ }

/-- A device with the summary only. -/
def summaryDatabase : Database := (Database.empty true).insertEmbedding summaryEmbedding

/-- A device with both embeddings. -/
def twoEmbeddingsDatabase : Database := summaryDatabase.insertEmbedding activityEmbedding

/-- What device `a` sends of the summary. -/
def summaryExtract : ChangeSet :=
  { originDeviceId := "a", originDeviceName := "A", watermark := ⟨5, 0, "a"⟩,
    embeddings := [embeddingJson true summaryEmbedding] }

/-- The summary of a segment is received. -/
theorem embeddings_received_iff_summary :
    ∃ x ∈ (applyChanges "b" summaryExtract (Database.empty true)).2.embeddings.rows,
      SameEmbedding x summaryEmbedding := by
  have hextract : textExtractor.getChangesSince some Hlc.default summaryDatabase
      = (.ok summaryExtract, backfillOriginDeviceId "a" summaryDatabase) := by rfl
  have hacc : Acceptable Hlc.default (backfillOriginDeviceId "a" summaryDatabase)
      (Database.empty true) := by
    refine ⟨fun _ h => (nomatch h), fun _ h => (nomatch h), fun _ h => (nomatch h),
      fun _ h => (nomatch h), fun _ h => (nomatch h), fun _ _ h => (nomatch h), ?_,
      fun _ h => (nomatch h)⟩
    intro r hr _
    obtain rfl : r = summaryEmbedding := List.mem_singleton.mp hr
    decide
  refine (embeddings_received_iff hextract (by decide) ?_).mpr (.inr ⟨rfl, hacc, ?_⟩)
    summaryEmbedding List.mem_cons_self
  · intro e _ x hx
    nomatch hx
  · intro e he
    obtain rfl : e = summaryEmbedding := List.mem_singleton.mp he
    refine ⟨summaryEmbedding, List.mem_singleton.mpr rfl, ⟨rfl, rfl, rfl⟩, .inr ⟨?_, rfl⟩⟩
    intro r h hr
    nomatch hr

/-- Of two embeddings of one segment and model only the later one arrives. -/
theorem summary_embedding_lost :
    ¬ ∀ (jsonReal : F64 → Option F64) (extractor : SqliteSyncExtractor) (since : Hlc)
      (A A' B : Database) (me : String) (cs : ChangeSet),
      extractor.getChangesSince jsonReal since A = (.ok cs, A') → extractor.deviceId ≠ me →
      (∀ e ∈ extractedRows EmbeddingRow.stamp since A'.embeddings.rows,
        ∀ x ∈ B.embeddings.rows, ¬ SameEmbedding x e) →
      ∀ e ∈ extractedRows EmbeddingRow.stamp since A'.embeddings.rows,
        ∃ x ∈ (applyChanges me cs B).2.embeddings.rows, SameEmbedding x e := by
  intro hall
  have hextract : textExtractor.getChangesSince some Hlc.default twoEmbeddingsDatabase
      = (.ok { originDeviceId := "a", originDeviceName := "A", watermark := ⟨6, 0, "a"⟩,
               embeddings := [embeddingJson true summaryEmbedding,
                 embeddingJson true activityEmbedding] },
        backfillOriginDeviceId "a" twoEmbeddingsDatabase) := by rfl
  obtain ⟨x, hx, hsame⟩ := hall _ _ _ _ _ (Database.empty true) "b" _ hextract (by decide)
    (fun _ _ _ h => (nomatch h)) summaryEmbedding
    (mem_extractedRows.mpr ⟨List.mem_cons_self, by decide⟩)
  obtain rfl : x = { activityEmbedding with id := 1 } := List.mem_singleton.mp hx
  nomatch hsame.2.1

end Oneshim
