/-
  Convergence of the last-writer-wins merge.

  Two replicas that accept the same changesets hold the same regimes and the same embeddings,
  whatever the order in which the changesets arrived and however often each of them did.  The
  argument is the one of `Lib.Register`: a run leaves in every register the latest version among
  those offered, and the set of offered versions is a property of the SET of changesets.

  A changeset is accepted or rejected as a whole, and whether it is accepted depends on what the
  database holds: a regime may refer to a parameter snapshot that has not arrived yet, and a row
  that would lose is never decoded.  So convergence is a statement about runs in which every
  changeset is ACCEPTED; `deliverAll_diverges` shows two orders that differ because one of them
  rejects.
-/
import Oneshim.Storage.ApplySpec
import Oneshim.Storage.SyncExtractor

namespace Oneshim

open Lib

/-- Apply changesets one after the other; the first rejection ends the run. -/
def applyAll (me : String) (db : Database) (css : List ChangeSet) : Except CoreError Database :=
  css.foldlM (fun db cs =>
    match applyChanges me cs db with
    | (.ok _, db') => .ok db'
    | (.error e, _) => .error e) db

/-- Apply changesets one after the other; a rejected one leaves the database as it is. -/
def deliverAll (me : String) (db : Database) (css : List ChangeSet) : Database :=
  css.foldl (fun db cs => (applyChanges me cs db).2) db

/-- The changesets a device merges: the data changesets of others. -/
def Foreign (me : String) (cs : ChangeSet) : Prop := cs.originDeviceId ≠ me

/-! ## One accepted changeset -/

/-- A step of `applyAll` is an accepted application. -/
theorem applyStep_ok {me : String} {cs : ChangeSet} {db db' : Database}
    (h : (match applyChanges me cs db with
      | (.ok _, db') => Except.ok db'
      | (.error e, _) => .error e) = (.ok db' : Except CoreError Database)) :
    ∃ r, applyChanges me cs db = (.ok r, db') := by
  split at h
  case h_1 r d hr =>
    cases h
    exact ⟨r, hr⟩
  case h_2 => nomatch h

section Offers

variable {κ τ α : Type} [LinearOrder τ] [DecidableEq κ]

/-- The versions that the foreign ones among `css` offer to the register `k` of a table. -/
def offersTo (B : RegisterBank Tx Json κ τ α StorageError) (rowsOf : ChangeSet → List Json)
    (me : String) (css : List ChangeSet) (k : κ) : Set (τ × α) :=
  { v | ∃ cs ∈ css, Foreign me cs ∧ v ∈ B.offered (rowsOf cs) k }

theorem offersTo_nil (B : RegisterBank Tx Json κ τ α StorageError)
    (rowsOf : ChangeSet → List Json) (me : String) (k : κ) : offersTo B rowsOf me [] k = ∅ := by
  apply Set.ext
  intro v
  simp [offersTo]

/-- A changeset of another device adds what its rows offer. -/
theorem offersTo_append_foreign (B : RegisterBank Tx Json κ τ α StorageError)
    (rowsOf : ChangeSet → List Json) {me : String} {cs : ChangeSet} (hcs : Foreign me cs)
    (css : List ChangeSet) (k : κ) :
    offersTo B rowsOf me (css ++ [cs]) k
      = offersTo B rowsOf me css k ∪ B.offered (rowsOf cs) k := by
  apply Set.ext
  intro v
  simp only [offersTo, List.mem_append, List.mem_singleton, Set.mem_union, Set.mem_ofPred_eq]
  constructor
  · rintro ⟨c, hc | rfl, hf, h⟩
    · exact .inl ⟨c, hc, hf, h⟩
    · exact .inr h
  · rintro (⟨c, hc, hf, h⟩ | h)
    · exact ⟨c, .inl hc, hf, h⟩
    · exact ⟨cs, .inr rfl, hcs, h⟩

theorem offersTo_append_own (B : RegisterBank Tx Json κ τ α StorageError)
    (rowsOf : ChangeSet → List Json) {me : String} {cs : ChangeSet} (hcs : ¬ Foreign me cs)
    (css : List ChangeSet) (k : κ) :
    offersTo B rowsOf me (css ++ [cs]) k = offersTo B rowsOf me css k := by
  apply Set.ext
  intro v
  simp only [offersTo, List.mem_append, List.mem_singleton, Set.mem_ofPred_eq]
  constructor
  · rintro ⟨c, hc | rfl, hf, h⟩
    · exact ⟨c, hc, hf, h⟩
    · exact absurd hf hcs
  · rintro ⟨c, hc, h⟩
    exact ⟨c, .inl hc, h⟩

/-- The offers depend on the set of changesets, not on their order or multiplicity. -/
theorem offersTo_congr (B : RegisterBank Tx Json κ τ α StorageError)
    (rowsOf : ChangeSet → List Json) {me : String} {css css' : List ChangeSet}
    (hset : ∀ cs, cs ∈ css ↔ cs ∈ css') (k : κ) :
    offersTo B rowsOf me css k = offersTo B rowsOf me css' k := by
  apply Set.ext
  intro v
  simp only [offersTo, Set.mem_ofPred_eq, hset]

end Offers

/-- Every stored regime has a readable timestamp. -/
def RegimesReadable (db : Database) : Prop := ∀ r ∈ db.regimes.rows, ∃ h, r.stamp.readHlc = some h

/-- Every embedding has a readable timestamp, and no key is on two rows. -/
structure EmbeddingsKeyed (db : Database) : Prop where
  readable : ∀ r ∈ db.embeddings.rows, ∃ h, r.stamp.readHlc = some h
  nodup : (db.embeddings.rows.map (fun r => (r.segmentId, r.modelId))).Nodup

/-- A merged regime leaves readable timestamps. -/
theorem mergeRegime_readable {tx tx' : Tx} {row : Json} (hinv : RegimesReadable tx.db)
    (h : mergeRegime tx row = .ok tx') : RegimesReadable tx'.db := by
  obtain ⟨id, hlc, hid, hx, ⟨-, r, db, hr, hdb, rfl⟩ | ⟨old, -, -, r, db, hr, hdb, rfl⟩ |
    ⟨old, -, -, rfl⟩⟩ := mergeRegime_ok h
  · obtain ⟨-, hread⟩ := regimeVersion_ok hid hx hr
    obtain ⟨t, ht, -, rfl⟩ := insertRegime_ok_iff.mp hdb
    intro x hin
    rcases (Table.mem_insert? ht).mp hin with hold | rfl
    · exact hinv x hold
    · exact ⟨hlc, hread⟩
  · obtain ⟨-, hread⟩ := regimeVersion_ok hid hx hr
    rw [updateRegime_ok hdb]
    intro x hin
    rcases Table.mem_replace hin with hold | rfl
    · exact hinv x hold
    · exact ⟨hlc, hread⟩
  · exact hinv

theorem EmbeddingsKeyed.readableAt {db : Database} (h : EmbeddingsKeyed db) (k : String × String) :
    ReadableAt db k :=
  fun r hr => h.readable r (List.mem_of_find?_eq_some hr)

/-- A merged embedding takes a free key or overwrites the row that has it. -/
theorem mergeEmbedding_keyed {tx tx' : Tx} {row : Json} (hinv : EmbeddingsKeyed tx.db)
    (h : mergeEmbedding tx row = .ok tx') : EmbeddingsKeyed tx'.db := by
  obtain ⟨seg, model, hlc, hs, hm, hx, ⟨hnone, r, hr, rfl⟩ | ⟨old, hold, -, r, hr, rfl⟩ |
    ⟨old, -, -, rfl⟩⟩ := mergeEmbedding_ok h
  · obtain ⟨hkey, hread, -⟩ := embeddingVersion_ok hs hm hx hr
    have hfree := first?_eq_none_of_readableAt (hinv.readableAt _) hnone
    constructor
    · intro x hin
      rcases List.mem_append.mp hin with hin | hnew
      · exact hinv.readable x hin
      · rw [List.mem_singleton.mp hnew]
        exact ⟨hlc, hread⟩
    · show ((tx.db.embeddings.rows ++ [_]).map _).Nodup
      rw [List.map_append]
      refine hinv.nodup.append (List.nodup_singleton _) ?_
      intro k hk hnew
      obtain ⟨x, hxin, hxk⟩ := List.mem_map.mp hk
      have hkr : (r.segmentId, r.modelId) = k := (List.mem_singleton.mp hnew).symm
      have hxkey : hasKey (seg, model) x = true :=
        hasKey_iff.mpr (hxk.trans (hkr.symm.trans (hasKey_iff.mp hkey)))
      exact absurd hxkey (List.find?_eq_none.mp hfree x hxin)
  · obtain ⟨hkey, hread, -⟩ := embeddingVersion_ok hs hm hx hr
    have hfirst : tx.db.embeddings.first? (hasKey (seg, model)) = some old.1 :=
      (readable_eq_some_iff.mp hold).1
    constructor
    · intro x hin
      rcases SerialTable.mem_update hin with hin | rfl
      · exact hinv.readable x hin
      · exact ⟨hlc, hread⟩
    · -- the overwritten row keeps its key, so the keys of the table are the same list
      have hkeys : ((tx.db.embeddings.update { r with id := old.1.id }).rows.map
          (fun r => (r.segmentId, r.modelId)))
          = tx.db.embeddings.rows.map (fun r => (r.segmentId, r.modelId)) := by
        rw [SerialTable.rows_update, List.map_map]
        refine List.map_congr_left (fun x hxin => ?_)
        rw [Function.comp_apply]
        split
        case isTrue hid =>
          obtain rfl := SerialTable.eq_of_key_eq hxin (List.mem_of_find?_eq_some hfirst) hid
          exact (hasKey_iff.mp hkey).trans (hasKey_iff.mp (List.find?_some hfirst)).symm
        case isFalse => rfl
      show ((tx.db.embeddings.update { r with id := old.1.id }).rows.map _).Nodup
      rw [hkeys]
      exact hinv.nodup
  · exact hinv

/-! ## Runs of accepted changesets -/

/-- What a run of accepted changesets has established about the last-writer-wins tables. -/
structure Merged (me : String) (css : List ChangeSet) (db : Database) : Prop where
  regimesReadable : RegimesReadable db
  embeddingsKeyed : EmbeddingsKeyed db
  regimes : ∀ k, LatestOver none (offersTo regimeBank ChangeSet.regimes me css k)
    (regimeRegister db.regimes k)
  embeddings : ∀ k, LatestOver none
    (offersTo (embeddingBank Set.univ) ChangeSet.embeddings me css k)
    (embeddingRegister db.embeddings k)

theorem merged_empty (me : String) (fk : Bool) : Merged me [] (Database.empty fk) where
  regimesReadable := fun _ h => (nomatch h)
  embeddingsKeyed := ⟨fun _ h => (nomatch h), List.nodup_nil⟩
  regimes := fun k => by
    rw [offersTo_nil]
    exact latestOver_refl none
  embeddings := fun k => by
    rw [offersTo_nil]
    exact latestOver_refl none

/-- **The step lemma**: one more accepted changeset. -/
theorem Merged.step {me : String} {css : List ChangeSet} {cs : ChangeSet} {db db' : Database}
    {r : SyncResult} (hm : Merged me css db) (hkind : cs.kind = .data)
    (h : applyChanges me cs db = (.ok r, db')) : Merged me (css ++ [cs]) db' := by
  rcases applyChanges_data_ok hkind h with ⟨hself, -, rfl⟩ | ⟨hother, tx, htx, -, rfl⟩
  · -- this device's own changeset: nothing is offered and nothing moves
    have hown : ¬ Foreign me cs := fun hf => hf hself
    refine ⟨hm.regimesReadable, hm.embeddingsKeyed, fun k => ?_, fun k => ?_⟩
    · rw [offersTo_append_own _ _ hown]
      exact hm.regimes k
    · rw [offersTo_append_own _ _ hown]
      exact hm.embeddings k
  · obtain ⟨run⟩ := mergeAll_ok htx
    have hkeyed : EmbeddingsKeyed run.afterRegimes.db := by
      constructor
      · rw [run.embeddings_before]
        exact hm.embeddingsKeyed.readable
      · rw [run.embeddings_before]
        exact hm.embeddingsKeyed.nodup
    refine ⟨?_, ?_, fun k => ?_, fun k => ?_⟩
    · have hread : RegimesReadable run.afterParamSnapshots.db := by
        unfold RegimesReadable
        rw [run.regimes_before]
        exact hm.regimesReadable
      have hend := foldlM_invariant (P := fun t : Tx => RegimesReadable t.db)
        (fun _ _ _ ht hs => mergeRegime_readable ht hs) hread run.regimes_run
      unfold RegimesReadable at hend ⊢
      rw [run.regimes_eq]
      exact hend
    · have hend := foldlM_invariant (P := fun t : Tx => EmbeddingsKeyed t.db)
        (fun _ _ _ ht hs => mergeEmbedding_keyed ht hs) hkeyed run.embeddings_run
      constructor
      · rw [run.embeddings_eq]
        exact hend.readable
      · rw [run.embeddings_eq]
        exact hend.nodup
    · rw [offersTo_append_foreign _ _ hother, run.regimes_eq]
      have hbefore : LatestOver none (offersTo regimeBank ChangeSet.regimes me css k)
          (regimeBank.register run.afterParamSnapshots k) := by
        show LatestOver none _ (regimeRegister run.afterParamSnapshots.db.regimes k)
        rw [run.regimes_before]
        exact hm.regimes k
      exact regimeBank.run_latest (fun _ _ => trivial) trivial run.regimes_run hbefore
    · rw [offersTo_append_foreign _ _ hother, run.embeddings_eq]
      have hbefore : LatestOver none
          (offersTo (embeddingBank Set.univ) ChangeSet.embeddings me css k)
          ((embeddingBank Set.univ).register run.afterRegimes k) := by
        show LatestOver none _ (embeddingRegister run.afterRegimes.db.embeddings k)
        rw [run.embeddings_before]
        exact hm.embeddings k
      exact (embeddingBank Set.univ).run_latest (fun _ _ _ _ _ => trivial)
        (fun k _ => hkeyed.readableAt k) run.embeddings_run hbefore

/-- **The run lemma**: what holds after any run of accepted changesets on an empty database. -/
theorem merged_of_applyAll {me : String} {fk : Bool} {css : List ChangeSet} {db : Database}
    (hkind : ∀ cs ∈ css, cs.kind = .data)
    (h : applyAll me (Database.empty fk) css = .ok db) : Merged me css db := by
  have hrun := foldlM_induction (P := fun seen db => Merged me seen db)
    (fun seen cs db db' hcs hm hs => by
      obtain ⟨r, hr⟩ := applyStep_ok hs
      exact hm.step (hkind cs hcs) hr)
    [] (merged_empty me fk) h
  exact hrun

/-! ## The tables are determined by their registers -/

/-- A table of readable regimes is its register. -/
theorem find?_of_regimeRegister {db₁ db₂ : Database} (h₁ : RegimesReadable db₁)
    (h₂ : RegimesReadable db₂) {k : String}
    (h : regimeRegister db₁.regimes k = regimeRegister db₂.regimes k) :
    db₁.regimes.find? k = db₂.regimes.find? k := by
  have hreg : ∀ {db : Database}, RegimesReadable db →
      (regimeRegister db.regimes k).bind (fun v => v.2) = db.regimes.find? k := by
    intro db hread
    cases hf : db.regimes.find? k with
    | none => rw [regimeRegister, tableRegister, hf]; rfl
    | some r =>
      obtain ⟨hlc, hr⟩ := hread r (Table.find?_eq_some_iff.mp hf).1
      rw [regimeRegister, tableRegister, hf, Option.bind_some, hr]
      rfl
  rw [← hreg h₁, ← hreg h₂, h]

/-- The synced columns of the rows under an embedding key. -/
def embeddingsAt (db : Database) (k : String × String) : List EmbeddingRow :=
  (db.embeddings.rows.filter (hasKey k)).map EmbeddingRow.columns

/-- Under distinct keys a filter finds what a search finds. -/
theorem filter_hasKey_eq {rows : List EmbeddingRow}
    (hnd : (rows.map (fun r => (r.segmentId, r.modelId))).Nodup) (k : String × String) :
    rows.filter (hasKey k) = (rows.find? (hasKey k)).toList := by
  induction rows with
  | nil => rfl
  | cons x xs ih =>
    rw [List.map_cons, List.nodup_cons] at hnd
    by_cases hx : hasKey k x = true
    · have hrest : xs.filter (hasKey k) = [] := by
        refine List.filter_eq_nil_iff.mpr (fun y hy hyk => ?_)
        exact hnd.1 (List.mem_map.mpr ⟨y, hy, (hasKey_iff.mp hyk).trans (hasKey_iff.mp hx).symm⟩)
      rw [List.filter_cons_of_pos hx, hrest, List.find?_cons_of_pos hx]
      rfl
    · rw [List.filter_cons_of_neg hx, List.find?_cons_of_neg hx]
      exact ih hnd.2

/-- A table of keyed embeddings is its register. -/
theorem embeddingsAt_of_register {db₁ db₂ : Database} (h₁ : EmbeddingsKeyed db₁)
    (h₂ : EmbeddingsKeyed db₂) {k : String × String}
    (h : embeddingRegister db₁.embeddings k = embeddingRegister db₂.embeddings k) :
    embeddingsAt db₁ k = embeddingsAt db₂ k := by
  have hreg : ∀ {db : Database}, EmbeddingsKeyed db →
      ((embeddingRegister db.embeddings k).bind (fun v => v.2)).toList = embeddingsAt db k := by
    intro db hk
    rw [embeddingsAt, filter_hasKey_eq hk.nodup]
    cases hf : db.embeddings.rows.find? (hasKey k) with
    | none => rw [embeddingRegister, SerialTable.first?, hf]; rfl
    | some r =>
      obtain ⟨hlc, hr⟩ := hk.readable r (List.mem_of_find?_eq_some hf)
      rw [embeddingRegister, SerialTable.first?, hf, Option.bind_some, hr]
      rfl
  rw [← hreg h₁, ← hreg h₂, h]

/-! ## Convergence -/

/-- Two offers that meet in a register and tie there offer the same version. -/
def OffersAgree {κ τ α : Type} (o o' : Option (κ × τ × α)) : Prop :=
  ∀ k v v', o = some (k, v) → o' = some (k, v') → v.1 = v'.1 → v = v'

instance {κ τ α : Type} [DecidableEq κ] [DecidableEq τ] [DecidableEq α]
    (o o' : Option (κ × τ × α)) : Decidable (OffersAgree o o') :=
  match o, o' with
  | none, _ => isTrue (fun _ _ _ h => (nomatch h))
  | some _, none => isTrue (fun _ _ _ _ h => (nomatch h))
  | some (k, v), some (k', v') =>
    decidable_of_iff (k = k' → v.1 = v'.1 → v = v') (by
      constructor
      · intro h j w w' hw hw'
        cases hw
        cases hw'
        exact h rfl
      · rintro h rfl
        exact h k v v' rfl rfl)

/-- No two incoming rows of one key carry the same timestamp and differ as versions. -/
structure DistinctTimestamps (css : List ChangeSet) : Prop where
  regimes : ∀ cs ∈ css, ∀ cs' ∈ css, ∀ row ∈ cs.regimes, ∀ row' ∈ cs'.regimes,
    OffersAgree (regimeOffer row) (regimeOffer row')
  embeddings : ∀ cs ∈ css, ∀ cs' ∈ css, ∀ row ∈ cs.embeddings, ∀ row' ∈ cs'.embeddings,
    OffersAgree (embeddingOffer row) (embeddingOffer row')

/-- **Convergence**: two runs that accept the same changesets — in any order, with any
    repetitions — leave the same regimes and the same embeddings, tombstones included. -/
theorem applyAll_converges {me : String} {fk : Bool} {css₁ css₂ : List ChangeSet}
    {db₁ db₂ : Database} (hkind : ∀ cs ∈ css₁, cs.kind = .data)
    (hset : ∀ cs, cs ∈ css₁ ↔ cs ∈ css₂) (hdistinct : DistinctTimestamps css₁)
    (h₁ : applyAll me (Database.empty fk) css₁ = .ok db₁)
    (h₂ : applyAll me (Database.empty fk) css₂ = .ok db₂) :
    (∀ k, db₁.regimes.find? k = db₂.regimes.find? k) ∧
    (∀ k, embeddingsAt db₁ k = embeddingsAt db₂ k) := by
  have m₁ := merged_of_applyAll hkind h₁
  have m₂ := merged_of_applyAll (fun cs hcs => hkind cs ((hset cs).mpr hcs)) h₂
  constructor
  · intro k
    refine find?_of_regimeRegister m₁.regimesReadable m₂.regimesReadable ?_
    have hlatest := m₂.regimes k
    rw [← offersTo_congr regimeBank ChangeSet.regimes hset] at hlatest
    refine LatestOver.unique ?_ (m₁.regimes k) hlatest
    rintro v ⟨cs, hcs, -, row, hrow, ho⟩ w ⟨cs', hcs', -, row', hrow', ho'⟩ heq
    exact hdistinct.regimes cs hcs cs' hcs' row hrow row' hrow' k v w ho ho' heq
  · intro k
    refine embeddingsAt_of_register m₁.embeddingsKeyed m₂.embeddingsKeyed ?_
    have hlatest := m₂.embeddings k
    rw [← offersTo_congr (embeddingBank Set.univ) ChangeSet.embeddings hset] at hlatest
    refine LatestOver.unique ?_ (m₁.embeddings k) hlatest
    rintro v ⟨cs, hcs, -, row, hrow, ho⟩ w ⟨cs', hcs', -, row', hrow', ho'⟩ heq
    exact hdistinct.embeddings cs hcs cs' hcs' row hrow row' hrow' k v w ho ho' heq

/-! ## Orders that reject -/

/-- The regimes after a delivery that ignores rejections do not depend on the order. -/
def RegimesConverge (fk : Bool) : Prop :=
  ∀ (me : String) (css₁ css₂ : List ChangeSet), (∀ cs ∈ css₁, cs.kind = .data) →
    (∀ cs, cs ∈ css₁ ↔ cs ∈ css₂) → DistinctTimestamps css₁ →
    ∀ k, (deliverAll me (Database.empty fk) css₁).regimes.find? k
      = (deliverAll me (Database.empty fk) css₂).regimes.find? k

/-- A regime of device `a` under the snapshot `p`. -/
def sampleRegime : RegimeRow :=
  { id := "r", label := "focus", detectedAt := "t", lastSeenAt := "t", dominantCategory := "code",
    paramsSnapshotId := some "p", stamp := ⟨1, 0, "a"⟩ }

def sampleSnapshot : ParamSnapshotRow :=
  { id := "p", createdAt := "t", preset := "default", paramsJson := "params",
    stamp := ⟨1, 0, "a"⟩ }

/-- The regime alone, and the snapshot it refers to alone. -/
def regimeChangeSet : ChangeSet :=
  { originDeviceId := "a", regimes := [regimeObject sampleRegime ⟨0⟩ ⟨0⟩] }

def snapshotChangeSet : ChangeSet :=
  { originDeviceId := "a", paramSnapshots := [paramSnapshotJson sampleSnapshot] }

/-- A regime without its label next to a complete one. -/
def partialChangeSet : ChangeSet :=
  { originDeviceId := "a",
    regimes := [.obj ([("id", .str "r")] ++ stampFields ⟨1, 0, "a"⟩),
      regimeObject { sampleRegime with id := "q", paramsSnapshotId := none } ⟨0⟩ ⟨0⟩] }

/-- A later version of the regime that `partialChangeSet` leaves incomplete. -/
def laterChangeSet : ChangeSet :=
  { originDeviceId := "a",
    regimes := [regimeObject { sampleRegime with
      paramsSnapshotId := none, stamp := ⟨2, 0, "a"⟩ } ⟨0⟩ ⟨0⟩] }

/-- Two versions of a regime, with the snapshot they refer to, in two orders. -/
theorem applyAll_converges_snapshot_regime :
    (deliverAll "b" (Database.empty true)
        [snapshotChangeSet, regimeChangeSet, laterChangeSet]).regimes.find? "r"
      = (deliverAll "b" (Database.empty true)
          [laterChangeSet, snapshotChangeSet, regimeChangeSet]).regimes.find? "r" := by
  have hkind : ∀ cs ∈ [snapshotChangeSet, regimeChangeSet, laterChangeSet], cs.kind = .data := by
    decide
  have hset : ∀ cs, cs ∈ [snapshotChangeSet, regimeChangeSet, laterChangeSet] ↔
      cs ∈ [laterChangeSet, snapshotChangeSet, regimeChangeSet] := by
    intro cs
    simp only [List.mem_cons, List.not_mem_nil, or_false]
    tauto
  have hdistinct : DistinctTimestamps [snapshotChangeSet, regimeChangeSet, laterChangeSet] :=
    ⟨by decide, by decide⟩
  have h₁ : applyAll "b" (Database.empty true) [snapshotChangeSet, regimeChangeSet, laterChangeSet]
      = .ok (deliverAll "b" (Database.empty true)
        [snapshotChangeSet, regimeChangeSet, laterChangeSet]) := by rfl
  have h₂ : applyAll "b" (Database.empty true) [laterChangeSet, snapshotChangeSet, regimeChangeSet]
      = .ok (deliverAll "b" (Database.empty true)
        [laterChangeSet, snapshotChangeSet, regimeChangeSet]) := by rfl
  exact (applyAll_converges hkind hset hdistinct h₁ h₂).1 "r"

/-- A regime that comes before its snapshot is rejected; an incomplete one only where it wins. -/
theorem deliverAll_diverges : ¬ RegimesConverge true ∧ ¬ RegimesConverge false := by
  constructor
  · -- the regime before its snapshot is rejected for good, the other way round it is stored
    intro hconv
    have heq := hconv "b" [regimeChangeSet, snapshotChangeSet] [snapshotChangeSet, regimeChangeSet]
      (by decide) (by simp [or_comm]) ⟨by decide, by decide⟩ "r"
    have hleft : (deliverAll "b" (Database.empty true)
        [regimeChangeSet, snapshotChangeSet]).regimes.find? "r" = none := by rfl
    have hright : (deliverAll "b" (Database.empty true)
        [snapshotChangeSet, regimeChangeSet]).regimes.find? "r" = some sampleRegime := by rfl
    rw [hleft, hright] at heq
    nomatch heq
  · -- an incomplete row is decoded only where it does not lose
    intro hconv
    have heq := hconv "b" [partialChangeSet, laterChangeSet] [laterChangeSet, partialChangeSet]
      (by decide) (by simp [or_comm]) ⟨by decide, by decide⟩ "q"
    have hleft : (deliverAll "b" (Database.empty false)
        [partialChangeSet, laterChangeSet]).regimes.find? "q" = none := by rfl
    have hright : ((deliverAll "b" (Database.empty false)
        [laterChangeSet, partialChangeSet]).regimes.find? "q").isSome = true := by rfl
    rw [← heq, hleft] at hright
    nomatch hright

end Oneshim
