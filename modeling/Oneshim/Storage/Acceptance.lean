/-
  When is an extracted changeset accepted?

  A changeset is one transaction: one row that cannot be stored refuses all of it.  The rows of one
  extraction carry distinct keys, so a row's fate depends on what the RECEIVER holds under its key
  and not on the rows before it (`run_accepts_iff`); the one exception are the parameter snapshots,
  which arrive before the regimes that refer to them.

  `Acceptable` puts the tables together, for any receiver: rows under known keys are skipped, rows
  that lose are skipped, and only what is really stored has to satisfy the schema.
-/
import Oneshim.Storage.SuggestionMerge
import Oneshim.Storage.Transfer

namespace Oneshim

open Lib

/-! ## Rows with distinct keys are accepted one by one -/

/-- A run over rows with distinct keys succeeds exactly when every row is accepted by the database
    it starts on, provided that no row changes what is decided under another row's key. -/
theorem run_accepts_iff {ρ : Type} {key : ρ → String} {merge : Tx → Json → Except StorageError Tx}
    {accepted : Database → ρ → Prop} {rs : List ρ} {js : List Json}
    (hstep : List.Forall₂ (fun r j =>
      (∀ tx : Tx, (∃ tx', merge tx j = .ok tx') ↔ accepted tx.db r) ∧
      (∀ tx tx' : Tx, merge tx j = .ok tx' → ∀ s, key s ≠ key r →
        (accepted tx'.db s ↔ accepted tx.db s))) rs js)
    (hnd : (rs.map key).Nodup) (tx : Tx) :
    (∃ tx', js.foldlM merge tx = .ok tx') ↔ ∀ r ∈ rs, accepted tx.db r := by
  induction hstep generalizing tx with
  | nil => exact ⟨fun _ _ h => (nomatch h), fun _ => ⟨tx, rfl⟩⟩
  | @cons r j rs js hj _ ih =>
    obtain ⟨haccepts, hframe⟩ := hj
    rw [List.map_cons, List.nodup_cons] at hnd
    have hne : ∀ s ∈ rs, key s ≠ key r :=
      fun s hs heq => hnd.1 (List.mem_map.mpr ⟨s, hs, heq⟩)
    constructor
    · rintro ⟨tx', hrun⟩
      rw [List.foldlM_cons] at hrun
      obtain ⟨t, ht, hrest⟩ := bind_eq_ok_iff.mp hrun
      have hall := (ih hnd.2 t).mp ⟨tx', hrest⟩
      intro s hs
      rcases List.mem_cons.mp hs with rfl | hin
      · exact (haccepts tx).mp ⟨t, ht⟩
      · exact (hframe tx t ht s (hne s hin)).mp (hall s hin)
    · intro hall
      obtain ⟨t, ht⟩ := (haccepts tx).mpr (hall r List.mem_cons_self)
      obtain ⟨tx', hrest⟩ := (ih hnd.2 t).mpr (fun s hs =>
        (hframe tx t ht s (hne s hs)).mpr (hall s (List.mem_cons_of_mem _ hs)))
      refine ⟨tx', ?_⟩
      rw [List.foldlM_cons, ht, ok_bind]
      exact hrest

/-- The row stored under another key stays when a row is inserted. -/
theorem find?_insert?_of_ne {ρ : Type} {key : ρ → String} {t t' : Table key} {r : ρ} {k : String}
    (h : t.insert? r = some t') (hne : k ≠ key r) : t'.find? k = t.find? k := by
  rw [Table.find?_insert? h, if_neg (Ne.symm hne)]

theorem find?_replace_of_ne {ρ : Type} {key : ρ → String} {t : Table key} {r : ρ} {k : String}
    (hne : k ≠ key r) : (t.replace r).find? k = t.find? k := by
  rw [Table.find?_replace, if_neg (Ne.symm hne)]

/-! ## One row of each table -/

/-- A segment has to be known already. -/
def segmentAccepted (db : Database) (r : SegmentRow) : Prop :=
  (db.segments.find? r.id).isSome = true

/-- An override is known, or its counter can be read. -/
def overrideAccepted (db : Database) (r : OverrideRow) : Prop :=
  (db.overrides.find? r.overrideId).isSome = true ∨ 0 ≤ r.stamp.hlcCounter.toInt

/-- A parameter snapshot is known, or its counter can be read. -/
def paramSnapshotAccepted (db : Database) (r : ParamSnapshotRow) : Prop :=
  (db.paramSnapshots.find? r.id).isSome = true ∨ 0 ≤ r.stamp.hlcCounter.toInt

/-- The stored version of a regime is missing, or older than the incoming one. -/
def regimeWins (db : Database) (r : RegimeRow) : Prop :=
  ∀ old h, db.regimes.find? r.id = some old → old.stamp.readHlc = some h → h < r.stamp.cutHlc

/-- A regime's counter and the stored timestamp can be read, and its reference holds where it
    wins. -/
def regimeAccepted (db : Database) (r : RegimeRow) : Prop :=
  0 ≤ r.stamp.hlcCounter.toInt ∧
    (∀ old, db.regimes.find? r.id = some old → ∃ h, old.stamp.readHlc = some h) ∧
    (regimeWins db r → db.checkReference r.paramsSnapshotId db.hasParamSnapshot = .ok ())

/-- A suggestion's counter and the stored timestamp can be read. -/
def suggestionAccepted (db : Database) (r : SuggestionRow) : Prop :=
  0 ≤ r.stamp.hlcCounter.toInt ∧ SuggestionReadable db r.suggestionId

/-- When an extracted segment is merged. -/
theorem mergeSegment_accepts_iff {content : Bool} {r : SegmentRow} {tx : Tx} :
    (∃ tx', mergeSegment tx (segmentJson content r) = .ok tx') ↔ segmentAccepted tx.db r := by
  have hid : jsonStr (segmentJson content r) "id" = .ok r.id := by
    cases content
    · rfl
    · rfl
  constructor
  · rintro ⟨tx', h⟩
    obtain ⟨id, hid', hk, -⟩ := mergeSegment_ok h
    rw [hid] at hid'
    cases hid'
    exact hk
  · intro hk
    exact ⟨_, mergeAppendOnly_of_known hid hk⟩

/-- When an extracted override is merged. -/
theorem mergeOverride_accepts_iff {r : OverrideRow} (hw : 0 ≤ r.stamp.hlcWallMs.toInt) {tx : Tx} :
    (∃ tx', mergeOverride tx (overrideJson r) = .ok tx') ↔ overrideAccepted tx.db r := by
  have hid : jsonStr (overrideJson r) "override_id" = .ok r.overrideId := rfl
  constructor
  · rintro ⟨tx', h⟩
    obtain ⟨id, hid', ⟨hk, -⟩ | ⟨-, v, -, hv, -, -⟩⟩ := mergeOverride_ok h
    · rw [hid] at hid'
      cases hid'
      exact .inl hk
    · right
      simp only [overrideVersion, overrideParams, bind_eq_ok_iff] at hv
      obtain ⟨_, -, _, ⟨_, -, _, -, _, -, hlc, hx, -⟩, -⟩ := hv
      exact counter_nonneg_of_extractHlc (carries_overrideJson r) hx
  · intro hacc
    cases hf : tx.db.overrides.find? r.overrideId with
    | some old => exact ⟨_, mergeAppendOnly_of_known hid (by rw [hf]; rfl)⟩
    | none =>
      have hc : 0 ≤ r.stamp.hlcCounter.toInt := by
        rcases hacc with hk | hc
        · rw [hf] at hk
          cases hk
        · exact hc
      obtain ⟨tx', htx', -⟩ := mergeOverride_inserts (overrideVersion_overrideJson hw hc) hf
      exact ⟨tx', htx'⟩

/-- When an extracted parameter snapshot is merged. -/
theorem mergeParamSnapshot_accepts_iff {r : ParamSnapshotRow} (hw : 0 ≤ r.stamp.hlcWallMs.toInt)
    {tx : Tx} :
    (∃ tx', mergeParamSnapshot tx (paramSnapshotJson r) = .ok tx') ↔
      paramSnapshotAccepted tx.db r := by
  have hid : jsonStr (paramSnapshotJson r) "id" = .ok r.id := rfl
  constructor
  · rintro ⟨tx', h⟩
    obtain ⟨id, hid', ⟨hk, -⟩ | ⟨-, v, -, hv, -, -⟩⟩ := mergeParamSnapshot_ok h
    · rw [hid] at hid'
      cases hid'
      exact .inl hk
    · right
      simp only [paramSnapshotVersion, paramSnapshotParams, bind_eq_ok_iff] at hv
      obtain ⟨_, -, _, ⟨_, -, _, -, _, -, hlc, hx, -⟩, -⟩ := hv
      exact counter_nonneg_of_extractHlc (carries_paramSnapshotJson r) hx
  · intro hacc
    cases hf : tx.db.paramSnapshots.find? r.id with
    | some old => exact ⟨_, mergeAppendOnly_of_known hid (by rw [hf]; rfl)⟩
    | none =>
      have hc : 0 ≤ r.stamp.hlcCounter.toInt := by
        rcases hacc with hk | hc
        · rw [hf] at hk
          cases hk
        · exact hc
      obtain ⟨tx', htx', -⟩ :=
        mergeParamSnapshot_inserts (paramSnapshotVersion_paramSnapshotJson hw hc) hf
      exact ⟨tx', htx'⟩

/-- A merged regime was acceptable. -/
theorem regimeAccepted_of_merged {r : RegimeRow} {d i : F64} (hw : 0 ≤ r.stamp.hlcWallMs.toInt)
    {tx tx' : Tx} (h : mergeRegime tx (regimeObject r d i) = .ok tx') :
    regimeAccepted tx.db r := by
  obtain ⟨id, hlc, hid, hx, hcases⟩ := mergeRegime_ok h
  obtain rfl : r.id = id := Except.ok.inj hid
  have hc := counter_nonneg_of_extractHlc (carries_regimeObject r d i) hx
  have hv := regimeVersion_regimeObject hw hc d i
  rw [extractHlc_of_carries (carries_regimeObject r d i) hw hc] at hx
  cases hx
  refine ⟨hc, ?_⟩
  rcases hcases with ⟨-, v, db, hv', hdb, -⟩ | ⟨old, hold, -, v, db, hv', hdb, -⟩ |
    ⟨old, hold, hle, -⟩
  · -- the insert found the key free
    rw [hv] at hv'
    cases hv'
    obtain ⟨t, ht, href, -⟩ := insertRegime_ok_iff.mp hdb
    have hfree : tx.db.regimes.find? r.id = none := (Table.insert?_eq_some_iff.mp ht).1
    refine ⟨fun old hf => ?_, fun _ => href⟩
    rw [hfree] at hf
    nomatch hf
  · rw [hv] at hv'
    cases hv'
    obtain ⟨hfind, hread⟩ := readable_eq_some_iff.mp hold
    obtain ⟨_, href, -⟩ := bind_eq_ok_iff.mp hdb
    refine ⟨fun old' hf => ?_, fun _ => href⟩
    rw [hfind] at hf
    cases hf
    exact ⟨_, hread⟩
  · obtain ⟨hfind, hread⟩ := readable_eq_some_iff.mp hold
    refine ⟨fun old' hf => ?_, fun hwins => ?_⟩
    · rw [hfind] at hf
      cases hf
      exact ⟨_, hread⟩
    · exact absurd (hwins _ _ hfind hread) (not_lt.mpr hle)

/-- An acceptable regime is inserted, written over or skipped. -/
theorem merged_of_regimeAccepted {r : RegimeRow} (d i : F64) (hw : 0 ≤ r.stamp.hlcWallMs.toInt)
    {tx : Tx} (hacc : regimeAccepted tx.db r) :
    ∃ tx', mergeRegime tx (regimeObject r d i) = .ok tx' := by
  obtain ⟨hc, hreadable, href⟩ := hacc
  have hid : jsonStr (regimeObject r d i) "id" = .ok r.id := rfl
  have hv := regimeVersion_regimeObject hw hc d i
  have hx := extractHlc_of_carries (carries_regimeObject r d i) hw hc
  cases hf : tx.db.regimes.find? r.id with
  | none =>
    have hwins : regimeWins tx.db r := fun old h hold => by
      rw [hf] at hold
      cases hold
    obtain ⟨tx', htx', -⟩ := mergeRegime_inserts hv hf (href hwins)
    exact ⟨tx', htx'⟩
  | some old =>
    obtain ⟨h, hread⟩ := hreadable old hf
    have hstored : readable RegimeRow.stamp (tx.db.regimes.find? r.id) = some (old, h) :=
      readable_eq_some_iff.mpr ⟨hf, hread⟩
    obtain ⟨_, hid', hv'⟩ := bind_eq_ok_iff.mp hv
    obtain ⟨_, hx', hv'⟩ := bind_eq_ok_iff.mp hv'
    obtain ⟨⟨columns, hlc⟩, hp, hs⟩ := bind_eq_ok_iff.mp hv'
    obtain ⟨stamp, hbind, hret⟩ := bind_eq_ok_iff.mp hs
    have hbind' := sqlErr_eq_ok_iff.mp hbind
    rw [hid] at hid'
    rw [hx] at hx'
    cases hid'
    cases hx'
    simp only [mergeRegime, hid, hx, ok_bind, hstored]
    refine resolve_accepts (fun hnone => by cases hnone) ?_
    intro l hl hwin
    cases hl
    have hwins : regimeWins tx.db r := fun old' h' hold' hread' => by
      rw [hf] at hold'
      cases hold'
      rw [hread] at hread'
      cases hread'
      exact Hlc.isAfter_iff.mp hwin
    have hcols : columns.paramsSnapshotId = r.paramsSnapshotId := by
      have := congrArg RegimeRow.paramsSnapshotId (Except.ok.inj hret)
      exact this
    simp only [hp, hbind', ok_bind, Database.updateRegime, hcols, href hwins]
    exact ⟨_, rfl⟩

theorem mergeRegime_accepts_iff {r : RegimeRow} {d i : F64} (hw : 0 ≤ r.stamp.hlcWallMs.toInt)
    {tx : Tx} :
    (∃ tx', mergeRegime tx (regimeObject r d i) = .ok tx') ↔ regimeAccepted tx.db r :=
  ⟨fun ⟨_, h⟩ => regimeAccepted_of_merged hw h, merged_of_regimeAccepted d i hw⟩

/-- When an extracted suggestion is merged. -/
theorem mergeSuggestion_accepts_iff {r : SuggestionRow} {c v : F64}
    (hw : 0 ≤ r.stamp.hlcWallMs.toInt) {tx : Tx} :
    (∃ tx', mergeSuggestion tx (suggestionObject r c v) = .ok tx') ↔
      suggestionAccepted tx.db r := by
  have hid : jsonStr (suggestionObject r c v) "suggestion_id" = .ok r.suggestionId := rfl
  constructor
  · rintro ⟨tx', h⟩
    obtain ⟨id, hlc, hid', hx, hcases⟩ := mergeSuggestion_ok h
    rw [hid] at hid'
    cases hid'
    refine ⟨counter_nonneg_of_extractHlc (carries_suggestionObject r c v) hx, ?_⟩
    intro old hf
    rcases hcases with ⟨-, w, created, db, hw', -, hdb, -⟩ | ⟨old', hold, -⟩ | ⟨old', hold, -⟩
    · obtain ⟨t, ht, -⟩ := insertSuggestion_ok_iff.mp hdb
      have hkey : w.suggestionId = r.suggestionId := (suggestionVersion_ok hid hx hw').1
      have hfree : tx.db.suggestions.find? w.suggestionId = none :=
        (Table.insert?_eq_some_iff.mp ht).1
      rw [hkey, hf] at hfree
      nomatch hfree
    · obtain ⟨hfind, hread⟩ := readable_eq_some_iff.mp hold
      rw [hf] at hfind
      cases hfind
      exact ⟨_, hread⟩
    · obtain ⟨hfind, hread⟩ := readable_eq_some_iff.mp hold
      rw [hf] at hfind
      cases hfind
      exact ⟨_, hread⟩
  · rintro ⟨hc, hreadable⟩
    exact mergeSuggestion_accepts
      ⟨hid, ⟨_, suggestionVersion_suggestionObject hw hc c v⟩, ⟨_, rfl⟩⟩ hreadable

/-! ## What a row changes under its own key only -/

theorem overrideAccepted_frame {tx tx' : Tx} {r s : OverrideRow}
    (h : mergeOverride tx (overrideJson r) = .ok tx') (hne : s.overrideId ≠ r.overrideId) :
    overrideAccepted tx'.db s ↔ overrideAccepted tx.db s := by
  obtain ⟨id, hid, ⟨-, rfl⟩ | ⟨-, v, t, hv, ht, rfl⟩⟩ := mergeOverride_ok h
  · rfl
  · have hkey : v.overrideId = r.overrideId := overrideVersion_ok rfl hv
    have hfind : t.find? s.overrideId = tx.db.overrides.find? s.overrideId :=
      find?_insert?_of_ne ht (by rw [hkey]; exact hne)
    show (t.find? s.overrideId).isSome = true ∨ _ ↔ _
    rw [hfind]
    rfl

theorem paramSnapshotAccepted_frame {tx tx' : Tx} {r s : ParamSnapshotRow}
    (h : mergeParamSnapshot tx (paramSnapshotJson r) = .ok tx') (hne : s.id ≠ r.id) :
    paramSnapshotAccepted tx'.db s ↔ paramSnapshotAccepted tx.db s := by
  obtain ⟨id, hid, ⟨-, rfl⟩ | ⟨-, v, t, hv, ht, rfl⟩⟩ := mergeParamSnapshot_ok h
  · rfl
  · have hkey : v.id = r.id := paramSnapshotVersion_ok rfl hv
    have hfind : t.find? s.id = tx.db.paramSnapshots.find? s.id :=
      find?_insert?_of_ne ht (by rw [hkey]; exact hne)
    show (t.find? s.id).isSome = true ∨ _ ↔ _
    rw [hfind]
    rfl

/-- Acceptance of a regime looks at its own key, at the snapshots and at the switch. -/
theorem regimeAccepted_congr {db : Database} {t : Table RegimeRow.id} {s : RegimeRow}
    (h : t.find? s.id = db.regimes.find? s.id) :
    regimeAccepted { db with regimes := t } s ↔ regimeAccepted db s := by
  simp only [regimeAccepted, regimeWins, h]
  exact Iff.rfl

theorem regimeAccepted_frame {tx tx' : Tx} {r s : RegimeRow} {d i : F64}
    (h : mergeRegime tx (regimeObject r d i) = .ok tx') (hne : s.id ≠ r.id) :
    regimeAccepted tx'.db s ↔ regimeAccepted tx.db s := by
  obtain ⟨id, hlc, hid, hx, hcases⟩ := mergeRegime_ok h
  have hid' : jsonStr (regimeObject r d i) "id" = .ok r.id := rfl
  rcases hcases with ⟨-, v, db, hv, hdb, rfl⟩ | ⟨old, -, -, v, db, hv, hdb, rfl⟩ | ⟨old, -, -, rfl⟩
  · have hkey : v.id = r.id := (regimeVersion_ok hid' hx hv).1
    obtain ⟨t, ht, -, rfl⟩ := insertRegime_ok_iff.mp hdb
    exact regimeAccepted_congr (find?_insert?_of_ne ht (by rw [hkey]; exact hne))
  · have hkey : v.id = r.id := (regimeVersion_ok hid' hx hv).1
    rw [updateRegime_ok hdb]
    exact regimeAccepted_congr (find?_replace_of_ne (by rw [hkey]; exact hne))
  · rfl

/-- Merging one suggestion is nothing to another. -/
theorem suggestionAccepted_frame {tx tx' : Tx} {r s : SuggestionRow} {c v : F64}
    (h : mergeSuggestion tx (suggestionObject r c v) = .ok tx')
    (hne : s.suggestionId ≠ r.suggestionId) :
    suggestionAccepted tx'.db s ↔ suggestionAccepted tx.db s := by
  obtain ⟨id, hlc, hid, hx, hcases⟩ := mergeSuggestion_ok h
  have hid' : jsonStr (suggestionObject r c v) "suggestion_id" = .ok r.suggestionId := rfl
  have hfind : tx'.db.suggestions.find? s.suggestionId
      = tx.db.suggestions.find? s.suggestionId := by
    rcases hcases with ⟨-, w, created, db, hv, -, hdb, rfl⟩ | ⟨old, -, -, w, hv, rfl⟩ |
      ⟨old, -, -, rfl⟩
    · have hkey : w.suggestionId = r.suggestionId := (suggestionVersion_ok hid' hx hv).1
      obtain ⟨t, ht, rfl⟩ := insertSuggestion_ok_iff.mp hdb
      exact find?_insert?_of_ne ht (by rw [← hkey] at hne; exact hne)
    · have hkey : w.suggestionId = r.suggestionId := (suggestionVersion_ok hid' hx hv).1
      exact find?_replace_of_ne (by rw [← hkey] at hne; exact hne)
    · rfl
  simp only [suggestionAccepted, SuggestionReadable, hfind]

/-! ## The runs -/

section Runs

variable {jsonReal : F64 → Option F64} {extractor : SqliteSyncExtractor} {since : Hlc}
  {A : Database} {cs : ChangeSet} (hex : Extracted jsonReal extractor since A cs) (tx : Tx)
include hex

/-- A changed row's wall clock is not negative. -/
theorem wall_nonneg_of_mem {ρ : Type} {stamp : ρ → Stamp} {rows : List ρ} {r : ρ}
    (hr : r ∈ extractedRows stamp since rows) : 0 ≤ (stamp r).hlcWallMs.toInt :=
  wall_nonneg_of_changedSince hex.sinceBound (mem_extractedRows.mp hr).2

theorem segments_accepted_iff : (∃ tx', cs.segments.foldlM mergeSegment tx = .ok tx') ↔
    ∀ r ∈ extractedRows SegmentRow.stamp since A.segments.rows, segmentAccepted tx.db r := by
  refine run_accepts_iff ?_ (nodup_extractedRows since A.segments.nodup) tx
  rw [hex.segments, List.forall₂_map_right_iff, List.forall₂_same]
  intro r _
  refine ⟨fun _ => mergeSegment_accepts_iff, fun t t' h s _ => ?_⟩
  obtain ⟨_, -, -, rfl⟩ := mergeSegment_ok h
  rfl

theorem overrides_accepted_iff : (∃ tx', cs.overrides.foldlM mergeOverride tx = .ok tx') ↔
    ∀ r ∈ extractedRows OverrideRow.stamp since A.overrides.rows, overrideAccepted tx.db r := by
  refine run_accepts_iff ?_ (nodup_extractedRows since A.overrides.nodup) tx
  rw [hex.overrides, List.forall₂_map_right_iff, List.forall₂_same]
  intro r hr
  exact ⟨fun _ => mergeOverride_accepts_iff (wall_nonneg_of_mem hex hr),
    fun _ _ h _ hne => overrideAccepted_frame h hne⟩

theorem paramSnapshots_accepted_iff :
    (∃ tx', cs.paramSnapshots.foldlM mergeParamSnapshot tx = .ok tx') ↔
    ∀ r ∈ extractedRows ParamSnapshotRow.stamp since A.paramSnapshots.rows,
      paramSnapshotAccepted tx.db r := by
  refine run_accepts_iff ?_ (nodup_extractedRows since A.paramSnapshots.nodup) tx
  rw [hex.paramSnapshots, List.forall₂_map_right_iff, List.forall₂_same]
  intro r hr
  exact ⟨fun _ => mergeParamSnapshot_accepts_iff (wall_nonneg_of_mem hex hr),
    fun _ _ h _ hne => paramSnapshotAccepted_frame h hne⟩

theorem regimes_accepted_iff : (∃ tx', cs.regimes.foldlM mergeRegime tx = .ok tx') ↔
    ∀ r ∈ extractedRows RegimeRow.stamp since A.regimes.rows, regimeAccepted tx.db r := by
  refine run_accepts_iff ?_ (nodup_extractedRows since A.regimes.nodup) tx
  refine ((List.forall₂_and_left _ _).mpr ⟨fun r hr => hr, hex.regimes⟩).imp ?_
  rintro r j ⟨hr, hj⟩
  rw [regimeJson_eq_some hj]
  exact ⟨fun _ => mergeRegime_accepts_iff (wall_nonneg_of_mem hex hr),
    fun _ _ h _ hne => regimeAccepted_frame h hne⟩

theorem suggestions_accepted_iff :
    (∃ tx', cs.suggestions.foldlM mergeSuggestion tx = .ok tx') ↔
    ∀ r ∈ extractedRows SuggestionRow.stamp since A.suggestions.rows,
      suggestionAccepted tx.db r := by
  refine run_accepts_iff ?_ (nodup_extractedRows since A.suggestions.nodup) tx
  refine ((List.forall₂_and_left _ _).mpr ⟨fun r hr => hr, hex.suggestions⟩).imp ?_
  rintro r j ⟨hr, hj⟩
  rw [suggestionJson_eq_some hj]
  exact ⟨fun _ => mergeSuggestion_accepts_iff (wall_nonneg_of_mem hex hr),
    fun _ _ h _ hne => suggestionAccepted_frame h hne⟩

/-- With their texts, embeddings are accepted when their counters can be read. -/
theorem embeddings_accepted_iff (htext : extractor.syncConfig.includeEmbeddingText = true) :
    (∃ tx', cs.embeddings.foldlM mergeEmbedding tx = .ok tx') ↔
    ∀ r ∈ extractedRows EmbeddingRow.stamp since A.embeddings.rows,
      0 ≤ r.stamp.hlcCounter.toInt := by
  rw [hex.embeddings, htext]
  constructor
  · rintro ⟨tx', hrun⟩ r hr
    obtain ⟨t, t', ht⟩ := foldlM_mem_ok hrun _ (List.mem_map.mpr ⟨r, hr, rfl⟩)
    obtain ⟨_, _, hlc, -, -, hx, -⟩ := mergeEmbedding_ok ht
    exact counter_nonneg_of_extractHlc (carries_embeddingJson _ r) hx
  · intro hall
    refine foldlM_total_of_each (fun t j hj => ?_) tx
    obtain ⟨r, hr, rfl⟩ := List.mem_map.mp hj
    exact mergeEmbedding_accepts
      (embeddingVersion_embeddingJson (wall_nonneg_of_mem hex hr) (hall r hr)) t

/-- The snapshots a regime can refer to: those that were there and those that have arrived. -/
theorem hasParamSnapshot_iff {tx tx' : Tx}
    (hrun : cs.paramSnapshots.foldlM mergeParamSnapshot tx = .ok tx') {p : String} :
    tx'.db.hasParamSnapshot p = true ↔ tx.db.hasParamSnapshot p = true ∨
      ∃ s ∈ A.paramSnapshots.rows, ChangedSince since s.stamp ∧ s.id = p := by
  constructor
  · intro hhas
    obtain ⟨x, hx⟩ := Option.isSome_iff_exists.mp hhas
    obtain ⟨hxin, rfl⟩ := Table.find?_eq_some_iff.mp hx
    rcases paramSnapshots_origin hrun x hxin with hold | ⟨-, j, hj, hv⟩
    · left
      rw [Database.hasParamSnapshot, Table.find?_eq_some_iff.mpr ⟨hold, rfl⟩]
      rfl
    · rw [hex.paramSnapshots] at hj
      obtain ⟨s, hs, rfl⟩ := List.mem_map.mp hj
      obtain ⟨hsin, hsch⟩ := mem_extractedRows.mp hs
      have hid : x.id = s.id := paramSnapshotVersion_ok rfl hv
      exact .inr ⟨s, hsin, hsch, hid.symm⟩
  · rintro (hold | ⟨s, hsin, hsch, rfl⟩)
    · -- registers never lose what they hold
      obtain ⟨w, hw, -⟩ := appendRegister_of_known hold
      have hlatest := paramSnapshotBank.run_latest (fun _ _ => trivial) trivial hrun
        (latestOver_refl (paramSnapshotBank.register tx p))
      exact known_of_covers (hlatest.start w hw)
    · have hj : paramSnapshotJson s ∈ cs.paramSnapshots := by
        rw [hex.paramSnapshots]
        exact List.mem_map.mpr ⟨s, mem_extractedRows.mpr ⟨hsin, hsch⟩, rfl⟩
      obtain ⟨k, v, ho, hc⟩ := paramSnapshotBank.run_absorbs (fun _ _ => trivial) trivial hrun _ hj
      have hk : jsonStr (paramSnapshotJson s) "id" = .ok k :=
        appendOffer_eq_some paramSnapshotVersion ho
      have hid : jsonStr (paramSnapshotJson s) "id" = .ok s.id := rfl
      rw [hid] at hk
      cases hk
      exact known_of_covers hc

end Runs

/-! ## The changeset -/

/-- The condition under which `B` accepts the rows that changed on `A`, texts included. -/
structure Acceptable (since : Hlc) (A B : Database) : Prop where
  segments : ∀ r ∈ A.segments.rows, ChangedSince since r.stamp → segmentAccepted B r
  overrides : ∀ r ∈ A.overrides.rows, ChangedSince since r.stamp → overrideAccepted B r
  paramSnapshots : ∀ r ∈ A.paramSnapshots.rows, ChangedSince since r.stamp →
    paramSnapshotAccepted B r
  regimeCounters : ∀ r ∈ A.regimes.rows, ChangedSince since r.stamp →
    0 ≤ r.stamp.hlcCounter.toInt
  regimesReadable : ∀ r ∈ A.regimes.rows, ChangedSince since r.stamp →
    ∀ old, B.regimes.find? r.id = some old → ∃ h, old.stamp.readHlc = some h
  references : B.foreignKeys = true → ∀ r ∈ A.regimes.rows, ChangedSince since r.stamp →
    regimeWins B r → ∀ p, r.paramsSnapshotId = some p → B.hasParamSnapshot p = true ∨
      ∃ s ∈ A.paramSnapshots.rows, ChangedSince since s.stamp ∧ s.id = p
  embeddingCounters : ∀ r ∈ A.embeddings.rows, ChangedSince since r.stamp →
    0 ≤ r.stamp.hlcCounter.toInt
  suggestions : ∀ r ∈ A.suggestions.rows, ChangedSince since r.stamp → suggestionAccepted B r

/-- A regime is accepted after the snapshots exactly when it is acceptable. -/
theorem regimeAccepted_after_snapshots {since : Hlc} {A B : Database} {db : Database}
    {r : RegimeRow} (hregimes : db.regimes = B.regimes) (hfk : db.foreignKeys = B.foreignKeys)
    (hsnap : ∀ p, db.hasParamSnapshot p = true ↔ B.hasParamSnapshot p = true ∨
      ∃ s ∈ A.paramSnapshots.rows, ChangedSince since s.stamp ∧ s.id = p) :
    regimeAccepted db r ↔ 0 ≤ r.stamp.hlcCounter.toInt ∧
      (∀ old, B.regimes.find? r.id = some old → ∃ h, old.stamp.readHlc = some h) ∧
      (B.foreignKeys = true → regimeWins B r → ∀ p, r.paramsSnapshotId = some p →
        B.hasParamSnapshot p = true ∨
          ∃ s ∈ A.paramSnapshots.rows, ChangedSince since s.stamp ∧ s.id = p) := by
  simp only [regimeAccepted, regimeWins, hregimes, checkReference_ok_iff, hfk, hsnap]
  constructor
  · rintro ⟨hc, hread, href⟩
    exact ⟨hc, hread, fun hon hwins p hp => href hwins hon p hp⟩
  · rintro ⟨hc, hread, href⟩
    exact ⟨hc, hread, fun hwins hon p hp => href hon hwins p hp⟩

section Acceptance

variable {jsonReal : F64 → Option F64} {extractor : SqliteSyncExtractor} {since : Hlc}
  {A B : Database} {cs : ChangeSet} (hex : Extracted jsonReal extractor since A cs)
  (htext : extractor.syncConfig.includeEmbeddingText = true)
include hex htext

/-- The state each table's run starts from differs from `B` in the tables before it only. -/
theorem acceptable_of_run {tx : Tx} (run : MergeRun B cs tx) : Acceptable since A B := by
  have h₁ := (segments_accepted_iff hex _).mp ⟨_, run.segments_run⟩
  have h₂ := (overrides_accepted_iff hex _).mp ⟨_, run.overrides_run⟩
  have h₃ := (paramSnapshots_accepted_iff hex _).mp ⟨_, run.paramSnapshots_run⟩
  have h₄ := (regimes_accepted_iff hex _).mp ⟨_, run.regimes_run⟩
  have h₅ := (embeddings_accepted_iff hex _ htext).mp ⟨_, run.embeddings_run⟩
  have h₆ := (suggestions_accepted_iff hex _).mp ⟨_, run.suggestions_run⟩
  rw [run.afterSegments_db] at h₂
  have hsnap : ∀ p, run.afterParamSnapshots.db.hasParamSnapshot p = true ↔ _ :=
    fun p => hasParamSnapshot_iff hex run.paramSnapshots_run
  have hbefore : ∀ p, run.afterOverrides.db.hasParamSnapshot p = B.hasParamSnapshot p := by
    intro p
    rw [run.afterOverrides_db]
    rfl
  simp only [hbefore] at hsnap
  have hregime : ∀ r ∈ A.regimes.rows, ChangedSince since r.stamp → _ := fun r hr hch =>
    (regimeAccepted_after_snapshots (by rw [run.afterParamSnapshots_db])
      (by rw [run.afterParamSnapshots_db]) hsnap).mp (h₄ r (mem_extractedRows.mpr ⟨hr, hch⟩))
  constructor
  · exact fun r hr hch => h₁ r (mem_extractedRows.mpr ⟨hr, hch⟩)
  · exact fun r hr hch => h₂ r (mem_extractedRows.mpr ⟨hr, hch⟩)
  · intro r hr hch
    have hacc := h₃ r (mem_extractedRows.mpr ⟨hr, hch⟩)
    rw [run.afterOverrides_db] at hacc
    exact hacc
  · exact fun r hr hch => (hregime r hr hch).1
  · exact fun r hr hch => (hregime r hr hch).2.1
  · exact fun hon r hr hch => (hregime r hr hch).2.2 hon
  · exact fun r hr hch => h₅ r (mem_extractedRows.mpr ⟨hr, hch⟩)
  · intro r hr hch
    have hacc := h₆ r (mem_extractedRows.mpr ⟨hr, hch⟩)
    rw [run.afterEmbeddings_db] at hacc
    exact hacc

/-- Every table of an acceptable changeset is merged, one after the other. -/
theorem run_of_acceptable (hacc : Acceptable since A B) : ∃ tx, Nonempty (MergeRun B cs tx) := by
  obtain ⟨t₁, h₁⟩ := (segments_accepted_iff hex ⟨B, {}⟩).mpr (fun r hr =>
    hacc.segments r (mem_extractedRows.mp hr).1 (mem_extractedRows.mp hr).2)
  have hdb₁ := runSegments_db h₁
  obtain ⟨t₂, h₂⟩ := (overrides_accepted_iff hex t₁).mpr (fun r hr => by
    rw [hdb₁]
    exact hacc.overrides r (mem_extractedRows.mp hr).1 (mem_extractedRows.mp hr).2)
  have hdb₂ := runOverrides_db h₂
  rw [hdb₁] at hdb₂
  obtain ⟨t₃, h₃⟩ := (paramSnapshots_accepted_iff hex t₂).mpr (fun r hr => by
    rw [hdb₂]
    exact hacc.paramSnapshots r (mem_extractedRows.mp hr).1 (mem_extractedRows.mp hr).2)
  have hdb₃ := runParamSnapshots_db h₃
  rw [hdb₂] at hdb₃
  have hsnap : ∀ p, t₃.db.hasParamSnapshot p = true ↔ B.hasParamSnapshot p = true ∨
      ∃ s ∈ A.paramSnapshots.rows, ChangedSince since s.stamp ∧ s.id = p := by
    intro p
    rw [hasParamSnapshot_iff hex h₃, hdb₂]
    rfl
  obtain ⟨t₄, h₄⟩ := (regimes_accepted_iff hex t₃).mpr (fun r hr => by
    obtain ⟨hin, hch⟩ := mem_extractedRows.mp hr
    exact (regimeAccepted_after_snapshots (by rw [hdb₃]) (by rw [hdb₃]) hsnap).mpr
      ⟨hacc.regimeCounters r hin hch, hacc.regimesReadable r hin hch,
        fun hon => hacc.references hon r hin hch⟩)
  have hdb₄ := runRegimes_db h₄
  rw [hdb₃] at hdb₄
  obtain ⟨t₅, h₅⟩ := (embeddings_accepted_iff hex t₄ htext).mpr (fun r hr =>
    hacc.embeddingCounters r (mem_extractedRows.mp hr).1 (mem_extractedRows.mp hr).2)
  have hdb₅ := runEmbeddings_db h₅
  rw [hdb₄] at hdb₅
  obtain ⟨t₆, h₆⟩ := (suggestions_accepted_iff hex t₅).mpr (fun r hr => by
    rw [hdb₅]
    exact hacc.suggestions r (mem_extractedRows.mp hr).1 (mem_extractedRows.mp hr).2)
  obtain ⟨tx, h₇⟩ := updateSyncPeers_accepts hex t₆
  exact ⟨tx, ⟨t₁, t₂, t₃, t₄, t₅, t₆, h₁, h₂, h₃, h₄, h₅, h₆, h₇⟩⟩

/-- **Acceptance**: with embedding texts included, the changeset of an extraction is accepted
    exactly by the databases that satisfy the condition. -/
theorem mergeAll_accepts_iff : (∃ tx, mergeAll B cs = .ok tx) ↔ Acceptable since A B := by
  constructor
  · rintro ⟨tx, hmerge⟩
    obtain ⟨run⟩ := mergeAll_ok hmerge
    exact acceptable_of_run hex htext run
  · intro hacc
    obtain ⟨tx, ⟨run⟩⟩ := run_of_acceptable hex htext hacc
    exact ⟨tx, run.mergeAll_eq⟩

end Acceptance

end Oneshim
