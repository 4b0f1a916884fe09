/-
  What an extraction returns.

  `get_changes_since` is inverted once: a returned changeset lists, table by table, the rendered
  rows of the (backfilled) database whose stamp lies after the watermark.  The second half reads
  the rendering back: every JSON row carries the stamp and the key of its table row, and the
  merger's decoder returns the row it was rendered from.
-/
import Oneshim.Storage.ApplySpec
import Oneshim.Storage.SyncExtractor

namespace Oneshim

open Lib

/-! ## The queries -/

/-- The stamp lies after `since`, as the extractor's `WHERE` clause decides it. -/
def ChangedSince (since : Hlc) (s : Stamp) : Prop :=
  s.changedSince (Int64.ofNat since.wallMs) (bindU32 since.counter) since.deviceId = true

instance (since : Hlc) (s : Stamp) : Decidable (ChangedSince since s) :=
  inferInstanceAs (Decidable (_ = true))

/-- The rows of a table that an extraction since `since` returns, in its order. -/
def extractedRows {ρ : Type} (stamp : ρ → Stamp) (since : Hlc) (rows : List ρ) : List ρ :=
  changedRows stamp rows (Int64.ofNat since.wallMs) (bindU32 since.counter) since.deviceId

theorem mem_extractedRows {ρ : Type} {stamp : ρ → Stamp} {since : Hlc} {rows : List ρ} {r : ρ} :
    r ∈ extractedRows stamp since rows ↔ r ∈ rows ∧ ChangedSince since (stamp r) := by
  rw [extractedRows, changedRows, List.mem_insertionSort, List.mem_filter]
  rfl

/-- An extraction keeps keys apart. -/
theorem nodup_extractedRows {ρ κ : Type} {key : ρ → κ} {stamp : ρ → Stamp} (since : Hlc)
    {rows : List ρ} (h : (rows.map key).Nodup) :
    ((extractedRows stamp since rows).map key).Nodup := by
  have hperm := (List.perm_insertionSort (fun a b => (stamp a).before (stamp b))
    (rows.filter (fun r => (stamp r).changedSince (Int64.ofNat since.wallMs)
      (bindU32 since.counter) since.deviceId))).map key
  exact hperm.nodup_iff.mpr (h.sublist (List.filter_sublist.map key))

/-- **What is extracted of a table**: the changed rows in order, each with its columns. -/
theorem queryTableChanges_ok {ρ : Type} {table : String} {rows : List ρ} {stamp : ρ → Stamp}
    {columns : ρ → Option Json} {since : Hlc} {js : List Json}
    (h : queryTableChanges table rows stamp columns since = .ok js) :
    since.wallMs < 2 ^ 63 ∧
      List.Forall₂ (fun r j => columns r = some j) (extractedRows stamp since rows) js := by
  unfold queryTableChanges at h
  split at h
  case h_1 => nomatch h
  case h_2 wall hwall =>
    unfold bindU64 at hwall
    split at hwall
    case isFalse => nomatch hwall
    case isTrue hlt =>
      cases hwall
      refine ⟨hlt, (mapM_eq_ok_iff.mp h).imp ?_⟩
      intro r j hj
      split at hj
      case h_1 v hv =>
        cases hj
        exact hv
      case h_2 => nomatch hj

/-- A query whose rows always render. -/
theorem queryTableChanges_total_ok {ρ : Type} {table : String} {rows : List ρ} {stamp : ρ → Stamp}
    {render : ρ → Json} {since : Hlc} {js : List Json}
    (h : queryTableChanges table rows stamp (fun r => some (render r)) since = .ok js) :
    js = (extractedRows stamp since rows).map render := by
  have hall := (queryTableChanges_ok h).2
  generalize extractedRows stamp since rows = xs at hall
  clear h
  induction hall with
  | nil => rfl
  | cons hj _ ih =>
    rw [List.map_cons, ih, Option.some.inj hj]

/-- **What an extraction returns**, in terms of the database `db` it ran on (backfilled). -/
structure Extracted (jsonReal : F64 → Option F64) (extractor : SqliteSyncExtractor) (since : Hlc)
    (db : Database) (cs : ChangeSet) : Prop where
  kind : cs.kind = .data
  origin : cs.originDeviceId = extractor.deviceId
  sinceBound : since.wallMs < 2 ^ 63
  segments : cs.segments = (extractedRows SegmentRow.stamp since db.segments.rows).map
    (segmentJson extractor.syncConfig.includeContentActivities)
  regimes : List.Forall₂ (fun r j => regimeJson jsonReal r = some j)
    (extractedRows RegimeRow.stamp since db.regimes.rows) cs.regimes
  overrides : cs.overrides = (extractedRows OverrideRow.stamp since db.overrides.rows).map
    overrideJson
  embeddings : cs.embeddings = (extractedRows EmbeddingRow.stamp since db.embeddings.rows).map
    (embeddingJson extractor.syncConfig.includeEmbeddingText)
  suggestions : List.Forall₂ (fun r j => suggestionJson jsonReal r = some j)
    (extractedRows SuggestionRow.stamp since db.suggestions.rows) cs.suggestions
  paramSnapshots : cs.paramSnapshots =
    (extractedRows ParamSnapshotRow.stamp since db.paramSnapshots.rows).map paramSnapshotJson
  watermark : computeMaxHlc extractor.deviceId db = .ok cs.watermark

/-- **What is extracted**, when nothing fails. -/
theorem getChangesSince_ok {jsonReal : F64 → Option F64} {extractor : SqliteSyncExtractor} {since : Hlc}
    {db db' : Database} {cs : ChangeSet}
    (h : extractor.getChangesSince jsonReal since db = (.ok cs, db')) :
    db' = backfillOriginDeviceId extractor.deviceId db ∧ Extracted jsonReal extractor since db' cs := by
  simp only [SqliteSyncExtractor.getChangesSince] at h
  split at h
  case h_2 => nomatch (Prod.mk.inj h).1
  case h_1 changes hc =>
    cases h
    refine ⟨rfl, ?_⟩
    unfold SqliteSyncExtractor.collect at hc
    obtain ⟨segments, h₁, hc⟩ := bind_eq_ok_iff.mp hc
    obtain ⟨regimes, h₂, hc⟩ := bind_eq_ok_iff.mp hc
    obtain ⟨overrides, h₃, hc⟩ := bind_eq_ok_iff.mp hc
    obtain ⟨embeddings, h₄, hc⟩ := bind_eq_ok_iff.mp hc
    obtain ⟨suggestions, h₅, hc⟩ := bind_eq_ok_iff.mp hc
    obtain ⟨paramSnapshots, h₆, hc⟩ := bind_eq_ok_iff.mp hc
    obtain ⟨watermark, h₇, hret⟩ := bind_eq_ok_iff.mp hc
    cases hret
    exact {
      kind := rfl
      origin := rfl
      sinceBound := (queryTableChanges_ok h₁).1
      segments := queryTableChanges_total_ok h₁
      regimes := (queryTableChanges_ok h₂).2
      overrides := queryTableChanges_total_ok h₃
      embeddings := queryTableChanges_total_ok h₄
      suggestions := (queryTableChanges_ok h₅).2
      paramSnapshots := queryTableChanges_total_ok h₆
      watermark := h₇ }

/-! ## Reading a rendered row -/

/-- The JSON row carries the stamp. -/
structure CarriesStamp (j : Json) (s : Stamp) : Prop where
  wall : j.get "hlc_wall_ms" = some (.ofInt64 s.hlcWallMs)
  counter : j.get "hlc_counter" = some (.ofInt64 s.hlcCounter)
  origin : j.get "origin_device_id" = some (.str s.originDeviceId)

theorem required_of_get {α : Type} {kind key : String} {read : Json → Option α} {v j : Json}
    {a : α} (hget : v.get key = some j) (hread : read j = some a) :
    required kind read v key = .ok a := by
  rw [required, hget, Option.bind_some, hread]

theorem jsonI64_of_get {v : Json} {key : String} {n : Int64}
    (hget : v.get key = some (.ofInt64 n)) : jsonI64 v key = .ok n :=
  required_of_get hget (Json.asI64_ofInt64 n)

theorem jsonI64OrDefault_of_get {v : Json} {key : String} {n d : Int64}
    (hget : v.get key = some (.ofInt64 n)) : jsonI64OrDefault v key d = n := by
  rw [jsonI64OrDefault, hget, Option.bind_some, Json.asI64_ofInt64, Option.getD_some]

theorem jsonStrOpt_of_get {v : Json} {key : String} {o : Option String}
    (hget : v.get key = some (.ofStr? o)) : jsonStrOpt v key = o := by
  rw [jsonStrOpt, hget, Option.bind_some, Json.asStr_ofStr?]

/-- The timestamp a peer reads from a stamp: its counter is cut to 32 bits. -/
def Stamp.cutHlc (s : Stamp) : Hlc :=
  ⟨s.hlcWallMs.toInt.toNat, s.hlcCounter.toInt.toNat % 2 ^ 32, s.originDeviceId⟩

variable {s : Stamp}

/-- A timestamp is read back, its counter cut to 32 bits. -/
theorem extractHlc_of_carries {j : Json} (h : CarriesStamp j s) (hw : 0 ≤ s.hlcWallMs.toInt)
    (hc : 0 ≤ s.hlcCounter.toInt) :
    extractHlc j = .ok s.cutHlc := by
  have hwall : jsonU64 j "hlc_wall_ms" = .ok s.hlcWallMs.toInt.toNat :=
    required_of_get h.wall (Json.asU64_ofInt64_of_nonneg hw)
  have hcounter : jsonU64 j "hlc_counter" = .ok s.hlcCounter.toInt.toNat :=
    required_of_get h.counter (Json.asU64_ofInt64_of_nonneg hc)
  have horigin : jsonStr j "origin_device_id" = .ok s.originDeviceId :=
    required_of_get h.origin rfl
  simp only [extractHlc, jsonU32, hwall, hcounter, horigin, ok_bind]
  rfl

/-- A negative counter is not a `u64`: the row is refused. -/
theorem counter_nonneg_of_extractHlc {j : Json} {hlc : Hlc} (h : CarriesStamp j s)
    (hx : extractHlc j = .ok hlc) : 0 ≤ s.hlcCounter.toInt := by
  by_contra hneg
  simp only [extractHlc, jsonU32, bind_eq_ok_iff] at hx
  obtain ⟨_, -, _, ⟨n, hn, -⟩, -⟩ := hx
  rw [jsonU64, required, h.counter, Option.bind_some,
    Json.asU64_ofInt64_of_neg (by omega)] at hn
  cases hn

/-- A changed row has a wall clock at least that of the watermark, so it is not negative. -/
theorem wall_nonneg_of_changedSince {since : Hlc} (hb : since.wallMs < 2 ^ 63)
    (h : ChangedSince since s) : 0 ≤ s.hlcWallMs.toInt := by
  have hwall : (Int64.ofNat since.wallMs).toInt = since.wallMs := Int64.toInt_ofNat_of_lt hb
  simp only [ChangedSince, Stamp.changedSince, Bool.or_eq_true, Bool.and_eq_true,
    decide_eq_true_eq, beq_iff_eq] at h
  rcases h with (hlt | ⟨heq, -⟩) | ⟨⟨heq, -⟩, -⟩
  · have := Int64.lt_iff_toInt_lt.mp hlt
    omega
  · rw [heq, hwall]
    exact Int.natCast_nonneg _
  · rw [heq, hwall]
    exact Int.natCast_nonneg _

/-- A stamp the sync can move unchanged: both columns fit their unsigned types. -/
def Stamp.Fits (s : Stamp) : Prop :=
  0 ≤ s.hlcWallMs.toInt ∧ 0 ≤ s.hlcCounter.toInt ∧ s.hlcCounter.toInt < 2 ^ 32

theorem Stamp.fits_of_readHlc {h : Hlc} (hr : s.readHlc = some h) : s.Fits := by
  unfold Stamp.readHlc readU64 readU32 at hr
  split at hr
  case h_1 w c hw hc =>
    split at hw
    case isTrue hw' =>
      split at hc
      case isTrue hc' => exact ⟨hw', hc'⟩
      case isFalse => nomatch hc
    case isFalse => nomatch hw
  case h_2 => nomatch hr

/-- What a readable stamp reads as. -/
theorem Stamp.eq_of_readHlc {h : Hlc} (hr : s.readHlc = some h) :
    h = ⟨s.hlcWallMs.toInt.toNat, s.hlcCounter.toInt.toNat, s.originDeviceId⟩ := by
  have hfits := Stamp.fits_of_readHlc hr
  simp only [Stamp.readHlc, readU64, readU32, if_pos hfits.1,
    if_pos (show 0 ≤ s.hlcCounter.toInt ∧ s.hlcCounter.toInt < 2 ^ 32 from hfits.2)] at hr
  exact (Option.some.inj hr).symm

theorem ofNat_toNat_toInt {n : Int64} (h : 0 ≤ n.toInt) : Int64.ofNat n.toInt.toNat = n := by
  have hlt := Int64.toInt_lt n
  apply Int64.toInt_inj.mp
  rw [Int64.toInt_ofNat_of_lt (by omega)]
  omega

/-- The stamp a peer stores for a stamp: its counter is cut to 32 bits. -/
def Stamp.truncated (s : Stamp) : Stamp :=
  ⟨s.hlcWallMs, bindU32 (s.hlcCounter.toInt.toNat % 2 ^ 32), s.originDeviceId⟩

/-- A stamp survives the trip through the JSON row and the bound parameters, but for its cut. -/
theorem bind_cutHlc (hw : 0 ≤ s.hlcWallMs.toInt) :
    Stamp.bind s.cutHlc = .ok s.truncated := by
  have hlt := Int64.toInt_lt s.hlcWallMs
  rw [Stamp.bind_of_lt (by show s.hlcWallMs.toInt.toNat < 2 ^ 63; omega)]
  show Except.ok (Stamp.mk (Int64.ofNat s.hlcWallMs.toInt.toNat)
    (bindU32 (s.hlcCounter.toInt.toNat % 2 ^ 32)) s.originDeviceId) = .ok s.truncated
  rw [ofNat_toNat_toInt hw]
  rfl

/-- A fitting stamp is not cut. -/
theorem Stamp.truncated_of_fits (hf : s.Fits) : s.truncated = s := by
  obtain ⟨-, hc, hlt⟩ := hf
  rw [Stamp.truncated, bindU32, Nat.mod_eq_of_lt (by omega), ofNat_toNat_toInt hc]

/-- The stored stamp reads as the timestamp that was compared. -/
theorem Stamp.readHlc_truncated (hw : 0 ≤ s.hlcWallMs.toInt) :
    s.truncated.readHlc = some s.cutHlc :=
  Stamp.readHlc_of_bind (Nat.mod_lt _ (by decide)) (bind_cutHlc hw)

/-! ## Every table's rendering decodes to the row it came from -/

theorem carries_regimeObject (r : RegimeRow) (d i : F64) :
    CarriesStamp (regimeObject r d i) r.stamp := ⟨rfl, rfl, rfl⟩

theorem carries_overrideJson (r : OverrideRow) : CarriesStamp (overrideJson r) r.stamp :=
  ⟨rfl, rfl, rfl⟩

theorem carries_paramSnapshotJson (r : ParamSnapshotRow) :
    CarriesStamp (paramSnapshotJson r) r.stamp := ⟨rfl, rfl, rfl⟩

theorem carries_suggestionObject (r : SuggestionRow) (c v : F64) :
    CarriesStamp (suggestionObject r c v) r.stamp := ⟨rfl, rfl, rfl⟩

theorem carries_embeddingJson (text : Bool) (r : EmbeddingRow) :
    CarriesStamp (embeddingJson text r) r.stamp := by
  cases text
  · exact ⟨rfl, rfl, rfl⟩
  · exact ⟨rfl, rfl, rfl⟩

/-- An extracted regime is read back, its counter cut to 32 bits. -/
theorem regimeVersion_regimeObject {r : RegimeRow} (hw : 0 ≤ r.stamp.hlcWallMs.toInt)
    (hc : 0 ≤ r.stamp.hlcCounter.toInt) (d i : F64) :
    regimeVersion (regimeObject r d i)
      = .ok { r with avgDensity := d, avgImportance := i, stamp := r.stamp.truncated } := by
  have hx := extractHlc_of_carries (carries_regimeObject r d i) hw hc
  have hid : jsonStr (regimeObject r d i) "id" = .ok r.id := rfl
  have hp : regimeParams (regimeObject r d i) r.id r.stamp.cutHlc
      = .ok ({ r with avgDensity := d, avgImportance := i, stamp := {} }, r.stamp.cutHlc) := by
    have h₁ : jsonI64 (regimeObject r d i) "occurrence_count" = .ok r.occurrenceCount :=
      jsonI64_of_get rfl
    have h₂ : jsonI64 (regimeObject r d i) "is_active" = .ok r.isActive := jsonI64_of_get rfl
    have h₃ : jsonI64OrDefault (regimeObject r d i) "is_deleted" 0 = r.isDeleted :=
      jsonI64OrDefault_of_get rfl
    have h₄ : jsonStrOpt (regimeObject r d i) "params_snapshot_id" = r.paramsSnapshotId :=
      jsonStrOpt_of_get rfl
    have h₅ : jsonStrOpt (regimeObject r d i) "deleted_at" = r.deletedAt := jsonStrOpt_of_get rfl
    simp only [regimeParams, h₁, h₂, h₃, h₄, h₅]
    rfl
  exact regimeVersion_of hid hx hp (bind_cutHlc hw)

/-- So is an extracted override. -/
theorem overrideVersion_overrideJson {r : OverrideRow} (hw : 0 ≤ r.stamp.hlcWallMs.toInt)
    (hc : 0 ≤ r.stamp.hlcCounter.toInt) :
    overrideVersion (overrideJson r) = .ok { r with stamp := r.stamp.truncated } := by
  have hx := extractHlc_of_carries (carries_overrideJson r) hw hc
  have h₁ : jsonStrOpt (overrideJson r) "original_regime_id" = r.originalRegimeId :=
    jsonStrOpt_of_get rfl
  have h₂ : jsonStrOpt (overrideJson r) "action_data" = r.actionData := jsonStrOpt_of_get rfl
  have hp : overrideParams (overrideJson r) r.overrideId
      = .ok ({ r with stamp := {} }, r.stamp.cutHlc) := by
    simp only [overrideParams, hx, h₁, h₂]
    rfl
  have hid : jsonStr (overrideJson r) "override_id" = .ok r.overrideId := rfl
  simp only [overrideVersion, hid, hp, ok_bind, bind_cutHlc hw, sqlErr]
  rfl

theorem paramSnapshotVersion_paramSnapshotJson {r : ParamSnapshotRow}
    (hw : 0 ≤ r.stamp.hlcWallMs.toInt) (hc : 0 ≤ r.stamp.hlcCounter.toInt) :
    paramSnapshotVersion (paramSnapshotJson r) = .ok { r with stamp := r.stamp.truncated } := by
  have hx := extractHlc_of_carries (carries_paramSnapshotJson r) hw hc
  have hp : paramSnapshotParams (paramSnapshotJson r) r.id
      = .ok ({ r with stamp := {} }, r.stamp.cutHlc) := by
    simp only [paramSnapshotParams, hx]
    rfl
  have hid : jsonStr (paramSnapshotJson r) "id" = .ok r.id := rfl
  simp only [paramSnapshotVersion, hid, hp, ok_bind, bind_cutHlc hw, sqlErr]
  rfl

/-- So is an extracted suggestion. -/
theorem suggestionVersion_suggestionObject {r : SuggestionRow}
    (hw : 0 ≤ r.stamp.hlcWallMs.toInt) (hc : 0 ≤ r.stamp.hlcCounter.toInt) (c v : F64) :
    suggestionVersion (suggestionObject r c v) = .ok { r with
      confidenceScore := c, relevanceScore := v, createdAt := "", stamp := r.stamp.truncated } := by
  have hx := extractHlc_of_carries (carries_suggestionObject r c v) hw hc
  have hid : jsonStr (suggestionObject r c v) "suggestion_id" = .ok r.suggestionId := rfl
  have hp : suggestionParams (suggestionObject r c v) r.suggestionId r.stamp.cutHlc (.ok "")
      = .ok ({ r with confidenceScore := c, relevanceScore := v, createdAt := "", stamp := {} },
        r.stamp.cutHlc) := by
    have h₁ : jsonI64 (suggestionObject r c v) "is_actionable" = .ok r.isActionable :=
      jsonI64_of_get rfl
    have h₂ : jsonI64OrDefault (suggestionObject r c v) "is_deleted" 0 = r.isDeleted :=
      jsonI64OrDefault_of_get rfl
    have h₃ : jsonStrOpt (suggestionObject r c v) "reasoning" = r.reasoning :=
      jsonStrOpt_of_get rfl
    have h₄ : jsonStrOpt (suggestionObject r c v) "shown_at" = r.shownAt := jsonStrOpt_of_get rfl
    have h₅ : jsonStrOpt (suggestionObject r c v) "dismissed_at" = r.dismissedAt :=
      jsonStrOpt_of_get rfl
    have h₆ : jsonStrOpt (suggestionObject r c v) "acted_at" = r.actedAt := jsonStrOpt_of_get rfl
    have h₇ : jsonStrOpt (suggestionObject r c v) "expires_at" = r.expiresAt :=
      jsonStrOpt_of_get rfl
    have h₈ : jsonStrOpt (suggestionObject r c v) "deleted_at" = r.deletedAt :=
      jsonStrOpt_of_get rfl
    simp only [suggestionParams, h₁, h₂, h₃, h₄, h₅, h₆, h₇, h₈]
    rfl
  simp only [suggestionVersion, hid, hx, hp, ok_bind, bind_cutHlc hw, sqlErr]
  rfl

/-- With its text included, an embedding decodes to itself, less its number. -/
theorem embeddingVersion_embeddingJson {r : EmbeddingRow} (hw : 0 ≤ r.stamp.hlcWallMs.toInt)
    (hc : 0 ≤ r.stamp.hlcCounter.toInt) :
    embeddingVersion (embeddingJson true r)
      = .ok { r with id := 0, stamp := r.stamp.truncated } := by
  have hx := extractHlc_of_carries (carries_embeddingJson true r) hw hc
  have hseg : jsonStr (embeddingJson true r) "segment_id" = .ok r.segmentId := rfl
  have hmod : jsonStr (embeddingJson true r) "model_id" = .ok r.modelId := rfl
  have hvec : jsonStr (embeddingJson true r) "vector" = .ok (Hex.encode r.vector) := rfl
  have htype : jsonStr (embeddingJson true r) "content_type" = .ok r.contentType := rfl
  have htime : jsonStr (embeddingJson true r) "timestamp" = .ok r.timestamp := rfl
  have hdev : jsonStr (embeddingJson true r) "origin_device_id" = .ok r.stamp.originDeviceId := rfl
  have htext : jsonStrOpt (embeddingJson true r) "original_text" = some r.originalText := rfl
  have h₁ : jsonI64OrDefault (embeddingJson true r) "is_stale" 0 = r.isStale :=
    jsonI64OrDefault_of_get rfl
  have h₂ : jsonI64OrDefault (embeddingJson true r) "is_deleted" 0 = r.isDeleted :=
    jsonI64OrDefault_of_get rfl
  have h₃ : jsonStrOpt (embeddingJson true r) "content_label" = r.contentLabel :=
    jsonStrOpt_of_get rfl
  have h₄ : jsonStrOpt (embeddingJson true r) "deleted_at" = r.deletedAt := jsonStrOpt_of_get rfl
  simp only [embeddingVersion, hseg, hmod, hx, embeddingParams, hvec, htype, htime, hdev, htext,
    h₁, h₂, h₃, h₄, ok_bind, pure_bind]
  show sqlErr "insert embedding" (bindEmbedding _) = _
  have hbind : Stamp.bind ⟨r.stamp.cutHlc.wallMs, r.stamp.cutHlc.counter, r.stamp.originDeviceId⟩
      = .ok r.stamp.truncated := bind_cutHlc hw
  simp only [bindEmbedding, hbind, ok_bind, notNull, Hex.decode_encode, Option.getD_some]
  rfl

/-- Without its text an embedding cannot be stored. -/
theorem embeddingVersion_without_text (r : EmbeddingRow) (v : EmbeddingRow) :
    embeddingVersion (embeddingJson false r) ≠ .ok v := by
  intro h
  obtain ⟨seg, -, h⟩ := bind_eq_ok_iff.mp h
  obtain ⟨model, -, h⟩ := bind_eq_ok_iff.mp h
  obtain ⟨hlc, -, h⟩ := bind_eq_ok_iff.mp h
  obtain ⟨p, hp, hb⟩ := bind_eq_ok_iff.mp h
  obtain ⟨_, text, -, htext, -⟩ := bindEmbedding_ok (sqlErr_eq_ok_iff.mp hb)
  have hnone : p.2.1 = none := by
    simp only [embeddingParams, bind_eq_ok_iff] at hp
    obtain ⟨_, -, _, -, _, -, _, -, hret⟩ := hp
    cases hret
    rfl
  rw [hnone] at htext
  cases htext

end Oneshim
