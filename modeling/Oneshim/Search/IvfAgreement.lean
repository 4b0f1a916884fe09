/-
  The indexed search against the plain one (`vector_index_impl/search.rs`,
  `vector_store_impl/trait_impl.rs`).

  Once every quantized row is in a cluster and every cluster is probed, the partitioned scan and the
  plain scan should return the same.  Each builds its conditions by itself.

  1. **Same answers** (`SameAnswer`) — both begin the same results, in some order by score.

  2. **What each selects** (`filter_ivfWhere`, `filter_scanWhere`) — the same conditions but for the
     regime.

  3. **The result** (`ivf_agrees_iff`).
-/
import Mathlib.Data.List.Sort
import Oneshim.Search.AdaptiveSearch

namespace Oneshim.Search

variable {F Instant : Type} [LinearOrder Instant] {rfc : Rfc3339 Instant}

/-! ## Same answers -/

/-- Two answers are the same up to the order of equal scores: they are the beginnings of the same
    results, each in an order by score. -/
def SameAnswer (engine : Engine F rfc) (limit : Nat) (a b : List (SearchResult F Instant)) : Prop :=
  ∃ all all' : List (SearchResult F Instant), all.Perm all' ∧
    a = (sortByScore engine all).take limit ∧ b = (sortByScore engine all').take limit

theorem SameAnswer.length_eq {engine : Engine F rfc} {limit : Nat}
    {a b : List (SearchResult F Instant)} (h : SameAnswer engine limit a b) :
    a.length = b.length := by
  obtain ⟨all, all', hperm, rfl, rfl⟩ := h
  simp only [sortByScore, List.length_take, List.length_mergeSort, hperm.length_eq]

/-! ## What each selects -/

variable {engine : Engine F rfc} {store : VectorStore F rfc} {index : VectorIndex F} {now : Instant}
  {query : QuantizedVector F} {nprobe : Nat} {filters : SearchFilters Instant}

/-- The rows that both should select: active, quantized, and of the filters but the regime. -/
def matchesRow (filters : SearchFilters Instant) (ev : EmbeddingVector F rfc) : Bool :=
  filterWhere filters ev && ev.vectorInt8.isSome

/-- The partitioned scan selects all of them when they are assigned and every cluster is probed. -/
theorem filter_ivfWhere (rows : List (EmbeddingVector F rfc))
    (hassigned : ∀ ev ∈ rows, ev.vectorInt8.isSome = true → index.Assigned ev.id)
    (hprobe : index.centroids.length ≤ nprobe) :
    rows.filter (ivfWhere index (probeIds engine index.centroids query nprobe) filters) =
      rows.filter (matchesRow filters) := by
  refine List.filter_congr fun ev hev => ?_
  unfold ivfWhere matchesRow
  cases hrow : ev.vectorInt8.isSome with
  | false => simp
  | true =>
    have hin : index.inClusters (probeIds engine index.centroids query nprobe) ev.id = true :=
      (inClusters_probeAll hprobe).mpr (hassigned ev hev hrow)
    rw [hin, Bool.and_true]

/-- The plain scan selects those of the regime. -/
theorem filter_scanWhere (segments : List ActivitySegment) (rows : List (EmbeddingVector F rfc)) :
    rows.filter (scanWhere segments filters) =
      (rows.filter (matchesRow filters)).filter (filters.regimeWhere segments) := by
  rw [List.filter_filter]
  refine List.filter_congr fun ev _ => ?_
  rw [Bool.eq_iff_iff]
  simp only [scanWhere, filteredWhere, matchesRow, Bool.and_eq_true]
  tauto

/-- Rankings of the same rows, in any two orders, are the same answer. -/
theorem sameAnswer_rankRows {similarity : EmbeddingVector F rfc → Option F}
    {rows rows' : List (EmbeddingVector F rfc)} (hperm : rows.Perm rows') (limit : Nat)
    (timeDecayHours : F) :
    SameAnswer engine limit (rankRows engine now similarity limit timeDecayHours rows)
      (rankRows engine now similarity limit timeDecayHours rows') :=
  ⟨_, _, hperm.filterMap _, rfl, rfl⟩

/-- The one row of the sample table is in the one cluster of the sample index. -/
theorem sampleIndex_assigned : ∀ ev ∈ sampleStore.vectors.rows, ev.vectorInt8.isSome = true →
    sampleIndex.Assigned ev.id := by
  intro ev hev _
  rw [List.mem_singleton.mp hev]
  exact ⟨⟨1, 0⟩, List.mem_singleton_self _, rfl, ⟨0, ⟨[5], 1, 0⟩⟩, List.mem_singleton_self _, rfl⟩

/-! ## The result -/

/-- **The indexed search agrees with the plain one exactly when** the query has the dimension of the
    centroids, the plain one binds its values, and all rows that meet the other filters are of the
    regime asked for: without a regime, always.  Any table with its quantized rows assigned, every
    cluster probed. -/
theorem ivf_agrees_iff (engine : Engine F rfc) (now : Instant) (store : VectorStore F rfc)
    (index : VectorIndex F) (query : QuantizedVector F) (nprobe : Nat) (timeDecayHours : F)
    (filters : SearchFilters Instant)
    (hassigned : ∀ ev ∈ store.vectors.rows, ev.vectorInt8.isSome = true → index.Assigned ev.id)
    (hprobe : index.centroids.length ≤ nprobe) :
    (∀ limit, ∃ results plain,
        searchIvf engine now store index query nprobe limit timeDecayHours filters = .ok results ∧
          searchQuantized engine now store query limit timeDecayHours filters = .ok plain ∧
            SameAnswer engine limit results plain) ↔
      dimensionMismatch index.centroids query = none ∧ filters.Binds ∧
        ∀ ev ∈ store.vectors.rows, filterWhere filters ev = true → ev.vectorInt8.isSome = true →
          filters.regimeWhere store.segments ev = true := by
  have hivf : store.vectors.rows.filter
      (ivfWhere index (probeIds engine index.centroids query nprobe) filters) =
        store.vectors.rows.filter (matchesRow filters) :=
    filter_ivfWhere store.vectors.rows hassigned hprobe
  have hprobes : index.centroids.isEmpty = true ∨ 0 < nprobe := by
    cases hcentroids : index.centroids with
    | nil => exact .inl rfl
    | cons c cs =>
      rw [hcentroids, List.length_cons] at hprobe
      exact .inr (by omega)
  constructor
  · intro h
    have hdim : dimensionMismatch index.centroids query = none := by
      obtain ⟨results, -, hok, -⟩ := h 0
      exact (searchIvf_of_ok hok).1
    have hbinds : filters.Binds := by
      obtain ⟨-, plain, -, hok, -⟩ := h 0
      by_contra hnot
      exact searchQuantized_error hnot plain hok
    refine ⟨hdim, hbinds, fun ev hev hfilter hrow => ?_⟩
    -- with room for the whole table, equally many rows are ranked
    obtain ⟨results, plain, hok, hplain, hsame⟩ := h store.vectors.rows.length
    rw [searchIvf_eq hdim hprobes, hivf] at hok
    rw [searchQuantized_eq hbinds, filter_scanWhere] at hplain
    cases hok
    cases hplain
    have hranked (statement : Statement) (rows : List (EmbeddingVector F rfc))
        (hrows : ∀ ev ∈ rows, matchesRow filters ev = true)
        (hlength : rows.length ≤ store.vectors.rows.length) :
        (rankRows engine now (int8Similarity engine query) store.vectors.rows.length timeDecayHours
          (engine.rowOrder statement rows)).length = rows.length := by
      have hperm := engine.rowOrder_perm statement rows
      rw [length_rankRows, hperm.length_eq, Nat.min_eq_right hlength]
      intro ev hev
      rw [int8Similarity, Option.isSome_map]
      exact (Bool.and_eq_true_iff.mp (hrows ev (hperm.mem_iff.mp hev))).2
    have hmatches : ∀ ev ∈ store.vectors.rows.filter (matchesRow filters),
        matchesRow filters ev = true := fun ev hev => (List.mem_filter.mp hev).2
    have hlength := hsame.length_eq
    rw [hranked _ _ hmatches (List.length_filter_le _ _),
      hranked _ _ (fun ev hev => hmatches ev (List.mem_filter.mp hev).1)
        ((List.length_filter_le _ _).trans (List.length_filter_le _ _))] at hlength
    have hall := List.length_filter_eq_length_iff.mp hlength.symm
    exact hall ev (List.mem_filter.mpr ⟨hev, Bool.and_eq_true_iff.mpr ⟨hfilter, hrow⟩⟩)
  · rintro ⟨hdim, hbinds, hregime⟩ limit
    have hscan : store.vectors.rows.filter (scanWhere store.segments filters) =
        store.vectors.rows.filter (matchesRow filters) := by
      rw [filter_scanWhere]
      refine List.filter_eq_self.mpr fun ev hev => ?_
      obtain ⟨hmem, hmatches⟩ := List.mem_filter.mp hev
      obtain ⟨hfilter, hrow⟩ := Bool.and_eq_true_iff.mp hmatches
      exact hregime ev hmem hfilter hrow
    refine ⟨_, _, searchIvf_eq hdim hprobes, searchQuantized_eq hbinds, ?_⟩
    rw [hivf, hscan]
    exact sameAnswer_rankRows ((engine.rowOrder_perm .ivf _).trans
      (engine.rowOrder_perm .quantized _).symm) limit timeDecayHours

/-- Two segments at work, in clusters of their own; the activity in the second one is of leisure. -/
def twoClusterStore : VectorStore Nat sampleRfc where
  vectors := ⟨[
    ⟨1, "seg-1", "SEGMENT_SUMMARY", none, "review", [5], some ⟨[5], 1, 0⟩,
      "2026-03-22T09:00:00+00:00", false, sampleRfc_written⟩,
    ⟨2, "seg-2", "SEGMENT_SUMMARY", none, "report", [90], some ⟨[90], 1, 0⟩,
      "2026-03-22T09:00:00+00:00", false, sampleRfc_written⟩,
    ⟨3, "seg-3", "CONTENT_ACTIVITY", none, "film", [80], some ⟨[80], 1, 0⟩,
      "2026-03-22T09:00:00+00:00", false, sampleRfc_written⟩], by decide⟩
  segments := [⟨"seg-1", some "work"⟩, ⟨"seg-2", some "work"⟩, ⟨"seg-3", some "leisure"⟩]

def twoClusterIndex : VectorIndex Nat where
  ivfCentroids := [⟨0, ⟨[5], 1, 0⟩⟩, ⟨1, ⟨[85], 1, 0⟩⟩]
  centroidCache := none
  ivfAssignments := ⟨[⟨1, 0⟩, ⟨2, 1⟩, ⟨3, 1⟩], by decide⟩
  binaryCodes := ⟨[], List.nodup_nil⟩
  quantileThresholds := none

/-- The closer, the more similar. -/
def closenessEngine : Engine Nat sampleRfc :=
  { sampleEngine with
    cosine := fun a b => 255 - ((a.data.headD 0).toInt - (b.data.headD 0).toInt).natAbs }

def workSummaries : SearchFilters Unit :=
  { regimeId := some "work", contentTypes := some [.segmentSummary] }

/-- Two clusters of rows at work, all of them probed. -/
theorem ivf_agrees_iff_sample :
    ∃ results plain, searchIvf closenessEngine () twoClusterStore twoClusterIndex ⟨[70], 1, 0⟩ 2 10
        0 workSummaries = .ok results ∧
      searchQuantized closenessEngine () twoClusterStore ⟨[70], 1, 0⟩ 10 0 workSummaries =
        .ok plain ∧
      SameAnswer closenessEngine 10 results plain := by
  refine (ivf_agrees_iff closenessEngine () twoClusterStore twoClusterIndex ⟨[70], 1, 0⟩ 2 0
    workSummaries ?_ (Nat.le_refl 2)).mpr ⟨by decide, .inr (.inl rfl), ?_⟩ 10
  · intro ev hev _
    have hid : ev.id ∈ [1, 2, 3] := List.mem_map_of_mem (f := EmbeddingVector.id) hev
    revert hid
    generalize ev.id = id
    simp only [List.mem_cons, List.not_mem_nil, or_false]
    rintro (rfl | rfl | rfl)
    · exact ⟨⟨1, 0⟩, .head _, rfl, ⟨0, ⟨[5], 1, 0⟩⟩, .head _, rfl⟩
    · exact ⟨⟨2, 1⟩, .tail _ (.head _), rfl, ⟨1, ⟨[85], 1, 0⟩⟩, .tail _ (.head _), rfl⟩
    · exact ⟨⟨3, 1⟩, .tail _ (.tail _ (.head _)), rfl, ⟨1, ⟨[85], 1, 0⟩⟩, .tail _ (.head _), rfl⟩
  · -- the segments that are summarized are at work
    have hall : (twoClusterStore.vectors.rows.all fun ev =>
        !filterWhere workSummaries ev ||
          workSummaries.regimeWhere twoClusterStore.segments ev) := by
      decide +kernel
    intro ev hev hfilter _
    have hrow := List.all_eq_true.mp hall ev hev
    rw [hfilter] at hrow
    exact hrow

/-- **A search for another regime.**  Every quantized row is in a cluster, and every cluster is
    probed: the partitioned scan returns the segment at work, the plain scan nothing. -/
theorem ivf_disagrees :
    (∀ ev ∈ sampleStore.vectors.rows, ev.vectorInt8.isSome = true → sampleIndex.Assigned ev.id) ∧
      sampleIndex.centroids.length ≤ 1 ∧
      ∃ results plain, searchIvf sampleEngine () sampleStore sampleIndex ⟨[5], 1, 0⟩ 1 10 0
          { regimeId := some "leisure" } = .ok results ∧
        searchQuantized sampleEngine () sampleStore ⟨[5], 1, 0⟩ 10 0
          { regimeId := some "leisure" } = .ok plain ∧
        ¬ SameAnswer sampleEngine 10 results plain := by
  refine ⟨sampleIndex_assigned, Nat.le_refl 1,
    [⟨"seg-1", .segmentSummary, none, 1, 1, 1, (), "review"⟩], [], by decide +kernel,
    by decide +kernel, fun hsame => ?_⟩
  have hlength := hsame.length_eq
  cases hlength

end Oneshim.Search
