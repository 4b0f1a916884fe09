/-
  The searches of the vector table (`vector_store_impl`, `vector_index_impl`).

  1. **Plain scans** (`searchFiltered`, `searchQuantized`) — over the full vectors, over the INT8
     vectors; every filter is a condition of the statement.

  2. **Partitioned scans** (`searchIvf`, `searchIvfBinary`) — the rows assigned to the probed clusters,
     all of them or the ones whose binary code is closest.  The conditions are built by a function of
     their own, which knows no regime.

  3. **What a search ranks** (`searchFiltered_eq`, `searchQuantized_eq`, `searchIvf_eq`,
     `searchIvfBinary_eq`) — the rows that its statement selects.

  4. **What the filters mean** (`Admits`) — a row that is selected is admitted, but for the regime and
     for a bound after the year 9999 (`admits_iff_of_filterWhere`).
-/
import Oneshim.Search.Statements

namespace Oneshim.Search

variable {F Instant : Type} [LinearOrder Instant] {rfc : Rfc3339 Instant}

section

variable (engine : Engine F rfc) (now : Instant) (store : VectorStore F rfc)

/-! ## Plain scans -/

/-- What the conditions of a plain scan are about. -/
def VectorStore.around : Surroundings := ⟨store.segments, fun _ => none⟩

/-- `search_filtered`. -/
def searchFiltered (query : List F) (limit : Nat) (timeDecayHours : F)
    (filters : SearchFilters Instant) : Except SearchError (List (SearchResult F Instant)) :=
  (queryMap engine .filtered (filteredClause rfc filters) store.around store.vectors.rows).map
    (bruteForceSearch engine now query limit timeDecayHours)

/-- `search_quantized`. -/
def searchQuantized (query : QuantizedVector F) (limit : Nat) (timeDecayHours : F)
    (filters : SearchFilters Instant) : Except SearchError (List (SearchResult F Instant)) :=
  (queryMap engine .quantized (quantizedClause rfc filters) store.around store.vectors.rows).map
    (bruteForceSearchQuantized engine now query limit timeDecayHours)

/-! ## Partitioned scans -/

/-- `ensure_cache`. -/
def VectorIndex.ensureCache (index : VectorIndex F) : VectorIndex F :=
  { index with centroidCache := some (index.centroidCache.getD index.ivfCentroids) }

/-- The cached centroids. -/
def VectorIndex.centroids (index : VectorIndex F) : List (CachedCentroid F) :=
  index.ensureCache.centroidCache.getD []

/-- The clusters whose centroids are closest to the query. -/
def probeIds (centroids : List (CachedCentroid F)) (query : QuantizedVector F) (nprobe : Nat) :
    List Nat :=
  let sims := centroids.map fun c => (c.id, engine.cosine c.vector query)
  ((sims.mergeSort fun a b => !engine.lt a.2 b.2).take (min nprobe centroids.length)).map Prod.fst

/-- The dimensions are compared at the first centroid. -/
def dimensionMismatch (centroids : List (CachedCentroid F)) (query : QuantizedVector F) :
    Option SearchError :=
  match centroids.head? with
  | some first =>
    if first.vector.data.length != query.data.length then
      some (.invalidArguments ("Dimension mismatch: centroid " ++ toString first.vector.data.length ++
        " vs query " ++ toString query.data.length))
    else none
  | none => none

/-- What the conditions of a partitioned scan are about. -/
def VectorIndex.around (index : VectorIndex F) : Surroundings :=
  ⟨store.segments, fun id => (index.ivfAssignments.find? id).map IvfAssignment.clusterId⟩

/-- `ivf_assignments` joined by the vector, `cluster_id IN (…)`. -/
def VectorIndex.inClusters (index : VectorIndex F) (clusters : List Nat) (vectorId : Nat) : Bool :=
  (index.ivfAssignments.find? vectorId).any fun ia => clusters.contains ia.clusterId

/-- The clause of `search_ivf`. -/
def ivfClause (rfc : Rfc3339 Instant) (filters : SearchFilters Instant) (clusters : List Nat) :
    Clause :=
  (pushClusters (buildFilterConditions rfc filters) clusters).push .vectorInt8IsNotNull []

/-- `search_ivf_impl`. -/
def searchIvf (index : VectorIndex F) (query : QuantizedVector F) (nprobe limit : Nat)
    (timeDecayHours : F) (filters : SearchFilters Instant) :
    Except SearchError (List (SearchResult F Instant)) :=
  let centroids := index.centroids
  if centroids.isEmpty then .ok []
  else match dimensionMismatch centroids query with
    | some e => .error e
    | none =>
      let clause := ivfClause rfc filters (probeIds engine centroids query nprobe)
      (queryMap engine .ivf clause (index.around store) store.vectors.rows).map
        (scoreAndRank engine now query limit timeDecayHours)

/-- The first stage of `search_ivf_binary`: the vectors of the clusters that have a code. -/
def codedIn (index : VectorIndex F) (clusters : List Nat) : List VectorBinaryCode :=
  index.binaryCodes.rows.filter fun bc => index.inClusters clusters bc.vectorId

/-- The closest `count` of them. -/
def hammingCandidates (queryBinary : BinaryCode) (count : Nat) (codes : List VectorBinaryCode) :
    List Nat :=
  let candidates := codes.map fun bc => (bc.vectorId, hammingDistance queryBinary bc.binaryCode)
  ((candidates.mergeSort fun a b => decide (a.2 ≤ b.2)).take count).map Prod.fst

/-- The clause of the second stage. -/
def rerankClause (rfc : Rfc3339 Instant) (filters : SearchFilters Instant) (candidates : List Nat) :
    Clause :=
  (pushIds (buildFilterConditions rfc filters) candidates).push .vectorInt8IsNotNull []

/-- `search_ivf_binary_impl`; `limit * oversample_factor` is taken without overflow. -/
def searchIvfBinary (index : VectorIndex F) (query : QuantizedVector F) (queryBinary : BinaryCode)
    (nprobe oversampleFactor limit : Nat) (timeDecayHours : F) (filters : SearchFilters Instant) :
    Except SearchError (List (SearchResult F Instant)) :=
  let centroids := index.centroids
  if centroids.isEmpty then .ok []
  else match dimensionMismatch centroids query with
    | some e => .error e
    | none =>
      let clusters := probeIds engine centroids query nprobe
      let candidates := hammingCandidates queryBinary (limit * oversampleFactor)
        (engine.codeOrder (codedIn index clusters))
      if candidates.isEmpty then .ok []
      else
        (queryMap engine .rerank (rerankClause rfc filters candidates) (index.around store)
          store.vectors.rows).map (scoreAndRank engine now query limit timeDecayHours)

end

/-! ## What the statements select -/

/-- The conditions of `search_filtered`. -/
def filteredWhere (segments : List ActivitySegment) (filters : SearchFilters Instant)
    (ev : EmbeddingVector F rfc) : Bool :=
  filterWhere filters ev && filters.regimeWhere segments ev

/-- The conditions of `search_quantized`. -/
def scanWhere (segments : List ActivitySegment) (filters : SearchFilters Instant)
    (ev : EmbeddingVector F rfc) : Bool :=
  filteredWhere segments filters ev && ev.vectorInt8.isSome

/-- The conditions of `search_ivf`. -/
def ivfWhere (index : VectorIndex F) (clusters : List Nat) (filters : SearchFilters Instant)
    (ev : EmbeddingVector F rfc) : Bool :=
  filterWhere filters ev && index.inClusters clusters ev.id && ev.vectorInt8.isSome

/-- The conditions of the second stage. -/
def rerankWhere (candidates : List Nat) (filters : SearchFilters Instant)
    (ev : EmbeddingVector F rfc) : Bool :=
  filterWhere filters ev && candidates.contains ev.id && ev.vectorInt8.isSome

/-- The plain scans bind their values. -/
def SearchFilters.Binds (filters : SearchFilters Instant) : Prop :=
  filters.SingleType ∨ filters.regimeId.isSome = true ∨ filters.excludedSegmentIds ≠ []

section

variable {store : VectorStore F rfc} {index : VectorIndex F} {filters : SearchFilters Instant}

theorem selects_filteredClause (ev : EmbeddingVector F rfc) :
    (filteredClause rfc filters).selects store.around ev =
      filteredWhere store.segments filters ev := by
  rw [filteredClause, Clause.selects, meets_pushFilters List.prefix_rfl, filteredWhere, filterWhere]
  simp only [Clause.meets, List.all_cons, List.all_nil, Condition.holds, Bool.and_true,
    VectorStore.around]
  ac_rfl

theorem selects_quantizedClause (ev : EmbeddingVector F rfc) :
    (quantizedClause rfc filters).selects store.around ev = scanWhere store.segments filters ev := by
  rw [quantizedClause, Clause.selects, meets_pushFilters List.prefix_rfl, scanWhere, filteredWhere,
    filterWhere]
  simp only [Clause.meets, List.all_cons, List.all_nil, Condition.holds, Bool.and_true,
    VectorStore.around]
  ac_rfl

/-- What `build_filter_conditions` selects, whatever is added to it. -/
theorem meets_buildFilterConditions {values : List SqlValue} {around : Surroundings}
    (h : (buildFilterConditions rfc filters).paramValues <+: values) (ev : EmbeddingVector F rfc) :
    (buildFilterConditions rfc filters).meets values around ev = filterWhere filters ev := by
  unfold buildFilterConditions at h ⊢
  have htypes := prefix_pushExcluded.trans h
  have hbefore := prefix_pushContentTypes.trans htypes
  have hafter := prefix_pushBefore.trans hbefore
  rw [meets_pushExcluded h, meets_pushContentTypes htypes, meets_pushBefore hbefore,
    meets_pushAfter hafter, filterWhere]
  simp only [Clause.meets, List.all_cons, List.all_nil, Condition.holds, Bool.and_true]

/-- What the statement of the indexed search selects. -/
theorem selects_ivfClause (clusters : List Nat) (ev : EmbeddingVector F rfc) :
    (ivfClause rfc filters clusters).selects (index.around store) ev =
      ivfWhere index clusters filters ev := by
  have hvalues : (ivfClause rfc filters clusters).paramValues =
      (buildFilterConditions rfc filters).paramValues ++ clusters.map .integer := by
    simp only [ivfClause, pushClusters, Clause.push, List.append_nil]
  have hany (cluster : Nat) := @any_numbered (buildFilterConditions rfc filters) _
    (clusters.map .integer) List.prefix_rfl (.integer cluster)
  have hcontains (cluster : Nat) : (clusters.map SqlValue.integer).contains (.integer cluster) =
      clusters.contains cluster := by
    simp
  rw [Clause.selects, hvalues, ivfClause, Clause.meets_push, pushClusters, Clause.meets_push,
    meets_buildFilterConditions (List.prefix_append _ _)]
  simp only [List.length_map, hcontains] at hany
  simp only [Condition.holds, hany, ivfWhere, VectorIndex.inClusters, VectorIndex.around,
    Option.any_map]

/-- What the statement of the second stage selects. -/
theorem selects_rerankClause (candidates : List Nat) (ev : EmbeddingVector F rfc) :
    (rerankClause rfc filters candidates).selects (index.around store) ev =
      rerankWhere candidates filters ev := by
  have hvalues : (rerankClause rfc filters candidates).paramValues =
      (buildFilterConditions rfc filters).paramValues ++ candidates.map .integer := by
    simp only [rerankClause, pushIds, Clause.push, List.append_nil]
  have hany := @any_numbered (buildFilterConditions rfc filters) _
    (candidates.map .integer) List.prefix_rfl (.integer ev.id)
  have hcontains : (candidates.map SqlValue.integer).contains (.integer ev.id) =
      candidates.contains ev.id := by
    simp
  rw [Clause.selects, hvalues, rerankClause, Clause.meets_push, pushIds, Clause.meets_push,
    meets_buildFilterConditions (List.prefix_append _ _)]
  rw [List.length_map, hcontains] at hany
  simp only [Condition.holds, hany, rerankWhere]

theorem binds_filteredClause_iff : (filteredClause rfc filters).Binds ↔ filters.Binds :=
  binds_pushFilters_iff (show Clause.Binds ⟨[.isNotStale], []⟩ from rfl)

theorem binds_quantizedClause_iff : (quantizedClause rfc filters).Binds ↔ filters.Binds :=
  binds_pushFilters_iff (show Clause.Binds ⟨[.isNotStale, .vectorInt8IsNotNull], []⟩ from rfl)

/-- The partitioned scans bind as soon as a value follows the content types. -/
theorem binds_pushValues {condition : Condition} {added : List SqlValue} (hadded : added ≠ [])
    (hparams : condition.params = numbered (buildFilterConditions rfc filters) added.length) :
    (((buildFilterConditions rfc filters).push condition added).push
      .vectorInt8IsNotNull []).Binds := by
  have hstart : (⟨[.isNotStale], []⟩ : Clause).Binds := rfl
  have hbefore : (pushBefore rfc filters (pushAfter rfc filters ⟨[.isNotStale], []⟩)).Binds :=
    binds_pushBefore (binds_pushAfter hstart)
  have hwithin : (buildFilterConditions rfc filters).Within :=
    (binds_pushExcluded_iff (binds_pushContentTypes_iff hbefore).1).1
  have hbinds := (binds_push_numbered_iff hwithin hparams).mpr (.inl hadded)
  -- a condition without placeholders changes nothing
  rw [Clause.Binds, Clause.parameterCount_push, Condition.params, List.foldr_nil, Nat.max_zero,
    Clause.push, List.append_nil]
  exact hbinds

end

/-! ## Clusters -/

section

variable {engine : Engine F rfc}

/-- The vector is in one of the clusters. -/
theorem inClusters_iff {index : VectorIndex F} {clusters : List Nat} {vectorId : Nat} :
    index.inClusters clusters vectorId = true ↔
      ∃ ia ∈ index.ivfAssignments.rows, ia.vectorId = vectorId ∧ ia.clusterId ∈ clusters := by
  unfold VectorIndex.inClusters
  constructor
  · intro h
    obtain ⟨ia, hia, hcluster⟩ := (Option.any_eq_true _ _).mp h
    obtain ⟨hmem, hid⟩ := Lib.Table.find?_eq_some_iff.mp hia
    exact ⟨ia, hmem, hid, List.contains_iff_mem.mp hcluster⟩
  · rintro ⟨ia, hmem, rfl, hcluster⟩
    rw [Lib.Table.find?_key hmem]
    exact List.contains_iff_mem.mpr hcluster

/-- With every cluster probed, the probed ones are all of them. -/
theorem mem_probeIds_all {centroids : List (CachedCentroid F)} {query : QuantizedVector F}
    {nprobe : Nat} (h : centroids.length ≤ nprobe) {id : Nat} :
    id ∈ probeIds engine centroids query nprobe ↔ id ∈ centroids.map CachedCentroid.id := by
  simp only [probeIds]
  rw [Nat.min_eq_right h, List.take_of_length_le (by simp)]
  simp [List.mem_mergeSort]

/-- The candidates of the Hamming stage are coded vectors of the clusters. -/
theorem mem_of_mem_hammingCandidates {queryBinary : BinaryCode} {count : Nat}
    {codes : List VectorBinaryCode} {id : Nat} (h : id ∈ hammingCandidates queryBinary count codes) :
    id ∈ codes.map VectorBinaryCode.vectorId := by
  obtain ⟨c, hc, rfl⟩ := List.mem_map.mp h
  obtain ⟨bc, hbc, rfl⟩ := List.mem_map.mp (List.mem_mergeSort.mp (List.mem_of_mem_take hc))
  exact List.mem_map_of_mem hbc

/-- With room for all of them, every coded vector is a candidate. -/
theorem mem_hammingCandidates_all {queryBinary : BinaryCode} {count : Nat}
    {codes : List VectorBinaryCode} (hcount : codes.length ≤ count) {id : Nat} :
    id ∈ hammingCandidates queryBinary count codes ↔ id ∈ codes.map VectorBinaryCode.vectorId := by
  refine ⟨mem_of_mem_hammingCandidates, fun h => ?_⟩
  simp only [hammingCandidates]
  rw [List.take_of_length_le (by simpa using hcount)]
  obtain ⟨bc, hbc, rfl⟩ := List.mem_map.mp h
  refine List.mem_map.mpr ⟨_, List.mem_mergeSort.mpr (List.mem_map_of_mem hbc), rfl⟩

/-- Some cluster is probed when there is one. -/
theorem probeIds_ne_nil {centroids : List (CachedCentroid F)} {query : QuantizedVector F}
    {nprobe : Nat} (hcentroids : centroids.isEmpty = false) (hprobe : 0 < nprobe) :
    probeIds engine centroids query nprobe ≠ [] := by
  have hlength : 0 < centroids.length :=
    List.length_pos_iff.mpr (List.isEmpty_eq_false_iff.mp hcentroids)
  refine List.ne_nil_of_length_pos ?_
  simp only [probeIds, List.length_map, List.length_take, List.length_mergeSort]
  omega

/-- Without centroids there is no cluster to be in. -/
theorem probeIds_nil {query : QuantizedVector F} {nprobe : Nat} :
    probeIds engine [] query nprobe = [] := by
  simp [probeIds]

/-- A vector in a probed cluster shows that there are centroids, and that some are probed. -/
theorem centroids_of_inClusters {index : VectorIndex F} {query : QuantizedVector F}
    {nprobe vectorId : Nat}
    (h : index.inClusters (probeIds engine index.centroids query nprobe) vectorId = true) :
    index.centroids.isEmpty = false ∧ 0 < nprobe := by
  obtain ⟨ia, -, -, hia⟩ := inClusters_iff.mp h
  constructor
  · rcases hcentroids : index.centroids with _ | ⟨c, cs⟩
    · rw [hcentroids, probeIds_nil] at hia
      cases hia
    · rfl
  · refine Nat.pos_of_ne_zero fun hzero => ?_
    simp [probeIds, hzero] at hia

end

/-! ## What a search ranks -/

section

variable {engine : Engine F rfc} {now : Instant} {store : VectorStore F rfc} {index : VectorIndex F}
  {nprobe limit : Nat} {timeDecayHours : F} {filters : SearchFilters Instant}

/-- **The plain scan of full vectors** ranks what its conditions select, if its values bind. -/
theorem searchFiltered_eq {query : List F} (hbinds : filters.Binds) :
    searchFiltered engine now store query limit timeDecayHours filters =
      .ok (rankRows engine now (fullSimilarity engine query) limit timeDecayHours
        (engine.rowOrder .filtered
          (store.vectors.rows.filter (filteredWhere store.segments filters)))) := by
  have hclause : (filteredClause rfc filters).Binds := binds_filteredClause_iff.mpr hbinds
  rw [searchFiltered, queryMap, if_pos hclause, funext selects_filteredClause]
  rfl

/-- **The plain scan of INT8 vectors.** -/
theorem searchQuantized_eq {query : QuantizedVector F} (hbinds : filters.Binds) :
    searchQuantized engine now store query limit timeDecayHours filters =
      .ok (rankRows engine now (int8Similarity engine query) limit timeDecayHours
        (engine.rowOrder .quantized
          (store.vectors.rows.filter (scanWhere store.segments filters)))) := by
  have hclause : (quantizedClause rfc filters).Binds := binds_quantizedClause_iff.mpr hbinds
  rw [searchQuantized, queryMap, if_pos hclause, funext selects_quantizedClause]
  rfl

/-- With other values both are refused. -/
theorem searchFiltered_error {query : List F} (hbinds : ¬ filters.Binds)
    (results : List (SearchResult F Instant)) :
    searchFiltered engine now store query limit timeDecayHours filters ≠ .ok results := by
  have hclause : ¬ (filteredClause rfc filters).Binds := fun h =>
    hbinds (binds_filteredClause_iff.mp h)
  rw [searchFiltered, queryMap, if_neg hclause]
  exact fun h => by cases h

theorem searchQuantized_error {query : QuantizedVector F} (hbinds : ¬ filters.Binds)
    (results : List (SearchResult F Instant)) :
    searchQuantized engine now store query limit timeDecayHours filters ≠ .ok results := by
  have hclause : ¬ (quantizedClause rfc filters).Binds := fun h =>
    hbinds (binds_quantizedClause_iff.mp h)
  rw [searchQuantized, queryMap, if_neg hclause]
  exact fun h => by cases h

variable {query : QuantizedVector F}

/-- **The partitioned scan** ranks what its conditions select, also without centroids, for a query of
    the right dimensions. -/
theorem searchIvf_eq (hdim : dimensionMismatch index.centroids query = none)
    (hprobe : index.centroids.isEmpty = true ∨ 0 < nprobe) :
    searchIvf engine now store index query nprobe limit timeDecayHours filters =
      .ok (rankRows engine now (int8Similarity engine query) limit timeDecayHours
        (engine.rowOrder .ivf (store.vectors.rows.filter
          (ivfWhere index (probeIds engine index.centroids query nprobe) filters)))) := by
  cases hempty : index.centroids.isEmpty with
  | false =>
    have hclusters : probeIds engine index.centroids query nprobe ≠ [] :=
      probeIds_ne_nil hempty (hprobe.resolve_left (by simp [hempty]))
    have hclause : (ivfClause rfc filters (probeIds engine index.centroids query nprobe)).Binds := by
      refine binds_pushValues (by simpa using hclusters) ?_
      rw [List.length_map]
      rfl
    simp only [searchIvf, hempty, Bool.false_eq_true, if_false, hdim, queryMap, if_pos hclause,
      funext (selects_ivfClause _)]
    rfl
  | true =>
    -- there is no cluster to be in: nothing is selected
    have hnone : store.vectors.rows.filter
        (ivfWhere index (probeIds engine index.centroids query nprobe) filters) = [] := by
      refine List.filter_eq_nil_iff.mpr fun ev _ hwhere => ?_
      simp only [ivfWhere, Bool.and_eq_true] at hwhere
      rw [(centroids_of_inClusters hwhere.1.2).1] at hempty
      cases hempty
    rw [hnone, (engine.rowOrder_perm .ivf []).eq_nil]
    simp [searchIvf, hempty, rankRows, scoredRows, sortByScore]

/-- Whatever it answers is that. -/
theorem searchIvf_of_ok {results : List (SearchResult F Instant)}
    (h : searchIvf engine now store index query nprobe limit timeDecayHours filters = .ok results) :
    dimensionMismatch index.centroids query = none ∧
      results = rankRows engine now (int8Similarity engine query) limit timeDecayHours
        (engine.rowOrder .ivf (store.vectors.rows.filter
          (ivfWhere index (probeIds engine index.centroids query nprobe) filters))) := by
  cases hempty : index.centroids.isEmpty with
  | true =>
    have hdim : dimensionMismatch index.centroids query = none := by
      rw [List.isEmpty_iff.mp hempty]
      rfl
    rw [searchIvf_eq hdim (.inl hempty)] at h
    exact ⟨hdim, (Except.ok.inj h).symm⟩
  | false =>
    cases hdim : dimensionMismatch index.centroids query with
    | some e =>
      simp only [searchIvf, hempty, Bool.false_eq_true, if_false, hdim, reduceCtorEq] at h
    | none =>
      simp only [searchIvf, hempty, Bool.false_eq_true, if_false, hdim, queryMap,
        funext (selects_ivfClause _)] at h
      split at h
      · exact ⟨rfl, (Except.ok.inj h).symm⟩
      · cases h

variable {queryBinary : BinaryCode} {oversampleFactor : Nat}

/-- The candidates of a search. -/
def candidatesOf (engine : Engine F rfc) (index : VectorIndex F) (query : QuantizedVector F)
    (queryBinary : BinaryCode) (nprobe count : Nat) : List Nat :=
  hammingCandidates queryBinary count
    (engine.codeOrder (codedIn index (probeIds engine index.centroids query nprobe)))

/-- **The two stages** rank what the conditions of the second one select, also without centroids and
    without candidates. -/
theorem searchIvfBinary_eq (hdim : dimensionMismatch index.centroids query = none) :
    searchIvfBinary engine now store index query queryBinary nprobe oversampleFactor limit
        timeDecayHours filters =
      .ok (rankRows engine now (int8Similarity engine query) limit timeDecayHours
        (engine.rowOrder .rerank (store.vectors.rows.filter (rerankWhere
          (candidatesOf engine index query queryBinary nprobe (limit * oversampleFactor))
            filters)))) := by
  -- without candidates nothing is selected
  have hnone (hempty : (candidatesOf engine index query queryBinary nprobe
      (limit * oversampleFactor)).isEmpty = true) : rankRows engine now (int8Similarity engine query)
        limit timeDecayHours (engine.rowOrder .rerank (store.vectors.rows.filter (rerankWhere
          (candidatesOf engine index query queryBinary nprobe (limit * oversampleFactor))
            filters))) = [] := by
    have hnil : store.vectors.rows.filter (rerankWhere (candidatesOf engine index query queryBinary
        nprobe (limit * oversampleFactor)) filters) = [] := by
      refine List.filter_eq_nil_iff.mpr fun ev _ hwhere => ?_
      simp [rerankWhere, List.isEmpty_iff.mp hempty] at hwhere
    rw [hnil, (engine.rowOrder_perm .rerank []).eq_nil]
    simp [rankRows, scoredRows, sortByScore]
  cases hempty : (candidatesOf engine index query queryBinary nprobe
      (limit * oversampleFactor)).isEmpty with
  | true =>
    rw [hnone hempty]
    rw [candidatesOf] at hempty
    simp only [searchIvfBinary, hdim, hempty, if_true, ite_self]
  | false =>
    have hids := List.isEmpty_eq_false_iff.mp hempty
    have hclause : (rerankClause rfc filters (candidatesOf engine index query queryBinary nprobe
        (limit * oversampleFactor))).Binds := by
      refine binds_pushValues (by simpa using hids) ?_
      rw [List.length_map]
      rfl
    have hcentroids : index.centroids.isEmpty = false := by
      obtain ⟨id, hid⟩ := List.exists_mem_of_ne_nil _ hids
      obtain ⟨bc, hbc, -⟩ := List.mem_map.mp (mem_of_mem_hammingCandidates hid)
      have hcoded := (engine.codeOrder_perm _).mem_iff.mp hbc
      exact (centroids_of_inClusters (List.mem_filter.mp hcoded).2).1
    rw [candidatesOf] at hempty hclause ⊢
    simp only [searchIvfBinary, hcentroids, Bool.false_eq_true, if_false, hdim, hempty, queryMap,
      if_pos hclause, funext (selects_rerankClause _)]
    rfl

/-- A query of other dimensions is refused. -/
theorem searchIvfBinary_error {e : SearchError}
    (hdim : dimensionMismatch index.centroids query = some e) :
    searchIvfBinary engine now store index query queryBinary nprobe oversampleFactor limit
      timeDecayHours filters = .error e := by
  cases hcentroids : index.centroids with
  | nil =>
    rw [hcentroids] at hdim
    cases hdim
  | cons c cs =>
    rw [hcentroids] at hdim
    simp only [searchIvfBinary, hcentroids, List.isEmpty_cons, Bool.false_eq_true, if_false, hdim]

/-- What the second stage selects is coded in the probed clusters, and there is room for it. -/
theorem coded_of_rerankWhere {count : Nat} {ev : EmbeddingVector F rfc}
    (h : rerankWhere (candidatesOf engine index query queryBinary nprobe count) filters ev = true) :
    0 < count ∧ rerankWhere ((codedIn index (probeIds engine index.centroids query nprobe)).map
      VectorBinaryCode.vectorId) filters ev = true := by
  simp only [rerankWhere, Bool.and_eq_true, List.contains_iff_mem] at h ⊢
  obtain ⟨⟨hfilter, hid⟩, hrow⟩ := h
  have hperm := (engine.codeOrder_perm
    (codedIn index (probeIds engine index.centroids query nprobe))).map VectorBinaryCode.vectorId
  refine ⟨Nat.pos_of_ne_zero fun hzero => ?_,
    ⟨hfilter, hperm.mem_iff.mp (mem_of_mem_hammingCandidates hid)⟩, hrow⟩
  simp [candidatesOf, hammingCandidates, hzero] at hid

/-- With room for every code, all that is coded there is selected. -/
theorem rerankWhere_of_coded {count : Nat} {ev : EmbeddingVector F rfc}
    (hcount : (codedIn index (probeIds engine index.centroids query nprobe)).length ≤ count)
    (h : rerankWhere ((codedIn index (probeIds engine index.centroids query nprobe)).map
      VectorBinaryCode.vectorId) filters ev = true) :
    rerankWhere (candidatesOf engine index query queryBinary nprobe count) filters ev = true := by
  simp only [rerankWhere, Bool.and_eq_true, List.contains_iff_mem] at h ⊢
  obtain ⟨⟨hfilter, hid⟩, hrow⟩ := h
  have hperm := engine.codeOrder_perm
    (codedIn index (probeIds engine index.centroids query nprobe))
  refine ⟨⟨hfilter, (mem_hammingCandidates_all ?_).mpr ((hperm.map _).mem_iff.mpr hid)⟩, hrow⟩
  rw [hperm.length_eq]
  exact hcount

end

/-! ## What the filters mean -/

/-- The filters admit a segment, a content type and an instant. -/
structure SearchFilters.Admits (segments : List ActivitySegment) (filters : SearchFilters Instant)
    (segmentId : String) (contentType : EmbeddingContentType) (timestamp : Instant) : Prop where
  after : ∀ after, filters.after = some after → after ≤ timestamp
  before : ∀ before, filters.before = some before → timestamp ≤ before
  contentType : ∀ contentTypes, filters.contentTypes = some contentTypes → contentTypes ≠ [] →
    contentType ∈ contentTypes
  regime : ∀ regimeId, filters.regimeId = some regimeId →
    ∃ segment ∈ segments, segment.id = segmentId ∧ segment.regimeId = some regimeId
  notExcluded : segmentId ∉ filters.excludedSegmentIds

/-- The filters admit a result. -/
def SearchResult.AdmittedBy (result : SearchResult F Instant) (segments : List ActivitySegment)
    (filters : SearchFilters Instant) : Prop :=
  filters.Admits segments result.segmentId result.contentType result.timestamp

/-- The segment of a row is of the regime asked for. -/
theorem regimeWhere_iff {filters : SearchFilters Instant} {segments : List ActivitySegment}
    {ev : EmbeddingVector F rfc} :
    filters.regimeWhere segments ev = true ↔ ∀ regimeId, filters.regimeId = some regimeId →
      ∃ segment ∈ segments, segment.id = ev.segmentId ∧ segment.regimeId = some regimeId := by
  cases hregime : filters.regimeId with
  | none => simp [SearchFilters.regimeWhere, hregime]
  | some regimeId =>
    simp only [SearchFilters.regimeWhere, hregime, Option.all_some, List.contains_iff_mem,
      List.mem_map, List.mem_filter, beq_iff_eq, Option.some.injEq, forall_eq']
    constructor
    · rintro ⟨segment, ⟨hmem, hreg⟩, hid⟩
      exact ⟨segment, hmem, hid, hreg⟩
    · rintro ⟨segment, hmem, hid, hreg⟩
      exact ⟨segment, ⟨hmem, hreg⟩, hid⟩


/-- The lower bound is after the year 9999: its text comes before that of every row. -/
def SearchFilters.Late (rfc : Rfc3339 Instant) (filters : SearchFilters Instant) : Prop :=
  ∃ after, filters.after = some after ∧ rfc.FiveDigits after

/-- **A row that a statement selects is admitted**, but for the regime and a bound that is too late. -/
theorem admits_iff_of_filterWhere {engine : Engine F rfc} {now : Instant}
    {segments : List ActivitySegment} {filters : SearchFilters Instant} {ev : EmbeddingVector F rfc}
    (h : filterWhere filters ev = true) (timeDecayHours sim : F) :
    (ev.result engine now timeDecayHours sim).AdmittedBy segments filters ↔
      filters.regimeWhere segments ev = true ∧ ¬ filters.Late rfc := by
  obtain ⟨hprintable, htext⟩ := ev.instant_spec now
  have htimestamp : (ev.result engine now timeDecayHours sim).timestamp = ev.instant now := rfl
  simp only [filterWhere, Bool.and_eq_true, Bool.not_eq_true'] at h
  obtain ⟨⟨⟨⟨-, hafter⟩, hbefore⟩, htype⟩, hexcluded⟩ := h
  rw [regimeWhere_iff]
  constructor
  · refine fun hadmits => ⟨hadmits.regime, ?_⟩
    rintro ⟨after, hsome, hfive⟩
    have hle := hadmits.after after hsome
    rw [htimestamp] at hle
    exact absurd hle (not_le_of_gt (rfc.lt_of_fiveDigits _ _ hprintable hfive))
  · rintro ⟨hregime, hlate⟩
    refine ⟨fun after h => ?_, fun before h => ?_, fun contentTypes h hne => ?_, hregime,
      fun hmem => ?_⟩
    · simp only [SearchFilters.afterWhere, h, Option.all_some, decide_eq_true_eq, htext,
        rfc.print_le_printable _ _ hprintable] at hafter
      rw [htimestamp]
      exact hafter.resolve_right fun hfive => hlate ⟨after, h, hfive⟩
    · simp only [SearchFilters.beforeWhere, h, Option.all_some, decide_eq_true_eq, htext,
        rfc.printable_le_print _ _ hprintable] at hbefore
      rw [htimestamp]
      exact hbefore.1
    · obtain ⟨first, rest, rfl⟩ := List.exists_cons_of_ne_nil hne
      simp only [SearchFilters.contentTypeWhere, h, Option.all_some, List.head?_cons,
        beq_iff_eq] at htype
      have hfirst : (ev.result engine now timeDecayHours sim).contentType = first := by
        rw [EmbeddingVector.result, htype, parseContentType_contentTypeToStr]
      rw [hfirst]
      exact List.mem_cons_self
    · simp only [SearchFilters.excludedWhere, Bool.not_eq_true', List.contains_eq_mem,
        decide_eq_false_iff_not] at hexcluded
      exact hexcluded hmem

/-- **The plain scans filter**, but for a bound that is too late. -/
theorem admits_iff_of_scanWhere {engine : Engine F rfc} {now : Instant}
    {segments : List ActivitySegment} {filters : SearchFilters Instant} {ev : EmbeddingVector F rfc}
    (h : scanWhere segments filters ev = true) (timeDecayHours sim : F) :
    (ev.result engine now timeDecayHours sim).AdmittedBy segments filters ↔ ¬ filters.Late rfc := by
  simp only [scanWhere, filteredWhere, Bool.and_eq_true] at h
  obtain ⟨⟨hfilter, hregime⟩, -⟩ := h
  rw [admits_iff_of_filterWhere hfilter timeDecayHours sim, hregime]
  exact and_iff_right rfl

end Oneshim.Search
