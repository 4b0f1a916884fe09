/-
  The adaptive search coordinator (`oneshim-analysis/src/adaptive_search.rs`).

  The coordinator picks one of four ways to search by the cached number of vectors, or the one that is
  forced, and falls back from one to another.

  1. **Code** — the strategy, the number of probed clusters, the join of the ANN's answer with the
     table, the search.

  2. **Data sources** (`source`, `search_eq`) — a search chooses what it reads, then reads it.

  3. **The meaning of a search** (`KeepsMeaning`) — the filters admit every result, there are no more
     than the limit, and with every cluster probed every active vector is a candidate.

  4. **When it is kept** (`strategy_keeps_meaning_iff`) — the plain scan keeps it on quantized rows.
     The join passes on whatever the ANN returns, the partitioned scans forget the regime, and a
     vector stored after the last build is in no cluster.  No row is late enough for a lower bound
     after the year 9999, but the scans return them all.
-/
import Mathlib.Order.Basic
import Oneshim.Search.Searches

namespace Oneshim.Search

/-! ## The code -/

/-- `SearchStrategy`. -/
inductive SearchStrategy where
  | bruteForceInt8 | hnsw | ivfInt8 | ivfBinaryRerank
  deriving DecidableEq

/-- `SearchConfig`. -/
structure SearchConfig where
  bruteForceThreshold : Nat := 10000
  ivfThreshold : Nat := 100000
  hnswThreshold : Nat := 5000
  oversampleFactor : Nat := 10
  defaultNprobe : Nat := 0
  forcedStrategy : Option String := none

/-- `QuantileThresholds`, one of each kind for every dimension, as `calibrate` makes them. -/
structure QuantileThresholds (F : Type) where
  q25 : List F
  q50 : List F
  q75 : List F
  dimensions : Nat
  lengths : q25.length = dimensions ∧ q50.length = dimensions ∧ q75.length = dimensions

/-- `AnnIndex::search`: the keys and distances of the nearest neighbours, or an error. -/
abbrev AnnIndex (F : Type) := List F → Nat → Except String (List (Nat × F))

/-- `AdaptiveSearchCoordinator`; `hnswFeature` says whether it is compiled with the ANN. -/
structure AdaptiveSearchCoordinator (F : Type) where
  config : SearchConfig
  cachedVectorCount : Nat
  hnswFeature : Bool
  annIndex : Option (AnnIndex F)

/-- The arithmetic of the coordinator. -/
structure Arithmetic (F : Type) where
  isFinite : F → Bool
  /-- The min-max scaling of `ScalarQuantizer::quantize`. -/
  scaled : List F → QuantizedVector F
  lt : F → F → Bool
  /-- `(1.0 - distance).max(0.0)`. -/
  similarity : F → F
  /-- `(sqrt(count) / 10.0).ceil()`. -/
  ceilSqrtTenth : Nat → Nat
  /-- `serde_json::from_str`. -/
  parseThresholds : String → Except String (QuantileThresholds F)
  zero : F

variable {F Instant : Type} [LinearOrder Instant] {rfc : Rfc3339 Instant}

/-- `determine_strategy`. -/
def AdaptiveSearchCoordinator.determineStrategy (self : AdaptiveSearchCoordinator F) :
    SearchStrategy :=
  match self.config.forcedStrategy with
  | some forced =>
    if forced = "brute_force" then .bruteForceInt8
    else if forced = "hnsw" ∧ self.hnswFeature then .hnsw
    else if forced = "ivf" then .ivfInt8
    else if forced = "ivf_binary" then .ivfBinaryRerank
    else .bruteForceInt8
  | none =>
    let count := self.cachedVectorCount
    if self.hnswFeature ∧ self.config.hnswThreshold ≤ count ∧
        count < self.config.bruteForceThreshold ∧ self.annIndex.isSome then .hnsw
    else if count < self.config.bruteForceThreshold then .bruteForceInt8
    else if count < self.config.ivfThreshold then .ivfInt8
    else .ivfBinaryRerank

/-- `compute_nprobe`. -/
def AdaptiveSearchCoordinator.computeNprobe (self : AdaptiveSearchCoordinator F)
    (arith : Arithmetic F) : Nat :=
  if 0 < self.config.defaultNprobe then self.config.defaultNprobe
  else max (arith.ceilSqrtTenth self.cachedVectorCount) 1

/-- `ScalarQuantizer::quantize`. -/
def quantize (arith : Arithmetic F) (vector : List F) : Except SearchError (QuantizedVector F) :=
  if vector.isEmpty then .error (.invalidArguments "cannot quantize zero-length vector")
  else if !vector.all arith.isFinite then
    .error (.invalidArguments "vector contains NaN or Inf values")
  else .ok (arith.scaled vector)

/-- The two bits of a value; its dimension has thresholds. -/
def quantileCode (arith : Arithmetic F) (thresholds : QuantileThresholds F) (d : Nat) (val : F) :
    UInt8 :=
  if arith.lt val (thresholds.q25.getD d arith.zero) then 0
  else if arith.lt val (thresholds.q50.getD d arith.zero) then 1
  else if arith.lt val (thresholds.q75.getD d arith.zero) then 2
  else 3

/-- `BinaryQuantizer::encode`: four dimensions in a byte, the first in the high bits. -/
def encode (arith : Arithmetic F) (vector : List F) (thresholds : QuantileThresholds F) :
    Except SearchError BinaryCode :=
  if vector.length ≠ thresholds.dimensions then
    .error (.invalidArguments ("vector length " ++ toString vector.length ++
      " does not match threshold dimensions " ++ toString thresholds.dimensions))
  else
    let codes := vector.mapIdx (quantileCode arith thresholds)
    .ok ⟨(List.range ((thresholds.dimensions * 2 + 7) / 8)).map fun byte =>
      (List.range 4).foldl
        (fun acc i => acc ||| (codes.getD (4 * byte + i) 0 <<< UInt8.ofNat (6 - 2 * i))) 0⟩

/-- `load_quantile_thresholds`. -/
def VectorIndex.loadQuantileThresholds (arith : Arithmetic F) (index : VectorIndex F) :
    Except SearchError (Option (QuantileThresholds F)) :=
  match index.quantileThresholds with
  | none => .ok none
  | some json =>
    match arith.parseThresholds json with
    | .ok thresholds => .ok (some thresholds)
    | .error e => .error (.internal ("Failed to deserialize quantile thresholds: " ++ e))

section

variable (arith : Arithmetic F) (engine : Engine F rfc) (store : VectorStore F rfc)
  (index : VectorIndex F) (now : Instant)

/-- `join_metadata`: the rows of the keys, whatever the filters say. -/
def joinMetadata (hnswResults : List (Nat × F)) (timeDecayHours : F) :
    List (SearchResult F Instant) :=
  sortByScore engine (hnswResults.filterMap fun (key, distance) =>
    (store.vectors.find? key).map fun ev =>
      ev.result engine now timeDecayHours (arith.similarity distance))

/-- `search`. -/
def AdaptiveSearchCoordinator.search (self : AdaptiveSearchCoordinator F) (query : List F)
    (limit : Nat) (timeDecayHours : F) (filters : SearchFilters Instant) :
    Except SearchError (List (SearchResult F Instant)) :=
  let bruteForce := quantize arith query >>= fun quantized =>
    searchQuantized engine now store quantized limit timeDecayHours filters
  match self.determineStrategy with
  | .hnsw =>
    match self.annIndex with
    | some ann =>
      match ann query limit with
      | .ok hnswResults => .ok (joinMetadata arith engine store now hnswResults timeDecayHours)
      | .error _ => bruteForce
    | none => bruteForce
  | .bruteForceInt8 => bruteForce
  | .ivfInt8 => do
    let quantized ← quantize arith query
    searchIvf engine now store index quantized (self.computeNprobe arith) limit timeDecayHours filters
  | .ivfBinaryRerank => do
    let quantized ← quantize arith query
    match ← index.loadQuantileThresholds arith with
    | some thresholds =>
      let binaryCode ← encode arith query thresholds
      searchIvfBinary engine now store index quantized binaryCode (self.computeNprobe arith)
        self.config.oversampleFactor limit timeDecayHours filters
    | none =>
      searchIvf engine now store index quantized (self.computeNprobe arith) limit timeDecayHours
        filters

/-! ## Data sources -/

/-- What a search reads. -/
inductive Source (F : Type) where
  | scan (query : QuantizedVector F)
  | ann (hnswResults : List (Nat × F))
  | ivf (query : QuantizedVector F) (nprobe : Nat)
  | ivfBinary (query : QuantizedVector F) (queryBinary : BinaryCode) (nprobe oversampleFactor : Nat)

/-- The source that a search of this limit reads. -/
def AdaptiveSearchCoordinator.source (self : AdaptiveSearchCoordinator F) (query : List F)
    (limit : Nat) : Except SearchError (Source F) :=
  match self.determineStrategy with
  | .hnsw =>
    match self.annIndex with
    | some ann =>
      match ann query limit with
      | .ok hnswResults => .ok (.ann hnswResults)
      | .error _ => (quantize arith query).map .scan
    | none => (quantize arith query).map .scan
  | .bruteForceInt8 => (quantize arith query).map .scan
  | .ivfInt8 => (quantize arith query).map fun quantized => .ivf quantized (self.computeNprobe arith)
  | .ivfBinaryRerank => do
    let quantized ← quantize arith query
    match ← index.loadQuantileThresholds arith with
    | some thresholds =>
      (encode arith query thresholds).map fun binaryCode =>
        .ivfBinary quantized binaryCode (self.computeNprobe arith) self.config.oversampleFactor
    | none => return .ivf quantized (self.computeNprobe arith)

/-- Read the source. -/
def Source.read (limit : Nat) (timeDecayHours : F) (filters : SearchFilters Instant) :
    Source F → Except SearchError (List (SearchResult F Instant))
  | .scan query => searchQuantized engine now store query limit timeDecayHours filters
  | .ann hnswResults => .ok (joinMetadata arith engine store now hnswResults timeDecayHours)
  | .ivf query nprobe =>
    searchIvf engine now store index query nprobe limit timeDecayHours filters
  | .ivfBinary query queryBinary nprobe oversampleFactor =>
    searchIvfBinary engine now store index query queryBinary nprobe oversampleFactor limit
      timeDecayHours filters

/-- A search chooses its source, then reads it. -/
theorem AdaptiveSearchCoordinator.search_eq (self : AdaptiveSearchCoordinator F) (query : List F)
    (limit : Nat) (timeDecayHours : F) (filters : SearchFilters Instant) :
    self.search arith engine store index now query limit timeDecayHours filters =
      self.source arith index query limit >>=
        Source.read arith engine store index now limit timeDecayHours filters := by
  unfold search source
  cases self.determineStrategy with
  | bruteForceInt8 => cases quantize arith query <;> rfl
  | hnsw =>
    cases self.annIndex with
    | none => cases quantize arith query <;> rfl
    | some ann =>
      cases hann : ann query limit with
      | ok hnswResults => simp only [hann]; rfl
      | error e =>
        simp only [hann]
        cases quantize arith query <;> rfl
  | ivfInt8 => cases quantize arith query <;> rfl
  | ivfBinaryRerank =>
    cases quantize arith query with
    | error e => rfl
    | ok quantized =>
      cases index.loadQuantileThresholds arith with
      | error e => rfl
      | ok thresholds =>
        cases thresholds with
        | none => rfl
        | some thresholds =>
          simp only [bind, Except.bind]
          cases encode arith query thresholds <;> rfl

/-- The partitioned sources do not depend on the limit. -/
theorem AdaptiveSearchCoordinator.source_limit {self : AdaptiveSearchCoordinator F} {query : List F}
    {limit : Nat} {source : Source F} (h : self.source arith index query limit = .ok source)
    (hivf : self.determineStrategy ≠ .hnsw) (limit' : Nat) :
    self.source arith index query limit' = .ok source := by
  unfold AdaptiveSearchCoordinator.source at h ⊢
  cases hs : self.determineStrategy <;> simp only [hs] at h ⊢
  case hnsw => exact absurd hs hivf
  all_goals exact h

/-- A partitioned source is that of a strategy other than the ANN's. -/
theorem AdaptiveSearchCoordinator.source_hnsw {self : AdaptiveSearchCoordinator F} {query : List F}
    {limit : Nat} {source : Source F} (h : self.source arith index query limit = .ok source)
    (hs : self.determineStrategy = .hnsw) :
    (∃ hnswResults, source = .ann hnswResults) ∨ ∃ quantized, source = .scan quantized := by
  have hscan : ∀ {source}, (quantize arith query).map Source.scan = .ok source →
      ∃ quantized, source = .scan quantized := by
    intro source h
    cases hq : quantize arith query with
    | error e => rw [hq] at h; cases h
    | ok quantized => rw [hq] at h; cases h; exact ⟨quantized, rfl⟩
  simp only [AdaptiveSearchCoordinator.source, hs] at h
  split at h
  · split at h
    · cases h
      exact .inl ⟨_, rfl⟩
    · exact .inr (hscan h)
  · exact .inr (hscan h)

/-! ## The meaning of a search -/

/-- The vector is a candidate of the source: without filters, the source reads it. -/
def Source.Candidate (ev : EmbeddingVector F rfc) : Source F → Prop
  | .scan _ => scanWhere store.segments {} ev = true
  | .ann hnswResults => ∃ hit ∈ hnswResults, hit.1 = ev.id
  | .ivf query nprobe =>
    ivfWhere index (probeIds engine index.centroids query nprobe) {} ev = true
  | .ivfBinary query _ nprobe _ =>
    rerankWhere ((codedIn index (probeIds engine index.centroids query nprobe)).map
      VectorBinaryCode.vectorId) {} ev = true

/-- The source reads all it has: it is the table, or all clusters are probed. -/
def Source.ProbesAll : Source F → Prop
  | .scan _ => True
  | .ann _ => False
  | .ivf _ nprobe => index.centroids.length ≤ nprobe
  | .ivfBinary _ _ nprobe _ => index.centroids.length ≤ nprobe

/-- What a search means: the filters admit its results, there are no more than the limit, and when
    all is probed every active vector is a candidate. -/
structure KeepsMeaning (source : Source F) (limit : Nat) (filters : SearchFilters Instant)
    (results : List (SearchResult F Instant)) : Prop where
  admitted : ∀ r ∈ results, r.AdmittedBy store.segments filters
  bounded : results.length ≤ limit
  complete : source.ProbesAll index → ∀ ev ∈ store.vectors.rows, ev.isStale = false →
    source.Candidate engine store index ev

/-! ## When it is kept -/

/-- The vector is in a cluster whose centroid is cached. -/
def VectorIndex.Assigned (vectorId : Nat) : Prop :=
  ∃ ia ∈ index.ivfAssignments.rows, ia.vectorId = vectorId ∧
    ∃ c ∈ index.centroids, c.id = ia.clusterId

/-- The condition on the source: whatever it reads is of the regime asked for and no lower bound is
    after the year 9999, the join's rows are admitted, every active vector is where the source
    looks. -/
def Source.Safe (limit : Nat) (filters : SearchFilters Instant) : Source F → Prop
  | .scan _ =>
    filters.Binds →
      (filters.Late rfc → 0 < limit → ∀ ev ∈ store.vectors.rows,
        scanWhere store.segments filters ev = false) ∧
      ∀ ev ∈ store.vectors.rows, ev.isStale = false → ev.vectorInt8.isSome = true
  | .ann hnswResults =>
    (∀ hit ∈ hnswResults, ∀ ev, store.vectors.find? hit.1 = some ev →
      filters.Admits store.segments ev.segmentId (parseContentType ev.contentType)
        ((rfc.parseFromRfc3339 ev.timestamp).getD now)) ∧
    (hnswResults.filter fun hit => (store.vectors.find? hit.1).isSome).length ≤ limit
  | .ivf query nprobe =>
    dimensionMismatch index.centroids query = none →
      (∀ ev ∈ store.vectors.rows,
        ivfWhere index (probeIds engine index.centroids query nprobe) filters ev = true →
          filters.regimeWhere store.segments ev = true ∧ ¬ filters.Late rfc) ∧
      (index.centroids.length ≤ nprobe → ∀ ev ∈ store.vectors.rows, ev.isStale = false →
        ev.vectorInt8.isSome = true ∧ index.Assigned ev.id)
  | .ivfBinary query _ nprobe oversampleFactor =>
    dimensionMismatch index.centroids query = none →
      (0 < oversampleFactor → ∀ ev ∈ store.vectors.rows,
        rerankWhere ((codedIn index (probeIds engine index.centroids query nprobe)).map
          VectorBinaryCode.vectorId) filters ev = true →
          filters.regimeWhere store.segments ev = true ∧ ¬ filters.Late rfc) ∧
      (index.centroids.length ≤ nprobe → ∀ ev ∈ store.vectors.rows, ev.isStale = false →
        ev.vectorInt8.isSome = true ∧ index.Assigned ev.id ∧
          ∃ bc ∈ index.binaryCodes.rows, bc.vectorId = ev.id)

variable {arith engine store index now}

variable {filters : SearchFilters Instant}

/-- A row is admitted as its results are. -/
theorem admittedBy_result {ev : EmbeddingVector F rfc} {segments : List ActivitySegment}
    {timeDecayHours sim : F} :
    (ev.result engine now timeDecayHours sim).AdmittedBy segments filters ↔
      filters.Admits segments ev.segmentId (parseContentType ev.contentType)
        ((rfc.parseFromRfc3339 ev.timestamp).getD now) :=
  Iff.rfl

/-- Without filters only the stale rows are left out. -/
theorem filterWhere_empty (ev : EmbeddingVector F rfc) :
    filterWhere ({} : SearchFilters Instant) ev = !ev.isStale := by
  simp [filterWhere, SearchFilters.afterWhere, SearchFilters.beforeWhere,
    SearchFilters.contentTypeWhere, SearchFilters.excludedWhere]

/-- Without filters the plain scan reads the quantized rows. -/
theorem scanWhere_empty (segments : List ActivitySegment) (ev : EmbeddingVector F rfc) :
    scanWhere segments ({} : SearchFilters Instant) ev = (!ev.isStale && ev.vectorInt8.isSome) := by
  rw [scanWhere, filteredWhere, filterWhere_empty, SearchFilters.regimeWhere, Option.all_none,
    Bool.and_true]

variable {query : QuantizedVector F}

/-- With every cluster probed, a vector is in a probed cluster when it is assigned. -/
theorem inClusters_probeAll {nprobe : Nat} (h : index.centroids.length ≤ nprobe) {vectorId : Nat} :
    index.inClusters (probeIds engine index.centroids query nprobe) vectorId = true ↔
      index.Assigned vectorId := by
  rw [inClusters_iff, VectorIndex.Assigned]
  refine exists_congr fun ia => and_congr_right fun _ => and_congr_right fun _ => ?_
  rw [mem_probeIds_all h, List.mem_map]

/-- The active rows that a partitioned scan of every cluster reads are the quantized and assigned
    ones. -/
theorem candidate_ivf_iff {nprobe : Nat} (h : index.centroids.length ≤ nprobe)
    {ev : EmbeddingVector F rfc} (hstale : ev.isStale = false) :
    (Source.ivf query nprobe).Candidate engine store index ev ↔
      ev.vectorInt8.isSome = true ∧ index.Assigned ev.id := by
  simp only [Source.Candidate, ivfWhere, filterWhere_empty, hstale, Bool.not_false, Bool.true_and,
    Bool.and_eq_true, inClusters_probeAll h]
  exact and_comm

/-- With a stage of binary codes they must be coded as well. -/
theorem candidate_ivfBinary_iff {queryBinary : BinaryCode} {nprobe oversampleFactor : Nat}
    (h : index.centroids.length ≤ nprobe) {ev : EmbeddingVector F rfc} (hstale : ev.isStale = false) :
    (Source.ivfBinary query queryBinary nprobe oversampleFactor).Candidate engine store index ev ↔
      ev.vectorInt8.isSome = true ∧ index.Assigned ev.id ∧
        ∃ bc ∈ index.binaryCodes.rows, bc.vectorId = ev.id := by
  simp only [Source.Candidate, rerankWhere, filterWhere_empty, hstale, Bool.not_false,
    Bool.true_and, Bool.and_eq_true, List.contains_iff_mem, codedIn, List.mem_map, List.mem_filter]
  constructor
  · rintro ⟨⟨bc, ⟨hbc, hin⟩, hid⟩, hrow⟩
    exact ⟨hrow, hid ▸ (inClusters_probeAll h).mp hin, bc, hbc, hid⟩
  · rintro ⟨hrow, hassigned, bc, hbc, hid⟩
    exact ⟨⟨bc, ⟨hbc, (inClusters_probeAll h).mpr (hid ▸ hassigned)⟩, hid⟩, hrow⟩

variable {timeDecayHours : F}

/-- A result of the join is that of a stored row of one of the keys. -/
theorem mem_joinMetadata {hnswResults : List (Nat × F)} {r : SearchResult F Instant} :
    r ∈ joinMetadata arith engine store now hnswResults timeDecayHours ↔
      ∃ hit ∈ hnswResults, ∃ ev, store.vectors.find? hit.1 = some ev ∧
        ev.result engine now timeDecayHours (arith.similarity hit.2) = r := by
  simp only [joinMetadata, sortByScore, List.mem_mergeSort, List.mem_filterMap,
    Option.map_eq_some_iff]

/-- The join has one result for each key that is stored. -/
theorem length_joinMetadata (hnswResults : List (Nat × F)) (timeDecayHours : F) :
    (joinMetadata arith engine store now hnswResults timeDecayHours).length =
      (hnswResults.filter fun hit => (store.vectors.find? hit.1).isSome).length := by
  rw [joinMetadata, sortByScore, List.length_mergeSort]
  induction hnswResults with
  | nil => rfl
  | cons hit rest ih =>
    cases hfind : store.vectors.find? hit.1 with
    | none => simpa [hfind] using ih
    | some ev => simpa [hfind] using ih

/-- **A safe source keeps the meaning.** -/
theorem keepsMeaning_of_safe {source : Source F} {limit : Nat}
    {results : List (SearchResult F Instant)}
    (hsafe : source.Safe engine store index now limit filters)
    (h : source.read arith engine store index now limit timeDecayHours filters = .ok results) :
    KeepsMeaning engine store index source limit filters results := by
  cases source with
  | scan query =>
    by_cases hbinds : filters.Binds
    · obtain ⟨hlate, hquantized⟩ := hsafe hbinds
      rw [Source.read, searchQuantized_eq hbinds] at h
      cases h
      refine ⟨fun r hr => ?_, length_rankRows_le, fun _ ev hev hstale => ?_⟩
      · have hlimit : 0 < limit := by
          refine Nat.pos_of_ne_zero fun hzero => ?_
          simp [rankRows, hzero] at hr
        obtain ⟨ev, hev, hwhere, sim, rfl⟩ := mem_rankRows_select hr
        refine (admits_iff_of_scanWhere hwhere timeDecayHours sim).mpr fun h => ?_
        rw [hlate h hlimit ev hev] at hwhere
        cases hwhere
      · simp [Source.Candidate, scanWhere_empty, hstale, hquantized ev hev hstale]
    · exact absurd h (searchQuantized_error hbinds results)
  | ann hnswResults =>
    cases h
    refine ⟨fun r hr => ?_, ?_, fun hall => hall.elim⟩
    · obtain ⟨hit, hhit, ev, hfind, rfl⟩ := mem_joinMetadata.mp hr
      exact admittedBy_result.mpr (hsafe.1 hit hhit ev hfind)
    · rw [length_joinMetadata]
      exact hsafe.2
  | ivf query nprobe =>
    obtain ⟨hdim, rfl⟩ := searchIvf_of_ok h
    obtain ⟨hregime, hcomplete⟩ := hsafe hdim
    refine ⟨fun r hr => ?_, length_rankRows_le, fun hall ev hev hstale => ?_⟩
    · obtain ⟨ev, hev, hwhere, sim, rfl⟩ := mem_rankRows_select hr
      have hfilter : filterWhere filters ev = true := by
        simp only [ivfWhere, Bool.and_eq_true] at hwhere
        exact hwhere.1.1
      exact (admits_iff_of_filterWhere hfilter timeDecayHours sim).mpr (hregime ev hev hwhere)
    · exact (candidate_ivf_iff hall hstale).mpr (hcomplete hall ev hev hstale)
  | ivfBinary query queryBinary nprobe oversampleFactor =>
    cases hdim : dimensionMismatch index.centroids query with
    | some e =>
      rw [Source.read, searchIvfBinary_error hdim] at h
      cases h
    | none =>
      rw [Source.read, searchIvfBinary_eq hdim] at h
      cases h
      obtain ⟨hregime, hcomplete⟩ := hsafe hdim
      refine ⟨fun r hr => ?_, length_rankRows_le, fun hall ev hev hstale => ?_⟩
      · obtain ⟨ev, hev, hwhere, sim, rfl⟩ := mem_rankRows_select hr
        obtain ⟨hcount, hcoded⟩ := coded_of_rerankWhere hwhere
        have hover : 0 < oversampleFactor := Nat.pos_of_mul_pos_left hcount
        have hfilter : filterWhere filters ev = true := by
          simp only [rerankWhere, Bool.and_eq_true] at hwhere
          exact hwhere.1.1
        exact (admits_iff_of_filterWhere hfilter timeDecayHours sim).mpr
          (hregime hover ev hev hcoded)
      · exact (candidate_ivfBinary_iff hall hstale).mpr (hcomplete hall ev hev hstale)

/-- A scan that keeps the meaning is of quantized rows, and of none under a bound that is too
    late. -/
theorem safe_scan {limit : Nat}
    (h : ∀ results, (Source.scan query).read arith engine store index now limit timeDecayHours
      filters = .ok results → KeepsMeaning engine store index (.scan query) limit filters results) :
    (Source.scan query).Safe engine store index now limit filters := by
  intro hbinds
  have hread := @searchQuantized_eq _ _ _ _ engine now store limit timeDecayHours filters query hbinds
  have hkeeps := h _ hread
  refine ⟨fun hlate hlimit ev hev => ?_, fun ev hev hstale => ?_⟩
  · -- if a row is selected then some result is there, and none is admitted
    by_contra hselected
    have hwhere : scanWhere store.segments filters ev = true := by simpa using hselected
    have hmem : ev ∈ engine.rowOrder .quantized
        (store.vectors.rows.filter (scanWhere store.segments filters)) :=
      (engine.rowOrder_perm _ _).mem_iff.mpr (List.mem_filter.mpr ⟨hev, hwhere⟩)
    have hrow : (int8Similarity engine query ev).isSome = true := by
      rw [int8Similarity, Option.isSome_map]
      exact (Bool.and_eq_true_iff.mp hwhere).2
    obtain ⟨r, hr⟩ := List.exists_mem_of_ne_nil _ (rankRows_ne_nil hlimit hmem hrow)
    obtain ⟨other, -, hother, sim, rfl⟩ := mem_rankRows_select hr
    exact (admits_iff_of_scanWhere hother timeDecayHours sim).mp (hkeeps.admitted _ hr) hlate
  · have hcandidate := hkeeps.complete trivial ev hev hstale
    simpa [Source.Candidate, scanWhere_empty, hstale] using hcandidate

/-- A join that keeps the meaning is of admitted rows, no more than the limit. -/
theorem safe_ann {hnswResults : List (Nat × F)} {limit : Nat}
    (h : ∀ results, (Source.ann hnswResults).read arith engine store index now limit timeDecayHours
      filters = .ok results →
      KeepsMeaning engine store index (.ann hnswResults) limit filters results) :
    (Source.ann hnswResults).Safe engine store index now limit filters := by
  have hkeeps := h _ rfl
  refine ⟨fun hit hhit ev hfind => ?_, ?_⟩
  · exact admittedBy_result.mp
      (hkeeps.admitted _ (mem_joinMetadata.mpr ⟨hit, hhit, ev, hfind, rfl⟩))
  · have hlength := hkeeps.bounded
    rwa [length_joinMetadata] at hlength

/-- A partitioned scan that keeps the meaning at every limit reads rows of the regime asked for, and
    finds every active one in a cluster. -/
theorem safe_ivf {nprobe : Nat}
    (h : ∀ limit results, (Source.ivf query nprobe).read arith engine store index now limit
      timeDecayHours filters = .ok results →
      KeepsMeaning engine store index (.ivf query nprobe) limit filters results) (limit : Nat) :
    (Source.ivf query nprobe).Safe engine store index now limit filters := by
  intro hdim
  constructor
  · intro ev hev hwhere
    have hparts := hwhere
    simp only [ivfWhere, Bool.and_eq_true] at hparts
    obtain ⟨⟨hfilter, hin⟩, hrow⟩ := hparts
    have hread := @searchIvf_eq _ _ _ _ engine now store index nprobe store.vectors.rows.length
      timeDecayHours filters query hdim (.inr (centroids_of_inClusters hin).2)
    obtain ⟨sim, hmem⟩ := exists_mem_rankRows_select timeDecayHours (Nat.le_refl _) hev hwhere
      (show (int8Similarity engine query ev).isSome = true by rwa [int8Similarity, Option.isSome_map])
    exact (admits_iff_of_filterWhere hfilter timeDecayHours sim).mp
      ((h _ _ hread).admitted _ hmem)
  · intro hall ev hev hstale
    have hprobe : index.centroids.isEmpty = true ∨ 0 < nprobe := by
      cases hcentroids : index.centroids with
      | nil => exact .inl rfl
      | cons c cs =>
        have hle : index.centroids.length ≤ nprobe := hall
        rw [hcentroids, List.length_cons] at hle
        exact .inr (by omega)
    have hread := @searchIvf_eq _ _ _ _ engine now store index nprobe limit timeDecayHours filters
      query hdim hprobe
    exact (candidate_ivf_iff hall hstale).mp ((h _ _ hread).complete hall ev hev hstale)

/-- The same with the stage of binary codes, which must be of the active vectors as well. -/
theorem safe_ivfBinary {queryBinary : BinaryCode} {nprobe oversampleFactor : Nat}
    (h : ∀ limit results, (Source.ivfBinary query queryBinary nprobe oversampleFactor).read arith
      engine store index now limit timeDecayHours filters = .ok results →
      KeepsMeaning engine store index (.ivfBinary query queryBinary nprobe oversampleFactor) limit
        filters results) (limit : Nat) :
    (Source.ivfBinary query queryBinary nprobe oversampleFactor).Safe engine store index now limit
      filters := by
  intro hdim
  constructor
  · intro hover ev hev hwhere
    -- a limit at which neither stage drops a row
    let room := store.vectors.rows.length + index.binaryCodes.rows.length
    have hread := @searchIvfBinary_eq _ _ _ _ engine now store index nprobe room timeDecayHours filters
      query queryBinary oversampleFactor hdim
    have hselected : rerankWhere
        (candidatesOf engine index query queryBinary nprobe (room * oversampleFactor)) filters ev =
          true := by
      have hcodes : (codedIn index (probeIds engine index.centroids query nprobe)).length ≤
          room * oversampleFactor := calc
        _ ≤ index.binaryCodes.rows.length := List.length_filter_le _ _
        _ ≤ room := Nat.le_add_left _ _
        _ ≤ room * oversampleFactor := Nat.le_mul_of_pos_right _ hover
      exact rerankWhere_of_coded hcodes hwhere
    simp only [rerankWhere, Bool.and_eq_true] at hwhere
    obtain ⟨⟨hfilter, -⟩, hrow⟩ := hwhere
    obtain ⟨sim, hmem⟩ := exists_mem_rankRows_select timeDecayHours
      (show store.vectors.rows.length ≤ room from Nat.le_add_right _ _) hev hselected
      (show (int8Similarity engine query ev).isSome = true by rwa [int8Similarity, Option.isSome_map])
    exact (admits_iff_of_filterWhere hfilter timeDecayHours sim).mp
      ((h _ _ hread).admitted _ hmem)
  · intro hall ev hev hstale
    have hread := @searchIvfBinary_eq _ _ _ _ engine now store index nprobe limit timeDecayHours
      filters query queryBinary oversampleFactor hdim
    exact (candidate_ivfBinary_iff hall hstale).mp
      ((h _ _ hread).complete hall ev hev hstale)

end

/-- **When the strategy does not change the meaning.**  At every limit a search means what it should
    exactly when the source that it chooses is safe: quantized rows for the plain scan; for the ANN
    admitted rows, no more than the limit; for a partitioned scan rows of the regime asked for and,
    with every cluster probed, every active vector in a cluster. -/
theorem strategy_keeps_meaning_iff (self : AdaptiveSearchCoordinator F) (arith : Arithmetic F)
    (engine : Engine F rfc) (store : VectorStore F rfc) (index : VectorIndex F) (now : Instant)
    (query : List F) (timeDecayHours : F) (filters : SearchFilters Instant) :
    (∀ limit source results, self.source arith index query limit = .ok source →
      self.search arith engine store index now query limit timeDecayHours filters = .ok results →
      KeepsMeaning engine store index source limit filters results) ↔
    ∀ limit source, self.source arith index query limit = .ok source →
      source.Safe engine store index now limit filters := by
  simp only [AdaptiveSearchCoordinator.search_eq]
  constructor
  · intro h limit source hsource
    have hread : ∀ limit, self.source arith index query limit = .ok source → ∀ results,
        source.read arith engine store index now limit timeDecayHours filters = .ok results →
        KeepsMeaning engine store index source limit filters results := by
      intro limit hsource results hresults
      refine h limit source results hsource ?_
      rw [hsource]
      exact hresults
    by_cases hs : self.determineStrategy = .hnsw
    · rcases AdaptiveSearchCoordinator.source_hnsw arith index hsource hs with
        ⟨hnswResults, rfl⟩ | ⟨quantized, rfl⟩
      · exact safe_ann (hread limit hsource)
      · exact safe_scan (hread limit hsource)
    · have hall := fun limit' => hread limit'
        (AdaptiveSearchCoordinator.source_limit arith index hsource hs limit')
      cases source with
      | scan query => exact safe_scan (hall limit)
      | ann hnswResults => exact safe_ann (hall limit)
      | ivf query nprobe => exact safe_ivf hall limit
      | ivfBinary query queryBinary nprobe oversampleFactor => exact safe_ivfBinary hall limit
  · intro h limit source results hsource hresults
    rw [hsource] at hresults
    exact keepsMeaning_of_safe (h limit source hsource) hresults

/-! ## A search of the other regime -/

/-- One instant is enough to see it. -/
def sampleRfc : Rfc3339 Unit where
  toRfc3339 _ := "2026-03-22T09:00:00+00:00"
  parseFromRfc3339 _ := some ()
  Printable _ := True
  FiveDigits _ := False
  not_fiveDigits _ _ h := h
  lt_of_fiveDigits _ _ _ h := h.elim
  parse_print _ _ := rfl
  print_le_printable _ _ _ := by simp
  printable_le_print _ _ _ := by simp

theorem sampleRfc_written : ∃ t, sampleRfc.Printable t ∧
    "2026-03-22T09:00:00+00:00" = sampleRfc.toRfc3339 t := ⟨(), trivial, rfl⟩

/-- Every similarity is 1. -/
def sampleEngine : Engine Nat sampleRfc where
  cosineF32 _ _ := 1
  cosine _ _ := 1
  ageSeconds _ _ := 0
  timeDecay _ _ := 1
  mul a b := a * b
  lt a b := decide (a < b)
  rowOrder _ rows := rows
  rowOrder_perm _ rows := .refl rows
  codeOrder rows := rows
  codeOrder_perm rows := .refl rows

/-- A vector of one dimension is its own quantization. -/
def sampleArithmetic : Arithmetic Nat where
  isFinite _ := true
  scaled v := ⟨v.map Int8.ofNat, 1, 0⟩
  lt a b := decide (a < b)
  similarity d := 1 - d
  ceilSqrtTenth _ := 1
  parseThresholds _ := .error "EOF while parsing"
  zero := 0

/-- One vector, of a segment at work. -/
def sampleStore : VectorStore Nat sampleRfc where
  vectors := ⟨[⟨1, "seg-1", "SEGMENT_SUMMARY", none, "review", [5], some ⟨[5], 1, 0⟩,
    "2026-03-22T09:00:00+00:00", false, sampleRfc_written⟩], List.nodup_singleton _⟩
  segments := [⟨"seg-1", some "work"⟩]

/-- It is in the only cluster. -/
def sampleIndex : VectorIndex Nat where
  ivfCentroids := [⟨0, ⟨[5], 1, 0⟩⟩]
  centroidCache := none
  ivfAssignments := ⟨[⟨1, 0⟩], List.nodup_singleton _⟩
  binaryCodes := ⟨[], List.nodup_nil⟩
  quantileThresholds := none

/-- The coordinator of a forced strategy. -/
def sampleCoordinator (forced : String) : AdaptiveSearchCoordinator Nat where
  config := { forcedStrategy := some forced }
  cachedVectorCount := 1
  hnswFeature := false
  annIndex := none

/-- **The partitioned scan forgets the regime.**  Asked for the regime of leisure, it returns the
    segment at work; the plain scan of the same table returns nothing. -/
theorem ivf_forgets_regime :
    ∃ r : SearchResult Nat Unit,
      (sampleCoordinator "ivf").search sampleArithmetic sampleEngine sampleStore sampleIndex () [5] 10
        0 { regimeId := some "leisure" } = .ok [r] ∧
      ¬ r.AdmittedBy sampleStore.segments { regimeId := some "leisure" } ∧
      (sampleCoordinator "brute_force").search sampleArithmetic sampleEngine sampleStore sampleIndex
        () [5] 10 0 { regimeId := some "leisure" } = .ok [] := by
  refine ⟨⟨"seg-1", .segmentSummary, none, 1, 1, 1, (), "review"⟩, by decide +kernel,
    fun hadmits => ?_, by decide +kernel⟩
  obtain ⟨segment, hsegment, -, hregime⟩ := hadmits.regime "leisure" rfl
  rw [List.mem_singleton.mp hsegment] at hregime
  exact absurd hregime (by decide)

end Oneshim.Search
