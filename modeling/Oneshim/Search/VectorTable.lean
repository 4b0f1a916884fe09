/-
  The vector table and its index (`vector_store_impl`, `vector_index_impl`).

  1. **Tables** — `embedding_vectors` with the regimes of `activity_segments`, and the index: the
     centroids and their cache, the assignment of vectors to clusters, the binary codes.

  2. **Ranking** (`rankRows`) — the rows that a statement selects are scored, put in order and cut
     off.  Whatever order they come in, the answer is the beginning of all the results in an order by
     score (`BestScored`).

  Floating point, the order in which SQLite returns rows, and the texts of timestamps are parameters.
  Of the texts is taken what holds of RFC 3339: those of the years 0 to 9999 order as their instants
  do, and after them the year is signed, which puts the text before them all.
-/
import Mathlib.Algebra.GroupWithZero.Nat
import Mathlib.Data.List.Perm.Basic
import Mathlib.Order.Defs.LinearOrder
import Mathlib.Order.Lattice
import Mathlib.Tactic.Tauto
import Oneshim.Lib.Table

namespace Oneshim.Search

/-! ## The tables -/

/-- `EmbeddingContentType`. -/
inductive EmbeddingContentType where
  | segmentSummary | contentActivity
  deriving DecidableEq

/-- `content_type_to_str`. -/
def contentTypeToStr : EmbeddingContentType → String
  | .segmentSummary => "SEGMENT_SUMMARY"
  | .contentActivity => "CONTENT_ACTIVITY"

/-- `parse_content_type`. -/
def parseContentType (s : String) : EmbeddingContentType :=
  if s = "SEGMENT_SUMMARY" then .segmentSummary else .contentActivity

/-- A written content type is read back. -/
theorem parseContentType_contentTypeToStr (ct : EmbeddingContentType) :
    parseContentType (contentTypeToStr ct) = ct := by
  cases ct <;> decide

/-- `QuantizedVector`. -/
structure QuantizedVector (F : Type) where
  data : List Int8
  scale : F
  offset : F

/-- `BinaryCode`. -/
structure BinaryCode where
  data : List UInt8

/-- `count_ones` of a byte. -/
def countOnes (b : UInt8) : Nat := ((List.range 8).filter fun i => b.toNat.testBit i).length

/-- `hamming_distance`. -/
def hammingDistance (a b : BinaryCode) : Nat :=
  ((a.data.zip b.data).map fun (x, y) => countOnes (x ^^^ y)).sum

/-- Instants and their texts, as the rows hold them and the filters print them. -/
structure Rfc3339 (Instant : Type) [LinearOrder Instant] where
  toRfc3339 : Instant → String
  parseFromRfc3339 : String → Option Instant
  /-- Of the years 0 to 9999. -/
  Printable : Instant → Prop
  /-- Of a later year. -/
  FiveDigits : Instant → Prop
  not_fiveDigits : ∀ t, Printable t → ¬ FiveDigits t
  /-- A later instant is greater. -/
  lt_of_fiveDigits : ∀ a b, Printable a → FiveDigits b → a < b
  /-- A printed instant is read back. -/
  parse_print : ∀ t, Printable t → parseFromRfc3339 (toRfc3339 t) = some t
  /-- Which texts come before that of a printable instant, and which after it. -/
  print_le_printable : ∀ a b, Printable b → (toRfc3339 a ≤ toRfc3339 b ↔ a ≤ b ∨ FiveDigits a)
  printable_le_print : ∀ a b, Printable a → (toRfc3339 a ≤ toRfc3339 b ↔ a ≤ b ∧ ¬ FiveDigits b)

variable {F Instant : Type} [LinearOrder Instant] {rfc : Rfc3339 Instant}

/-- A row of `embedding_vectors`; the three columns of the INT8 vector are written together, and the
    full vector of a row may be empty. -/
structure EmbeddingVector (F : Type) {Instant : Type} [LinearOrder Instant]
    (rfc : Rfc3339 Instant) where
  id : Nat
  segmentId : String
  contentType : String
  contentLabel : Option String
  originalText : String
  vector : List F
  vectorInt8 : Option (QuantizedVector F)
  timestamp : String
  isStale : Bool
  /-- Every writer prints an instant. -/
  written : ∃ t, rfc.Printable t ∧ timestamp = rfc.toRfc3339 t

/-- A row of `activity_segments`, as far as the searches read it. -/
structure ActivitySegment where
  id : String
  regimeId : Option String

/-- The store: the vectors by their ids, and the segments. -/
structure VectorStore (F : Type) {Instant : Type} [LinearOrder Instant]
    (rfc : Rfc3339 Instant) where
  vectors : Lib.Table (fun ev : EmbeddingVector F rfc => ev.id)
  segments : List ActivitySegment

/-- `CachedCentroid`. -/
structure CachedCentroid (F : Type) where
  id : Nat
  vector : QuantizedVector F

/-- A row of `ivf_assignments`. -/
structure IvfAssignment where
  vectorId : Nat
  clusterId : Nat

/-- A row of `vector_binary_codes`. -/
structure VectorBinaryCode where
  vectorId : Nat
  binaryCode : BinaryCode

/-- `SqliteVectorIndex`: its tables (the centroids in the order of their ids) and its cache. -/
structure VectorIndex (F : Type) where
  ivfCentroids : List (CachedCentroid F)
  centroidCache : Option (List (CachedCentroid F))
  ivfAssignments : Lib.Table IvfAssignment.vectorId
  binaryCodes : Lib.Table VectorBinaryCode.vectorId
  /-- `binary_quantile_thresholds` of `vector_index_meta`. -/
  quantileThresholds : Option String

/-- `SearchFilters`. -/
structure SearchFilters (Instant : Type) where
  after : Option Instant := none
  before : Option Instant := none
  contentTypes : Option (List EmbeddingContentType) := none
  regimeId : Option String := none
  excludedSegmentIds : List String := []

/-- `SearchResult`. -/
structure SearchResult (F Instant : Type) where
  segmentId : String
  contentType : EmbeddingContentType
  contentLabel : Option String
  score : F
  similarity : F
  timeDecay : F
  timestamp : Instant
  originalText : String
  deriving DecidableEq

/-- The errors of a search. -/
inductive SearchError where
  | invalidArguments (message : String)
  | internal (message : String)
  deriving DecidableEq

/-- The statements that select rows of `embedding_vectors`. -/
inductive Statement where
  | filtered | quantized | ivf | rerank

/-- Floating point, the clock and the order in which SQLite returns what it selects. -/
structure Engine (F : Type) {Instant : Type} [LinearOrder Instant] (rfc : Rfc3339 Instant) where
  /-- `cosine_similarity`. -/
  cosineF32 : List F → List F → F
  /-- `cosine_similarity_int8_unchecked`. -/
  cosine : QuantizedVector F → QuantizedVector F → F
  /-- `max(0, now - timestamp)` in seconds. -/
  ageSeconds : Instant → Instant → Nat
  /-- `exp(-age_hours / time_decay_hours)`, `1.0` when no decay is asked for. -/
  timeDecay : Nat → F → F
  mul : F → F → F
  /-- `partial_cmp` gives `Less`. -/
  lt : F → F → Bool
  rowOrder : Statement → List (EmbeddingVector F rfc) → List (EmbeddingVector F rfc)
  rowOrder_perm : ∀ statement rows, (rowOrder statement rows).Perm rows
  codeOrder : List VectorBinaryCode → List VectorBinaryCode
  codeOrder_perm : ∀ rows, (codeOrder rows).Perm rows

variable (engine : Engine F rfc) (now : Instant)

/-! ## Ranking -/

/-- The result of a row of the given similarity. -/
def EmbeddingVector.result (timeDecayHours similarity : F) (ev : EmbeddingVector F rfc) :
    SearchResult F Instant :=
  let timestamp := (rfc.parseFromRfc3339 ev.timestamp).getD now
  let timeDecay := engine.timeDecay (engine.ageSeconds now timestamp) timeDecayHours
  { segmentId := ev.segmentId
    contentType := parseContentType ev.contentType
    contentLabel := ev.contentLabel
    score := engine.mul similarity timeDecay
    similarity := similarity
    timeDecay := timeDecay
    timestamp := timestamp
    originalText := ev.originalText }

/-- `sort_by` with `b.score.partial_cmp(&a.score)`. -/
def sortByScore (results : List (SearchResult F Instant)) : List (SearchResult F Instant) :=
  results.mergeSort fun a b => !engine.lt a.score b.score

/-- The results of the rows that have a similarity. -/
def scoredRows (similarity : EmbeddingVector F rfc → Option F) (timeDecayHours : F)
    (rows : List (EmbeddingVector F rfc)) : List (SearchResult F Instant) :=
  rows.filterMap fun ev => (similarity ev).map fun sim => ev.result engine now timeDecayHours sim

/-- Score the rows, put the best first and truncate. -/
def rankRows (similarity : EmbeddingVector F rfc → Option F) (limit : Nat) (timeDecayHours : F)
    (rows : List (EmbeddingVector F rfc)) : List (SearchResult F Instant) :=
  (sortByScore engine (scoredRows engine now similarity timeDecayHours rows)).take limit

/-- The similarity of a full vector. -/
def fullSimilarity (query : List F) (ev : EmbeddingVector F rfc) : Option F :=
  some (engine.cosineF32 query ev.vector)

/-- The similarity of an INT8 vector. -/
def int8Similarity (query : QuantizedVector F) (ev : EmbeddingVector F rfc) : Option F :=
  ev.vectorInt8.map fun rowQv => engine.cosine query rowQv

/-- `brute_force_search`. -/
def bruteForceSearch (query : List F) := rankRows engine now (fullSimilarity engine query)

/-- `brute_force_search_quantized`. -/
def bruteForceSearchQuantized (query : QuantizedVector F) :=
  rankRows engine now (int8Similarity engine query)

/-- `score_and_rank`. -/
def scoreAndRank (query : QuantizedVector F) := rankRows engine now (int8Similarity engine query)

/-! ## What a ranking keeps -/

/-- The instant of a row. -/
def EmbeddingVector.instant (ev : EmbeddingVector F rfc) : Instant :=
  (rfc.parseFromRfc3339 ev.timestamp).getD now

/-- The instant of a row is the one that was written. -/
theorem EmbeddingVector.instant_spec (ev : EmbeddingVector F rfc) :
    rfc.Printable (ev.instant now) ∧ ev.timestamp = rfc.toRfc3339 (ev.instant now) := by
  obtain ⟨t, hprintable, ht⟩ := ev.written
  have hinstant : ev.instant now = t := by
    rw [EmbeddingVector.instant, ht, rfc.parse_print t hprintable, Option.getD_some]
  rw [hinstant]
  exact ⟨hprintable, ht⟩

/-- No score is `NaN`: they compare as numbers do. -/
def Engine.ScoresOrdered : Prop :=
  (∀ a b : F, engine.lt a b = false ∨ engine.lt b a = false) ∧
    ∀ a b c : F, engine.lt b a = false → engine.lt c b = false → engine.lt c a = false

/-- **The best-scored.**  An answer is as many of all results as there are to be, and where scores
    are ordered no result is behind one of a lower score or left out for one. -/
def BestScored (limit : Nat) (all results : List (SearchResult F Instant)) : Prop :=
  ∃ view : List (SearchResult F Instant), view.Perm all ∧ results = view.take limit ∧
    (engine.ScoresOrdered → view.Pairwise fun a b => engine.lt a.score b.score = false)

variable {engine now} {similarity : EmbeddingVector F rfc → Option F} {limit : Nat}
  {timeDecayHours : F} {rows : List (EmbeddingVector F rfc)}

/-- A ranked result is that of one of the rows. -/
theorem mem_rankRows {r : SearchResult F Instant}
    (h : r ∈ rankRows engine now similarity limit timeDecayHours rows) :
    ∃ ev ∈ rows, ∃ sim, r = ev.result engine now timeDecayHours sim := by
  have hscored := List.mem_mergeSort.mp (List.mem_of_mem_take h)
  obtain ⟨ev, hev, hr⟩ := List.mem_filterMap.mp hscored
  obtain ⟨sim, -, rfl⟩ := Option.map_eq_some_iff.mp hr
  exact ⟨ev, hev, sim, rfl⟩

/-- No more than the limit are kept. -/
theorem length_rankRows_le :
    (rankRows engine now similarity limit timeDecayHours rows).length ≤ limit :=
  List.length_take_le _ _

/-- Rows that have a similarity have a result each. -/
theorem length_scoredRows (hrows : ∀ ev ∈ rows, (similarity ev).isSome = true) :
    (scoredRows engine now similarity timeDecayHours rows).length = rows.length := by
  refine List.filterMap_length_eq_length.mpr fun ev hev => ?_
  rw [Option.isSome_map]
  exact hrows ev hev

/-- As many of them as the limit lets through. -/
theorem length_rankRows (hrows : ∀ ev ∈ rows, (similarity ev).isSome = true) :
    (rankRows engine now similarity limit timeDecayHours rows).length = min limit rows.length := by
  rw [rankRows, List.length_take, sortByScore, List.length_mergeSort, length_scoredRows hrows]

/-- **A ranking is best-scored.** -/
theorem bestScored_rankRows {others : List (EmbeddingVector F rfc)} (hperm : rows.Perm others) :
    BestScored engine limit (scoredRows engine now similarity timeDecayHours others)
      (rankRows engine now similarity limit timeDecayHours rows) := by
  refine ⟨_, (List.mergeSort_perm _ _).trans (hperm.filterMap _), rfl, fun hordered => ?_⟩
  refine (List.pairwise_mergeSort (fun r s t hrs hst => ?_) (fun r s => ?_) _).imp fun hrs => ?_
  · simp only [Bool.not_eq_true'] at hrs hst ⊢
    exact hordered.2 _ _ _ hst hrs
  · simp only [Bool.or_eq_true, Bool.not_eq_true']
    exact hordered.1 _ _
  · simpa only [Bool.not_eq_true'] using hrs

theorem BestScored.length_eq {all results : List (SearchResult F Instant)}
    (h : BestScored engine limit all results) : results.length = min limit all.length := by
  obtain ⟨view, hperm, rfl, -⟩ := h
  rw [List.length_take, hperm.length_eq]

/-- With room for all of them, every row that has a similarity has its result. -/
theorem mem_rankRows_all (timeDecayHours : F) (hlimit : rows.length ≤ limit)
    {ev : EmbeddingVector F rfc} (hev : ev ∈ rows) {sim : F} (hsim : similarity ev = some sim) :
    ev.result engine now timeDecayHours sim ∈
      rankRows engine now similarity limit timeDecayHours rows := by
  unfold rankRows
  rw [List.take_of_length_le]
  · refine List.mem_mergeSort.mpr (List.mem_filterMap.mpr ⟨ev, hev, ?_⟩)
    rw [hsim]
    rfl
  · rw [sortByScore, List.length_mergeSort]
    exact Nat.le_trans (List.length_filterMap_le _ _) hlimit

/-- With room for one, some result is ranked. -/
theorem rankRows_ne_nil (hlimit : 0 < limit) {ev : EmbeddingVector F rfc} (hev : ev ∈ rows)
    (hrow : (similarity ev).isSome = true) :
    rankRows engine now similarity limit timeDecayHours rows ≠ [] := by
  obtain ⟨sim, hsim⟩ := Option.isSome_iff_exists.mp hrow
  have hmem : ev.result engine now timeDecayHours sim ∈
      scoredRows engine now similarity timeDecayHours rows :=
    List.mem_filterMap.mpr ⟨ev, hev, by rw [hsim]; rfl⟩
  have hlength := List.length_pos_of_mem hmem
  refine List.ne_nil_of_length_pos ?_
  rw [rankRows, List.length_take, sortByScore, List.length_mergeSort]
  omega

/-- What a statement selects, in the order of the engine and ranked, are rows that meet its
    conditions. -/
theorem mem_rankRows_select {statement : Statement} {select : EmbeddingVector F rfc → Bool}
    {r : SearchResult F Instant}
    (h : r ∈ rankRows engine now similarity limit timeDecayHours
      (engine.rowOrder statement (rows.filter select))) :
    ∃ ev ∈ rows, select ev = true ∧ ∃ sim, r = ev.result engine now timeDecayHours sim := by
  obtain ⟨ev, hev, hr⟩ := mem_rankRows h
  obtain ⟨hmem, hselect⟩ := List.mem_filter.mp ((engine.rowOrder_perm _ _).mem_iff.mp hev)
  exact ⟨ev, hmem, hselect, hr⟩

/-- With room for the whole table, every row that is selected and has a similarity has its result. -/
theorem exists_mem_rankRows_select (timeDecayHours : F) {statement : Statement}
    {select : EmbeddingVector F rfc → Bool} {ev : EmbeddingVector F rfc}
    (hlimit : rows.length ≤ limit) (hev : ev ∈ rows) (hselect : select ev = true)
    (hrow : (similarity ev).isSome = true) :
    ∃ sim, ev.result engine now timeDecayHours sim ∈ rankRows engine now similarity limit
      timeDecayHours (engine.rowOrder statement (rows.filter select)) := by
  obtain ⟨sim, hsim⟩ := Option.isSome_iff_exists.mp hrow
  have hperm := engine.rowOrder_perm statement (rows.filter select)
  refine ⟨sim, mem_rankRows_all timeDecayHours ?_
    (hperm.mem_iff.mpr (List.mem_filter.mpr ⟨hev, hselect⟩)) hsim⟩
  rw [hperm.length_eq]
  exact Nat.le_trans (List.length_filter_le _ _) hlimit

end Oneshim.Search
