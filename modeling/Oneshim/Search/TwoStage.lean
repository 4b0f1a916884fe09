/-
  How much the two-stage search finds (`vector_index_impl/search.rs`).

  `search_ivf_binary` takes the coded rows of the probed clusters, keeps the
  `limit * oversample_factor` whose codes are closest to that of the query, and only then looks at the
  filters.  So it answers with as many results as there are matching rows among the closest
  (`two_stage_search_length`), which may be fewer than there are in the clusters.

  Filters that the statement of the second stage does not take as they are meant are left out: a
  regime, a list of several content types, a bound after the year 9999.
-/
import Oneshim.Search.FilteredSearch

namespace Oneshim.Search

variable {F Instant : Type} [LinearOrder Instant] {rfc : Rfc3339 Instant}

/-! ## Filters that are taken as they are meant -/

/-- No regime, one content type at most, and bounds up to the year 9999. -/
structure SearchFilters.Plain (rfc : Rfc3339 Instant) (filters : SearchFilters Instant) : Prop where
  noRegime : filters.regimeId = none
  singleType : filters.SingleType
  after : ∀ after, filters.after = some after → ¬ rfc.FiveDigits after
  before : ∀ before, filters.before = some before → ¬ rfc.FiveDigits before

section

variable {filters : SearchFilters Instant} {segments : List ActivitySegment} {now : Instant}

/-- The one type of a list is the first. -/
theorem SearchFilters.SingleType.contentTypeWhere (h : filters.SingleType)
    {ev : EmbeddingVector F rfc}
    (hmember : (filters.contentTypes.all fun contentTypes =>
      contentTypes.isEmpty || (contentTypes.map contentTypeToStr).contains ev.contentType) = true) :
    filters.contentTypeWhere ev = true := by
  cases htypes : filters.contentTypes with
  | none => simp [SearchFilters.contentTypeWhere, htypes]
  | some contentTypes =>
    rw [htypes] at hmember
    rcases contentTypes with _ | ⟨ct, _ | ⟨_, _⟩⟩
    · simp [SearchFilters.contentTypeWhere, htypes]
    · simp only [Option.all_some, List.isEmpty_cons, Bool.false_or, List.contains_iff_mem,
        List.map_cons, List.map_nil, List.mem_singleton] at hmember
      simp [SearchFilters.contentTypeWhere, htypes, hmember]
    · exact absurd (h _ htypes) (by simp)

/-- Plain filters are exact, for whatever rows. -/
theorem SearchFilters.Plain.exact (h : filters.Plain rfc) (segments : List ActivitySegment)
    (now : Instant) (rows : List (EmbeddingVector F rfc)) : filters.Exact segments now rows where
  binds := .inl h.singleType
  firstType ev _ hsatisfies := by
    simp only [satisfies, Bool.and_eq_true] at hsatisfies
    exact h.singleType.contentTypeWhere hsatisfies.1.1.2
  early _ _ _ := h.before
  late hlate := by
    obtain ⟨after, hafter, hfive⟩ := hlate
    exact absurd hfive (h.after after hafter)

/-- Without a regime the second stage selects what satisfies the filters, among the candidates. -/
theorem SearchFilters.Plain.filter_rerankWhere (h : filters.Plain rfc) (candidates : List Nat)
    (segments : List ActivitySegment) (now : Instant) (rows : List (EmbeddingVector F rfc)) :
    rows.filter (rerankWhere candidates filters) =
      ((rows.filter isActiveInt8).filter (satisfies filters segments now)).filter
        fun ev => candidates.contains ev.id := by
  rw [← (h.exact segments now (rows.filter isActiveInt8)).filter_eq, List.filter_filter,
    List.filter_filter]
  refine List.filter_congr fun ev _ => ?_
  have hregime : filters.regimeWhere segments ev = true := by
    rw [SearchFilters.regimeWhere, h.noRegime, Option.all_none]
  simp only [rerankWhere, filterWhere, conditionsWhere, isActiveInt8, hregime, Bool.and_true]
  ac_rfl

end

/-! ## The first stage -/

/-- **The closest codes.**  The ids are those of the first `count` codes, in an order by their
    distance from the query. -/
def ClosestCodes (queryBinary : BinaryCode) (count : Nat) (codes : List VectorBinaryCode)
    (ids : List Nat) : Prop :=
  ∃ view : List (Nat × Nat),
    view.Perm (codes.map fun bc => (bc.vectorId, hammingDistance queryBinary bc.binaryCode)) ∧
      view.Pairwise (fun a b => a.2 ≤ b.2) ∧ ids = (view.take count).map Prod.fst

/-- The candidates are the closest codes of the probed clusters. -/
theorem closestCodes_candidatesOf (engine : Engine F rfc) (index : VectorIndex F)
    (query : QuantizedVector F) (queryBinary : BinaryCode) (nprobe count : Nat) :
    ClosestCodes queryBinary count (codedIn index (probeIds engine index.centroids query nprobe))
      (candidatesOf engine index query queryBinary nprobe count) := by
  refine ⟨_, (List.mergeSort_perm _ _).trans ((engine.codeOrder_perm _).map _), ?_, rfl⟩
  have hsorted := @List.pairwise_mergeSort _ (fun a b : Nat × Nat => decide (a.2 ≤ b.2))
    (fun a b c hab hbc => ?_) (fun a b => ?_)
    ((engine.codeOrder (codedIn index (probeIds engine index.centroids query nprobe))).map
      fun bc => (bc.vectorId, hammingDistance queryBinary bc.binaryCode))
  · exact hsorted.imp fun h => of_decide_eq_true h
  · exact decide_eq_true (Nat.le_trans (of_decide_eq_true hab) (of_decide_eq_true hbc))
  · simpa using Nat.le_total a.2 b.2

/-- With room for all of them, the closest codes are all. -/
theorem ClosestCodes.contains_eq {queryBinary : BinaryCode} {count : Nat}
    {codes : List VectorBinaryCode} {ids : List Nat} (h : ClosestCodes queryBinary count codes ids)
    (hcount : codes.length ≤ count) (id : Nat) :
    ids.contains id = (codes.map VectorBinaryCode.vectorId).contains id := by
  obtain ⟨view, hperm, -, rfl⟩ := h
  have hlength : view.length ≤ count := by
    rw [hperm.length_eq, List.length_map]
    exact hcount
  have hids : (view.map Prod.fst).Perm (codes.map VectorBinaryCode.vectorId) := by
    simpa only [List.map_map, Function.comp_def] using hperm.map Prod.fst
  rw [List.take_of_length_le hlength, Bool.eq_iff_iff, List.contains_iff_mem,
    List.contains_iff_mem]
  exact hids.mem_iff

/-! ## The result -/

/-- **What the two stages find.**  A search with plain filters answers with as many results as rows
    that satisfy them are among the closest codes, up to the limit; among all the codes of the probed
    clusters, when there is room for them in the first stage. -/
theorem two_stage_search_length (engine : Engine F rfc) (now : Instant) (store : VectorStore F rfc)
    (index : VectorIndex F) (query : QuantizedVector F) (queryBinary : BinaryCode)
    (nprobe oversampleFactor limit : Nat) (timeDecayHours : F) (filters : SearchFilters Instant)
    (hplain : filters.Plain rfc) (hdim : dimensionMismatch index.centroids query = none) :
    ∃ ids results,
      ClosestCodes queryBinary (limit * oversampleFactor)
        (codedIn index (probeIds engine index.centroids query nprobe)) ids ∧
      searchIvfBinary engine now store index query queryBinary nprobe oversampleFactor limit
        timeDecayHours filters = .ok results ∧
      results.length = min limit (((store.vectors.rows.filter isActiveInt8).filter
        (satisfies filters store.segments now)).filter fun ev => ids.contains ev.id).length ∧
      ((codedIn index (probeIds engine index.centroids query nprobe)).length ≤
          limit * oversampleFactor →
        results.length = min limit (((store.vectors.rows.filter isActiveInt8).filter
          (satisfies filters store.segments now)).filter fun ev =>
            ((codedIn index (probeIds engine index.centroids query nprobe)).map
              VectorBinaryCode.vectorId).contains ev.id).length) := by
  let candidates := candidatesOf engine index query queryBinary nprobe (limit * oversampleFactor)
  have hclosest : ClosestCodes queryBinary (limit * oversampleFactor)
      (codedIn index (probeIds engine index.centroids query nprobe)) candidates :=
    closestCodes_candidatesOf engine index query queryBinary nprobe (limit * oversampleFactor)
  have hperm := engine.rowOrder_perm .rerank
    (store.vectors.rows.filter (rerankWhere candidates filters))
  have hscored : ∀ ev ∈ engine.rowOrder .rerank
      (store.vectors.rows.filter (rerankWhere candidates filters)),
      (int8Similarity engine query ev).isSome = true := by
    intro ev hev
    have hwhere := (List.mem_filter.mp (hperm.mem_iff.mp hev)).2
    rw [rerankWhere, Bool.and_eq_true] at hwhere
    rw [int8Similarity, Option.isSome_map]
    exact hwhere.2
  have hlength := @length_rankRows _ _ _ _ engine now _ limit timeDecayHours _ hscored
  have hmatching := congrArg List.length
    (hplain.filter_rerankWhere candidates store.segments now store.vectors.rows)
  rw [hperm.length_eq, hmatching] at hlength
  refine ⟨candidates, _, hclosest, searchIvfBinary_eq hdim, hlength, fun hroom => ?_⟩
  have hsame := funext fun ev : EmbeddingVector F rfc => hclosest.contains_eq hroom ev.id
  rw [← hsame]
  exact hlength

/-! ## A search that finds nothing -/

/-- A segment that was summarized and one with an activity, in one cluster. -/
def twoKindsStore : VectorStore Nat sampleRfc where
  vectors := ⟨[
    ⟨1, "seg-1", "SEGMENT_SUMMARY", none, "review", [5], some ⟨[5], 1, 0⟩,
      "2026-03-22T09:00:00+00:00", false, sampleRfc_written⟩,
    ⟨2, "seg-2", "CONTENT_ACTIVITY", none, "editor", [5], some ⟨[5], 1, 0⟩,
      "2026-03-22T09:00:00+00:00", false, sampleRfc_written⟩], by decide⟩
  segments := []

/-- The code of the summary is that of the query. -/
def twoKindsIndex : VectorIndex Nat where
  ivfCentroids := [⟨0, ⟨[5], 1, 0⟩⟩]
  centroidCache := none
  ivfAssignments := ⟨[⟨1, 0⟩, ⟨2, 0⟩], by decide⟩
  binaryCodes := ⟨[⟨1, ⟨[0]⟩⟩, ⟨2, ⟨[192]⟩⟩], by decide⟩
  quantileThresholds := none

/-- Two kinds of content, of which one is asked for. -/
theorem two_stage_search_length_sample :
    ∃ ids results,
      ClosestCodes ⟨[0]⟩ 2 (codedIn twoKindsIndex
        (probeIds sampleEngine twoKindsIndex.centroids ⟨[5], 1, 0⟩ 1)) ids ∧
      searchIvfBinary sampleEngine () twoKindsStore twoKindsIndex ⟨[5], 1, 0⟩ ⟨[0]⟩ 1 2 1 0
        { contentTypes := some [.contentActivity] } = .ok results ∧
      results.length = min 1 (((twoKindsStore.vectors.rows.filter isActiveInt8).filter
        (satisfies { contentTypes := some [.contentActivity] } twoKindsStore.segments ())).filter
          fun ev => ids.contains ev.id).length := by
  have hplain : SearchFilters.Plain sampleRfc { contentTypes := some [.contentActivity] } :=
    ⟨rfl, fun _ h => Option.some.inj h ▸ Nat.le_refl 1, fun _ _ hfive => hfive,
      fun _ _ hfive => hfive⟩
  obtain ⟨ids, results, hclosest, hok, hlength, -⟩ := two_stage_search_length sampleEngine ()
    twoKindsStore twoKindsIndex ⟨[5], 1, 0⟩ ⟨[0]⟩ 1 2 1 0 _ hplain (by decide)
  exact ⟨ids, results, hclosest, hok, hlength⟩

/-- **A search that starves.**  One result is asked for, an activity: there is one in the cluster, with
    a code.  The summary is closer, and the only candidate. -/
theorem two_stage_search_starves :
    searchIvfBinary sampleEngine () twoKindsStore twoKindsIndex ⟨[5], 1, 0⟩ ⟨[0]⟩ 1 1 1 0
        { contentTypes := some [.contentActivity] } = .ok [] ∧
      (((twoKindsStore.vectors.rows.filter isActiveInt8).filter
        (satisfies { contentTypes := some [.contentActivity] } twoKindsStore.segments ())).filter
          fun ev => ((codedIn twoKindsIndex (probeIds sampleEngine twoKindsIndex.centroids
            ⟨[5], 1, 0⟩ 1)).map VectorBinaryCode.vectorId).contains ev.id).length = 1 := by
  have hcandidates : candidatesOf sampleEngine twoKindsIndex ⟨[5], 1, 0⟩ ⟨[0]⟩ 1 (1 * 1) = [1] := by
    have hcodes : (sampleEngine.codeOrder (codedIn twoKindsIndex (probeIds sampleEngine
        twoKindsIndex.centroids ⟨[5], 1, 0⟩ 1))).map (fun bc =>
          (bc.vectorId, hammingDistance ⟨[0]⟩ bc.binaryCode)) = [(1, 0), (2, 2)] := by
      decide +kernel
    rw [candidatesOf, hammingCandidates, hcodes, List.mergeSort_of_pairwise (by decide)]
    rfl
  have hselected : twoKindsStore.vectors.rows.filter
      (rerankWhere [1] { contentTypes := some [.contentActivity] }) = [] := by
    decide +kernel
  refine ⟨?_, by decide +kernel⟩
  rw [searchIvfBinary_eq (by decide), hcandidates, hselected]
  decide +kernel

end Oneshim.Search
