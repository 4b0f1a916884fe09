/-
  What a filtered search finds (`vector_store_impl/trait_impl.rs`, `helpers.rs`).

  `search_filtered` and `search_quantized` should rank exactly the rows that satisfy the filters, a
  list of content types meaning that a row is of one of them.

  1. **Rows that satisfy the filters** (`satisfies`) — by their instants and by membership.

  2. **Selected and satisfying rows** (`satisfies_of_conditionsWhere`, `filters_exact_iff`) — a
     selected row satisfies the filters, unless the lower bound is after the year 9999, and then no
     row does.  So the two selections are the same as soon as they are of one size.

  3. **The result** (`filtered_search_exact_iff`) — the placeholders of a list of content types all
     have one number.  A list of two gives one value too many, which is an error, or rows of the
     first type only, when a later filter has placeholders of its own.
-/
import Oneshim.Search.AdaptiveSearch

namespace Oneshim.Search

variable {F Instant : Type} [LinearOrder Instant] {rfc : Rfc3339 Instant}

/-! ## Rows that satisfy the filters -/

/-- The row satisfies every filter that is given; an empty list of content types is none. -/
def satisfies (filters : SearchFilters Instant) (segments : List ActivitySegment) (now : Instant)
    (ev : EmbeddingVector F rfc) : Bool :=
  (filters.after.all fun after => decide (after ≤ ev.instant now)) &&
    (filters.before.all fun before => decide (ev.instant now ≤ before)) &&
    (filters.contentTypes.all fun contentTypes =>
      contentTypes.isEmpty || (contentTypes.map contentTypeToStr).contains ev.contentType) &&
    filters.regimeWhere segments ev && filters.excludedWhere ev

/-- The conditions that the filters add. -/
def conditionsWhere (filters : SearchFilters Instant) (segments : List ActivitySegment)
    (ev : EmbeddingVector F rfc) : Bool :=
  filters.afterWhere ev && filters.beforeWhere ev && filters.contentTypeWhere ev &&
    filters.regimeWhere segments ev && filters.excludedWhere ev

/-- The rows that `search_filtered` looks at. -/
def isActive (ev : EmbeddingVector F rfc) : Bool := !ev.isStale

/-- The rows that `search_quantized` looks at. -/
def isActiveInt8 (ev : EmbeddingVector F rfc) : Bool := !ev.isStale && ev.vectorInt8.isSome

/-- The filters select among the rows what satisfies them. -/
structure SearchFilters.Exact (filters : SearchFilters Instant) (segments : List ActivitySegment)
    (now : Instant) (rows : List (EmbeddingVector F rfc)) : Prop where
  /-- One content type, or a filter with placeholders after them. -/
  binds : filters.Binds
  /-- A row that satisfies the filters is of the first type of the list. -/
  firstType : ∀ ev ∈ rows, satisfies filters segments now ev = true →
    filters.contentTypeWhere ev = true
  /-- No row satisfies them under an upper bound after the year 9999. -/
  early : ∀ ev ∈ rows, satisfies filters segments now ev = true →
    ∀ before, filters.before = some before → ¬ rfc.FiveDigits before
  /-- Under such a lower bound no row meets the other conditions. -/
  late : filters.Late rfc →
    ∀ ev ∈ rows, conditionsWhere { filters with after := none } segments ev = false

section

variable {filters : SearchFilters Instant} {segments : List ActivitySegment} {now : Instant}
  {ev : EmbeddingVector F rfc} {rows : List (EmbeddingVector F rfc)}

/-! ## Selected and satisfying rows -/

theorem afterWhere_iff (now : Instant) : filters.afterWhere ev = true ↔
    filters.Late rfc ∨ (filters.after.all fun after => decide (after ≤ ev.instant now)) = true := by
  obtain ⟨hprintable, htext⟩ := ev.instant_spec now
  cases hafter : filters.after with
  | none => simp [SearchFilters.afterWhere, hafter]
  | some after =>
    simp only [SearchFilters.afterWhere, SearchFilters.Late, hafter, Option.all_some,
      decide_eq_true_eq, htext, rfc.print_le_printable _ _ hprintable, Option.some.injEq,
      exists_eq_left']
    exact or_comm

theorem beforeWhere_iff (now : Instant) : filters.beforeWhere ev = true ↔
    (filters.before.all fun before => decide (ev.instant now ≤ before)) = true ∧
      ∀ before, filters.before = some before → ¬ rfc.FiveDigits before := by
  obtain ⟨hprintable, htext⟩ := ev.instant_spec now
  cases hbefore : filters.before with
  | none => simp [SearchFilters.beforeWhere, hbefore]
  | some before =>
    simp only [SearchFilters.beforeWhere, hbefore, Option.all_some, decide_eq_true_eq, htext,
      rfc.printable_le_print _ _ hprintable, Option.some.injEq, forall_eq']

/-- The first type of a list is one of them. -/
theorem member_of_contentTypeWhere (h : filters.contentTypeWhere ev = true) :
    (filters.contentTypes.all fun contentTypes =>
      contentTypes.isEmpty || (contentTypes.map contentTypeToStr).contains ev.contentType) =
        true := by
  cases htypes : filters.contentTypes with
  | none => rfl
  | some contentTypes =>
    cases contentTypes with
    | nil => rfl
    | cons first rest =>
      simp only [SearchFilters.contentTypeWhere, htypes, Option.all_some, List.head?_cons,
        beq_iff_eq] at h
      simp [h]

/-- No row is as late as a bound after the year 9999. -/
theorem satisfies_of_late (h : filters.Late rfc) : satisfies filters segments now ev = false := by
  obtain ⟨after, hafter, hfive⟩ := h
  have hlt := rfc.lt_of_fiveDigits _ _ (ev.instant_spec now).1 hfive
  simp [satisfies, hafter, not_le_of_gt hlt]

/-- **A selected row satisfies the filters**, under a lower bound that is not too late. -/
theorem satisfies_of_conditionsWhere (hlate : ¬ filters.Late rfc)
    (h : conditionsWhere filters segments ev = true) : satisfies filters segments now ev = true := by
  simp only [conditionsWhere, Bool.and_eq_true] at h
  obtain ⟨⟨⟨⟨hafter, hbefore⟩, htype⟩, hregime⟩, hexcluded⟩ := h
  simp only [satisfies, Bool.and_eq_true]
  exact ⟨⟨⟨⟨((afterWhere_iff now).mp hafter).resolve_left hlate,
    ((beforeWhere_iff now).mp hbefore).1⟩, member_of_contentTypeWhere htype⟩, hregime⟩, hexcluded⟩

/-- A lower bound that is too late is no condition. -/
theorem conditionsWhere_of_late (now : Instant) (hlate : filters.Late rfc) :
    conditionsWhere filters segments ev =
      conditionsWhere { filters with after := none } segments ev := by
  have hafter : filters.afterWhere ev = true := (afterWhere_iff now).mpr (.inl hlate)
  rw [conditionsWhere, hafter]
  rfl

/-- The selection is what satisfies the filters, where they are exact. -/
theorem SearchFilters.Exact.filter_eq (h : filters.Exact segments now rows) :
    rows.filter (conditionsWhere filters segments) = rows.filter (satisfies filters segments now) := by
  refine List.filter_congr fun ev hev => ?_
  by_cases hlate : filters.Late rfc
  · rw [conditionsWhere_of_late now hlate, h.late hlate ev hev, satisfies_of_late hlate]
  · rw [Bool.eq_iff_iff]
    refine ⟨satisfies_of_conditionsWhere hlate, fun hsatisfies => ?_⟩
    have htype := h.firstType ev hev hsatisfies
    have hbefore := h.early ev hev hsatisfies
    simp only [satisfies, Bool.and_eq_true] at hsatisfies
    obtain ⟨⟨⟨⟨hafter, hle⟩, -⟩, hregime⟩, hexcluded⟩ := hsatisfies
    simp only [conditionsWhere, Bool.and_eq_true]
    exact ⟨⟨⟨⟨(afterWhere_iff now).mpr (.inr hafter), (beforeWhere_iff now).mpr ⟨hle, hbefore⟩⟩,
      htype⟩, hregime⟩, hexcluded⟩

/-- **Filters are exact** if they bind and as many rows are selected as satisfy them. -/
theorem filters_exact_iff : filters.Exact segments now rows ↔
    filters.Binds ∧ (rows.filter (conditionsWhere filters segments)).length =
      (rows.filter (satisfies filters segments now)).length := by
  refine ⟨fun h => ⟨h.binds, congrArg List.length h.filter_eq⟩, ?_⟩
  rintro ⟨hbinds, hlength⟩
  by_cases hlate : filters.Late rfc
  · -- no row satisfies the filters, so none is selected
    have hnone : rows.filter (satisfies filters segments now) = [] :=
      List.filter_eq_nil_iff.mpr fun ev _ => by simp [satisfies_of_late hlate]
    rw [hnone, List.length_nil, List.length_eq_zero_iff, List.filter_eq_nil_iff] at hlength
    refine ⟨hbinds, fun ev _ h => ?_, fun ev _ h => ?_, fun _ ev hev => ?_⟩
    · rw [satisfies_of_late hlate] at h
      cases h
    · rw [satisfies_of_late hlate] at h
      cases h
    · rw [← conditionsWhere_of_late now hlate]
      exact Bool.eq_false_iff.mpr (hlength ev hev)
  · -- the one selection is a part of the other
    have hsame : rows.filter (conditionsWhere filters segments) =
        rows.filter (satisfies filters segments now) :=
      (List.monotone_filter_right rows fun ev =>
        satisfies_of_conditionsWhere hlate).eq_of_length hlength
    have hselected (ev : EmbeddingVector F rfc) (hev : ev ∈ rows)
        (h : satisfies filters segments now ev = true) :
        conditionsWhere filters segments ev = true := by
      have hmem := List.mem_filter.mpr ⟨hev, h⟩
      rw [← hsame] at hmem
      exact (List.mem_filter.mp hmem).2
    refine ⟨hbinds, fun ev hev h => ?_, fun ev hev h => ?_, fun h => absurd h hlate⟩
    · have hconditions := hselected ev hev h
      simp only [conditionsWhere, Bool.and_eq_true] at hconditions
      exact hconditions.1.1.2
    · have hconditions := hselected ev hev h
      simp only [conditionsWhere, Bool.and_eq_true] at hconditions
      exact ((beforeWhere_iff now).mp hconditions.1.1.1.2).2

end

/-! ## The result -/

/-- At every limit the answer is the best-scored of these results. -/
def IsExact (engine : Engine F rfc) (all : List (SearchResult F Instant))
    (answer : Nat → Except SearchError (List (SearchResult F Instant))) : Prop :=
  ∀ limit, ∃ results, answer limit = .ok results ∧ BestScored engine limit all results

section

variable {engine : Engine F rfc} {now : Instant} {similarity : EmbeddingVector F rfc → Option F}
  {timeDecayHours : F} {filters : SearchFilters Instant} {segments : List ActivitySegment}
  {looksAt : EmbeddingVector F rfc → Bool} {rows : List (EmbeddingVector F rfc)}
  {answer : Nat → Except SearchError (List (SearchResult F Instant))}

/-- A search that ranks what its filters select is exact when they are. -/
theorem isExact_iff (statement : Statement)
    (hsimilarity : ∀ ev, looksAt ev = true → (similarity ev).isSome = true)
    (hbinds : filters.Binds → ∀ limit, answer limit = .ok (rankRows engine now similarity limit
      timeDecayHours (engine.rowOrder statement
        ((rows.filter looksAt).filter (conditionsWhere filters segments)))))
    (hrefused : ¬ filters.Binds → ∀ limit results, answer limit ≠ .ok results) :
    IsExact engine (scoredRows engine now similarity timeDecayHours
        ((rows.filter looksAt).filter (satisfies filters segments now))) answer ↔
      filters.Exact segments now (rows.filter looksAt) := by
  have hscored (p : EmbeddingVector F rfc → Bool) :
      ∀ ev ∈ (rows.filter looksAt).filter p, (similarity ev).isSome = true := fun ev hev =>
    hsimilarity ev (List.mem_filter.mp (List.mem_filter.mp hev).1).2
  have hperm := engine.rowOrder_perm statement
    ((rows.filter looksAt).filter (conditionsWhere filters segments))
  constructor
  · intro hexact
    have hb : filters.Binds := by
      by_contra hnot
      obtain ⟨results, hok, -⟩ := hexact 0
      exact hrefused hnot 0 results hok
    refine filters_exact_iff.mpr ⟨hb, ?_⟩
    -- with room for the whole table, equally many are ranked
    obtain ⟨results, hok, hbest⟩ := hexact rows.length
    rw [hbinds hb] at hok
    cases hok
    have hlength := hbest.length_eq
    rw [length_rankRows fun ev hev => hscored _ ev (hperm.mem_iff.mp hev),
      length_scoredRows (hscored _), hperm.length_eq] at hlength
    have hroom (p : EmbeddingVector F rfc → Bool) :
        ((rows.filter looksAt).filter p).length ≤ rows.length :=
      Nat.le_trans (List.length_filter_le _ _) (List.length_filter_le _ _)
    rwa [Nat.min_eq_right (hroom _), Nat.min_eq_right (hroom _)] at hlength
  · intro hexact limit
    refine ⟨_, hbinds hexact.binds limit, bestScored_rankRows ?_⟩
    rw [← hexact.filter_eq]
    exact hperm

end

/-- The plain scan of the full vectors selects the active rows that meet the conditions. -/
theorem filter_filteredWhere {filters : SearchFilters Instant} {segments : List ActivitySegment}
    (rows : List (EmbeddingVector F rfc)) :
    rows.filter (filteredWhere segments filters) =
      (rows.filter isActive).filter (conditionsWhere filters segments) := by
  rw [List.filter_filter]
  refine List.filter_congr fun ev _ => ?_
  simp only [filteredWhere, filterWhere, conditionsWhere, isActive]
  ac_rfl

/-- The scan of the INT8 vectors, those among the quantized ones. -/
theorem filter_scanWhere_active {filters : SearchFilters Instant}
    {segments : List ActivitySegment} (rows : List (EmbeddingVector F rfc)) :
    rows.filter (scanWhere segments filters) =
      (rows.filter isActiveInt8).filter (conditionsWhere filters segments) := by
  rw [List.filter_filter]
  refine List.filter_congr fun ev _ => ?_
  simp only [scanWhere, filteredWhere, filterWhere, conditionsWhere, isActiveInt8]
  ac_rfl

/-- **When the filtered searches are exact.**  At every limit a search answers with the best-scored
    of the rows that satisfy the filters exactly when the filters are exact for the rows it looks
    at. -/
theorem filtered_search_exact_iff (engine : Engine F rfc) (now : Instant) (store : VectorStore F rfc)
    (filters : SearchFilters Instant) (timeDecayHours : F) :
    (∀ query, IsExact engine (scoredRows engine now (fullSimilarity engine query) timeDecayHours
        ((store.vectors.rows.filter isActive).filter (satisfies filters store.segments now)))
        (fun limit => searchFiltered engine now store query limit timeDecayHours filters) ↔
      filters.Exact store.segments now (store.vectors.rows.filter isActive)) ∧
    ∀ query, IsExact engine (scoredRows engine now (int8Similarity engine query) timeDecayHours
        ((store.vectors.rows.filter isActiveInt8).filter (satisfies filters store.segments now)))
        (fun limit => searchQuantized engine now store query limit timeDecayHours filters) ↔
      filters.Exact store.segments now (store.vectors.rows.filter isActiveInt8) := by
  constructor
  · intro query
    refine isExact_iff .filtered (fun ev _ => rfl) (fun hbinds limit => ?_)
      fun hbinds limit results => ?_
    · rw [searchFiltered_eq hbinds, filter_filteredWhere]
    · exact searchFiltered_error hbinds results
  · intro query
    refine isExact_iff .quantized (fun ev hev => ?_) (fun hbinds limit => ?_)
      fun hbinds limit results => ?_
    · rw [isActiveInt8, Bool.and_eq_true] at hev
      rw [int8Similarity, Option.isSome_map]
      exact hev.2
    · rw [searchQuantized_eq hbinds, filter_scanWhere_active]
    · exact searchQuantized_error hbinds results

/-! ## Two content types -/

/-- Rows of any type. -/
def bothTypes : SearchFilters Unit where
  contentTypes := some [.contentActivity, .segmentSummary]

/-- **A list of two types.**  The one row of the table is of the second type.  The statement has one
    placeholder and two values, and is refused; with an excluded segment after them it runs, and
    looks for the first type only. -/
theorem filtered_search_two_types :
    searchFiltered sampleEngine () sampleStore [5] 10 0 bothTypes = .error (.internal
      ("Failed to query filtered vectors: " ++
        "Wrong number of parameters passed to query. Got 2, needed 1")) ∧
    searchFiltered sampleEngine () sampleStore [5] 10 0
      { bothTypes with excludedSegmentIds := ["seg-2"] } = .ok [] ∧
    ¬ IsExact sampleEngine (scoredRows sampleEngine () (fullSimilarity sampleEngine [5]) 0
      ((sampleStore.vectors.rows.filter isActive).filter
        (satisfies bothTypes sampleStore.segments ())))
      (fun limit => searchFiltered sampleEngine () sampleStore [5] limit 0 bothTypes) := by
  have hrefused : searchFiltered sampleEngine () sampleStore [5] 10 0 bothTypes = .error (.internal
      ("Failed to query filtered vectors: " ++
        "Wrong number of parameters passed to query. Got 2, needed 1")) := by
    decide +kernel
  refine ⟨hrefused, by decide +kernel, fun hexact => ?_⟩
  obtain ⟨results, hok, -⟩ := hexact 10
  simp only [hrefused] at hok
  cases hok

end Oneshim.Search
