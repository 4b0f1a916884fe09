/-
  The statements of the searches (`vector_store_impl/trait_impl.rs`, `vector_index_impl`).

  The `WHERE` clause of a search is put together from its filters: each adds a condition with
  placeholders, and the values for them to a list.  A placeholder is a number, and it stands for the
  value at that place of the list.

  1. **Clauses** (`Clause`) — conditions with numbered placeholders, and the values.

  2. **Binding** (`Clause.Binds`) — a statement is run with as many values as its greatest
     placeholder says; with more or fewer it is an error.

  3. **The filters' conditions** — as the three functions add them.  The content types of a list get
     one number, that of the first.

  4. **What a clause selects** (`meets_pushFilters`) — the conjunction of the meanings of its
     filters, whatever is added later; and when it binds (`binds_pushFilters_iff`).
-/
import Mathlib.Tactic.Tauto
import Oneshim.Search.VectorTable

namespace Oneshim.Search

variable {F Instant : Type} [LinearOrder Instant] {rfc : Rfc3339 Instant}

/-! ## Clauses -/

/-- A value for a placeholder. -/
inductive SqlValue where
  | text (s : String)
  | integer (n : Nat)
  deriving DecidableEq

/-- A condition on a row; placeholders are numbered from one. -/
inductive Condition where
  | isNotStale
  | vectorInt8IsNotNull
  | timestampGe (param : Nat)
  | timestampLe (param : Nat)
  | contentTypeIn (params : List Nat)
  | segmentOfRegime (param : Nat)
  | segmentIdNotIn (params : List Nat)
  | clusterIdIn (params : List Nat)
  | idIn (params : List Nat)

/-- The placeholders of a condition. -/
def Condition.params : Condition → List Nat
  | .isNotStale | .vectorInt8IsNotNull => []
  | .timestampGe param | .timestampLe param | .segmentOfRegime param => [param]
  | .contentTypeIn params | .segmentIdNotIn params | .clusterIdIn params | .idIn params => params

/-- `conditions` and `param_values`. -/
structure Clause where
  conditions : List Condition
  paramValues : List SqlValue

/-- One more condition, and the values for it. -/
def Clause.push (clause : Clause) (condition : Condition) (values : List SqlValue) : Clause :=
  ⟨clause.conditions ++ [condition], clause.paramValues ++ values⟩

/-- The value of a placeholder. -/
def valueAt (values : List SqlValue) (param : Nat) : Option SqlValue := values[param - 1]?

/-- What a condition is about, besides the row: the segments and the cluster of the row's vector. -/
structure Surroundings where
  segments : List ActivitySegment
  clusterOf : Nat → Option Nat

/-- The text of a value. -/
def SqlValue.text? : SqlValue → Option String
  | .text s => some s
  | .integer _ => none

/-- Does the row meet the condition, with these values? -/
def Condition.holds (values : List SqlValue) (around : Surroundings) (ev : EmbeddingVector F rfc) :
    Condition → Bool
  | .isNotStale => !ev.isStale
  | .vectorInt8IsNotNull => ev.vectorInt8.isSome
  | .timestampGe param =>
    ((valueAt values param).bind SqlValue.text?).any fun t => decide (t ≤ ev.timestamp)
  | .timestampLe param =>
    ((valueAt values param).bind SqlValue.text?).any fun t => decide (ev.timestamp ≤ t)
  | .contentTypeIn params =>
    params.any fun param => valueAt values param == some (.text ev.contentType)
  | .segmentOfRegime param =>
    ((around.segments.filter fun segment =>
      segment.regimeId.any fun regimeId => valueAt values param == some (.text regimeId)).map
        ActivitySegment.id).contains ev.segmentId
  | .segmentIdNotIn params =>
    !params.any fun param => valueAt values param == some (.text ev.segmentId)
  | .clusterIdIn params =>
    (around.clusterOf ev.id).any fun cluster =>
      params.any fun param => valueAt values param == some (.integer cluster)
  | .idIn params => params.any fun param => valueAt values param == some (.integer ev.id)

/-- Does the row meet every condition, with these values? -/
def Clause.meets (clause : Clause) (values : List SqlValue) (around : Surroundings)
    (ev : EmbeddingVector F rfc) : Bool :=
  clause.conditions.all fun condition => condition.holds values around ev

/-- The rows that the clause selects are those that meet its conditions. -/
def Clause.selects (clause : Clause) (around : Surroundings) (ev : EmbeddingVector F rfc) : Bool :=
  clause.meets clause.paramValues around ev

/-! ## Binding -/

/-- `sqlite3_bind_parameter_count`: the greatest placeholder. -/
def Clause.parameterCount (clause : Clause) : Nat :=
  (clause.conditions.flatMap Condition.params).foldr max 0

/-- There are as many values as the statement has parameters. -/
def Clause.Binds (clause : Clause) : Prop := clause.paramValues.length = clause.parameterCount

instance (clause : Clause) : Decidable clause.Binds := inferInstanceAs (Decidable (_ = _))

/-- What a statement that cannot be run is called. -/
def Statement.failure : Statement → String
  | .filtered => "Failed to query filtered vectors: "
  | .quantized => "Failed to query quantized vectors: "
  | .ivf => "Failed to query IVF vectors: "
  | .rerank => "Failed to query rerank vectors: "

/-- `query_map` with the values of the clause.  The values are bound one by one, up to the first
    for which there is no parameter. -/
def queryMap (engine : Engine F rfc) (statement : Statement) (clause : Clause)
    (around : Surroundings) (rows : List (EmbeddingVector F rfc)) :
    Except SearchError (List (EmbeddingVector F rfc)) :=
  if clause.Binds then
    .ok (engine.rowOrder statement (rows.filter (clause.selects around)))
  else
    .error (.internal (statement.failure ++ "Wrong number of parameters passed to query. Got " ++
      toString (min clause.paramValues.length (clause.parameterCount + 1)) ++ ", needed " ++
      toString clause.parameterCount))

/-! ## The filters' conditions -/

section

variable (rfc) (filters : SearchFilters Instant) (clause : Clause)

/-- `timestamp >= ?`. -/
def pushAfter : Clause :=
  match filters.after with
  | some after =>
    clause.push (.timestampGe (clause.paramValues.length + 1)) [.text (rfc.toRfc3339 after)]
  | none => clause

/-- `timestamp <= ?`. -/
def pushBefore : Clause :=
  match filters.before with
  | some before =>
    clause.push (.timestampLe (clause.paramValues.length + 1)) [.text (rfc.toRfc3339 before)]
  | none => clause

/-- `content_type IN (…)`; an empty list is no condition.  The placeholders are numbered while the
    values are not there yet: every one gets the number of the first. -/
def pushContentTypes : Clause :=
  match filters.contentTypes with
  | some contentTypes =>
    if contentTypes.isEmpty then clause
    else
      clause.push (.contentTypeIn (contentTypes.map fun _ => clause.paramValues.length + 1))
        (contentTypes.map fun ct => .text (contentTypeToStr ct))
  | none => clause

/-- `segment_id IN (SELECT id FROM activity_segments WHERE regime_id = ?)`. -/
def pushRegime : Clause :=
  match filters.regimeId with
  | some regimeId =>
    clause.push (.segmentOfRegime (clause.paramValues.length + 1)) [.text regimeId]
  | none => clause

/-- The placeholders of a list of values. -/
def numbered (count : Nat) : List Nat :=
  (List.range count).map fun i => clause.paramValues.length + i + 1

/-- `segment_id NOT IN (…)`. -/
def pushExcluded : Clause :=
  if filters.excludedSegmentIds.isEmpty then clause
  else
    clause.push (.segmentIdNotIn (numbered clause filters.excludedSegmentIds.length))
      (filters.excludedSegmentIds.map .text)

/-- The conditions of the filters after the first ones. -/
def pushFilters : Clause :=
  pushExcluded filters (pushRegime filters
    (pushContentTypes filters (pushBefore rfc filters (pushAfter rfc filters clause))))

/-- The clause of `search_filtered`. -/
def filteredClause : Clause := pushFilters rfc filters ⟨[.isNotStale], []⟩

/-- The clause of `search_quantized`. -/
def quantizedClause : Clause := pushFilters rfc filters ⟨[.isNotStale, .vectorInt8IsNotNull], []⟩

/-- `build_filter_conditions`, without a condition for the regime. -/
def buildFilterConditions : Clause :=
  pushExcluded filters
    (pushContentTypes filters (pushBefore rfc filters (pushAfter rfc filters ⟨[.isNotStale], []⟩)))

/-- `ia.cluster_id IN (…)`. -/
def pushClusters (clusters : List Nat) : Clause :=
  clause.push (.clusterIdIn (numbered clause clusters.length)) (clusters.map .integer)

/-- `ev.id IN (…)`. -/
def pushIds (ids : List Nat) : Clause :=
  clause.push (.idIn (numbered clause ids.length)) (ids.map .integer)

end

/-! ## What the conditions of the filters say -/

namespace SearchFilters

/-- `timestamp >= ?`. -/
def afterWhere (filters : SearchFilters Instant) (ev : EmbeddingVector F rfc) : Bool :=
  filters.after.all fun after => decide (rfc.toRfc3339 after ≤ ev.timestamp)

/-- `timestamp <= ?`. -/
def beforeWhere (filters : SearchFilters Instant) (ev : EmbeddingVector F rfc) : Bool :=
  filters.before.all fun before => decide (ev.timestamp ≤ rfc.toRfc3339 before)

/-- The content type is the first of the list; an empty list is no condition. -/
def contentTypeWhere (filters : SearchFilters Instant) (ev : EmbeddingVector F rfc) : Bool :=
  filters.contentTypes.all fun contentTypes =>
    contentTypes.head?.all fun ct => ev.contentType == contentTypeToStr ct

/-- The segment is of the regime. -/
def regimeWhere (filters : SearchFilters Instant) (segments : List ActivitySegment)
    (ev : EmbeddingVector F rfc) : Bool :=
  filters.regimeId.all fun regimeId =>
    ((segments.filter fun segment => segment.regimeId == some regimeId).map
      ActivitySegment.id).contains ev.segmentId

/-- The segment is not excluded. -/
def excludedWhere (filters : SearchFilters Instant) (ev : EmbeddingVector F rfc) : Bool :=
  !filters.excludedSegmentIds.contains ev.segmentId

/-- At most one content type is asked for. -/
def SingleType (filters : SearchFilters Instant) : Prop :=
  ∀ contentTypes, filters.contentTypes = some contentTypes → contentTypes.length ≤ 1

end SearchFilters

/-- What every statement of a search selects by its filters, but for the regime. -/
def filterWhere (filters : SearchFilters Instant) (ev : EmbeddingVector F rfc) : Bool :=
  !ev.isStale && filters.afterWhere ev && filters.beforeWhere ev && filters.contentTypeWhere ev &&
    filters.excludedWhere ev

/-! ## Values stay where they are -/

variable {filters : SearchFilters Instant} {clause : Clause} {values : List SqlValue}
  {around : Surroundings} {ev : EmbeddingVector F rfc}

theorem Clause.meets_push (condition : Condition) (added : List SqlValue) :
    (clause.push condition added).meets values around ev =
      (clause.meets values around ev && condition.holds values around ev) := by
  simp only [Clause.meets, Clause.push, List.all_append, List.all_cons, List.all_nil, Bool.and_true]

/-- A value that is there stays at its place. -/
theorem valueAt_of_prefix {before after : List SqlValue} {v : SqlValue}
    (h : before ++ v :: after <+: values) : valueAt values (before.length + 1) = some v := by
  obtain ⟨later, rfl⟩ := h
  simp [valueAt]

/-- Numbered placeholders stand for the values that are added with them. -/
theorem any_numbered {added : List SqlValue} (h : clause.paramValues ++ added <+: values)
    (v : SqlValue) :
    ((numbered clause added.length).any fun param => valueAt values param == some v) =
      added.contains v := by
  have hat : ∀ i < added.length, valueAt values (clause.paramValues.length + i + 1) = added[i]? := by
    obtain ⟨later, rfl⟩ := h
    intro i hi
    rw [valueAt, List.append_assoc, show clause.paramValues.length + i + 1 - 1 =
      clause.paramValues.length + i by omega, List.getElem?_append_right (by omega),
      Nat.add_sub_cancel_left, List.getElem?_append_left hi]
  rw [Bool.eq_iff_iff, List.any_eq_true, List.contains_iff_mem, List.mem_iff_getElem?]
  simp only [numbered, List.mem_map, List.mem_range, beq_iff_eq]
  constructor
  · rintro ⟨param, ⟨i, hi, rfl⟩, hv⟩
    exact ⟨i, (hat i hi).symm.trans hv⟩
  · rintro ⟨i, hv⟩
    obtain ⟨hi, -⟩ := List.getElem?_eq_some_iff.mp hv
    exact ⟨_, ⟨i, hi, rfl⟩, (hat i hi).trans hv⟩

section Prefix

theorem prefix_pushBefore : clause.paramValues <+: (pushBefore rfc filters clause).paramValues := by
  unfold pushBefore
  split
  · exact List.prefix_append _ _
  · exact List.prefix_rfl

omit [LinearOrder Instant] in
theorem prefix_pushContentTypes :
    clause.paramValues <+: (pushContentTypes filters clause).paramValues := by
  unfold pushContentTypes
  split
  · split
    · exact List.prefix_rfl
    · exact List.prefix_append _ _
  · exact List.prefix_rfl

omit [LinearOrder Instant] in
theorem prefix_pushRegime : clause.paramValues <+: (pushRegime filters clause).paramValues := by
  unfold pushRegime
  split
  · exact List.prefix_append _ _
  · exact List.prefix_rfl

omit [LinearOrder Instant] in
theorem prefix_pushExcluded : clause.paramValues <+: (pushExcluded filters clause).paramValues := by
  unfold pushExcluded
  split
  · exact List.prefix_rfl
  · exact List.prefix_append _ _

end Prefix

/-! ## What each filter adds -/

theorem meets_pushAfter (h : (pushAfter rfc filters clause).paramValues <+: values) :
    (pushAfter rfc filters clause).meets values around ev =
      (clause.meets values around ev && filters.afterWhere ev) := by
  unfold pushAfter at h ⊢
  cases hafter : filters.after with
  | none => simp only [SearchFilters.afterWhere, hafter, Option.all_none, Bool.and_true]
  | some after =>
    rw [hafter] at h
    have hvalue := valueAt_of_prefix h
    simp only [Clause.meets_push, Condition.holds, hvalue, SearchFilters.afterWhere, hafter,
      Option.bind_some, SqlValue.text?, Option.any_some, Option.all_some]

theorem meets_pushBefore (h : (pushBefore rfc filters clause).paramValues <+: values) :
    (pushBefore rfc filters clause).meets values around ev =
      (clause.meets values around ev && filters.beforeWhere ev) := by
  unfold pushBefore at h ⊢
  cases hbefore : filters.before with
  | none => simp only [SearchFilters.beforeWhere, hbefore, Option.all_none, Bool.and_true]
  | some before =>
    rw [hbefore] at h
    have hvalue := valueAt_of_prefix h
    simp only [Clause.meets_push, Condition.holds, hvalue, SearchFilters.beforeWhere, hbefore,
      Option.bind_some, SqlValue.text?, Option.any_some, Option.all_some]

/-- Of a list of content types only the first is selected. -/
theorem meets_pushContentTypes (h : (pushContentTypes filters clause).paramValues <+: values) :
    (pushContentTypes filters clause).meets values around ev =
      (clause.meets values around ev && filters.contentTypeWhere ev) := by
  unfold pushContentTypes at h ⊢
  cases htypes : filters.contentTypes with
  | none => simp only [SearchFilters.contentTypeWhere, htypes, Option.all_none, Bool.and_true]
  | some contentTypes =>
    rw [htypes] at h
    cases contentTypes with
    | nil => simp [SearchFilters.contentTypeWhere, htypes]
    | cons first rest =>
      have hvalue : valueAt values (clause.paramValues.length + 1) =
          some (.text (contentTypeToStr first)) := valueAt_of_prefix h
      have hany : ((first :: rest).map fun _ => clause.paramValues.length + 1).any
          (fun param => valueAt values param == some (.text ev.contentType)) =
            (ev.contentType == contentTypeToStr first) := by
        rw [Bool.eq_iff_iff, List.any_eq_true, beq_iff_eq]
        constructor
        · rintro ⟨param, hmem, hparam⟩
          obtain ⟨-, -, rfl⟩ := List.mem_map.mp hmem
          rw [hvalue, beq_iff_eq, Option.some_inj, SqlValue.text.injEq] at hparam
          exact hparam.symm
        · intro heq
          refine ⟨_, List.mem_map_of_mem List.mem_cons_self, ?_⟩
          rw [hvalue, heq]
          exact beq_self_eq_true _
      simp only [List.isEmpty_cons, Bool.false_eq_true, if_false, Clause.meets_push,
        Condition.holds, hany, SearchFilters.contentTypeWhere, htypes, Option.all_some,
        List.head?_cons]

/-- The condition on the regime, when its value is bound. -/
theorem meets_pushRegime (h : (pushRegime filters clause).paramValues <+: values) :
    (pushRegime filters clause).meets values around ev =
      (clause.meets values around ev && filters.regimeWhere around.segments ev) := by
  unfold pushRegime at h ⊢
  cases hregime : filters.regimeId with
  | none => simp only [SearchFilters.regimeWhere, hregime, Option.all_none, Bool.and_true]
  | some regimeId =>
    rw [hregime] at h
    have hvalue := valueAt_of_prefix h
    have hsame (segment : ActivitySegment) :
        (segment.regimeId.any fun r => some (SqlValue.text regimeId) == some (.text r)) =
          (segment.regimeId == some regimeId) := by
      cases segment.regimeId with
      | none => rfl
      | some r =>
        rw [Option.any_some, Bool.eq_iff_iff, beq_iff_eq, beq_iff_eq, Option.some_inj,
          Option.some_inj, SqlValue.text.injEq]
        exact eq_comm
    simp only [Clause.meets_push, Condition.holds, hvalue, hsame, SearchFilters.regimeWhere,
      hregime, Option.all_some]

/-- The condition on the excluded segments, when their values are bound. -/
theorem meets_pushExcluded (h : (pushExcluded filters clause).paramValues <+: values) :
    (pushExcluded filters clause).meets values around ev =
      (clause.meets values around ev && filters.excludedWhere ev) := by
  unfold pushExcluded at h ⊢
  split at h
  · next hempty =>
    simp [SearchFilters.excludedWhere, List.isEmpty_iff.mp hempty]
  · next hne =>
    have hany := any_numbered h (.text ev.segmentId)
    rw [List.length_map] at hany
    have hcontains : (filters.excludedSegmentIds.map SqlValue.text).contains (.text ev.segmentId) =
        filters.excludedSegmentIds.contains ev.segmentId := by
      simp
    rw [if_neg hne, Clause.meets_push, Condition.holds, hany, hcontains,
      SearchFilters.excludedWhere]

/-- **What the filters select.** -/
theorem meets_pushFilters (h : (pushFilters rfc filters clause).paramValues <+: values) :
    (pushFilters rfc filters clause).meets values around ev =
      (clause.meets values around ev && filters.afterWhere ev && filters.beforeWhere ev &&
        filters.contentTypeWhere ev && filters.regimeWhere around.segments ev &&
          filters.excludedWhere ev) := by
  unfold pushFilters at h ⊢
  have hregime := prefix_pushExcluded.trans h
  have htypes := prefix_pushRegime.trans hregime
  have hbefore := prefix_pushContentTypes.trans htypes
  have hafter := prefix_pushBefore.trans hbefore
  rw [meets_pushExcluded h, meets_pushRegime hregime, meets_pushContentTypes htypes,
    meets_pushBefore hbefore, meets_pushAfter hafter]

/-! ## When a clause binds -/

/-- No placeholder is beyond the values. -/
def Clause.Within (clause : Clause) : Prop := clause.parameterCount ≤ clause.paramValues.length

theorem Clause.Binds.within (h : clause.Binds) : clause.Within := Nat.le_of_eq h.symm

theorem foldr_max_append (a b : List Nat) :
    (a ++ b).foldr max 0 = max (a.foldr max 0) (b.foldr max 0) := by
  induction a with
  | nil => exact (Nat.zero_max _).symm
  | cons param rest ih =>
    rw [List.cons_append, List.foldr_cons, List.foldr_cons, ih]
    exact (Nat.max_assoc _ _ _).symm

theorem Clause.parameterCount_push (condition : Condition) (added : List SqlValue) :
    (clause.push condition added).parameterCount =
      max clause.parameterCount (condition.params.foldr max 0) := by
  simp only [Clause.parameterCount, Clause.push, List.flatMap_append, List.flatMap_singleton,
    foldr_max_append]

/-- The greatest of the placeholders of a list of values. -/
theorem foldr_numbered (count : Nat) :
    (numbered clause count).foldr max 0 =
      if count = 0 then 0 else clause.paramValues.length + count := by
  induction count with
  | zero => rfl
  | succ n ih =>
    have hlast : numbered clause (n + 1) =
        numbered clause n ++ [clause.paramValues.length + n + 1] := by
      rw [numbered, List.range_succ, List.map_append]
      rfl
    rw [hlast, foldr_max_append, ih, if_neg (Nat.succ_ne_zero n), List.foldr_cons, List.foldr_nil]
    split <;> omega

/-- A condition with the next placeholder binds what is there. -/
theorem binds_push_next (h : clause.Within) {condition : Condition} {v : SqlValue}
    (hparams : condition.params = [clause.paramValues.length + 1]) :
    (clause.push condition [v]).Binds := by
  have hwithin : clause.parameterCount ≤ clause.paramValues.length := h
  rw [Clause.Binds, Clause.parameterCount_push, hparams]
  simp only [Clause.push, List.length_append, List.length_singleton, List.foldr_cons,
    List.foldr_nil]
  omega

/-- Values with placeholders of their own bind what is there; no values change nothing. -/
theorem binds_push_numbered_iff (h : clause.Within) {condition : Condition} {added : List SqlValue}
    (hparams : condition.params = numbered clause added.length) :
    (clause.push condition added).Binds ↔ added ≠ [] ∨ clause.Binds := by
  have hwithin : clause.parameterCount ≤ clause.paramValues.length := h
  rw [Clause.Binds, Clause.parameterCount_push, hparams, foldr_numbered, Clause.Binds]
  simp only [Clause.push, List.length_append, List.length_eq_zero_iff]
  cases added with
  | nil => simp
  | cons v rest =>
    simp only [reduceCtorEq, if_false, List.length_cons, ne_eq, not_false_eq_true, true_or, iff_true]
    omega

theorem binds_pushAfter (h : clause.Binds) : (pushAfter rfc filters clause).Binds := by
  unfold pushAfter
  split
  · exact binds_push_next h.within rfl
  · exact h

theorem binds_pushBefore (h : clause.Binds) : (pushBefore rfc filters clause).Binds := by
  unfold pushBefore
  split
  · exact binds_push_next h.within rfl
  · exact h

omit [LinearOrder Instant] in
/-- **A list of content types binds** when it has one entry: every further entry is a value without a
    placeholder. -/
theorem binds_pushContentTypes_iff (h : clause.Binds) :
    (pushContentTypes filters clause).Within ∧
      ((pushContentTypes filters clause).Binds ↔ filters.SingleType) := by
  unfold pushContentTypes SearchFilters.SingleType
  cases htypes : filters.contentTypes with
  | none => simp [h, h.within]
  | some contentTypes =>
    cases contentTypes with
    | nil => simp [h, h.within]
    | cons first rest =>
      have hbinds : clause.paramValues.length = clause.parameterCount := h
      have hcount : ((first :: rest).map fun _ => clause.paramValues.length + 1).foldr max 0 =
          clause.paramValues.length + 1 := by
        clear htypes
        induction rest with
        | nil => simp
        | cons ct rest ih =>
          simp only [List.map_cons, List.foldr_cons] at ih ⊢
          omega
      simp only [List.isEmpty_cons, Bool.false_eq_true, if_false, Clause.Within, Clause.Binds,
        Clause.parameterCount_push, Condition.params, hcount]
      simp only [Clause.push, List.length_append, List.length_map, List.length_cons,
        Option.some.injEq, forall_eq']
      omega

omit [LinearOrder Instant] in
theorem binds_pushRegime_iff (h : clause.Within) :
    (pushRegime filters clause).Within ∧
      ((pushRegime filters clause).Binds ↔ clause.Binds ∨ filters.regimeId.isSome = true) := by
  unfold pushRegime
  cases hregime : filters.regimeId with
  | none => simpa using h
  | some regimeId =>
    have hbinds : (clause.push (.segmentOfRegime (clause.paramValues.length + 1))
        [.text regimeId]).Binds := binds_push_next h rfl
    exact ⟨hbinds.within, by simp [hbinds]⟩

omit [LinearOrder Instant] in
/-- The values of the excluded segments fit the placeholders again. -/
theorem binds_pushExcluded_iff (h : clause.Within) :
    (pushExcluded filters clause).Within ∧
      ((pushExcluded filters clause).Binds ↔ clause.Binds ∨ filters.excludedSegmentIds ≠ []) := by
  unfold pushExcluded
  split
  · next hempty => exact ⟨h, by simp [List.isEmpty_iff.mp hempty]⟩
  · next hne =>
    have hids : filters.excludedSegmentIds ≠ [] := fun hnil => hne (List.isEmpty_iff.mpr hnil)
    have hparams : (Condition.segmentIdNotIn (numbered clause
        filters.excludedSegmentIds.length)).params =
          numbered clause (filters.excludedSegmentIds.map SqlValue.text).length := by
      rw [List.length_map]
      rfl
    have hadded : filters.excludedSegmentIds.map SqlValue.text ≠ [] := by simpa using hids
    have hbinds := (binds_push_numbered_iff h hparams).mpr (.inl hadded)
    exact ⟨hbinds.within, by simp [hbinds, hids]⟩

/-- **When the plain scans bind**: at most one content type is asked for, or a filter that comes after
    the content types. -/
theorem binds_pushFilters_iff (h : clause.Binds) :
    (pushFilters rfc filters clause).Binds ↔
      filters.SingleType ∨ filters.regimeId.isSome = true ∨ filters.excludedSegmentIds ≠ [] := by
  have hbefore : (pushBefore rfc filters (pushAfter rfc filters clause)).Binds :=
    binds_pushBefore (binds_pushAfter h)
  obtain ⟨htypes, hiff⟩ := @binds_pushContentTypes_iff _ filters _ hbefore
  obtain ⟨hregime, hregimeIff⟩ := @binds_pushRegime_iff _ filters _ htypes
  rw [pushFilters, (binds_pushExcluded_iff hregime).2, hregimeIff, hiff, or_assoc]

end Oneshim.Search
