/-
  Hybrid search (`oneshim-analysis/src/hybrid_search_service.rs`).

  A query is asked of the vectors and of the keywords, and the two answers are fused by the ranks
  their segments have in them.  Either answer may hold a segment several times, for several texts of
  it.

  1. **Code** — ranks are collected into a hash map, in which the last entry of a segment stays; of
     the results of a segment the one with the greatest similarity is kept; both lists are fused
     over the segments of the map, in the order in which it gives them, sorted and cut off.

  2. **Ranks** (`rankOf_eq_bestRank_iff`) — the last rank of a segment is its best one where it
     occurs once.

  3. **The result** (`isFusion_iff`) — when the answer is the reciprocal rank fusion of the two
     lists.

  Numbers are rational.
-/
import Mathlib.Algebra.Order.Field.Basic
import Mathlib.Algebra.Order.Ring.Rat
import Mathlib.Data.List.Dedup
import Mathlib.Data.List.Induction
import Mathlib.Tactic.NormNum
import Oneshim.Lib.Top
import Oneshim.Search.VectorTable

namespace Oneshim.Search

open Lib (Top top_mergeSort)

/-! ## Code -/

/-- The parameters of a `HybridSearchService`. -/
structure HybridSearchService where
  alpha : ℚ
  beta : ℚ
  k : ℚ

/-- The parameters of `HybridSearchService::new`. -/
def HybridSearchService.new : HybridSearchService := ⟨6 / 10, 4 / 10, 60⟩

/-- What a list answers in a hybrid search. -/
abbrev Found := SearchResult ℚ Int

/-- A map from segments to ranks; an entry that comes later takes the place of one that is there. -/
def collectRanks (entries : List (String × Nat)) : String → Option Nat :=
  entries.foldl (fun ranks entry id => if id = entry.1 then some entry.2 else ranks id)
    fun _ => none

/-- The ranks of a list, from one on. -/
def ranks (results : List Found) : String → Option Nat :=
  collectRanks (results.zipIdx.map fun entry => (entry.1.segmentId, entry.2 + 1))

/-- The segments of a list. -/
def segmentsOf (results : List Found) : List String := results.map (·.segmentId)

/-- What of a segment is kept: the result that is there, or one of greater similarity. -/
def keepBest (best : List Found) (r : Found) : List Found :=
  if r.segmentId ∈ segmentsOf best then
    best.map fun existing =>
      if existing.segmentId = r.segmentId ∧ existing.similarity < r.similarity then r else existing
  else best ++ [r]

/-- The results of `best_results`. -/
def bestResults (vectorResults ftsResults : List Found) : List Found :=
  (vectorResults ++ ftsResults).foldl keepBest []

section

variable (self : HybridSearchService)

/-- The score of two ranks. -/
def HybridSearchService.rrf (rankV rankF : Nat) : ℚ :=
  self.alpha / (self.k + rankV) + self.beta / (self.k + rankF)

/-- The rank in a list that does not have the segment. -/
def missingRank (limit : Nat) : Nat := limit * 2 + 1

/-- The rank that a segment has in the fusion. -/
def rankOf (limit : Nat) (results : List Found) (id : String) : Nat :=
  (ranks results id).getD (missingRank limit)

/-- The scored results; `order` is the order in which the map gives them. -/
def HybridSearchService.scored (order : List Found → List Found) (limit : Nat)
    (vectorResults ftsResults : List Found) : List (ℚ × Found) :=
  (order (bestResults vectorResults ftsResults)).map fun result =>
    let rrfScore := self.rrf (rankOf limit vectorResults result.segmentId)
      (rankOf limit ftsResults result.segmentId)
    (rrfScore, { result with score := rrfScore })

/-- `hybrid_search`, once both lists have answered; a list that fails answers nothing. -/
def HybridSearchService.hybridSearch (order : List Found → List Found) (limit : Nat)
    (vectorResults ftsResults : Except SearchError (List Found)) : List Found :=
  let vectorResults := vectorResults.toOption.getD []
  let ftsResults := ftsResults.toOption.getD []
  let sorted := (self.scored order limit vectorResults ftsResults).mergeSort
    fun a b => decide (b.1 ≤ a.1)
  (sorted.take limit).map (·.2)

end

/-! ## Ranks -/

/-- The best rank of a segment: that of its first entry. -/
def bestRank (limit : Nat) (results : List Found) (id : String) : Nat :=
  if id ∈ segmentsOf results then (segmentsOf results).idxOf id + 1 else missingRank limit

theorem ranks_append (results : List Found) (r : Found) (id : String) :
    ranks (results ++ [r]) id =
      if id = r.segmentId then some (results.length + 1) else ranks results id := by
  simp [ranks, collectRanks, List.zipIdx_append]

theorem segmentsOf_append (a b : List Found) :
    segmentsOf (a ++ b) = segmentsOf a ++ segmentsOf b := List.map_append

theorem rankOf_of_not_mem {limit : Nat} {results : List Found} {id : String}
    (h : id ∉ segmentsOf results) : rankOf limit results id = missingRank limit := by
  induction results using List.reverseRecOn with
  | nil => rfl
  | append_singleton results r ih =>
    rw [segmentsOf_append, List.mem_append, not_or] at h
    have hne : id ≠ r.segmentId := fun heq => h.2 (List.mem_singleton.mpr heq)
    rw [rankOf, ranks_append, if_neg hne]
    exact ih h.1

/-- **The last rank** is never before the best one, and is the same where the segment is there at
    most once. -/
theorem bestRank_le_rankOf (limit : Nat) (results : List Found) (id : String) :
    bestRank limit results id ≤ rankOf limit results id ∧
      (bestRank limit results id = rankOf limit results id ↔
        (segmentsOf results).count id ≤ 1) := by
  by_cases hmem : id ∈ segmentsOf results
  · induction results using List.reverseRecOn with
    | nil => cases hmem
    | append_singleton results r ih =>
      have hcount : (segmentsOf (results ++ [r])).count id =
          (segmentsOf results).count id + if id = r.segmentId then 1 else 0 := by
        have hlast : (segmentsOf [r]).count id = if id = r.segmentId then 1 else 0 := by
          by_cases h : id = r.segmentId
          · simp [segmentsOf, h]
          · simp [segmentsOf, h, Ne.symm h]
        rw [segmentsOf_append, List.count_append, hlast]
      rw [bestRank, if_pos hmem, rankOf, ranks_append, hcount]
      by_cases hlast : id = r.segmentId
      · rw [if_pos hlast, if_pos hlast, Option.getD_some]
        by_cases hbefore : id ∈ segmentsOf results
        · -- there was one before
          have hlt : (segmentsOf results).idxOf id < results.length := by
            have := List.idxOf_lt_length_iff.mpr hbefore
            rwa [segmentsOf, List.length_map, ← segmentsOf] at this
          have hpos : 0 < (segmentsOf results).count id := List.count_pos_iff.mpr hbefore
          rw [segmentsOf_append, List.idxOf_append_of_mem hbefore]
          exact ⟨by omega, by omega⟩
        · have hzero : (segmentsOf results).count id = 0 := List.count_eq_zero.mpr hbefore
          have hindex : (segmentsOf (results ++ [r])).idxOf id = results.length := by
            rw [segmentsOf_append, List.idxOf_append_of_notMem hbefore]
            simp [segmentsOf, hlast]
          rw [hindex, hzero]
          exact ⟨le_refl _, by simp⟩
      · have hbefore : id ∈ segmentsOf results := by
          rw [segmentsOf_append, List.mem_append] at hmem
          exact hmem.resolve_right fun h => hlast (List.mem_singleton.mp h)
        have hprevious := ih hbefore
        rw [bestRank, if_pos hbefore, rankOf] at hprevious
        rw [if_neg hlast, if_neg hlast, segmentsOf_append, List.idxOf_append_of_mem hbefore]
        exact hprevious
  · rw [rankOf_of_not_mem hmem, bestRank, if_neg hmem, List.count_eq_zero.mpr hmem]
    exact ⟨le_refl _, by simp⟩

theorem one_le_bestRank (limit : Nat) (results : List Found) (id : String) :
    1 ≤ bestRank limit results id := by
  rw [bestRank]
  split
  · omega
  · rw [missingRank]
    omega

/-! ## Segments -/

theorem segmentsOf_keepBest (best : List Found) (r : Found) :
    segmentsOf (keepBest best r) =
      if r.segmentId ∈ segmentsOf best then segmentsOf best
      else segmentsOf best ++ [r.segmentId] := by
  rw [keepBest]
  split
  · rw [segmentsOf, List.map_map]
    refine List.map_congr_left fun existing _ => ?_
    simp only [Function.comp_def]
    split
    · next h => exact h.1.symm
    · rfl
  · rw [segmentsOf_append]
    rfl

/-- Every segment of either list is kept once. -/
theorem segmentsOf_bestResults (vectorResults ftsResults : List Found) :
    (segmentsOf (bestResults vectorResults ftsResults)).Nodup ∧
      ∀ id, id ∈ segmentsOf (bestResults vectorResults ftsResults) ↔
        id ∈ segmentsOf (vectorResults ++ ftsResults) := by
  rw [bestResults]
  induction vectorResults ++ ftsResults using List.reverseRecOn with
  | nil => exact ⟨List.nodup_nil, fun _ => Iff.rfl⟩
  | append_singleton results r ih =>
    obtain ⟨hnodup, hmem⟩ := ih
    rw [List.foldl_append, List.foldl_cons, List.foldl_nil, segmentsOf_keepBest]
    split
    · next hthere =>
      refine ⟨hnodup, fun id => ?_⟩
      rw [segmentsOf_append, List.mem_append, ← hmem]
      refine ⟨.inl, fun h => ?_⟩
      rcases h with h | h
      · exact h
      · rw [List.mem_singleton.mp h]
        exact hthere
    · next hnew =>
      refine ⟨List.nodup_append'.mpr ⟨hnodup, List.nodup_singleton _,
        List.disjoint_singleton.mpr hnew⟩, fun id => ?_⟩
      rw [segmentsOf_append, List.mem_append, List.mem_append, hmem]
      rfl

/-! ## The result -/

/-- The last rank of a segment. -/
def lastRank (limit : Nat) (results : List Found) (id : String) : Nat :=
  if id ∈ segmentsOf results then
    results.length - (segmentsOf results).reverse.idxOf id
  else missingRank limit

/-- The ranks of the fusion are the last ones. -/
theorem rankOf_eq_lastRank (limit : Nat) (results : List Found) (id : String) :
    rankOf limit results id = lastRank limit results id := by
  by_cases hmem : id ∈ segmentsOf results
  · induction results using List.reverseRecOn with
    | nil => cases hmem
    | append_singleton results r ih =>
      have hreverse : (segmentsOf (results ++ [r])).reverse =
          r.segmentId :: (segmentsOf results).reverse := by
        rw [segmentsOf_append, List.reverse_append]
        rfl
      rw [rankOf, ranks_append, lastRank, if_pos hmem, hreverse, List.length_append,
        List.length_singleton]
      by_cases hlast : id = r.segmentId
      · rw [if_pos hlast, hlast, List.idxOf_cons_self]
        rfl
      · have hbefore : id ∈ segmentsOf results := by
          rw [segmentsOf_append, List.mem_append] at hmem
          exact hmem.resolve_right fun h => hlast (List.mem_singleton.mp h)
        have hprevious := ih hbefore
        rw [rankOf, lastRank, if_pos hbefore] at hprevious
        rw [if_neg hlast, List.idxOf_cons_ne _ (Ne.symm hlast), hprevious]
        omega
  · rw [rankOf_of_not_mem hmem, lastRank, if_neg hmem]

/-- **Reciprocal rank fusion**: the score of the best ranks. -/
def HybridSearchService.fused (self : HybridSearchService) (limit : Nat)
    (vectorResults ftsResults : List Found) (id : String) : ℚ :=
  self.rrf (bestRank limit vectorResults id) (bestRank limit ftsResults id)

/-- What was scored and what was found is the reciprocal rank fusion of two lists. -/
structure IsFusion (service : HybridSearchService) (limit : Nat)
    (vectorResults ftsResults : List Found) (scored : List (ℚ × Found)) (found : List Found) :
    Prop where
  scored : ∀ entry ∈ scored,
    entry.1 = service.fused limit vectorResults ftsResults entry.2.segmentId
  score : ∀ r ∈ found, r.score = service.fused limit vectorResults ftsResults r.segmentId
  top : Top (service.fused limit vectorResults ftsResults) limit
    (segmentsOf (vectorResults ++ ftsResults)).dedup (segmentsOf found)
  once : (segmentsOf found).Nodup

section

variable {self : HybridSearchService} {order : List Found → List Found} {limit : Nat}
  {vectorResults ftsResults : List Found}

/-- What is scored: every segment once, by its last ranks. -/
theorem mem_scored (horder : ∀ results, (order results).Perm results) {entry : ℚ × Found}
    (h : entry ∈ self.scored order limit vectorResults ftsResults) :
    entry.2.segmentId ∈ segmentsOf (vectorResults ++ ftsResults) ∧
      entry.2.score = entry.1 ∧
      entry.1 = self.rrf (lastRank limit vectorResults entry.2.segmentId)
        (lastRank limit ftsResults entry.2.segmentId) := by
  obtain ⟨result, hresult, rfl⟩ := List.mem_map.mp h
  have hkept : result.segmentId ∈ segmentsOf (bestResults vectorResults ftsResults) :=
    List.mem_map_of_mem ((horder _).mem_iff.mp hresult)
  refine ⟨((segmentsOf_bestResults _ _).2 _).mp hkept, rfl, ?_⟩
  simp only [rankOf_eq_lastRank]

theorem segments_scored (horder : ∀ results, (order results).Perm results) :
    ((self.scored order limit vectorResults ftsResults).map fun entry =>
      entry.2.segmentId).Perm (segmentsOf (vectorResults ++ ftsResults)).dedup := by
  obtain ⟨hnodup, hmem⟩ := segmentsOf_bestResults vectorResults ftsResults
  have hsame : ((self.scored order limit vectorResults ftsResults).map fun entry =>
      entry.2.segmentId) = segmentsOf (order (bestResults vectorResults ftsResults)) := by
    rw [HybridSearchService.scored, List.map_map]
    rfl
  have hperm : (segmentsOf (order (bestResults vectorResults ftsResults))).Perm
      (segmentsOf (bestResults vectorResults ftsResults)) := (horder _).map _
  rw [hsame]
  refine hperm.trans ((List.perm_ext_iff_of_nodup hnodup (List.nodup_dedup _)).mpr fun id => ?_)
  rw [hmem, List.mem_dedup]

/-- **Fusion of the best ranks** is what comes out where the last ranks give the same scores. -/
theorem isFusion_iff_lastRank (horder : ∀ results, (order results).Perm results) :
    IsFusion self limit vectorResults ftsResults
        (self.scored order limit vectorResults ftsResults)
        (self.hybridSearch order limit (.ok vectorResults) (.ok ftsResults)) ↔
      ∀ id ∈ segmentsOf (vectorResults ++ ftsResults),
        self.rrf (lastRank limit vectorResults id) (lastRank limit ftsResults id) =
          self.rrf (bestRank limit vectorResults id) (bestRank limit ftsResults id) := by
  constructor
  · intro hfusion id hid
    have hscored := (@segments_scored self order limit vectorResults ftsResults horder).mem_iff.mpr
      (List.mem_dedup.mpr hid)
    obtain ⟨entry, hentry, rfl⟩ := List.mem_map.mp hscored
    rw [← (mem_scored horder hentry).2.2]
    exact hfusion.scored entry hentry
  · intro hranks
    have hkey (entry : ℚ × Found)
        (hentry : entry ∈ self.scored order limit vectorResults ftsResults) :
        entry.1 = self.fused limit vectorResults ftsResults entry.2.segmentId := by
      obtain ⟨hid, -, hscore⟩ := mem_scored horder hentry
      exact hscore.trans (hranks _ hid)
    have hfound : segmentsOf
        (self.hybridSearch order limit (.ok vectorResults) (.ok ftsResults)) =
          ((((self.scored order limit vectorResults ftsResults).mergeSort
            fun a b => decide (b.1 ≤ a.1)).take limit).map fun entry => entry.2.segmentId) := by
      rw [HybridSearchService.hybridSearch, segmentsOf, List.map_map]
      rfl
    have htop : Top (self.fused limit vectorResults ftsResults) limit
        (segmentsOf (vectorResults ++ ftsResults)).dedup
        (segmentsOf (self.hybridSearch order limit (.ok vectorResults) (.ok ftsResults))) := by
      rw [hfound]
      exact ((top_mergeSort Prod.fst limit
        (self.scored order limit vectorResults ftsResults)).map fun entry hentry =>
          (hkey entry hentry).symm).of_perm (segments_scored horder)
    refine ⟨hkey, fun r hr => ?_, htop, ?_⟩
    · obtain ⟨entry, hentry, rfl⟩ := List.mem_map.mp hr
      have hmem := List.mem_mergeSort.mp (List.mem_of_mem_take hentry)
      rw [(mem_scored horder hmem).2.1]
      exact hkey entry hmem
    · have hnodup : ((segmentsOf (vectorResults ++ ftsResults)).dedup.map id).Nodup := by
        rw [List.map_id]
        exact List.nodup_dedup _
      have honce := htop.nodup_map hnodup
      rwa [List.map_id] at honce

end

/-- A later rank has no greater part in a score, and a smaller one where it counts. -/
theorem div_rank {weight k : ℚ} (hweight : 0 ≤ weight) (hk : 0 ≤ k) {best last : Nat}
    (hbest : 1 ≤ best) (hle : best ≤ last) :
    weight / (k + last) ≤ weight / (k + best) ∧
      (weight / (k + last) = weight / (k + best) ↔ weight = 0 ∨ best = last) := by
  have hpos : 0 < k + best := by
    have : (0 : ℚ) < best := Nat.cast_pos.mpr hbest
    exact add_pos_of_nonneg_of_pos hk this
  have hcast : k + (best : ℚ) ≤ k + last := by
    have : (best : ℚ) ≤ last := Nat.cast_le.mpr hle
    exact add_le_add_right this k
  refine ⟨div_le_div_of_nonneg_left hweight hpos hcast, ?_⟩
  by_cases hzero : weight = 0
  · simp [hzero]
  · rw [div_eq_mul_inv, div_eq_mul_inv, mul_right_inj' hzero, inv_inj, add_right_inj, Nat.cast_inj]
    simp [hzero, eq_comm]

/-- **When hybrid search is reciprocal rank fusion.**  In whatever order the map gives its segments,
    the answer is the top of the segments by the fusion of their best ranks if and only if the last
    ranks give each of them the same score; for weights and a constant that are not negative, if and
    only if no list that has a weight holds a segment twice. -/
theorem isFusion_iff (self : HybridSearchService) (order : List Found → List Found) (limit : Nat)
    (vectorResults ftsResults : List Found)
    (horder : ∀ results, (order results).Perm results) :
    (IsFusion self limit vectorResults ftsResults
        (self.scored order limit vectorResults ftsResults)
        (self.hybridSearch order limit (.ok vectorResults) (.ok ftsResults)) ↔
      ∀ id ∈ segmentsOf (vectorResults ++ ftsResults),
        self.rrf (lastRank limit vectorResults id) (lastRank limit ftsResults id) =
          self.rrf (bestRank limit vectorResults id) (bestRank limit ftsResults id)) ∧
    (0 ≤ self.alpha → 0 ≤ self.beta → 0 ≤ self.k →
      (IsFusion self limit vectorResults ftsResults
          (self.scored order limit vectorResults ftsResults)
          (self.hybridSearch order limit (.ok vectorResults) (.ok ftsResults)) ↔
        (self.alpha = 0 ∨ (segmentsOf vectorResults).Nodup) ∧
          (self.beta = 0 ∨ (segmentsOf ftsResults).Nodup))) := by
  refine ⟨isFusion_iff_lastRank horder, fun halpha hbeta hk => ?_⟩
  rw [isFusion_iff_lastRank horder]
  have hpart {weight : ℚ} (hweight : 0 ≤ weight) (results : List Found) (id : String) :
      weight / (self.k + lastRank limit results id) ≤
          weight / (self.k + bestRank limit results id) ∧
        (weight / (self.k + lastRank limit results id) =
          weight / (self.k + bestRank limit results id) ↔
            weight = 0 ∨ (segmentsOf results).count id ≤ 1) := by
    obtain ⟨hle, hiff⟩ := bestRank_le_rankOf limit results id
    rw [rankOf_eq_lastRank] at hle hiff
    rw [← hiff]
    exact div_rank hweight hk (one_le_bestRank limit results id) hle
  have hone (id : String) :
      self.rrf (lastRank limit vectorResults id) (lastRank limit ftsResults id) =
          self.rrf (bestRank limit vectorResults id) (bestRank limit ftsResults id) ↔
        (self.alpha = 0 ∨ (segmentsOf vectorResults).count id ≤ 1) ∧
          (self.beta = 0 ∨ (segmentsOf ftsResults).count id ≤ 1) := by
    obtain ⟨hleV, hiffV⟩ := hpart halpha vectorResults id
    obtain ⟨hleF, hiffF⟩ := hpart hbeta ftsResults id
    rw [← hiffV, ← hiffF, HybridSearchService.rrf, HybridSearchService.rrf]
    exact add_eq_add_iff_eq_and_eq hleV hleF
  -- a segment that a list does not have is not there twice
  have hnodup (weight : ℚ) (results : List Found)
      (hmem : ∀ id ∈ segmentsOf results, id ∈ segmentsOf (vectorResults ++ ftsResults)) :
      (∀ id ∈ segmentsOf (vectorResults ++ ftsResults),
        weight = 0 ∨ (segmentsOf results).count id ≤ 1) ↔
          weight = 0 ∨ (segmentsOf results).Nodup := by
    constructor
    · intro hall
      by_cases hzero : weight = 0
      · exact .inl hzero
      · refine .inr (List.nodup_iff_count_le_one.mpr fun id => ?_)
        by_cases hid : id ∈ segmentsOf results
        · exact (hall id (hmem id hid)).resolve_left hzero
        · rw [List.count_eq_zero.mpr hid]
          exact Nat.zero_le 1
    · exact fun h id _ => h.imp_right fun h => List.nodup_iff_count_le_one.mp h id
  have hvector := hnodup self.alpha vectorResults fun id hid => by
    rw [segmentsOf_append]
    exact List.mem_append_left _ hid
  have hfts := hnodup self.beta ftsResults fun id hid => by
    rw [segmentsOf_append]
    exact List.mem_append_right _ hid
  rw [← hvector, ← hfts, ← forall₂_and]
  exact forall₂_congr fun id _ => hone id

/-- A result for a segment. -/
def sampleFound (id : String) : Found := ⟨id, .contentActivity, none, 1, 1, 1, 0, "text"⟩

theorem isFusion_apart : IsFusion .new 10 [sampleFound "a", sampleFound "b"] [sampleFound "b"]
    (HybridSearchService.new.scored id 10 [sampleFound "a", sampleFound "b"] [sampleFound "b"])
    (HybridSearchService.new.hybridSearch id 10 (.ok [sampleFound "a", sampleFound "b"])
      (.ok [sampleFound "b"])) := by
  refine ((isFusion_iff .new id 10 [sampleFound "a", sampleFound "b"] [sampleFound "b"]
    fun _ => List.Perm.refl _).2 ?_ ?_ ?_).mpr ⟨.inr (by decide), .inr (by decide)⟩ <;>
  · simp only [HybridSearchService.new]
    norm_num

/-- Two texts of a segment, and one of another between them. -/
def twice : List Found := [sampleFound "a", sampleFound "b", sampleFound "a"]

/-- The segment that comes first is ranked third. -/
theorem first_ranked_last :
    ¬ ∀ (service : HybridSearchService) (limit : Nat) (vectorResults ftsResults : List Found),
      IsFusion service limit vectorResults ftsResults
        (service.scored id limit vectorResults ftsResults)
        (service.hybridSearch id limit (.ok vectorResults) (.ok ftsResults)) := by
  intro hall
  have hranks := (isFusion_iff_lastRank fun _ => List.Perm.refl _).mp (hall .new 10 twice []) "a"
    (by decide)
  have hlast : lastRank 10 twice "a" = 3 := by decide
  have hbest : bestRank 10 twice "a" = 1 := by decide
  have hmissing : lastRank 10 [] "a" = bestRank 10 [] "a" := rfl
  rw [hlast, hbest, hmissing, HybridSearchService.rrf, HybridSearchService.rrf, add_left_inj]
    at hranks
  revert hranks
  simp only [HybridSearchService.new]
  norm_num

end Oneshim.Search
