/-
  What a built index holds (`oneshim-core/src/ivf_index.rs`).

  1. **Seeding** (`seedCentroids_spec`) — as many centroids as clusters; every access is within its
     list.

  2. **Lloyd's iteration** (`lloydStep_spec`, `lloydStep_eq_none`) — the sums of a cluster have the
     dimensions of the FIRST vector.  A shorter vector is added to the front of them, a longer one
     is an access behind the end.

  3. **Partition** (`Partitions`) — every id is a member of one cluster, and the counts are those of
     the members.

  4. **The result** (`ivf_build_partitions_iff`).
-/
import Oneshim.Search.IvfBuild

namespace Oneshim.Search

open Lib

variable {F D : Type} {arith : FloatArithmetic F D}

/-! ## Seeding -/

/-- An access within a list. -/
theorem exists_getElem? {α : Type} (xs : List α) {i : Nat} (h : i < xs.length) :
    ∃ x, xs[i]? = some x :=
  ⟨xs[i], List.getElem?_eq_getElem h⟩

/-- The distances are brought up to date one for one. -/
theorem updateMinDists_spec {lastCentroid : List F} {dequantized : List (List F)} {minDists : List D}
    (h : minDists.length = dequantized.length) :
    ∃ updated, updateMinDists arith lastCentroid dequantized minDists = some updated ∧
      updated.length = dequantized.length := by
  refine foldlM_of_kept (P := fun ds : List D => ds.length = dequantized.length) ?_ h
  rintro ds ⟨dequant, i⟩ hi hlength
  obtain ⟨d, hd⟩ : ∃ d, ds[i]? = some d := by
    refine exists_getElem? ds ?_
    rw [hlength]
    exact (List.mem_zipIdx' hi).1
  simp only [hd, Option.bind_eq_bind, Option.bind_some]
  refine ⟨_, rfl, ?_⟩
  split
  · rwa [List.length_set]
  · exact hlength

theorem chooseIndex_lt {threshold cumulative : D} {i j : Nat} {ds : List D}
    (h : chooseIndex arith threshold cumulative i ds = some j) : j < i + ds.length := by
  induction ds generalizing cumulative i with
  | nil => cases h
  | cons d ds ih =>
    rw [chooseIndex] at h
    rw [List.length_cons]
    split at h
    · cases h
      omega
    · have hrest := ih h
      omega

/-- **One more centroid**, with every access within its list. -/
theorem seedNext_spec {dequantized : List (List F)} (hvectors : 0 < dequantized.length) {i : Nat}
    {s : Seeding F D} (hcentroids : s.centroids.length = i + 1)
    (hdists : s.minDists.length = dequantized.length) :
    ∃ s', seedNext arith dequantized s = some s' ∧ s'.centroids.length = i + 1 + 1 ∧
      s'.minDists.length = dequantized.length := by
  obtain ⟨lastCentroid, hlast⟩ : ∃ c, s.centroids[s.centroids.length - 1]? = some c :=
    exists_getElem? s.centroids (by omega)
  obtain ⟨updated, hupdated, hlength⟩ := @updateMinDists_spec F D arith lastCentroid dequantized
    s.minDists hdists
  have hchosen : ∀ threshold,
      (chooseIndex arith threshold arith.zero64 0 updated).getD 0 < dequantized.length := by
    intro threshold
    cases hindex : chooseIndex arith threshold arith.zero64 0 updated with
    | none => exact hvectors
    | some j =>
      have hj := chooseIndex_lt hindex
      rw [Option.getD_some]
      omega
  simp only [seedNext, hlast, hupdated, Option.bind_eq_bind, Option.bind_some]
  -- whichever way it is chosen, the index is that of a vector
  obtain ⟨chosen, hvector⟩ := @exists_getElem? _ dequantized
    (if arith.lt64 ((updated.map fun d => arith.mul64 d d).foldl arith.add64 arith.zero64)
        arith.epsilon64 then s.rng.nextU64.1.toNat % dequantized.length
      else (chooseIndex arith (arith.mul64 (arith.unit s.rng.nextU64.1)
        ((updated.map fun d => arith.mul64 d d).foldl arith.add64 arith.zero64)) arith.zero64 0
          updated).getD 0) (by
    split
    · exact Nat.mod_lt _ hvectors
    · exact hchosen _)
  rw [hvector]
  exact ⟨_, rfl, by simp [hcentroids], hlength⟩

/-- **The seeding** gives as many centroids as clusters. -/
theorem seedCentroids_spec {dequantized : List (List F)} (hvectors : 0 < dequantized.length) {k : Nat}
    (hk : 1 ≤ k) (seed : UInt64) : ∃ centroids, seedCentroids arith dequantized k seed =
      some centroids ∧ centroids.length = k := by
  obtain ⟨first, hfirst⟩ := exists_getElem? dequantized
    (Nat.mod_lt (Rng.new seed).nextU64.1.toNat hvectors)
  obtain ⟨seeded, hseeded, hlength, -⟩ := @repeated_of_kept _
    (fun i (s : Seeding F D) => s.centroids.length = i + 1 ∧
      s.minDists.length = dequantized.length)
    (seedNext arith dequantized) (fun i s h => seedNext_spec hvectors h.1 h.2) (k - 1) 0
    ⟨(Rng.new seed).nextU64.2, [first], List.replicate dequantized.length arith.max64⟩
    ⟨rfl, List.length_replicate⟩
  refine ⟨seeded.centroids, ?_, by omega⟩
  simp only [seedCentroids, hfirst, hseeded, Option.bind_eq_bind, Option.bind_some]
  rfl

/-! ## Lloyd's iteration -/

/-- A cluster number is that of a centroid. -/
theorem nearestCluster_lt {centroids : List (List F)} (hcentroids : 0 < centroids.length)
    (dequant : List F) : nearestCluster arith centroids dequant < centroids.length := by
  have hfold : ∀ (indexed : List (List F × Nat)) (best : Nat × F),
      (∀ x ∈ indexed, x.2 < centroids.length) → best.1 < centroids.length →
        (indexed.foldl (fun best x =>
          let sim := cosineSimF32 arith x.1 dequant
          if arith.lt best.2 sim then (x.2, sim) else best) best).1 < centroids.length := by
    intro indexed
    induction indexed with
    | nil => exact fun _ _ hbest => hbest
    | cons x rest ih =>
      intro best hindexed hbest
      rw [List.foldl_cons]
      refine ih _ (fun y hy => hindexed y (List.mem_cons_of_mem x hy)) ?_
      dsimp only
      split
      · exact hindexed x List.mem_cons_self
      · exact hbest
  exact hfold _ _ (fun x hx => (List.mem_zipIdx' hx).1) hcentroids

theorem mem_assignAll_lt {centroids dequantized : List (List F)}
    (hcentroids : 0 < centroids.length) :
    ∀ c ∈ assignAll arith centroids dequantized, c < centroids.length := by
  intro c hc
  obtain ⟨dequant, -, rfl⟩ := List.mem_map.mp hc
  exact nearestCluster_lt hcentroids dequant

/-- A shorter vector is added to the front of a row. -/
theorem addRow_of_le {row vals : List F} (h : vals.length ≤ row.length) :
    ∃ row', addRow arith row vals = some row' ∧ row'.length = row.length := by
  induction vals generalizing row with
  | nil =>
    refine ⟨row, ?_, rfl⟩
    cases row <;> rfl
  | cons val vals ih =>
    cases row with
    | nil => exact absurd h (by simp)
    | cons x row =>
      obtain ⟨rest, hrest, hlength⟩ := ih (Nat.le_of_succ_le_succ h)
      exact ⟨_, by rw [addRow, hrest]; rfl, by simp [hlength]⟩

/-- A longer one is an access behind its end. -/
theorem addRow_of_lt {row vals : List F} (h : row.length < vals.length) :
    addRow arith row vals = none := by
  induction vals generalizing row with
  | nil => exact absurd h (Nat.not_lt_zero _)
  | cons val vals ih =>
    cases row with
    | nil => rfl
    | cons x row => rw [addRow, ih (Nat.lt_of_succ_lt_succ h), Option.map_none]

/-- The sums of `k` clusters, of so many dimensions. -/
structure ClusterSums.Shaped (k dims : Nat) (s : ClusterSums F) : Prop where
  newCentroids : s.newCentroids.length = k
  counts : s.counts.length = k
  rows : ∀ row ∈ s.newCentroids, row.length = dims

section

variable {k dims c : Nat} {s : ClusterSums F} {dequant : List F}

/-- A member that is not too long is added to the sums of its cluster. -/
theorem addMember_of_le (h : s.Shaped k dims) (hc : c < k) (hshort : dequant.length ≤ dims) :
    ∃ s', addMember arith s dequant c = some s' ∧ s'.Shaped k dims := by
  obtain ⟨row, hrow⟩ := exists_getElem? s.newCentroids (h.newCentroids.symm ▸ hc)
  obtain ⟨count, hcount⟩ := exists_getElem? s.counts (h.counts.symm ▸ hc)
  have hdims := h.rows row (List.mem_of_getElem? hrow)
  obtain ⟨row', hrow', hlength⟩ := @addRow_of_le F D arith row dequant (hdims.symm ▸ hshort)
  refine ⟨⟨s.newCentroids.set c row', s.counts.set c (count + 1)⟩, ?_, ?_, ?_, ?_⟩
  · simp only [addMember, hrow, hrow', hcount, Option.bind_eq_bind, Option.bind_some]
    rfl
  · rw [List.length_set, h.newCentroids]
  · rw [List.length_set, h.counts]
  · intro r hr
    rcases List.mem_or_eq_of_mem_set hr with hold | rfl
    · exact h.rows r hold
    · exact hlength.trans hdims

theorem addMember_of_lt (h : s.Shaped k dims) (hc : c < k) (hlong : dims < dequant.length) :
    addMember arith s dequant c = none := by
  obtain ⟨row, hrow⟩ := exists_getElem? s.newCentroids (h.newCentroids.symm ▸ hc)
  have hdims := h.rows row (List.mem_of_getElem? hrow)
  simp only [addMember, hrow, addRow_of_lt (hdims.symm ▸ hlong), Option.bind_eq_bind,
    Option.bind_some, Option.bind_none]

end

section

variable {centroids dequantized : List (List F)} {assignments : List Nat}

/-- The vector that is furthest is one of them. -/
theorem furthest_spec (hvectors : 0 < dequantized.length)
    (hassigned : ∀ c ∈ assignments, c < centroids.length) :
    ∃ i, furthest arith centroids dequantized assignments = some i ∧ i < dequantized.length := by
  obtain ⟨best, hbest, hrange⟩ := @foldlM_of_kept _ _
    (fun best : F × Nat => best.2 < dequantized.length)
    (fun best x => do
      let centroid ← centroids[x.1.2]?
      let dist := arith.sub arith.one (cosineSimF32 arith centroid x.1.1)
      return if arith.lt best.1 dist then (dist, x.2) else best)
    (dequantized.zip assignments).zipIdx (fun best x hx hkept => by
      obtain ⟨⟨dequant, assigned⟩, i⟩ := x
      have hmem := List.mem_zipIdx' hx
      have hpair : (dequant, assigned) ∈ dequantized.zip assignments := by
        rw [hmem.2]
        exact List.getElem_mem _
      obtain ⟨centroid, hcentroid⟩ := exists_getElem? centroids
        (hassigned assigned (List.of_mem_zip hpair).2)
      simp only [hcentroid, Option.bind_eq_bind, Option.bind_some]
      refine ⟨_, rfl, ?_⟩
      split
      · have hlength := hmem.1
        rw [List.length_zip] at hlength
        exact Nat.lt_of_lt_of_le hlength (Nat.min_le_left _ _)
      · exact hkept) (arith.zero, 0) hvectors
  refine ⟨best.2, ?_, hrange⟩
  simp only [furthest]
  rw [hbest]
  rfl

theorem recompute_spec (hvectors : 0 < dequantized.length)
    (hassigned : ∀ c ∈ assignments, c < centroids.length) (row : List F) (count : Nat) :
    ∃ centroid, recompute arith centroids dequantized assignments row count = some centroid := by
  unfold recompute
  split
  · exact ⟨_, rfl⟩
  · obtain ⟨i, hi, hrange⟩ := @furthest_spec F D arith _ _ assignments hvectors hassigned
    obtain ⟨dequant, hdequant⟩ := exists_getElem? dequantized hrange
    simp only [hi, hdequant, Option.bind_eq_bind, Option.bind_some]
    exact ⟨_, rfl⟩

/-- **An iteration** over vectors that are not longer than the first makes as many centroids. -/
theorem lloydStep_spec {dims k : Nat} (hvectors : 0 < dequantized.length) (hk : 1 ≤ k)
    (hcentroids : centroids.length = k) (hshort : ∀ v ∈ dequantized, v.length ≤ dims) :
    ∃ centroids', lloydStep arith dequantized dims k centroids = some centroids' ∧
      centroids'.length = k := by
  have hassigned := @mem_assignAll_lt F D arith centroids dequantized (by omega)
  obtain ⟨sums, hsums, hshaped⟩ := @foldlM_of_kept _ _ (ClusterSums.Shaped k dims)
    (fun s x => addMember arith s x.1 x.2)
    (dequantized.zip (assignAll arith centroids dequantized)) (fun s x hx hkept => by
      obtain ⟨hdequant, hc⟩ := List.of_mem_zip hx
      exact addMember_of_le hkept (hcentroids ▸ hassigned _ hc) (hshort _ hdequant))
    ⟨List.replicate k (List.replicate dims arith.zero), List.replicate k 0⟩
    ⟨List.length_replicate, List.length_replicate, fun row hrow => by
      rw [List.eq_of_mem_replicate hrow, List.length_replicate]⟩
  obtain ⟨centroids', hcentroids', hall⟩ := @mapM_of_total _ _
    (fun x => recompute arith centroids dequantized (assignAll arith centroids dequantized) x.1 x.2)
    (sums.newCentroids.zip sums.counts) fun x _ => recompute_spec hvectors hassigned x.1 x.2
  refine ⟨centroids', ?_, ?_⟩
  · simp only [lloydStep, hsums, Option.bind_eq_bind, Option.bind_some]
    exact hcentroids'
  · rw [← hall.length_eq, List.length_zip, hshaped.newCentroids, hshaped.counts, Nat.min_self]

/-- **A vector that is longer than the first** makes it fail. -/
theorem lloydStep_eq_none {dims k : Nat} (hk : 1 ≤ k) (hcentroids : centroids.length = k)
    {v : List F} (hv : v ∈ dequantized) (hlong : dims < v.length) :
    lloydStep arith dequantized dims k centroids = none := by
  have hassigned := @mem_assignAll_lt F D arith centroids dequantized (by omega)
  have hpair : (v, nearestCluster arith centroids v) ∈
      dequantized.zip (assignAll arith centroids dequantized) := by
    rw [assignAll, ← List.map_prod_left_eq_zip]
    exact List.mem_map.mpr ⟨v, hv, rfl⟩
  have hsums := @foldlM_eq_none _ _ (ClusterSums.Shaped k dims)
    (fun s x => addMember arith s x.1 x.2)
    (dequantized.zip (assignAll arith centroids dequantized)) (fun s x s' hx hkept hs' => by
      obtain ⟨dequant, c⟩ := x
      have hc := hcentroids ▸ hassigned _ (List.of_mem_zip hx).2
      replace hs' : addMember arith s dequant c = some s' := hs'
      by_cases hshort : dequant.length ≤ dims
      · obtain ⟨added, hadded, hshaped⟩ :=
          @addMember_of_le F D arith k dims c s dequant hkept hc hshort
        rw [hadded] at hs'
        exact Option.some.inj hs' ▸ hshaped
      · rw [addMember_of_lt hkept hc (by omega)] at hs'
        cases hs') _ hpair (fun s hkept => addMember_of_lt hkept
          (hcentroids ▸ hassigned _ (List.of_mem_zip hpair).2) hlong)
    ⟨List.replicate k (List.replicate dims arith.zero), List.replicate k 0⟩
    ⟨List.length_replicate, List.length_replicate, fun row hrow => by
      rw [List.eq_of_mem_replicate hrow, List.length_replicate]⟩
  simp only [lloydStep, hsums, Option.bind_eq_bind, Option.bind_none]

end

/-! ## Partition -/

/-- The counts are those of the cluster numbers. -/
theorem countMembers_spec {k : Nat} {assignments : List Nat} (h : ∀ c ∈ assignments, c < k) :
    countMembers k assignments = some ((List.range k).map fun c => assignments.count c) := by
  have hfold : ∀ (later earlier : List Nat), (∀ c ∈ later, c < k) →
      later.foldlM (fun counts c => do
        let count ← counts[c]?
        return counts.set c (count + 1)) ((List.range k).map fun c => earlier.count c) =
          some ((List.range k).map fun c => (earlier ++ later).count c) := by
    intro later
    induction later with
    | nil =>
      intro earlier _
      rw [List.append_nil]
      rfl
    | cons c rest ih =>
      intro earlier hlater
      have hc : c < k := hlater c List.mem_cons_self
      have hget : ((List.range k).map fun c => earlier.count c)[c]? = some (earlier.count c) := by
        simp [hc]
      have hset : ((List.range k).map fun c => earlier.count c).set c (earlier.count c + 1) =
          (List.range k).map fun i => (earlier ++ [c]).count i := by
        refine List.ext_getElem (by simp) fun i hi _ => ?_
        simp only [List.getElem_set, List.getElem_map, List.getElem_range, List.count_append,
          List.count_singleton]
        by_cases hic : c = i
        · subst hic
          simp
        · simp [hic]
      rw [List.foldlM_cons, hget]
      simp only [Option.bind_eq_bind, Option.bind_some, hset]
      have hrest := ih (earlier ++ [c]) fun i hi => hlater i (List.mem_cons_of_mem c hi)
      rw [List.append_assoc] at hrest
      exact hrest
  have hzero : List.replicate k 0 = (List.range k).map fun c => ([] : List Nat).count c := by
    simp
  rw [countMembers, hzero, hfold assignments [] h, List.nil_append]

/-- Every centroid is stored under its number, with its count. -/
theorem storedCentroids_spec {dims : Nat} {centroids : List (List F)} {memberCounts : List Nat}
    (h : memberCounts.length = centroids.length) :
    ∃ stored, storedCentroids arith dims centroids memberCounts = some stored ∧
      stored.map IvfCentroid.id = List.range centroids.length ∧
      ∀ c ∈ stored, memberCounts[c.id]? = some c.memberCount := by
  obtain ⟨stored, hstored, hall⟩ := @mapM_of_total _ _ (fun x => do
      let quantized := (arith.quantize x.1).getD
        ⟨List.replicate dims 0, arith.scaleOne, arith.zero⟩
      let memberCount ← memberCounts[x.2]?
      return (⟨x.2, quantized, memberCount⟩ : IvfCentroid F)) centroids.zipIdx (fun x hx => by
    obtain ⟨count, hcount⟩ := exists_getElem? memberCounts (h.symm ▸ (List.mem_zipIdx' hx).1)
    simp only [hcount, Option.bind_eq_bind, Option.bind_some]
    exact ⟨_, rfl⟩)
  have hfields : List.Forall₂ (fun (x : List F × Nat) (c : IvfCentroid F) =>
      x.2 = c.id ∧ memberCounts[c.id]? = some c.memberCount) centroids.zipIdx stored := by
    refine hall.imp fun x c hc => ?_
    obtain ⟨count, hcount, hc⟩ := Option.bind_eq_some_iff.mp hc
    cases hc
    exact ⟨rfl, hcount⟩
  refine ⟨stored, hstored, ?_, fun c hc => ?_⟩
  · have hids : List.Forall₂ (fun x y : Nat => x = y) (centroids.zipIdx.map Prod.snd)
        (stored.map IvfCentroid.id) :=
      List.forall₂_map_left_iff.mpr (List.forall₂_map_right_iff.mpr (hfields.imp fun _ _ h => h.1))
    rw [List.forall₂_eq_eq_eq] at hids
    rw [← hids, List.zipIdx_map_snd, List.range_eq_range']
  · obtain ⟨i, hi, rfl⟩ := List.mem_iff_getElem.mp hc
    exact (hfields.get (hfields.length_eq.symm ▸ hi) hi).2

/-- New ids are stored with their clusters. -/
theorem foldl_upsert_rows {pairs : List (Int × Nat)}
    (table : Table (Prod.fst : Int × Nat → Int))
    (hids : ((table.rows ++ pairs).map Prod.fst).Nodup) :
    (pairs.foldl Table.upsert table).rows = table.rows ++ pairs := by
  induction pairs generalizing table with
  | nil => rw [List.foldl_nil, List.append_nil]
  | cons pair rest ih =>
    have hfresh : table.find? pair.1 = none := by
      refine Table.find?_eq_none_iff.mpr fun row hrow heq => ?_
      rw [List.map_append, List.map_cons] at hids
      have hdisjoint := (List.nodup_append.mp hids).2.2 row.1 (List.mem_map_of_mem hrow) pair.1
        List.mem_cons_self
      exact hdisjoint heq
    have hrows := Table.rows_upsert_of_fresh hfresh
    have hsplit : table.rows ++ pair :: rest = (table.upsert pair).rows ++ rest := by
      rw [hrows, List.append_assoc]
      rfl
    rw [List.foldl_cons, hsplit]
    exact ih _ (hsplit ▸ hids)

/-- The members of all clusters are all. -/
theorem flatMap_filter_perm (pairs : List (Int × Nat)) (k : Nat) :
    ((List.range k).flatMap fun c => (pairs.filter fun p => p.2 == c).map Prod.fst).Perm
      ((pairs.filter fun p => decide (p.2 < k)).map Prod.fst) := by
  induction k with
  | zero => simp
  | succ k ih =>
    -- the members of the clusters up to `k` are those before it and its own
    have hbefore : (pairs.filter fun p => decide (p.2 < k + 1)).filter (fun p => decide (p.2 < k)) =
        pairs.filter fun p => decide (p.2 < k) := by
      rw [List.filter_filter]
      exact List.filter_congr fun p _ => by simp; omega
    have hown : (pairs.filter fun p => decide (p.2 < k + 1)).filter (fun p => !decide (p.2 < k)) =
        pairs.filter fun p => p.2 == k := by
      rw [List.filter_filter]
      refine List.filter_congr fun p _ => ?_
      rw [Bool.eq_iff_iff]
      simp
      omega
    have hsplit := (List.filter_append_perm (fun p : Int × Nat => decide (p.2 < k))
      (pairs.filter fun p => decide (p.2 < k + 1))).map Prod.fst
    rw [hbefore, hown, List.map_append] at hsplit
    rw [List.range_succ, List.flatMap_append, List.flatMap_singleton]
    exact (ih.append_right _).trans hsplit

/-- **The index partitions the ids.**  The centroids are numbered, every id is a member of one
    cluster, the members of all clusters are the ids, and the counts are right. -/
structure Partitions (ids : List Int) (index : IvfIndex F) : Prop where
  clusters : index.centroids.map IvfCentroid.id = List.range index.centroids.length
  assigned : ∀ id ∈ ids, ∃! cluster, id ∈ index.getClusterMembers cluster
  partition : (index.centroids.flatMap fun c => index.getClusterMembers c.id).Perm ids
  counted : ∀ c ∈ index.centroids, c.memberCount = (index.getClusterMembers c.id).length

/-- **Different ids with the numbers of clusters** are partitioned by the index they are stored in.
    -/
theorem partitions_of_assigned {k : Nat} {ids : List Int} {assignments : List Nat}
    {stored : List (IvfCentroid F)} (hids : ids.Nodup) (hlength : ids.length = assignments.length)
    (hassigned : ∀ c ∈ assignments, c < k)
    (hstored : stored.map IvfCentroid.id = List.range k)
    (hcounts : ∀ c ∈ stored, ((List.range k).map fun c => assignments.count c)[c.id]? =
      some c.memberCount) :
    Partitions ids ⟨stored, (ids.zip assignments).foldl Table.upsert Table.empty⟩ := by
  let index : IvfIndex F := ⟨stored, (ids.zip assignments).foldl Table.upsert Table.empty⟩
  have hfst : (ids.zip assignments).map Prod.fst = ids := List.map_fst_zip (by omega)
  have hsnd : (ids.zip assignments).map Prod.snd = assignments := List.map_snd_zip (by omega)
  have hrows : index.assignments.rows = ids.zip assignments :=
    foldl_upsert_rows Table.empty (by rwa [Table.empty, List.nil_append, hfst])
  have hmembers (c : Nat) : index.getClusterMembers c =
      ((ids.zip assignments).filter fun p => p.2 == c).map Prod.fst := by
    rw [IvfIndex.getClusterMembers, hrows]
  have hmem (id : Int) (c : Nat) :
      id ∈ index.getClusterMembers c ↔ (id, c) ∈ index.assignments.rows := by
    simp only [IvfIndex.getClusterMembers, List.mem_map, List.mem_filter, beq_iff_eq]
    constructor
    · rintro ⟨⟨_, _⟩, ⟨hrow, rfl⟩, rfl⟩
      exact hrow
    · exact fun hrow => ⟨(id, c), ⟨hrow, rfl⟩, rfl⟩
  have hcount : stored.length = k := by
    have hmapped := congrArg List.length hstored
    rwa [List.length_map, List.length_range] at hmapped
  refine ⟨?_, fun id hid => ?_, ?_, fun c hc => ?_⟩
  · show stored.map IvfCentroid.id = List.range stored.length
    rw [hstored, hcount]
  · rw [← hfst] at hid
    obtain ⟨⟨_, c⟩, hpair, rfl⟩ := List.mem_map.mp hid
    refine ⟨c, (hmem _ c).mpr (hrows ▸ hpair), fun c' hc' => ?_⟩
    have hrow : (_, c) ∈ index.assignments.rows := hrows ▸ hpair
    have hsame := Table.eq_of_key_eq ((hmem _ c').mp hc') hrow rfl
    exact congrArg Prod.snd hsame
  · have hall : (ids.zip assignments).filter (fun p => decide (p.2 < k)) = ids.zip assignments :=
      List.filter_eq_self.mpr fun p hp => decide_eq_true (hassigned p.2 (List.of_mem_zip hp).2)
    have hperm := flatMap_filter_perm (ids.zip assignments) k
    rw [hall, hfst, ← hstored, List.flatMap_map] at hperm
    have hsame : (index.centroids.flatMap fun c => index.getClusterMembers c.id) =
        stored.flatMap fun c => ((ids.zip assignments).filter fun p => p.2 == c.id).map Prod.fst :=
      congrArg (stored.flatMap ·) (funext fun c => hmembers c.id)
    exact hsame ▸ hperm
  · have hread := hcounts c hc
    obtain ⟨hrange, hvalue⟩ := List.getElem?_eq_some_iff.mp hread
    rw [List.getElem_map, List.getElem_range] at hvalue
    show c.memberCount = (index.getClusterMembers c.id).length
    rw [← hvalue, hmembers, List.length_map, ← List.countP_eq_length_filter]
    conv_lhs => rw [← hsnd]
    rw [List.count, List.countP_map]
    rfl

/-! ## The result -/

section

variable {vectors : List (Int × QuantizedVector F)} {config : IvfBuildConfig}

/-- **A build that is not refused** and whose iterations go through makes an index that partitions
    the ids. -/
theorem build_partitions (hne : vectors ≠ []) (hids : (vectors.map Prod.fst).Nodup)
    (hk : 1 ≤ config.nClusters) (hn : config.nClusters ≤ vectors.length)
    (hshort : config.nIterations = 0 ∨
      ∀ v ∈ vectors, v.2.data.length ≤ (vectors.head hne).2.data.length) :
    ∃ index, IvfIndex.build arith vectors config = some (.ok index) ∧
      Partitions (vectors.map Prod.fst) index := by
  let dequantized := vectors.map fun v => dequantize arith v.2
  have hlength : dequantized.length = vectors.length := List.length_map _
  have hvectors : 0 < dequantized.length := by
    rw [hlength]
    exact List.length_pos_of_ne_nil hne
  obtain ⟨seeded, hseeded, hseededLength⟩ :=
    @seedCentroids_spec F D arith dequantized hvectors config.nClusters hk config.seed
  obtain ⟨centroids, hcentroids, hcentroidsLength⟩ : ∃ centroids,
      repeated (lloydStep arith dequantized (vectors.head hne).2.data.length config.nClusters)
        config.nIterations seeded = some centroids ∧ centroids.length = config.nClusters := by
    rcases hshort with hzero | hshort
    · rw [hzero]
      exact ⟨seeded, rfl, hseededLength⟩
    · exact @repeated_of_kept _ (fun _ cs => cs.length = config.nClusters) _
        (fun _ cs hcs => lloydStep_spec hvectors hk hcs fun v hv => by
          obtain ⟨⟨id, qv⟩, hmem, rfl⟩ := List.mem_map.mp hv
          simp only [dequantize, List.length_map]
          exact hshort _ hmem) config.nIterations 0 seeded hseededLength
  have hassigned : ∀ c ∈ assignAll arith centroids dequantized, c < config.nClusters := by
    rw [← hcentroidsLength]
    exact mem_assignAll_lt (by omega)
  have hcounts := countMembers_spec hassigned
  obtain ⟨stored, hstored, hstoredIds, hstoredCounts⟩ := @storedCentroids_spec F D arith
    (vectors.head hne).2.data.length centroids
    ((List.range config.nClusters).map fun c => (assignAll arith centroids dequantized).count c)
    (by rw [List.length_map, List.length_range, hcentroidsLength])
  rw [hcentroidsLength] at hstoredIds
  refine ⟨_, ?_, partitions_of_assigned hids ?_ hassigned hstoredIds hstoredCounts⟩
  · cases vectors with
    | nil => exact absurd rfl hne
    | cons first rest =>
      rw [List.head_cons] at hcentroids hstored
      simp only [IvfIndex.build, if_neg (Nat.not_lt.mpr hk), if_neg (Nat.not_lt.mpr hn),
        Option.bind_eq_bind]
      rw [hseeded]
      simp only [Option.bind_some]
      rw [hcentroids]
      simp only [Option.bind_some]
      rw [hcounts]
      simp only [Option.bind_some]
      rw [hstored]
      rfl
  · rw [assignAll, List.length_map, List.length_map, List.length_map]

/-- **A build that is not refused** panics when it iterates over a vector that is longer than the
    first. -/
theorem build_panics (hne : vectors ≠ []) (hk : 1 ≤ config.nClusters)
    (hn : config.nClusters ≤ vectors.length) (hiterations : config.nIterations ≠ 0)
    {v : Int × QuantizedVector F} (hv : v ∈ vectors)
    (hlong : (vectors.head hne).2.data.length < v.2.data.length) :
    IvfIndex.build arith vectors config = none := by
  let dequantized := vectors.map fun v => dequantize arith v.2
  have hvectors : 0 < dequantized.length := by
    rw [List.length_map]
    exact List.length_pos_of_ne_nil hne
  obtain ⟨seeded, hseeded, hseededLength⟩ :=
    @seedCentroids_spec F D arith dequantized hvectors config.nClusters hk config.seed
  obtain ⟨iterations, hcount⟩ := Nat.exists_eq_succ_of_ne_zero hiterations
  have hstep : lloydStep arith dequantized (vectors.head hne).2.data.length config.nClusters seeded =
      none := by
    refine lloydStep_eq_none hk hseededLength (List.mem_map_of_mem hv) ?_
    rwa [dequantize, List.length_map]
  cases vectors with
  | nil => exact absurd rfl hne
  | cons first rest =>
    rw [List.head_cons] at hstep
    simp only [IvfIndex.build, if_neg (Nat.not_lt.mpr hk), if_neg (Nat.not_lt.mpr hn),
      Option.bind_eq_bind]
    rw [hseeded]
    simp only [Option.bind_some, hcount, repeated]
    rw [hstep]
    rfl

end

/-- **When a build partitions its input.**  Different ids are partitioned exactly when there are
    between one and as many clusters as vectors, and no vector is longer than the first or there is
    no iteration.  For another number of clusters the build is refused, for a longer vector it
    panics. -/
theorem ivf_build_partitions_iff (arith : FloatArithmetic F D)
    (vectors : List (Int × QuantizedVector F)) (config : IvfBuildConfig) (hne : vectors ≠ [])
    (hids : (vectors.map Prod.fst).Nodup) :
    ((∃ index, IvfIndex.build arith vectors config = some (.ok index) ∧
        Partitions (vectors.map Prod.fst) index) ↔
      1 ≤ config.nClusters ∧ config.nClusters ≤ vectors.length ∧ (config.nIterations = 0 ∨
        ∀ v ∈ vectors, v.2.data.length ≤ (vectors.head hne).2.data.length)) ∧
    (IvfIndex.build arith vectors config = none ↔
      1 ≤ config.nClusters ∧ config.nClusters ≤ vectors.length ∧ config.nIterations ≠ 0 ∧
        ∃ v ∈ vectors, (vectors.head hne).2.data.length < v.2.data.length) := by
  by_cases hk : 1 ≤ config.nClusters ∧ config.nClusters ≤ vectors.length
  · by_cases hshort : config.nIterations = 0 ∨
        ∀ v ∈ vectors, v.2.data.length ≤ (vectors.head hne).2.data.length
    · obtain ⟨index, hindex, hpartitions⟩ := @build_partitions F D arith vectors config hne hids hk.1
        hk.2 hshort
      refine ⟨iff_of_true ⟨index, hindex, hpartitions⟩ ⟨hk.1, hk.2, hshort⟩,
        iff_of_false ?_ ?_⟩
      · rw [hindex]
        exact Option.some_ne_none _
      · rintro ⟨-, -, hiterations, v, hv, hlong⟩
        rcases hshort with hzero | hshort
        · exact hiterations hzero
        · have := hshort v hv
          omega
    · obtain ⟨hiterations, hlonger⟩ := not_or.mp hshort
      obtain ⟨v, hv, hlong⟩ : ∃ v ∈ vectors, (vectors.head hne).2.data.length < v.2.data.length := by
        by_contra hnone
        exact hlonger fun v hv => Nat.le_of_not_lt fun hlong => hnone ⟨v, hv, hlong⟩
      have hpanics := @build_panics F D arith vectors config hne hk.1 hk.2 hiterations v hv hlong
      refine ⟨iff_of_false ?_ fun h => hshort h.2.2,
        iff_of_true hpanics ⟨hk.1, hk.2, hiterations, v, hv, hlong⟩⟩
      rintro ⟨index, hindex, -⟩
      rw [hpanics] at hindex
      cases hindex
  · -- refused
    obtain ⟨e, he⟩ : ∃ e, IvfIndex.build arith vectors config = some (.error e) := by
      cases vectors with
      | nil => exact ⟨_, rfl⟩
      | cons first rest =>
        simp only [IvfIndex.build]
        split
        · exact ⟨_, rfl⟩
        · split
          · exact ⟨_, rfl⟩
          · omega
    refine ⟨iff_of_false ?_ fun h => hk ⟨h.1, h.2.1⟩, iff_of_false ?_ fun h => hk ⟨h.1, h.2.1⟩⟩
    · rintro ⟨index, hindex, -⟩
      rw [he] at hindex
      cases hindex
    · rw [he]
      exact Option.some_ne_none _

/-- Whole numbers for the vectors and for the distances. -/
def wholeNumbers : FloatArithmetic Int Int where
  zero := 0
  one := 1
  negInfinity := -1000000
  epsilon := 0
  add a b := a + b
  sub a b := a - b
  mul a b := a * b
  div a b := a / b
  sqrt a := a.toNat.sqrt
  lt a b := decide (a < b)
  ofCount n := n
  value scale offset v := v.toInt * scale + offset
  quantize v := if v.isEmpty then none else some ⟨v.map Int8.ofInt, 1, 0⟩
  scaleOne := 1
  zero64 := 0
  max64 := 1000000
  epsilon64 := 1
  add64 a b := a + b
  mul64 a b := a * b
  lt64 a b := decide (a < b)
  le64 a b := decide (a ≤ b)
  distance sim := max (1 - sim) 0
  unit _ := 0

theorem ivf_build_partitions_iff_sample :
    ∃ index, IvfIndex.build wholeNumbers [(1, ⟨[5], 1, 0⟩), (2, ⟨[-5], 1, 0⟩), (3, ⟨[], 1, 0⟩)]
        ⟨2, 10, 42⟩ = some (.ok index) ∧ Partitions [1, 2, 3] index :=
  (ivf_build_partitions_iff wholeNumbers [(1, ⟨[5], 1, 0⟩), (2, ⟨[-5], 1, 0⟩), (3, ⟨[], 1, 0⟩)]
    ⟨2, 10, 42⟩ (List.cons_ne_nil _ _) (by decide)).1.mpr
      ⟨by decide, by decide, .inr (by decide)⟩

/-- **A longer vector.**  The second of two vectors has one dimension more than the first. -/
theorem longer_vector_panics :
    IvfIndex.build wholeNumbers [(1, ⟨[5], 1, 0⟩), (2, ⟨[5, 7], 1, 0⟩)] ⟨2, 10, 42⟩ = none :=
  build_panics (List.cons_ne_nil _ _) (by decide) (by decide) (by decide)
    (List.mem_cons_of_mem _ List.mem_cons_self) (by decide)

end Oneshim.Search
