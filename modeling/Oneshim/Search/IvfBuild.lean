/-
  Building the partition of the vectors (`oneshim-core/src/ivf_index.rs`).

  k-means: centroids are seeded one by one, each a vector chosen by its distance from the earlier
  ones; then, so many times, every vector is assigned to its nearest centroid and the centroids are
  made again as the means of their vectors.  A last assignment gives the clusters.

  1. **Code** — the random numbers, the arithmetic on vectors, the seeding, Lloyd's iteration and
     `build`.  An access behind the end of a vector is a panic, and `none`.

  Floating point is a parameter: numbers of 32 and of 64 bits with their operations, of which
  nothing is assumed.
-/
import Oneshim.Lib.FailingLoop
import Oneshim.Search.VectorTable

namespace Oneshim.Search

open Lib

/-! ## Code -/

/-- `IvfBuildConfig`. -/
structure IvfBuildConfig where
  nClusters : Nat
  nIterations : Nat
  seed : UInt64

/-- `IvfCentroid`. -/
structure IvfCentroid (F : Type) where
  id : Nat
  vector : QuantizedVector F
  memberCount : Nat

/-- `IvfIndex`. -/
structure IvfIndex (F : Type) where
  centroids : List (IvfCentroid F)
  /-- The ids of the vectors and their clusters. -/
  assignments : Table (Prod.fst : Int × Nat → Int)

/-- `Rng`. -/
structure Rng where
  state : UInt64

/-- `Rng::new`. -/
def Rng.new (seed : UInt64) : Rng := ⟨if seed = 0 then 1 else seed⟩

/-- `next_u64`. -/
def Rng.nextU64 (self : Rng) : UInt64 × Rng :=
  let x := self.state ^^^ (self.state <<< 13)
  let x := x ^^^ (x >>> 7)
  let x := x ^^^ (x <<< 17)
  (x, ⟨x⟩)

/-- The arithmetic of `f32` and `f64`. -/
structure FloatArithmetic (F D : Type) where
  zero : F
  one : F
  negInfinity : F
  epsilon : F
  add : F → F → F
  sub : F → F → F
  mul : F → F → F
  div : F → F → F
  sqrt : F → F
  lt : F → F → Bool
  /-- `usize as f32`. -/
  ofCount : Nat → F
  /-- `(v as f32 + 128.0) * scale + offset`. -/
  value : F → F → Int8 → F
  /-- `ScalarQuantizer::quantize`. -/
  quantize : List F → Option (QuantizedVector F)
  scaleOne : F
  zero64 : D
  max64 : D
  epsilon64 : D
  add64 : D → D → D
  mul64 : D → D → D
  lt64 : D → D → Bool
  le64 : D → D → Bool
  /-- `(1.0 - sim as f64).max(0.0)`. -/
  distance : F → D
  /-- `(x >> 11) as f64 / (1u64 << 53) as f64`. -/
  unit : UInt64 → D

section

variable {F D : Type} (arith : FloatArithmetic F D)

/-- `ScalarQuantizer::dequantize`. -/
def dequantize (qv : QuantizedVector F) : List F := qv.data.map (arith.value qv.scale qv.offset)

/-- The sum of the products. -/
def dotProduct (a b : List F) : F :=
  ((a.zip b).map fun (x, y) => arith.mul x y).foldl arith.add arith.zero

/-- The Euclidean norm. -/
def l2Norm (v : List F) : F := arith.sqrt ((v.map fun x => arith.mul x x).foldl arith.add arith.zero)

/-- `cosine_sim_f32`. -/
def cosineSimF32 (a b : List F) : F :=
  if arith.lt (l2Norm arith a) arith.epsilon || arith.lt (l2Norm arith b) arith.epsilon then arith.zero
  else arith.div (dotProduct arith a b) (arith.mul (l2Norm arith a) (l2Norm arith b))

/-- `l2_normalize`. -/
def l2Normalize (v : List F) : List F :=
  if arith.lt arith.epsilon (l2Norm arith v) then v.map fun x => arith.div x (l2Norm arith v) else v

/-! ### Seeding -/

/-- The generator, the centroids so far, and the distance of each vector from the nearest. -/
structure Seeding (F D : Type) where
  rng : Rng
  centroids : List (List F)
  minDists : List D

/-- The distances with one more centroid. -/
def updateMinDists (lastCentroid : List F) (dequantized : List (List F)) (minDists : List D) :
    Option (List D) :=
  dequantized.zipIdx.foldlM (fun minDists (dequant, i) => do
    let dist := arith.distance (cosineSimF32 arith lastCentroid dequant)
    let d ← minDists[i]?
    return if arith.lt64 dist d then minDists.set i dist else minDists) minDists

/-- The first index at which the sum of the squares reaches the threshold. -/
def chooseIndex (threshold : D) : D → Nat → List D → Option Nat
  | _, _, [] => none
  | cumulative, i, d :: ds =>
    let cumulative := arith.add64 cumulative (arith.mul64 d d)
    if arith.le64 threshold cumulative then some i else chooseIndex threshold cumulative (i + 1) ds

/-- One more centroid. -/
def seedNext (dequantized : List (List F)) (s : Seeding F D) : Option (Seeding F D) := do
  let lastCentroid ← s.centroids[s.centroids.length - 1]?
  let minDists ← updateMinDists arith lastCentroid dequantized s.minDists
  let total := (minDists.map fun d => arith.mul64 d d).foldl arith.add64 arith.zero64
  let (x, rng) := s.rng.nextU64
  let idx :=
    if arith.lt64 total arith.epsilon64 then x.toNat % dequantized.length
    else
      let threshold := arith.mul64 (arith.unit x) total
      (chooseIndex arith threshold arith.zero64 0 minDists).getD 0
  let chosen ← dequantized[idx]?
  return ⟨rng, s.centroids ++ [chosen], minDists⟩

/-- k-means++. -/
def seedCentroids (dequantized : List (List F)) (k : Nat) (seed : UInt64) :
    Option (List (List F)) := do
  let (x, rng) := (Rng.new seed).nextU64
  let first ← dequantized[x.toNat % dequantized.length]?
  let seeded ← repeated (seedNext arith dequantized) (k - 1)
    ⟨rng, [first], List.replicate dequantized.length arith.max64⟩
  return seeded.centroids

/-! ### Lloyd's iteration -/

/-- The first of the centroids that are most similar. -/
def nearestCluster (centroids : List (List F)) (dequant : List F) : Nat :=
  (centroids.zipIdx.foldl (fun (bestCluster, bestSim) (centroid, c) =>
    let sim := cosineSimF32 arith centroid dequant
    if arith.lt bestSim sim then (c, sim) else (bestCluster, bestSim)) (0, arith.negInfinity)).1

/-- Every vector gets its nearest centroid. -/
def assignAll (centroids dequantized : List (List F)) : List Nat :=
  dequantized.map (nearestCluster arith centroids)

/-- The components of a vector are added to those of a row; none where the vector is longer. -/
def addRow : List F → List F → Option (List F)
  | row, [] => some row
  | [], _ :: _ => none
  | x :: row, val :: vals => (addRow row vals).map fun rest => arith.add x val :: rest

/-- `new_centroids` and `counts`. -/
structure ClusterSums (F : Type) where
  newCentroids : List (List F)
  counts : List Nat

/-- A vector of the cluster is added. -/
def addMember (s : ClusterSums F) (dequant : List F) (c : Nat) : Option (ClusterSums F) := do
  let row ← s.newCentroids[c]?
  let row ← addRow arith row dequant
  let count ← s.counts[c]?
  return ⟨s.newCentroids.set c row, s.counts.set c (count + 1)⟩

/-- The vector that is furthest from its centroid. -/
def furthest (centroids dequantized : List (List F)) (assignments : List Nat) : Option Nat := do
  let (_, maxIdx) ← (dequantized.zip assignments).zipIdx.foldlM
    (fun (maxDist, maxIdx) ((dequant, assigned), i) => do
      let centroid ← centroids[assigned]?
      let dist := arith.sub arith.one (cosineSimF32 arith centroid dequant)
      return if arith.lt maxDist dist then (dist, i) else (maxDist, maxIdx)) (arith.zero, 0)
  return maxIdx

/-- The mean of a cluster; an empty one gets the vector that is furthest from its centroid. -/
def recompute (centroids dequantized : List (List F)) (assignments : List Nat) (row : List F)
    (count : Nat) : Option (List F) :=
  if 0 < count then
    some (l2Normalize arith (row.map fun val => arith.div val (arith.ofCount count)))
  else do
    let maxIdx ← furthest arith centroids dequantized assignments
    let dequant ← dequantized[maxIdx]?
    return l2Normalize arith dequant

/-- One iteration. -/
def lloydStep (dequantized : List (List F)) (dims k : Nat) (centroids : List (List F)) :
    Option (List (List F)) := do
  let assignments := assignAll arith centroids dequantized
  let sums ← (dequantized.zip assignments).foldlM (fun s (dequant, c) => addMember arith s dequant c)
    ⟨List.replicate k (List.replicate dims arith.zero), List.replicate k 0⟩
  (sums.newCentroids.zip sums.counts).mapM fun (row, count) =>
    recompute arith centroids dequantized assignments row count

/-! ### The index -/

/-- The members of each cluster are counted. -/
def countMembers (k : Nat) (assignments : List Nat) : Option (List Nat) :=
  assignments.foldlM (fun counts c => do
    let count ← counts[c]?
    return counts.set c (count + 1)) (List.replicate k 0)

/-- The centroids as they are stored. -/
def storedCentroids (dims : Nat) (centroids : List (List F)) (memberCounts : List Nat) :
    Option (List (IvfCentroid F)) :=
  centroids.zipIdx.mapM fun (vector, id) => do
    let quantized := (arith.quantize vector).getD
      ⟨List.replicate dims 0, arith.scaleOne, arith.zero⟩
    let memberCount ← memberCounts[id]?
    return ⟨id, quantized, memberCount⟩

/-- `build`; none is a panic. -/
def IvfIndex.build (vectors : List (Int × QuantizedVector F)) (config : IvfBuildConfig) :
    Option (Except SearchError (IvfIndex F)) :=
  match vectors with
  | [] => some (.error (.invalidArguments "cannot build IVF index from empty vector set"))
  | first :: _ =>
    if config.nClusters < 1 then
      some (.error (.invalidArguments "n_clusters must be >= 1"))
    else if vectors.length < config.nClusters then
      some (.error (.invalidArguments ("cannot create " ++ toString config.nClusters ++
        " clusters from " ++ toString vectors.length ++ " vectors")))
    else do
      let dims := first.2.data.length
      let k := config.nClusters
      let dequantized := vectors.map fun (_, qv) => dequantize arith qv
      let seeded ← seedCentroids arith dequantized k config.seed
      let centroids ← repeated (lloydStep arith dequantized dims k) config.nIterations seeded
      let clusterAssignments := assignAll arith centroids dequantized
      let memberCounts ← countMembers k clusterAssignments
      let stored ← storedCentroids arith dims centroids memberCounts
      let assignments :=
        ((vectors.map Prod.fst).zip clusterAssignments).foldl Table.upsert Table.empty
      return .ok ⟨stored, assignments⟩

/-- `get_cluster_members`. -/
def IvfIndex.getClusterMembers (self : IvfIndex F) (clusterId : Nat) : List Int :=
  (self.assignments.rows.filter fun row => row.2 == clusterId).map Prod.fst

end

end Oneshim.Search
