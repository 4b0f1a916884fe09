/-
  Finding regimes (`oneshim-analysis/src/regime_detector.rs`, `regime_analysis_facade.rs`;
  `oneshim-core/src/models/tiered_memory/regime.rs`).

  Feature vectors are put into clusters and every cluster that has points becomes a regime, whose id
  is the number of the cluster.

  1. **Arithmetic** — the code computes with `f32`.  Its operations are parameters here without any
     law, so that what is proved holds of `f32` with its rounding, its infinities and `NaN`.

  2. **Detector** (`RegimeDetector`) — `k`-means for every `k`, the best by its silhouette.

  3. **Facade** (`buildRegimes`) — regimes of any clustering, in the order a hash map gives.
-/
import Mathlib.Data.List.Dedup
import Mathlib.Data.List.Nodup

namespace Oneshim.Regimes

/-! ## Arithmetic -/

/-- What the code does with `f32`. -/
structure Arithmetic (F : Type) where
  zero : F
  half : F
  infinity : F
  negInfinity : F
  epsilon : F
  ofNat : Nat → F
  decimal : (numerator denominator : Nat) → F
  add : F → F → F
  sub : F → F → F
  mul : F → F → F
  div : F → F → F
  sqrt : F → F
  max : F → F → F
  lt : F → F → Bool
  eq : F → F → Bool

variable {F : Type} (A : Arithmetic F)

/-! ## Regimes -/

/-- `RegimeFeatures`. -/
structure RegimeFeatures (F : Type) where
  categoryCoding : F
  categoryCommunication : F
  categoryBrowser : F
  avgEventRate : F
  avgImportance : F
  contextActivitySignal : F
  communicationRatio : F

namespace RegimeFeatures

/-- `RegimeFeatures::DIMENSIONS`. -/
abbrev DIMENSIONS : Nat := 7

/-- The numbers below `DIMENSIONS`, in order. -/
def dimensions : List (Fin DIMENSIONS) := [0, 1, 2, 3, 4, 5, 6]

/-- `to_array`. -/
def toArray (self : RegimeFeatures F) : Fin DIMENSIONS → F
  | 0 => self.categoryCoding
  | 1 => self.categoryCommunication
  | 2 => self.categoryBrowser
  | 3 => self.avgEventRate
  | 4 => self.avgImportance
  | 5 => self.contextActivitySignal
  | 6 => self.communicationRatio

/-- `from_array`. -/
def fromArray (arr : Fin DIMENSIONS → F) : RegimeFeatures F :=
  { categoryCoding := arr 0
    categoryCommunication := arr 1
    categoryBrowser := arr 2
    avgEventRate := arr 3
    avgImportance := arr 4
    contextActivitySignal := arr 5
    communicationRatio := arr 6 }

/-- `RegimeFeatures::default`. -/
def default : RegimeFeatures F := fromArray fun _ => A.zero

end RegimeFeatures

/-- `euclidean_distance`. -/
def euclideanDistance (a b : RegimeFeatures F) : F :=
  A.sqrt (RegimeFeatures.dimensions.foldl (fun sum d =>
    A.add sum (A.mul (A.sub (a.toArray d) (b.toArray d)) (A.sub (a.toArray d) (b.toArray d))))
    A.zero)

/-- `RegimeStatus`. -/
inductive RegimeStatus where
  | active
  | inactive
  | archived
deriving DecidableEq

/-- `Regime`; points of time are nanoseconds. -/
structure Regime (F : Type) where
  regimeId : String
  name : Option String
  autoLabel : String
  centroid : RegimeFeatures F
  sampleCount : Nat
  firstSeen : Int
  lastSeen : Int
  status : RegimeStatus

/-- `generate_auto_label`. -/
def generateAutoLabel (centroid : RegimeFeatures F) (topApps : List String) : String :=
  let mode :=
    if A.lt A.half centroid.categoryCoding then "Deep Focus"
    else if A.lt A.half centroid.categoryCommunication then "Communication"
    else if A.lt A.half centroid.categoryBrowser then "Research"
    else "Mixed"
  let appHint := topApps.head?.getD "varied"
  mode ++ " (" ++ appHint ++ ")"

/-! ## Detector -/

/-- `RegimeDetector`. -/
structure RegimeDetector (F : Type) where
  maxK : Nat
  maxIterations : Nat
  convergenceThreshold : F
  minClusterSamples : Nat

namespace RegimeDetector

/-- `RegimeDetector::new`. -/
def new : RegimeDetector F := ⟨7, 50, A.decimal 1 1000, 50⟩

/-- `with_min_samples`. -/
def withMinSamples (self : RegimeDetector F) (min : Nat) : RegimeDetector F :=
  { self with minClusterSamples := min }

/-- The first index whose number is the least below infinity, else `0`. -/
def nearest (centroids : List (RegimeFeatures F)) (point : RegimeFeatures F) : Nat :=
  (centroids.zipIdx.foldl (fun (best : Nat × F) c =>
    let d := euclideanDistance A point c.1
    if A.lt d best.2 then (c.2, d) else best) (0, A.infinity)).1

/-- The first index of the greatest number above negative infinity, else `0`. -/
def farthest (minDists : List F) : Nat :=
  (minDists.zipIdx.foldl (fun (best : Nat × F) d =>
    if A.lt best.2 d.1 then (d.2, d.1) else best) (0, A.negInfinity)).1

/-- One more centroid of `kmeans_pp_init`, and what is left of the least distances. -/
def addCentroid (data : List (RegimeFeatures F)) (s : List (RegimeFeatures F) × List F) :
    List (RegimeFeatures F) × List F :=
  let newC := data.getD (farthest A s.2) (.default A)
  (s.1 ++ [newC], (data.zip s.2).map fun p =>
    let d := euclideanDistance A p.1 newC
    if A.lt d p.2 then d else p.2)

/-- `kmeans_pp_init`. -/
def kmeansPpInit (data : List (RegimeFeatures F)) (k : Nat) : List (RegimeFeatures F) :=
  let first := data.headD (.default A)
  ((List.range (k - 1)).foldl (fun s _ => addCentroid A data s)
    ([first], data.map fun p => euclideanDistance A p first)).1

/-- `recompute_centroids`. -/
def recomputeCentroids (data : List (RegimeFeatures F)) (assignments : List Nat) (k : Nat) :
    List (RegimeFeatures F) :=
  (List.range k).map fun c =>
    let members := (data.zip assignments).filter fun p => p.2 == c
    if members.length = 0 then .default A
    else .fromArray fun d =>
      A.div (members.foldl (fun sum p => A.add sum (p.1.toArray d)) A.zero)
        (A.ofNat members.length)

/-- The rounds of `kmeans`, at most `rounds` of them. -/
def iterate (self : RegimeDetector F) (data : List (RegimeFeatures F)) (k : Nat) :
    (rounds : Nat) → List (RegimeFeatures F) → List Nat → List (RegimeFeatures F) × List Nat
  | 0, centroids, assignments => (centroids, assignments)
  | rounds + 1, centroids, _ =>
    let assignments := data.map (nearest A centroids)
    let newCentroids := recomputeCentroids A data assignments k
    let maxShift := ((centroids.zip newCentroids).map fun p => euclideanDistance A p.1 p.2).foldl
      A.max A.zero
    if A.lt maxShift self.convergenceThreshold then (newCentroids, assignments)
    else self.iterate data k rounds newCentroids assignments

/-- `kmeans`. -/
def kmeans (self : RegimeDetector F) (data : List (RegimeFeatures F)) (k : Nat) :
    List (RegimeFeatures F) × List Nat :=
  self.iterate A data k self.maxIterations (kmeansPpInit A data k) (List.replicate data.length 0)

/-- The average distance of a point from the points of these indices, divided by `n`. -/
def averageDistance (data : List (RegimeFeatures F)) (i : Nat) (members : List Nat) (n : Nat) : F :=
  A.div ((members.map fun j => euclideanDistance A (data.getD i (.default A))
    (data.getD j (.default A))).foldl A.add A.zero) (A.ofNat n)

/-- `silhouette_score`. -/
def silhouetteScore (data : List (RegimeFeatures F)) (assignments : List Nat)
    (centroids : List (RegimeFeatures F)) : F :=
  let k := centroids.length
  let n := data.length
  if n ≤ 1 ∨ k ≤ 1 then A.zero
  else
    let clusters := (List.range k).map fun c =>
      (assignments.zipIdx.filter fun a => a.1 == c).map (·.2)
    let (total, validCount) := (List.range n).foldl (fun (acc : F × Nat) i =>
      let ci := assignments.getD i 0
      let own := clusters.getD ci []
      let clusterSize := own.length
      if clusterSize ≤ 1 then acc
      else
        let aI := averageDistance A data i (own.filter (· != i)) (clusterSize - 1)
        let bI := clusters.zipIdx.foldl (fun b c =>
          if c.2 = ci ∨ c.1 = [] then b
          else
            let avgD := averageDistance A data i c.1 c.1.length
            if A.lt avgD b then avgD else b) A.infinity
        let denom := A.max aI bI
        let total := if A.lt A.epsilon denom then A.add acc.1 (A.div (A.sub bI aI) denom) else acc.1
        (total, acc.2 + 1)) (A.zero, 0)
    if validCount = 0 then A.zero else A.div total (A.ofNat validCount)

/-- `build_regimes`. -/
def buildRegimes (centroids : List (RegimeFeatures F)) (assignments : List Nat) (now : Int) :
    List (Regime F) :=
  (centroids.zipIdx.filter fun c => 0 < assignments.count c.2).map fun c =>
    { regimeId := "regime-" ++ toString c.2
      name := none
      autoLabel := generateAutoLabel A c.1 []
      centroid := c.1
      sampleCount := assignments.count c.2
      firstSeen := now
      lastSeen := now
      status := .active }

/-- What `detect` has found up to some `k`: the best score, its centroids and assignments. -/
structure Best (F : Type) where
  score : F
  centroids : List (RegimeFeatures F)
  assignments : List Nat

/-- `k` tried. -/
def tryK (self : RegimeDetector F) (features : List (RegimeFeatures F)) (best : Best F) (k : Nat) :
    Best F :=
  let (centroids, assignments) := self.kmeans A features k
  let score := silhouetteScore A features assignments centroids
  if A.lt best.score score then ⟨score, centroids, assignments⟩ else best

/-- `detect`. -/
def detect (self : RegimeDetector F) (features : List (RegimeFeatures F)) (now : Int) :
    List (Regime F) :=
  if features.length < self.minClusterSamples then []
  else
    let upperK := min self.maxK features.length
    if upperK < 2 then []
    else
      let best := (List.range' 2 (upperK - 1)).foldl (self.tryK A features) ⟨A.negInfinity, [], []⟩
      buildRegimes A best.centroids best.assignments now

end RegimeDetector

/-! ## Facade -/

/-- `ClusteringResult`, as far as regimes are made of it. -/
structure ClusteringResult (F : Type) where
  labels : List Int
  centroids : List (RegimeFeatures F)

/-- `compute_centroid`. -/
def computeCentroid (features : List (RegimeFeatures F)) (indices : List Nat) : RegimeFeatures F :=
  let sum : RegimeFeatures F := .fromArray fun d => indices.foldl (fun sum idx =>
    match features[idx]? with
    | some f => A.add sum (f.toArray d)
    | none => sum) A.zero
  let n := A.ofNat indices.length
  if A.lt A.zero n then .fromArray fun d => A.div (sum.toArray d) n else sum

/-- The clusters `cluster_points` holds; `rank` is the order in which the map gives them. -/
def clusterIds (rank : Int → Nat) (labels : List Int) : List Int :=
  ((labels.filter (0 ≤ ·)).dedup).mergeSort fun a b => rank a ≤ rank b

/-- `build_regimes` of the facade. -/
def buildRegimes (rank : Int → Nat) (result : ClusteringResult F)
    (features : List (RegimeFeatures F)) (now : Int) : List (Regime F) :=
  (clusterIds rank result.labels).map fun clusterId =>
    let indices := (result.labels.zipIdx.filter fun l => l.1 == clusterId).map (·.2)
    let centroid := result.centroids[clusterId.toNat]?.getD (computeCentroid A features indices)
    let autoLabel :=
      if A.lt A.half centroid.categoryCoding then "Deep Work"
      else if A.lt A.half centroid.categoryCommunication then "Communication"
      else if A.lt A.half centroid.categoryBrowser then "Browsing"
      else "Regime-" ++ toString clusterId
    { regimeId := "cluster-" ++ toString clusterId
      name := none
      autoLabel := autoLabel
      centroid := centroid
      sampleCount := indices.length
      firstSeen := now
      lastSeen := now
      status := .active }

end Oneshim.Regimes
