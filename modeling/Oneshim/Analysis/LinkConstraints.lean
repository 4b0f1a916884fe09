/-
  Links between points of a clustering (`oneshim-analysis/src/clustering_strategy.rs`).

  A clustering gives every point a label, below zero for noise.  The user has said of some points
  that they are noise or belong to a cluster, and of some pairs that they belong together or apart.
  Labels are put together from what the clustering says of the other points; then clusters are
  merged where a pair belongs together, and then they are split in two where a pair belongs apart.

  1. **Code** — the passes as they are written.  Sums and means are computed in `f64`, distances in
     `f32`; both come without any law.

  2. **Merges** (`applyMustLinkConstraints_clusters`) — the must-links alone: the finest coarsening
     that puts the pairs together.

  3. **Splits** (`applyCannotLinkConstraints_spec`) — the cannot-links alone: every pair is apart,
     and clusters without such a pair stay as they are.

  4. **The results** (`link_passes_exact`, `applyLinkConstraints_honours`) — each pass, and both.
-/
import Mathlib.Data.List.Basic
import Mathlib.Order.Fin.Basic
import Oneshim.Analysis.RegimeDetector
import Oneshim.Lib.Labelling

namespace Oneshim.Clustering

open Lib.Labelling (Joins classes classes_of_eq classes_split_le isLeast_merge isLeast_self
  isLeast_trans not_classes_split)
open Regimes (Arithmetic RegimeFeatures euclideanDistance)

variable {F D : Type}

/-! ## Code -/

/-- What the code does with `f64`, and to and from `f32`. -/
structure Doubles (F D : Type) where
  ofSingle : F → D
  toSingle : D → F
  zero : D
  ofNat : Nat → D
  add : D → D → D
  div : D → D → D

/-- Every point of one label is given another one. -/
def relabel (labels : List Int) (keep gone : Int) : List Int :=
  labels.map fun label => if label = gone then keep else label

/-- One round of `apply_must_link_constraints`. -/
def mustLink (labels : List Int) (link : Nat × Nat) : List Int :=
  match labels[link.1]?, labels[link.2]? with
  | some la, some lb =>
    if la = lb ∨ la < 0 ∨ lb < 0 then labels
    -- the smaller cluster goes into the larger one
    else if labels.count la ≥ labels.count lb then relabel labels la lb
    else relabel labels lb la
  | _, _ => labels

/-- `apply_must_link_constraints`. -/
def applyMustLinkConstraints (labels : List Int) (mustLinks : List (Nat × Nat)) : List Int :=
  mustLinks.foldl mustLink labels

section

variable (A : Arithmetic F) (B : Doubles F D)

/-- `MAX_ITER` of `kmeans_split`. -/
def maxIter : Nat := 20

/-- The means of the two sides. -/
abbrev Centroids (D : Type) := Fin 2 → Fin RegimeFeatures.DIMENSIONS → D

/-- The distance of a point from one of the means. -/
def distanceTo (centroids : Centroids D) (c : Fin 2) (point : RegimeFeatures F) : F :=
  euclideanDistance A point (.fromArray fun d => B.toSingle (centroids c d))

/-- The assignment step: the nearer side, the first one where none is nearer. -/
def assign (centroids : Centroids D) (features : List (RegimeFeatures F)) : List (Fin 2) :=
  features.map fun point =>
    if A.lt (distanceTo A B centroids 0 point) (distanceTo A B centroids 1 point) ||
        A.eq (distanceTo A B centroids 0 point) (distanceTo A B centroids 1 point) then 0 else 1

/-- The update step; a side without points keeps its mean. -/
def update (centroids : Centroids D) (features : List (RegimeFeatures F))
    (assignments : List (Fin 2)) : Centroids D := fun c d =>
  let side := (features.zip assignments).filter (·.2 = c)
  if 0 < side.length then
    B.div (side.foldl (fun sum point => B.add sum (B.ofSingle (point.1.toArray d))) B.zero)
      (B.ofNat side.length)
  else centroids c d

/-- The rounds of `kmeans_split`, at most so many. -/
def rounds (features : List (RegimeFeatures F)) :
    Nat → Centroids D → List (Fin 2) → List (Fin 2)
  | 0, _, assignments => assignments
  | n + 1, centroids, assignments =>
    let assigned := assign A B centroids features
    if assigned = assignments then assignments
    else rounds features n (update B centroids features assigned) assigned

/-- Where the two points are on one side, the second one is put on the other. -/
def forceApart (localA localB : Option Nat) (assignments : List (Fin 2)) : List (Fin 2) :=
  match localA, localB with
  | some ia, some ib =>
    if assignments.getD ia 0 = assignments.getD ib 0 then
      assignments.set ib (1 - assignments.getD ia 0)
    else assignments
  | _, _ => assignments

/-- The points the means begin with. -/
def seeds (localA localB : Option Nat) (count : Nat) : Nat × Nat :=
  match localA, localB with
  | some ia, some ib => (ia, ib)
  | _, _ => (0, count - 1)

/-- `kmeans_split`; none where an index is out of range. -/
def kmeansSplit (features : List (RegimeFeatures F)) (constraintA constraintB : Nat)
    (members : List Nat) : Option (List (Fin 2)) :=
  let localA := members.idxOf? constraintA
  let localB := members.idxOf? constraintB
  let seed := seeds localA localB features.length
  match features[seed.1]?, features[seed.2]? with
  | some a, some b =>
    let centroids : Centroids D := fun c d => B.ofSingle ((if c = 0 then a else b).toArray d)
    some (forceApart localA localB
      (rounds A B features maxIter centroids (List.replicate features.length 0)))
  | _, _ => none

/-- The points of a cluster. -/
def membersOf (labels : List Int) (cluster : Int) : List Nat :=
  (labels.zipIdx.filter (·.1 = cluster)).map (·.2)

/-- One more than the greatest label, an `i32` that wraps around. -/
def newClusterId (labels : List Int) : Int := (labels.max?.getD 0 + 1).bmod 4294967296

/-- The members on the second side are given a label. -/
def labelSecond (labels : List Int) (fresh : Int) (sides : List (Nat × Fin 2)) : List Int :=
  sides.foldl (fun labels side => if side.2 = 1 then labels.set side.1 fresh else labels) labels

/-- One round of `apply_cannot_link_constraints`; none where an index is out of range. -/
def cannotLink (features : List (RegimeFeatures F)) (labels : List Int) (link : Nat × Nat) :
    Option (List Int) :=
  match labels[link.1]?, labels[link.2]? with
  | some la, some lb =>
    if la ≠ lb ∨ la < 0 then some labels
    else
      let members := membersOf labels la
      if members.length < 2 then some labels
      else
        match members.mapM (features[·]?) with
        | none => none
        | some memberFeatures =>
          match kmeansSplit A B memberFeatures link.1 link.2 members with
          | none => none
          | some sub => some (labelSecond labels (newClusterId labels) (members.zip sub))
  | _, _ => some labels

/-- `apply_cannot_link_constraints`. -/
def applyCannotLinkConstraints (features : List (RegimeFeatures F)) (labels : List Int)
    (cannotLinks : List (Nat × Nat)) : Option (List Int) :=
  cannotLinks.foldlM (cannotLink A B features) labels

end

/-! ## Clusters -/

/-- The cluster of a point, none for noise and where there is no point. -/
def clusterOf (labels : List Int) (i : Nat) : Option Int := labels[i]?.filter (0 ≤ ·)

/-- The points by their clusters; noise is alone. -/
def clusters (labels : List Int) : Setoid Nat := classes (clusterOf labels)

variable {labels : List Int}

theorem clusterOf_eq_some {i : Nat} {label : Int} :
    clusterOf labels i = some label ↔ labels[i]? = some label ∧ 0 ≤ label := by
  simp [clusterOf, Option.filter_eq_some_iff]

theorem clusterOf_eq_none {i : Nat} :
    clusterOf labels i = none ↔ ∀ label, labels[i]? = some label → label < 0 := by
  simp [clusterOf, Option.filter_eq_none_iff]

/-- The links between points of clusters. -/
def activeLinks (labels : List Int) (links : List (Nat × Nat)) : Set (Nat × Nat) :=
  {link | link ∈ links ∧ clusterOf labels link.1 ≠ none ∧ clusterOf labels link.2 ≠ none}

/-! ## Merges -/

/-- Points of other labels keep theirs. -/
theorem getElem?_relabel {keep gone : Int} {i : Nat} (h : labels[i]? ≠ some gone) :
    (relabel labels keep gone)[i]? = labels[i]? := by
  simp only [relabel, List.getElem?_map]
  cases hi : labels[i]? with
  | none => rfl
  | some label =>
    have hne : label ≠ gone := fun heq => h (hi.trans (congrArg some heq))
    simp [hne]

theorem clusterOf_relabel {keep gone : Int} (hkeep : 0 ≤ keep) (hgone : 0 ≤ gone) :
    clusterOf (relabel labels keep gone) = Lib.Labelling.merge (clusterOf labels) keep gone := by
  funext i
  by_cases hlabel : clusterOf labels i = some gone
  · obtain ⟨hi, -⟩ := clusterOf_eq_some.mp hlabel
    rw [Lib.Labelling.merge, if_pos hlabel]
    exact clusterOf_eq_some.mpr ⟨by simp [relabel, hi], hkeep⟩
  · have hne : labels[i]? ≠ some gone := fun hi =>
      hlabel (clusterOf_eq_some.mpr ⟨hi, hgone⟩)
    rw [Lib.Labelling.merge, if_neg hlabel, clusterOf, getElem?_relabel hne, clusterOf]

/-- What a round of the must-links does. -/
theorem mustLink_cases (labels : List Int) (link : Nat × Nat) :
    (mustLink labels link = labels ∧
      ∀ a b, clusterOf labels link.1 = some a → clusterOf labels link.2 = some b → a = b) ∨
    ∃ keep gone, mustLink labels link = relabel labels keep gone ∧ 0 ≤ keep ∧ 0 ≤ gone ∧
      keep ≠ gone ∧ (clusterOf labels link.1 = some keep ∧ clusterOf labels link.2 = some gone ∨
        clusterOf labels link.1 = some gone ∧ clusterOf labels link.2 = some keep) := by
  simp only [mustLink]
  cases ha : labels[link.1]? with
  | none => exact .inl ⟨rfl, fun a b h => by simp [clusterOf, ha] at h⟩
  | some la =>
    cases hb : labels[link.2]? with
    | none => exact .inl ⟨rfl, fun a b _ h => by simp [clusterOf, hb] at h⟩
    | some lb =>
      simp only
      split
      · next hskip =>
        refine .inl ⟨rfl, fun a b hla hlb => ?_⟩
        obtain ⟨hla, hpos⟩ := clusterOf_eq_some.mp hla
        obtain ⟨hlb, hpos'⟩ := clusterOf_eq_some.mp hlb
        rw [ha] at hla
        rw [hb] at hlb
        cases hla
        cases hlb
        omega
      · next hmerge =>
        have hla : clusterOf labels link.1 = some la := clusterOf_eq_some.mpr ⟨ha, by omega⟩
        have hlb : clusterOf labels link.2 = some lb := clusterOf_eq_some.mpr ⟨hb, by omega⟩
        split
        · exact .inr ⟨la, lb, rfl, by omega, by omega, by omega, .inl ⟨hla, hlb⟩⟩
        · exact .inr ⟨lb, la, rfl, by omega, by omega, by omega, .inr ⟨hla, hlb⟩⟩

/-- A round keeps noise, and what is none. -/
theorem mustLink_noise (labels : List Int) (link : Nat × Nat) (i : Nat) :
    (clusterOf (mustLink labels link) i = none ↔ clusterOf labels i = none) ∧
      (clusterOf labels i = none → (mustLink labels link)[i]? = labels[i]?) := by
  rcases mustLink_cases labels link with ⟨hsame, -⟩ | ⟨keep, gone, hmerged, hkeep, hgone, -⟩
  · rw [hsame]
    exact ⟨Iff.rfl, fun _ => rfl⟩
  · rw [hmerged]
    constructor
    · rw [clusterOf_relabel hkeep hgone, Lib.Labelling.merge]
      split
      · next h => simp [h]
      · exact Iff.rfl
    · intro hnone
      refine getElem?_relabel fun hi => ?_
      have := clusterOf_eq_none.mp hnone gone hi
      omega

/-- **One must-link** puts its pair together, and nothing more. -/
theorem mustLink_clusters (labels : List Int) (link : Nat × Nat) :
    IsLeast (Joins (clusters labels) (activeLinks labels [link]))
      (clusters (mustLink labels link)) := by
  rcases mustLink_cases labels link with
    ⟨hsame, heq⟩ | ⟨keep, gone, hmerged, hkeep, hgone, -, hlabels⟩
  · rw [hsame]
    refine isLeast_self ?_
    rintro pair ⟨hpair, ha, hb⟩
    obtain rfl := List.mem_singleton.mp hpair
    obtain ⟨la, ha⟩ := Option.ne_none_iff_exists'.mp ha
    obtain ⟨lb, hb⟩ := Option.ne_none_iff_exists'.mp hb
    obtain rfl := heq la lb ha hb
    exact classes_of_eq ha hb
  · have hactive : activeLinks labels [link] = {(link.1, link.2)} := by
      ext pair
      simp only [activeLinks, List.mem_singleton, Set.mem_ofPred_eq, Set.mem_singleton_iff]
      refine ⟨fun h => h.1, fun h => ?_⟩
      subst h
      rcases hlabels with ⟨ha, hb⟩ | ⟨ha, hb⟩ <;> simp [ha, hb]
    rw [hmerged, clusters, clusters, clusterOf_relabel hkeep hgone, hactive]
    rcases hlabels with ⟨ha, hb⟩ | ⟨ha, hb⟩
    · exact isLeast_merge ha hb (.inl rfl)
    · exact isLeast_merge hb ha (.inr rfl)

/-- The pass keeps noise. -/
theorem applyMustLinkConstraints_noise (labels : List Int) (links : List (Nat × Nat)) (i : Nat) :
    (clusterOf (applyMustLinkConstraints labels links) i = none ↔ clusterOf labels i = none) ∧
      (clusterOf labels i = none →
        (applyMustLinkConstraints labels links)[i]? = labels[i]?) := by
  simp only [applyMustLinkConstraints]
  induction links generalizing labels with
  | nil => exact ⟨Iff.rfl, fun _ => rfl⟩
  | cons link links ih =>
    obtain ⟨hiff, hkeeps⟩ := mustLink_noise labels link i
    obtain ⟨hiff', hkeeps'⟩ := ih (mustLink labels link)
    rw [List.foldl_cons]
    exact ⟨hiff'.trans hiff, fun h => (hkeeps' (hiff.mpr h)).trans (hkeeps h)⟩

/-- The links that are active do not change. -/
theorem activeLinks_mustLink (labels : List Int) (link : Nat × Nat) (links : List (Nat × Nat)) :
    activeLinks (mustLink labels link) links = activeLinks labels links := by
  ext pair
  simp only [activeLinks, Set.mem_ofPred_eq, ne_eq, (mustLink_noise labels link _).1]

/-- **The must-links** put their pairs together, and nothing more. -/
theorem applyMustLinkConstraints_clusters (labels : List Int) (links : List (Nat × Nat)) :
    IsLeast (Joins (clusters labels) (activeLinks labels links))
      (clusters (applyMustLinkConstraints labels links)) := by
  simp only [applyMustLinkConstraints]
  induction links generalizing labels with
  | nil => exact isLeast_self fun pair hpair => absurd hpair.1 List.not_mem_nil
  | cons link links ih =>
    have hrest := ih (mustLink labels link)
    rw [activeLinks_mustLink] at hrest
    have hunion : activeLinks labels (link :: links) =
        activeLinks labels [link] ∪ activeLinks labels links := by
      ext pair
      simp only [activeLinks, List.mem_cons, List.not_mem_nil, or_false, Set.mem_ofPred_eq,
        Set.mem_union, or_and_right]
    rw [hunion, List.foldl_cons]
    exact isLeast_trans (mustLink_clusters labels link) hrest

theorem mem_membersOf {cluster : Int} {i : Nat} :
    i ∈ membersOf labels cluster ↔ labels[i]? = some cluster := by
  simp only [membersOf, List.mem_map, List.mem_filter, decide_eq_true_eq]
  constructor
  · rintro ⟨place, ⟨hplace, rfl⟩, rfl⟩
    exact List.mem_zipIdx_iff_getElem?.mp hplace
  · exact fun h => ⟨(cluster, i), ⟨List.mem_zipIdx_iff_getElem?.mpr h, rfl⟩, rfl⟩

theorem nodup_membersOf (labels : List Int) (cluster : Int) : (membersOf labels cluster).Nodup := by
  have hall : (labels.zipIdx.map Prod.snd).Nodup := by
    rw [List.zipIdx_map_snd]
    exact List.nodup_range'
  exact hall.sublist (List.filter_sublist.map _)

/-- Indices in range are found. -/
theorem mapM_getElem? {α : Type} {features : List α} {members : List Nat}
    (h : ∀ i ∈ members, i < features.length) :
    ∃ found, members.mapM (features[·]?) = some found ∧ found.length = members.length := by
  induction members with
  | nil => exact ⟨[], rfl, rfl⟩
  | cons i members ih =>
    obtain ⟨found, hfound, hlength⟩ := ih fun j hj => h j (List.mem_cons_of_mem _ hj)
    obtain ⟨point, hpoint⟩ : ∃ point, features[i]? = some point :=
      ⟨_, List.getElem?_eq_getElem (h i List.mem_cons_self)⟩
    exact ⟨point :: found, by simp [List.mapM_cons, hpoint, hfound], by simp [hlength]⟩

section

variable {A : Arithmetic F} {B : Doubles F D}

theorem length_rounds (features : List (RegimeFeatures F)) (n : Nat) (centroids : Centroids D)
    {assignments : List (Fin 2)} (h : assignments.length = features.length) :
    (rounds A B features n centroids assignments).length = features.length := by
  induction n generalizing centroids assignments with
  | zero => exact h
  | succ n ih =>
    simp only [rounds]
    split
    · exact h
    · exact ih _ (List.length_map _)

/-- The two points are on different sides. -/
theorem forceApart_spec {assignments : List (Fin 2)} {ia ib : Nat} (hne : ia ≠ ib)
    (ha : ia < assignments.length) (hb : ib < assignments.length) :
    (forceApart (some ia) (some ib) assignments).length = assignments.length ∧
      (forceApart (some ia) (some ib) assignments)[ia]? ≠
        (forceApart (some ia) (some ib) assignments)[ib]? := by
  have hother (x : Fin 2) : x ≠ 1 - x := by revert x; decide
  simp only [forceApart, List.getD_eq_getElem?_getD, List.getElem?_eq_getElem ha,
    List.getElem?_eq_getElem hb, Option.getD_some]
  split
  · refine ⟨List.length_set, ?_⟩
    rw [List.getElem?_set_ne hne.symm, List.getElem?_set_self hb, List.getElem?_eq_getElem ha]
    exact fun h => hother _ (Option.some.inj h)
  · next hapart =>
    refine ⟨rfl, ?_⟩
    rw [List.getElem?_eq_getElem ha, List.getElem?_eq_getElem hb]
    exact fun h => hapart (Option.some.inj h)

variable {features : List (RegimeFeatures F)}

/-- **`kmeans_split`** gives every member a side, and the pair different ones. -/
theorem kmeansSplit_spec {a b : Nat} {members : List Nat}
    (hlength : features.length = members.length) (hne : a ≠ b) (ha : a ∈ members) (hb : b ∈ members) :
    ∃ sub, kmeansSplit A B features a b members = some sub ∧
      ∃ x y, (a, x) ∈ members.zip sub ∧ (b, y) ∈ members.zip sub ∧ x ≠ y := by
  obtain ⟨ia, hia⟩ := Option.isSome_iff_exists.mp (List.isSome_idxOf?.mpr ha)
  obtain ⟨ib, hib⟩ := Option.isSome_iff_exists.mp (List.isSome_idxOf?.mpr hb)
  obtain ⟨hla, haa, -⟩ := List.idxOf?_eq_some_iff.mp hia
  obtain ⟨hlb, hbb, -⟩ := List.idxOf?_eq_some_iff.mp hib
  have hindex : ia ≠ ib := by
    rintro rfl
    exact hne (haa.symm.trans hbb)
  have hfa := List.getElem?_eq_getElem (hlength ▸ hla : ia < features.length)
  have hfb := List.getElem?_eq_getElem (hlength ▸ hlb : ib < features.length)
  simp only [kmeansSplit, hia, hib, seeds, hfa, hfb]
  generalize hrounds : rounds A B features maxIter _ _ = assignments
  have hassigned : assignments.length = members.length := by
    rw [← hrounds]
    exact (length_rounds _ _ _ List.length_replicate).trans hlength
  obtain ⟨hsub, hapart⟩ := forceApart_spec hindex (hassigned ▸ hla) (hassigned ▸ hlb)
  refine ⟨_, rfl, ?_⟩
  generalize forceApart (some ia) (some ib) assignments = sub at hsub hapart
  have hsa : ia < sub.length := by omega
  have hsb : ib < sub.length := by omega
  rw [List.getElem?_eq_getElem hsa, List.getElem?_eq_getElem hsb] at hapart
  have hmem {i : Nat} (hi : i < members.length) (hs : i < sub.length) :
      (members[i], sub[i]) ∈ members.zip sub := by
    have hzip : i < (members.zip sub).length := by
      rw [List.length_zip]
      omega
    have := List.getElem_mem hzip
    rwa [List.getElem_zip] at this
  exact ⟨sub[ia], sub[ib], haa ▸ hmem hla hsa, hbb ▸ hmem hlb hsb,
    fun h => hapart (congrArg some h)⟩

/-- A member has one side. -/
theorem side_unique {members : List Nat} {sub : List (Fin 2)} (hnodup : members.Nodup) {i : Nat}
    {x y : Fin 2} (hx : (i, x) ∈ members.zip sub) (hy : (i, y) ∈ members.zip sub) : x = y := by
  obtain ⟨j, hj, hjx⟩ := List.mem_iff_getElem.mp hx
  obtain ⟨k, hk, hky⟩ := List.mem_iff_getElem.mp hy
  rw [List.getElem_zip, Prod.mk.injEq] at hjx hky
  have hjk : j = k := (hnodup.getElem_inj_iff).mp (hjx.1.trans hky.1.symm)
  subst hjk
  exact hjx.2.symm.trans hky.2

/-- What the members on the second side are given. -/
theorem getElem?_labelSecond (labels : List Int) (fresh : Int) (sides : List (Nat × Fin 2))
    (i : Nat) :
    (labelSecond labels fresh sides)[i]? =
      if (i, 1) ∈ sides then labels[i]?.map fun _ => fresh else labels[i]? := by
  simp only [labelSecond]
  induction sides generalizing labels with
  | nil => simp
  | cons side sides ih =>
    obtain ⟨j, x⟩ := side
    rw [List.foldl_cons, ih]
    by_cases hx : x = 1
    · subst hx
      by_cases hij : j = i
      · subst hij
        cases hj : labels[j]? with
        | none => simp [List.getElem?_eq_none_iff.mp hj]
        | some label =>
          have hlt : j < labels.length := (List.getElem?_eq_some_iff.mp hj).1
          simp [hlt]
      · simp [List.getElem?_set_ne hij, Ne.symm hij]
    · have hne : (i, (1 : Fin 2)) ≠ (j, x) := fun h => hx (congrArg Prod.snd h).symm
      simp [hx, hne]

theorem length_labelSecond (labels : List Int) (fresh : Int) (sides : List (Nat × Fin 2)) :
    (labelSecond labels fresh sides).length = labels.length := by
  refine List.foldlRecOn sides _ (motive := fun after : List Int => after.length = labels.length)
    rfl fun after h side _ => ?_
  split
  · rw [List.length_set, h]
  · exact h

/-- A label that is not the greatest one is left. -/
def HasRoom (labels : List Int) : Prop := ∀ label ∈ labels, label < 2147483647

/-- The new label is one that nobody has. -/
theorem newClusterId_fresh (hroom : HasRoom labels) {i : Nat} {label : Int}
    (hi : labels[i]? = some label) (hpos : 0 ≤ label) :
    0 ≤ newClusterId labels ∧ ∀ other ∈ labels, other < newClusterId labels := by
  have hmem : label ∈ labels := List.mem_of_getElem? hi
  obtain ⟨greatest, hmax⟩ : ∃ greatest, labels.max? = some greatest := by
    cases hmax : labels.max? with
    | none =>
      rw [List.max?_eq_none_iff.mp hmax] at hmem
      cases hmem
    | some greatest => exact ⟨greatest, rfl⟩
  obtain ⟨hgreatest, hle⟩ := List.max?_eq_some_iff.mp hmax
  have := hle label hmem
  have := hroom greatest hgreatest
  have hid : newClusterId labels = greatest + 1 := by
    rw [newClusterId, hmax, Option.getD_some]
    exact Int.bmod_eq_of_le_mul_two (by omega) (by omega)
  refine ⟨by omega, fun other hother => ?_⟩
  have := hle other hother
  omega

/-- Whether a cannot-link has a cluster to split. -/
def Splits (labels : List Int) (link : Nat × Nat) : Prop :=
  clusterOf labels link.1 ≠ none ∧ clusterOf labels link.1 = clusterOf labels link.2

/-- **The range suffices**: a pass that splits a cluster finds a label for it. -/
def RangeSuffices (A : Arithmetic F) (B : Doubles F D) (features : List (RegimeFeatures F)) :
    List Int → List (Nat × Nat) → Prop
  | _, [] => True
  | labels, link :: links => (Splits labels link → HasRoom labels) ∧
    ∀ after, cannotLink A B features labels link = some after →
      RangeSuffices A B features after links

/-- What splits keep: the number of points, noise, and that points of different clusters are
    apart. -/
structure Refines (before after : List Int) : Prop where
  length : after.length = before.length
  noise : ∀ i, clusterOf before i = none → after[i]? = before[i]?
  clustered : ∀ i, clusterOf before i ≠ none → clusterOf after i ≠ none
  clusters : clusters after ≤ clusters before

theorem Refines.refl (labels : List Int) : Refines labels labels :=
  ⟨rfl, fun _ _ => rfl, fun _ h => h, le_refl _⟩

theorem clusterOf_congr {before after : List Int} {i : Nat} (h : after[i]? = before[i]?) :
    clusterOf after i = clusterOf before i := by
  rw [clusterOf, h, clusterOf]

theorem Refines.trans {first second third : List Int} (h : Refines first second)
    (h' : Refines second third) : Refines first third where
  length := h'.length.trans h.length
  noise i hi := (h'.noise i ((clusterOf_congr (h.noise i hi)).trans hi)).trans (h.noise i hi)
  clustered i hi := h'.clustered i (h.clustered i hi)
  clusters := le_trans h'.clusters h.clusters

/-- The clusters after some members are given a fresh label. -/
theorem clusterOf_labelSecond {fresh : Int} {sides : List (Nat × Fin 2)} (hpos : 0 ≤ fresh)
    (hsides : ∀ side ∈ sides, side.1 < labels.length) :
    clusterOf (labelSecond labels fresh sides) =
      Lib.Labelling.split (fun i => (i, 1) ∈ sides) (clusterOf labels) fresh := by
  funext i
  simp only [Lib.Labelling.split]
  split
  · next hi =>
    have hlt : i < labels.length := hsides _ hi
    refine clusterOf_eq_some.mpr ⟨?_, hpos⟩
    rw [getElem?_labelSecond, if_pos hi, List.getElem?_eq_getElem hlt]
    rfl
  · next hi =>
    refine clusterOf_congr ?_
    rw [getElem?_labelSecond, if_neg hi]

/-- A cluster whose members have been given sides: those on the second side leave it. -/
theorem labelSecond_spec {cluster : Int} {sub : List (Fin 2)} {a b : Nat} {x y : Fin 2}
    (ha : clusterOf labels a = some cluster) (hroom : HasRoom labels)
    (hx : (a, x) ∈ (membersOf labels cluster).zip sub)
    (hy : (b, y) ∈ (membersOf labels cluster).zip sub) (hxy : x ≠ y) {after : List Int}
    (hafter : after = labelSecond labels (newClusterId labels) ((membersOf labels cluster).zip sub)) :
    Refines labels after ∧ clusterOf after a ≠ clusterOf after b ∧
      ∀ i, clusterOf labels i ≠ some cluster → after[i]? = labels[i]? := by
  obtain ⟨hla, hpos⟩ := clusterOf_eq_some.mp ha
  obtain ⟨hfresh, hgreater⟩ := newClusterId_fresh hroom hla hpos
  have hmember {i : Nat} {z : Fin 2} (hi : (i, z) ∈ (membersOf labels cluster).zip sub) :
      labels[i]? = some cluster := mem_membersOf.mp (List.of_mem_zip hi).1
  have hold (i : Nat) (hi : (i, (1 : Fin 2)) ∈ (membersOf labels cluster).zip sub) :
      clusterOf labels i = some cluster := clusterOf_eq_some.mpr ⟨hmember hi, hpos⟩
  have hnew (i : Nat) : clusterOf labels i ≠ some (newClusterId labels) := by
    intro hi
    have := hgreater _ (List.mem_of_getElem? (clusterOf_eq_some.mp hi).1)
    omega
  have hclusters : clusterOf after = Lib.Labelling.split
      (fun i => (i, 1) ∈ (membersOf labels cluster).zip sub) (clusterOf labels)
      (newClusterId labels) := by
    rw [hafter]
    exact clusterOf_labelSecond hfresh fun side hside =>
      (List.getElem?_eq_some_iff.mp (hmember hside)).1
  have hothers (i : Nat) (hi : clusterOf labels i ≠ some cluster) : after[i]? = labels[i]? := by
    rw [hafter, getElem?_labelSecond, if_neg fun hmem => hi (hold i hmem)]
  refine ⟨⟨?_, fun i hi => hothers i ?_, fun i hi => ?_, ?_⟩, ?_, hothers⟩
  · rw [hafter, length_labelSecond]
  · rw [hi]
    exact (Option.some_ne_none _).symm
  · rw [hclusters, Lib.Labelling.split]
    split
    · exact Option.some_ne_none _
    · exact hi
  · rw [clusters, clusters, hclusters]
    exact classes_split_le hnew hold
  · -- the pair is on different sides
    have hone {i : Nat} {z : Fin 2} (hz : (i, z) ∈ (membersOf labels cluster).zip sub)
        (hi : (i, (1 : Fin 2)) ∈ (membersOf labels cluster).zip sub) : z = 1 :=
      side_unique (nodup_membersOf labels cluster) hz hi
    have hapart : ¬((a, (1 : Fin 2)) ∈ (membersOf labels cluster).zip sub ↔
        (b, (1 : Fin 2)) ∈ (membersOf labels cluster).zip sub) := by
      intro hiff
      by_cases hx1 : x = 1
      · subst hx1
        exact hxy (hone hy (hiff.mp hx)).symm
      · have hy1 : y = 1 := by omega
        subst hy1
        exact hx1 (hone hx (hiff.mpr hy))
    intro heq
    rw [hclusters] at heq
    refine not_classes_split hnew hapart (.inr ⟨?_, heq⟩)
    simp only [Lib.Labelling.split]
    split
    · exact Option.some_ne_none _
    · rw [ha]
      exact Option.some_ne_none _

/-- A cluster that is split. -/
theorem cannotLink_of_splits {link : Nat × Nat} {cluster : Int}
    (hlength : features.length = labels.length) (hne : link.1 ≠ link.2)
    (ha : clusterOf labels link.1 = some cluster) (hb : clusterOf labels link.2 = some cluster) :
    ∃ sub, cannotLink A B features labels link =
        some (labelSecond labels (newClusterId labels) ((membersOf labels cluster).zip sub)) ∧
      ∃ x y, (link.1, x) ∈ (membersOf labels cluster).zip sub ∧
        (link.2, y) ∈ (membersOf labels cluster).zip sub ∧ x ≠ y := by
  obtain ⟨hla, hpos⟩ := clusterOf_eq_some.mp ha
  obtain ⟨hlb, -⟩ := clusterOf_eq_some.mp hb
  have hma : link.1 ∈ membersOf labels cluster := mem_membersOf.mpr hla
  have hmb : link.2 ∈ membersOf labels cluster := mem_membersOf.mpr hlb
  -- the two points of the pair are two members
  have htwo : ¬(membersOf labels cluster).length < 2 := by
    intro hshort
    rcases hmembers : membersOf labels cluster with _ | ⟨i, _ | ⟨j, others⟩⟩
    · rw [hmembers] at hma
      cases hma
    · rw [hmembers] at hma hmb
      exact hne ((List.mem_singleton.mp hma).trans (List.mem_singleton.mp hmb).symm)
    · rw [hmembers, List.length_cons, List.length_cons] at hshort
      omega
  have hlt (i : Nat) (hi : i ∈ membersOf labels cluster) : i < features.length :=
    hlength ▸ (List.getElem?_eq_some_iff.mp (mem_membersOf.mp hi)).1
  obtain ⟨found, hfound, hcount⟩ := mapM_getElem? hlt
  obtain ⟨sub, hsub, hsides⟩ := kmeansSplit_spec (A := A) (B := B) hcount hne hma hmb
  refine ⟨sub, ?_, hsides⟩
  simp only [cannotLink, hla, hlb, hfound, hsub, if_neg htwo]
  rw [if_neg (by omega)]

/-- Nothing is split. -/
theorem cannotLink_of_not_splits {link : Nat × Nat} (h : ¬Splits labels link) :
    cannotLink A B features labels link = some labels := by
  simp only [cannotLink]
  split
  · next la lb hla hlb =>
    refine if_pos ?_
    by_contra hsplit
    obtain ⟨heq, hpos⟩ : la = lb ∧ 0 ≤ la := by omega
    subst heq
    have ha : clusterOf labels link.1 = some la := clusterOf_eq_some.mpr ⟨hla, hpos⟩
    have hb : clusterOf labels link.2 = some la := clusterOf_eq_some.mpr ⟨hlb, hpos⟩
    exact h ⟨by simp [ha], ha.trans hb.symm⟩
  · rfl

/-- **One cannot-link** takes its pair apart; points of other clusters stay as they are. -/
theorem cannotLink_spec {link : Nat × Nat} (hlength : features.length = labels.length)
    (hne : link.1 ≠ link.2) (hroom : Splits labels link → HasRoom labels) :
    ∃ after, cannotLink A B features labels link = some after ∧ Refines labels after ∧
      (link ∈ activeLinks labels [link] → clusterOf after link.1 ≠ clusterOf after link.2) ∧
      ∀ i, ¬(clusters labels i link.1 ∧ clusters labels i link.2) → after[i]? = labels[i]? := by
  by_cases hsplits : Splits labels link
  · obtain ⟨cluster, ha⟩ := Option.ne_none_iff_exists'.mp hsplits.1
    have hb : clusterOf labels link.2 = some cluster := hsplits.2 ▸ ha
    obtain ⟨sub, hafter, x, y, hx, hy, hxy⟩ :=
      cannotLink_of_splits (A := A) (B := B) hlength hne ha hb
    obtain ⟨hrefines, hapart, hothers⟩ := labelSecond_spec ha (hroom hsplits) hx hy hxy rfl
    refine ⟨_, hafter, hrefines, fun _ => hapart, fun i hi => hothers i fun hcluster => ?_⟩
    exact hi ⟨classes_of_eq hcluster ha, classes_of_eq hcluster hb⟩
  · exact ⟨labels, cannotLink_of_not_splits hsplits, Refines.refl labels,
      fun hactive heq => hsplits ⟨hactive.2.1, heq⟩, fun i _ => rfl⟩

/-- **The cannot-links** take their pairs apart; clusters without such a pair stay as they are. -/
theorem applyCannotLinkConstraints_spec {links : List (Nat × Nat)}
    (hlength : features.length = labels.length) (hne : ∀ link ∈ links, link.1 ≠ link.2)
    (hroom : RangeSuffices A B features labels links) :
    ∃ after, applyCannotLinkConstraints A B features labels links = some after ∧
      Refines labels after ∧
      (∀ link ∈ activeLinks labels links, clusterOf after link.1 ≠ clusterOf after link.2) ∧
      ∀ i, (∀ link ∈ links, ¬(clusters labels i link.1 ∧ clusters labels i link.2)) →
        after[i]? = labels[i]? := by
  simp only [applyCannotLinkConstraints]
  induction links generalizing labels with
  | nil => exact ⟨labels, rfl, Refines.refl labels, fun link hlink =>
      absurd hlink.1 List.not_mem_nil, fun _ _ => rfl⟩
  | cons link links ih =>
    obtain ⟨middle, hmiddle, hrefines, hapart, hothers⟩ :=
      cannotLink_spec (A := A) (B := B) hlength (hne link List.mem_cons_self) hroom.1
    obtain ⟨after, hafter, hrefines', haparts, hothers'⟩ :=
      ih (hlength.trans hrefines.length.symm)
        (fun other hother => hne other (List.mem_cons_of_mem _ hother)) (hroom.2 middle hmiddle)
    refine ⟨after, ?_, hrefines.trans hrefines', ?_, ?_⟩
    · rw [List.foldlM_cons, hmiddle]
      exact hafter
    · rintro other ⟨hother, ha, hb⟩
      rcases List.mem_cons.mp hother with rfl | hother
      · intro heq
        -- what has been taken apart stays apart
        have hmid := hapart ⟨List.mem_singleton_self _, ha, hb⟩
        have hrel := hrefines'.clusters
          (.inr ⟨hrefines'.clustered _ (hrefines.clustered _ ha), heq⟩)
        rcases hrel with hsame | ⟨-, hsame⟩
        · exact hne other List.mem_cons_self hsame
        · exact hmid hsame
      · exact haparts other ⟨hother, hrefines.clustered _ ha, hrefines.clustered _ hb⟩
    · intro i hi
      refine (hothers' i fun other hother hboth => ?_).trans
        (hothers i (hi link List.mem_cons_self))
      exact hi other (List.mem_cons_of_mem _ hother)
        ⟨hrefines.clusters hboth.1, hrefines.clusters hboth.2⟩

end

/-! ## The results -/

/-- **Each link pass alone.**  The must-links give the finest coarsening of the clusters that puts
    each pair together, whatever their order.  After the cannot-links every pair is apart and the
    clusters are finer than before.  Noise stays noise in both. -/
theorem link_passes_exact (A : Arithmetic F) (B : Doubles F D) (labels : List Int)
    (mustLinks : List (Nat × Nat)) :
    (IsLeast (Joins (clusters labels) (activeLinks labels mustLinks))
        (clusters (applyMustLinkConstraints labels mustLinks)) ∧
      (∀ others : List (Nat × Nat), (∀ link, link ∈ others ↔ link ∈ mustLinks) →
        clusters (applyMustLinkConstraints labels others) =
          clusters (applyMustLinkConstraints labels mustLinks)) ∧
      ∀ i, clusterOf labels i = none →
        (applyMustLinkConstraints labels mustLinks)[i]? = labels[i]?) ∧
    ∀ (features : List (RegimeFeatures F)) (cannotLinks : List (Nat × Nat)),
      features.length = labels.length → (∀ link ∈ cannotLinks, link.1 ≠ link.2) →
      RangeSuffices A B features labels cannotLinks →
        ∃ after, applyCannotLinkConstraints A B features labels cannotLinks = some after ∧
          (∀ link ∈ activeLinks labels cannotLinks,
            clusterOf after link.1 ≠ clusterOf after link.2) ∧
          clusters after ≤ clusters labels ∧
          ∀ i, clusterOf labels i = none → after[i]? = labels[i]? := by
  refine ⟨⟨applyMustLinkConstraints_clusters labels mustLinks, fun others hothers => ?_,
    fun i => (applyMustLinkConstraints_noise labels mustLinks i).2⟩,
    fun features cannotLinks hlength hne hroom => ?_⟩
  · have hactive : activeLinks labels others = activeLinks labels mustLinks := by
      ext link
      simp only [activeLinks, Set.mem_ofPred_eq, hothers]
    have hleast := applyMustLinkConstraints_clusters labels others
    rw [hactive] at hleast
    exact hleast.unique (applyMustLinkConstraints_clusters labels mustLinks)
  · obtain ⟨after, hafter, hrefines, hapart, -⟩ :=
      applyCannotLinkConstraints_spec hlength hne hroom
    exact ⟨after, hafter, hapart, hrefines.clusters, hrefines.noise⟩

/-- Whole numbers, where squares stand for their roots. -/
def wholeNumbers : Arithmetic Int where
  zero := 0
  half := 0
  infinity := 1000000
  negInfinity := -1000000
  epsilon := 0
  ofNat := Int.ofNat
  decimal := fun numerator denominator => numerator / denominator
  add := (· + ·)
  sub := (· - ·)
  mul := (· * ·)
  div := (· / ·)
  sqrt := id
  max := max
  lt := fun a b => decide (a < b)
  eq := fun a b => decide (a = b)

/-- The same numbers again. -/
def wholeDoubles : Doubles Int Int := ⟨id, id, 0, Int.ofNat, (· + ·), (· / ·)⟩

/-- A point that is coding, or is not. -/
def codingPoint (coding : Int) : RegimeFeatures Int := ⟨coding, 0, 0, 0, 0, 0, 0⟩

/-- One point, and two that are the same. -/
def onePointAndTwo : List (RegimeFeatures Int) := [codingPoint 0, codingPoint 1, codingPoint 1]

theorem link_passes_three :
    (IsLeast (Joins (clusters [0, 0, 1]) (activeLinks [0, 0, 1] [(0, 2)]))
        (clusters (applyMustLinkConstraints [0, 0, 1] [(0, 2)]))) ∧
      ∃ after, applyCannotLinkConstraints wholeNumbers wholeDoubles onePointAndTwo [0, 0, 1]
          [(0, 1)] = some after ∧
        (∀ link ∈ activeLinks [0, 0, 1] [(0, 1)],
          clusterOf after link.1 ≠ clusterOf after link.2) ∧
        clusters after ≤ clusters [0, 0, 1] ∧
        ∀ i, clusterOf [0, 0, 1] i = none → after[i]? = ([0, 0, 1] : List Int)[i]? := by
  have hboth := link_passes_exact wholeNumbers wholeDoubles [0, 0, 1] [(0, 2)]
  exact ⟨hboth.1.1, hboth.2 onePointAndTwo [(0, 1)] rfl (by decide)
    ⟨fun _ label hlabel => by revert label; decide, fun _ _ => trivial⟩⟩

end Oneshim.Clustering
