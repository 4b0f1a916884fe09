/-
  The regimes of the user (`oneshim-analysis/src/regime_manager.rs`).

  A detection is taken in regime by regime: one that is close to an active regime is added to it, any
  other is pushed with the id the detection has given it.  Then similar small regimes are merged, and
  the closest ones while there are too many.  Everything else finds a regime by its id.

  1. **Code** — over the arithmetic of the detector; loops that end because every round takes a
     regime away count the regimes as their fuel.

  2. **Merging** (`Ids.mergePair`) — two regimes go, one of the two ids comes back.

  3. **The result** (`regime_ids_unique`) — ids stay unique as long as every regime that is pushed
     has an id no regime has; a second detection numbers its clusters from zero again, so it need not
     be so (`second_detection_reuses_id`).
-/
import Mathlib.Algebra.Order.Group.Int
import Mathlib.Data.List.Perm.Basic
import Oneshim.Analysis.RegimeDetector
import Oneshim.Lib.Calls

namespace Oneshim.Regimes

open Lib (Along states states_invariant)

variable {F : Type} (A : Arithmetic F)

/-! ## Code -/

/-- `partial_cmp(..).unwrap_or(Equal)`. -/
def partialCmp (a b : F) : Ordering :=
  if A.lt a b then .lt else if A.lt b a then .gt else .eq

/-- `weighted_centroid`. -/
def weightedCentroid (a : RegimeFeatures F) (countA : Nat) (b : RegimeFeatures F) (countB : Nat) :
    RegimeFeatures F :=
  let total := A.ofNat (countA + countB)
  if A.eq total A.zero then a
  else
    let wa := A.div (A.ofNat countA) total
    let wb := A.div (A.ofNat countB) total
    .fromArray fun d => A.add (A.mul (a.toArray d) wa) (A.mul (b.toArray d) wb)

/-- `RegimeManager`. -/
structure RegimeManager (F : Type) where
  regimes : List (Regime F)
  maxActive : Nat
  inactiveDays : Nat
  archiveDays : Nat
  mergeDistanceThreshold : F
  minSamplesForMerge : Nat

namespace RegimeManager

/-- `with_params`. -/
def withParams (maxActive inactiveDays archiveDays : Nat) (mergeDistanceThreshold : F)
    (minSamplesForMerge : Nat) : RegimeManager F :=
  ⟨[], maxActive, inactiveDays, archiveDays, mergeDistanceThreshold, minSamplesForMerge⟩

/-- `RegimeManager::new`. -/
def new : RegimeManager F :=
  withParams 7 14 30 (A.decimal 3 10) 100

/-- The closest active regime, the first of several, with its index. -/
def bestMatch (self : RegimeManager F) (det : Regime F) : Option (Nat × F) :=
  match self.regimes.zipIdx.filter fun r => r.1.status = .active with
  | [] => none
  | first :: rest =>
    let best := rest.foldl (fun best r =>
      if partialCmp A (euclideanDistance A best.1.centroid det.centroid)
        (euclideanDistance A r.1.centroid det.centroid) = .gt then r else best) first
    some (best.2, euclideanDistance A best.1.centroid det.centroid)

/-- The index of the active regime a detected one is added to. -/
def closeMatch (self : RegimeManager F) (det : Regime F) : Option Nat :=
  match self.bestMatch A det with
  | some (idx, dist) => if A.lt dist self.mergeDistanceThreshold then some idx else none
  | none => none

/-- A detected regime added to an existing one. -/
def absorb (existing det : Regime F) : Regime F :=
  let centroid := weightedCentroid A existing.centroid existing.sampleCount det.centroid
    det.sampleCount
  { existing with
    centroid := centroid
    sampleCount := existing.sampleCount + det.sampleCount
    lastSeen := det.lastSeen
    autoLabel := generateAutoLabel A centroid [] }

/-- One round of the loop over the detected regimes. -/
def takeIn (self : RegimeManager F) (det : Regime F) : RegimeManager F :=
  match self.closeMatch A det with
  | some idx => { self with regimes := self.regimes.modify idx (absorb A · det) }
  | none => { self with regimes := self.regimes ++ [det] }

/-- The indices of the active regimes. -/
def activeIndices (self : RegimeManager F) : List Nat :=
  (self.regimes.zipIdx.filter fun r => r.1.status = .active).map (·.2)

/-- The pairs of two nested loops, the second one over what comes after. -/
def pairs : List Nat → List (Nat × Nat)
  | [] => []
  | i :: rest => rest.map (fun j => (i, j)) ++ pairs rest

/-- Whether two regimes are small and close to each other. -/
def mergeable (self : RegimeManager F) (ri rj : Regime F) : Bool :=
  ri.sampleCount < self.minSamplesForMerge && rj.sampleCount < self.minSamplesForMerge &&
    A.lt (euclideanDistance A ri.centroid rj.centroid) self.mergeDistanceThreshold

/-- `find_mergeable_pair`. -/
def findMergeablePair (self : RegimeManager F) : Option (Nat × Nat) :=
  (pairs self.activeIndices).find? fun p =>
    match self.regimes[p.1]?, self.regimes[p.2]? with
    | some ri, some rj => self.mergeable A ri rj
    | _, _ => false

/-- `find_closest_active_pair`. -/
def findClosestActivePair (self : RegimeManager F) : Option (Nat × Nat) :=
  ((pairs self.activeIndices).foldl (fun (best : Option (Nat × Nat × F)) p =>
    match self.regimes[p.1]?, self.regimes[p.2]? with
    | some ri, some rj =>
      let d := euclideanDistance A ri.centroid rj.centroid
      match best with
      | none => some (p.1, p.2, d)
      | some b => if A.lt d b.2.2 then some (p.1, p.2, d) else best
    | _, _ => best) none).map fun b => (b.1, b.2.1)

/-- `merge_two`. -/
def mergeTwo (a b : Regime F) : Regime F :=
  let larger := if b.sampleCount ≤ a.sampleCount then a else b
  let centroid := weightedCentroid A a.centroid a.sampleCount b.centroid b.sampleCount
  { regimeId := larger.regimeId
    name := a.name.or b.name
    autoLabel := generateAutoLabel A centroid []
    centroid := centroid
    sampleCount := a.sampleCount + b.sampleCount
    firstSeen := min a.firstSeen b.firstSeen
    lastSeen := max a.lastSeen b.lastSeen
    status := .active }

/-- Two regimes are removed, the higher index first, and what they merge into is pushed. -/
def mergePair (self : RegimeManager F) (i j : Nat) : RegimeManager F :=
  match self.regimes[i]?, self.regimes[j]? with
  | some a, some b =>
    let (lo, hi) := if i < j then (i, j) else (j, i)
    { self with regimes := (self.regimes.eraseIdx hi).eraseIdx lo ++ [mergeTwo A a b] }
  | _, _ => self

/-- The loops: as long as a pair is chosen, it is merged. -/
def mergeRounds (choose : RegimeManager F → Option (Nat × Nat)) :
    (rounds : Nat) → RegimeManager F → RegimeManager F
  | 0, self => self
  | rounds + 1, self =>
    match choose self with
    | some (i, j) => mergeRounds choose rounds (self.mergePair A i j)
    | none => self

/-- `merge_similar_small_regimes`. -/
def mergeSimilarSmallRegimes (self : RegimeManager F) : RegimeManager F :=
  mergeRounds A (findMergeablePair A) self.regimes.length self

/-- `active_count`. -/
def activeCount (self : RegimeManager F) : Nat :=
  self.regimes.countP fun r => r.status = .active

/-- The pair that `enforce_max_active` merges, as long as the limit is exceeded. -/
def pairOverLimit (self : RegimeManager F) : Option (Nat × Nat) :=
  if self.maxActive < self.activeCount then self.findClosestActivePair A else none

/-- `enforce_max_active`. -/
def enforceMaxActive (self : RegimeManager F) : RegimeManager F :=
  mergeRounds A (pairOverLimit A) self.regimes.length self

/-- `update_from_detection`. -/
def updateFromDetection (self : RegimeManager F) (detected : List (Regime F)) : RegimeManager F :=
  ((detected.foldl (takeIn A) self).mergeSimilarSmallRegimes A).enforceMaxActive A

/-- The first regime of this id, changed. -/
def updateFirst (regimeId : String) (f : Regime F → Regime F) : List (Regime F) → List (Regime F)
  | [] => []
  | r :: rest => if r.regimeId = regimeId then f r :: rest else r :: updateFirst regimeId f rest

/-- `mark_seen`. -/
def markSeen (self : RegimeManager F) (regimeId : String) (timestamp : Int) : RegimeManager F :=
  { self with
    regimes := updateFirst regimeId (fun r => { r with lastSeen := timestamp }) self.regimes }

/-- A day in nanoseconds. -/
def day : Int := 86400000000000

/-- `run_maintenance`. -/
def runMaintenance (self : RegimeManager F) (now : Int) : RegimeManager F :=
  let inactiveCutoff := now - self.inactiveDays * day
  let archiveCutoff := now - self.archiveDays * day
  { self with
    regimes := self.regimes.map fun regime =>
      match regime.status with
      | .active => if regime.lastSeen < inactiveCutoff then { regime with status := .inactive }
        else regime
      | .inactive => if regime.lastSeen < archiveCutoff then { regime with status := .archived }
        else regime
      | .archived => regime }

/-- `rename`. -/
def rename (self : RegimeManager F) (regimeId name : String) : RegimeManager F :=
  { self with
    regimes := updateFirst regimeId (fun r => { r with name := some name }) self.regimes }

/-- `delete`. -/
def delete (self : RegimeManager F) (regimeId : String) : RegimeManager F :=
  { self with regimes := self.regimes.filter fun r => r.regimeId != regimeId }

/-- `merge`. -/
def merge (self : RegimeManager F) (regimeIdA regimeIdB : String) : RegimeManager F :=
  match self.regimes.findIdx? (·.regimeId == regimeIdA),
      self.regimes.findIdx? (·.regimeId == regimeIdB) with
  | some i, some j => if i ≠ j then self.mergePair A i j else self
  | _, _ => self

end RegimeManager

/-- What is done to the manager.  Detections come from the detector or from the facade. -/
inductive Operation (F : Type) where
  | detect (detector : RegimeDetector F) (features : List (RegimeFeatures F)) (now : Int)
  | analyse (rank : Int → Nat) (result : ClusteringResult F) (features : List (RegimeFeatures F))
      (now : Int)
  | rename (regimeId name : String)
  | delete (regimeId : String)
  | merge (regimeIdA regimeIdB : String)
  | markSeen (regimeId : String) (timestamp : Int)
  | runMaintenance (now : Int)

namespace Operation

/-- The regimes an operation takes in. -/
def detected : Operation F → List (Regime F)
  | .detect detector features now => detector.detect A features now
  | .analyse rank result features now => buildRegimes A rank result features now
  | _ => []

end Operation

/-- One operation. -/
def step (self : RegimeManager F) : Operation F → RegimeManager F
  | .detect detector features now => self.updateFromDetection A (detector.detect A features now)
  | .analyse rank result features now =>
    self.updateFromDetection A (buildRegimes A rank result features now)
  | .rename regimeId name => self.rename regimeId name
  | .delete regimeId => self.delete regimeId
  | .merge regimeIdA regimeIdB => self.merge A regimeIdA regimeIdB
  | .markSeen regimeId timestamp => self.markSeen regimeId timestamp
  | .runMaintenance now => self.runMaintenance now

/-! ## What the operations do to the ids -/

namespace RegimeManager

/-- The ids, in the order of the regimes. -/
def ids (self : RegimeManager F) : List String :=
  self.regimes.map (·.regimeId)

variable {A}

theorem ids_modify {f : Regime F → Regime F} (hf : ∀ r, (f r).regimeId = r.regimeId)
    (regimes : List (Regime F)) (i : Nat) :
    (regimes.modify i f).map (·.regimeId) = regimes.map (·.regimeId) := by
  induction regimes generalizing i with
  | nil => simp
  | cons r rest ih =>
    cases i with
    | zero => simp [hf]
    | succ i => simp [ih]

theorem ids_updateFirst {f : Regime F → Regime F} (hf : ∀ r, (f r).regimeId = r.regimeId)
    (regimeId : String) (regimes : List (Regime F)) :
    (updateFirst regimeId f regimes).map (·.regimeId) = regimes.map (·.regimeId) := by
  induction regimes with
  | nil => rfl
  | cons r rest ih =>
    simp only [updateFirst]
    split
    · simp only [List.map_cons, hf]
    · simp only [List.map_cons, ih]

@[simp] theorem ids_markSeen (self : RegimeManager F) (regimeId : String) (timestamp : Int) :
    (self.markSeen regimeId timestamp).ids = self.ids := by
  simp only [ids, markSeen]
  apply ids_updateFirst
  intro r
  rfl

@[simp] theorem ids_rename (self : RegimeManager F) (regimeId name : String) :
    (self.rename regimeId name).ids = self.ids := by
  simp only [ids, rename]
  apply ids_updateFirst
  intro r
  rfl

@[simp] theorem ids_runMaintenance (self : RegimeManager F) (now : Int) :
    (self.runMaintenance now).ids = self.ids := by
  simp only [ids, runMaintenance, List.map_map]
  refine List.map_congr_left fun r _ => ?_
  simp only [Function.comp_apply]
  split
  · split <;> rfl
  · split <;> rfl
  · rfl

variable {self : RegimeManager F}

theorem ids_delete_nodup (h : self.ids.Nodup) (regimeId : String) :
    (self.delete regimeId).ids.Nodup :=
  h.sublist (List.filter_sublist.map _)

/-! ### Merging -/

/-- Two elements and what is left without them are the list. -/
theorem perm_eraseIdx_eraseIdx {α : Type} {l : List α} {lo hi : Nat} {a b : α} (hlt : lo < hi)
    (ha : l[lo]? = some a) (hb : l[hi]? = some b) :
    (a :: b :: (l.eraseIdx hi).eraseIdx lo).Perm l := by
  obtain ⟨hhi, rfl⟩ := List.getElem?_eq_some_iff.mp hb
  have ha' : (l.eraseIdx hi)[lo]? = some a := by
    rw [List.getElem?_eraseIdx_of_lt hlt, ha]
  obtain ⟨hlo, rfl⟩ := List.getElem?_eq_some_iff.mp ha'
  have hfirst := (List.getElem_cons_eraseIdx_perm hlo).cons l[hi]
  have hsecond := List.getElem_cons_eraseIdx_perm hhi
  exact (List.Perm.swap _ _ _).trans (hfirst.trans hsecond)

/-- **Merging.**  Two regimes go and what they merge into comes, under the id of one of them. -/
theorem mergePair_of_some {i j : Nat} {a b : Regime F} (hne : i ≠ j)
    (ha : self.regimes[i]? = some a) (hb : self.regimes[j]? = some b) :
    ∃ rest merged, (a :: b :: rest).Perm self.regimes ∧
      (merged.regimeId = a.regimeId ∨ merged.regimeId = b.regimeId) ∧
      self.mergePair A i j = { self with regimes := rest ++ [merged] } := by
  have hid : (mergeTwo A a b).regimeId = a.regimeId ∨ (mergeTwo A a b).regimeId = b.regimeId := by
    simp only [mergeTwo]
    split
    · exact .inl rfl
    · exact .inr rfl
  by_cases hlt : i < j
  · exact ⟨_, _, perm_eraseIdx_eraseIdx hlt ha hb, hid,
      by simp only [mergePair, ha, hb, if_pos hlt]⟩
  · have hgt : j < i := by omega
    have hperm := (List.Perm.swap b a _).trans (perm_eraseIdx_eraseIdx hgt hb ha)
    exact ⟨_, _, hperm, hid, by simp only [mergePair, ha, hb, if_neg hlt]⟩

/-- Two places of the regimes. -/
def IsPair (self : RegimeManager F) (p : Nat × Nat) : Prop :=
  p.1 ≠ p.2 ∧ p.1 < self.regimes.length ∧ p.2 < self.regimes.length

/-- Merging two regimes repeats no id. -/
theorem mergePair_ids_nodup (h : self.ids.Nodup) {i j : Nat} (hpair : self.IsPair (i, j)) :
    (self.mergePair A i j).ids.Nodup := by
  obtain ⟨hne, hi, hj⟩ := hpair
  obtain ⟨rest, merged, hperm, hid, hs⟩ := mergePair_of_some (A := A) hne
    (List.getElem?_eq_getElem hi) (List.getElem?_eq_getElem hj)
  generalize self.regimes[i] = a, self.regimes[j] = b at hperm hid
  have hids : (a.regimeId :: b.regimeId :: rest.map (·.regimeId)).Nodup :=
    (hperm.map Regime.regimeId).nodup_iff.mpr h
  obtain ⟨ha, hids⟩ := List.nodup_cons.mp hids
  obtain ⟨hb, hrest⟩ := List.nodup_cons.mp hids
  have hfresh : merged.regimeId ∉ rest.map (·.regimeId) := by
    rcases hid with hid | hid <;> rw [hid]
    · exact fun hmem => ha (List.mem_cons_of_mem _ hmem)
    · exact hb
  rw [hs, ids, List.map_append, List.map_singleton, List.nodup_append]
  refine ⟨hrest, List.nodup_singleton _, fun id hmem id' hid' => ?_⟩
  rw [List.mem_singleton.mp hid']
  exact fun heq => hfresh (heq ▸ hmem)

/-- Every merge takes a regime away. -/
theorem mergePair_length {i j : Nat} (hpair : self.IsPair (i, j)) :
    (self.mergePair A i j).regimes.length + 1 = self.regimes.length := by
  obtain ⟨hne, hi, hj⟩ := hpair
  obtain ⟨rest, merged, hperm, -, hs⟩ := mergePair_of_some (A := A) hne
    (List.getElem?_eq_getElem hi) (List.getElem?_eq_getElem hj)
  rw [hs, ← hperm.length_eq, List.length_append]
  rfl

/-! ### Finding pairs -/

theorem ne_of_mem_pairs {l : List Nat} (h : l.Nodup) {p : Nat × Nat} (hp : p ∈ pairs l) :
    p.1 ≠ p.2 ∧ p.1 ∈ l ∧ p.2 ∈ l := by
  induction l with
  | nil => cases hp
  | cons i rest ih =>
    obtain ⟨hi, hrest⟩ := List.nodup_cons.mp h
    rcases List.mem_append.mp hp with hfirst | hlater
    · obtain ⟨j, hj, rfl⟩ := List.mem_map.mp hfirst
      have hne : i ≠ j := fun heq => hi (heq ▸ hj)
      exact ⟨hne, List.mem_cons_self, List.mem_cons_of_mem _ hj⟩
    · obtain ⟨hne, h1, h2⟩ := ih hrest hlater
      exact ⟨hne, List.mem_cons_of_mem _ h1, List.mem_cons_of_mem _ h2⟩

theorem activeIndices_nodup (self : RegimeManager F) : self.activeIndices.Nodup := by
  have hindices : (self.regimes.zipIdx.map (·.2)).Nodup := by
    rw [List.zipIdx_map_snd]
    exact List.nodup_range'
  exact hindices.sublist (List.filter_sublist.map _)

theorem lt_of_mem_activeIndices {i : Nat} (h : i ∈ self.activeIndices) :
    i < self.regimes.length := by
  obtain ⟨r, hr, rfl⟩ := List.mem_map.mp h
  have hmem := (List.mem_filter.mp hr).1
  exact (List.getElem?_eq_some_iff.mp (List.mk_mem_zipIdx_iff_getElem?.mp hmem)).1

theorem isPair_of_mem {p : Nat × Nat} (hp : p ∈ pairs self.activeIndices) : self.IsPair p := by
  obtain ⟨hne, h1, h2⟩ := ne_of_mem_pairs self.activeIndices_nodup hp
  exact ⟨hne, lt_of_mem_activeIndices h1, lt_of_mem_activeIndices h2⟩

/-- Pairs are chosen among the active regimes. -/
def Chooses (choose : RegimeManager F → Option (Nat × Nat)) : Prop :=
  ∀ self p, choose self = some p → p ∈ pairs self.activeIndices

theorem chooses_mergeable : Chooses (findMergeablePair A) := fun _ _ h => List.mem_of_find?_eq_some h

/-- The closest pair is one of those that are looked at. -/
theorem mem_of_findClosestActivePair {p : Nat × Nat} (h : self.findClosestActivePair A = some p) :
    p ∈ pairs self.activeIndices := by
  obtain ⟨b, hb, rfl⟩ := Option.map_eq_some_iff.mp h
  -- the best pair so far is one of those looked at
  refine List.foldlRecOn (motive := fun best => ∀ b, best = some b →
    (b.1, b.2.1) ∈ pairs self.activeIndices) (pairs self.activeIndices) _ (fun b hb => by cases hb)
    ?_ b hb
  intro best hbest q hq b hb
  split at hb
  · split at hb
    · cases hb
      exact hq
    · dsimp only at hb
      split at hb
      · cases hb
        exact hq
      · exact hbest b hb
  · exact hbest b hb

theorem chooses_overLimit : Chooses (pairOverLimit A) := by
  intro self p h
  unfold pairOverLimit at h
  split at h
  · exact mem_of_findClosestActivePair h
  · cases h

/-! ### The loops -/

section

variable {choose : RegimeManager F → Option (Nat × Nat)}

theorem mergeRounds_ids_nodup (hchoose : Chooses choose) (h : self.ids.Nodup) (rounds : Nat) :
    (mergeRounds A choose rounds self).ids.Nodup := by
  induction rounds generalizing self with
  | zero => exact h
  | succ rounds ih =>
    simp only [mergeRounds]
    split
    · next hpair => exact ih (mergePair_ids_nodup h (isPair_of_mem (hchoose _ _ hpair)))
    · exact h

/-- As many rounds as there are regimes are enough: no pair is left to merge. -/
theorem mergeRounds_done (hchoose : Chooses choose) {rounds : Nat}
    (hlength : self.regimes.length ≤ rounds) :
    choose (mergeRounds A choose rounds self) = none := by
  induction rounds generalizing self with
  | zero =>
    have hempty := List.length_eq_zero_iff.mp (Nat.le_zero.mp hlength)
    refine Option.eq_none_iff_forall_ne_some.mpr fun p hp => ?_
    have hin := hchoose _ _ hp
    simp [mergeRounds, activeIndices, hempty, pairs] at hin
  | succ rounds ih =>
    simp only [mergeRounds]
    split
    · next hpair =>
      have hshorter := mergePair_length (A := A) (isPair_of_mem (hchoose _ _ hpair))
      exact ih (by omega)
    · next hnone => exact hnone

end

theorem mergeSimilarSmallRegimes_done (self : RegimeManager F) :
    (self.mergeSimilarSmallRegimes A).findMergeablePair A = none :=
  mergeRounds_done chooses_mergeable (Nat.le_refl _)

/-- The limit is kept, unless there are no two to merge. -/
theorem enforceMaxActive_done (self : RegimeManager F) :
    (self.enforceMaxActive A).activeCount ≤ (self.enforceMaxActive A).maxActive ∨
      (self.enforceMaxActive A).findClosestActivePair A = none := by
  have hdone : (self.enforceMaxActive A).pairOverLimit A = none :=
    mergeRounds_done chooses_overLimit (Nat.le_refl _)
  unfold pairOverLimit at hdone
  split at hdone
  · exact .inr hdone
  · next hlimit => exact .inl (Nat.le_of_not_lt hlimit)

/-! ## Pushed regimes -/

/-- Every detected regime that no active one is close to has an id that no regime has. -/
def PushesFresh (A : Arithmetic F) (self : RegimeManager F) : List (Regime F) → Prop
  | [] => True
  | det :: rest =>
    (self.closeMatch A det = none → det.regimeId ∉ self.ids) ∧ (self.takeIn A det).PushesFresh A rest

/-- A detected regime changes no id, or its own comes last. -/
theorem ids_takeIn (self : RegimeManager F) (det : Regime F) :
    (self.takeIn A det).ids =
      if self.closeMatch A det = none then self.ids ++ [det.regimeId] else self.ids := by
  simp only [takeIn]
  cases self.closeMatch A det with
  | none => simp [ids]
  | some idx =>
    simp only [ids, reduceCtorEq, if_false]
    apply ids_modify
    intro r
    rfl

theorem takeIn_ids_nodup_iff (h : self.ids.Nodup) (det : Regime F) :
    (self.takeIn A det).ids.Nodup ↔ (self.closeMatch A det = none → det.regimeId ∉ self.ids) := by
  rw [ids_takeIn]
  split
  · next hnone =>
    rw [List.nodup_append]
    simp only [h, List.nodup_cons, List.not_mem_nil, not_false_eq_true, List.nodup_nil, true_and,
      List.mem_singleton, forall_eq, hnone, forall_const, and_self]
    exact ⟨fun hall hmem => hall _ hmem rfl, fun hfresh id hmem heq => hfresh (heq ▸ hmem)⟩
  · next hsome => exact ⟨fun _ hnone => absurd hnone hsome, fun _ => h⟩

theorem ids_sublist_foldl_takeIn (detected : List (Regime F)) (self : RegimeManager F) :
    self.ids.Sublist (detected.foldl (takeIn A) self).ids := by
  induction detected generalizing self with
  | nil => exact List.Sublist.refl _
  | cons det rest ih =>
    refine List.Sublist.trans ?_ (ih (self.takeIn A det))
    rw [ids_takeIn]
    split
    · exact List.sublist_append_left _ _
    · exact List.Sublist.refl _

/-- Before anything is merged, what is pushed decides whether the ids are still unique. -/
theorem foldl_takeIn_ids_nodup_iff (h : self.ids.Nodup) (detected : List (Regime F)) :
    (detected.foldl (takeIn A) self).ids.Nodup ↔ self.PushesFresh A detected := by
  induction detected generalizing self with
  | nil => exact ⟨fun _ => trivial, fun _ => h⟩
  | cons det rest ih =>
    simp only [List.foldl_cons, PushesFresh]
    by_cases hstep : (self.takeIn A det).ids.Nodup
    · rw [ih hstep, ← takeIn_ids_nodup_iff h det]
      exact ⟨fun hrest => ⟨hstep, hrest⟩, fun hboth => hboth.2⟩
    · have hlost : ¬ (rest.foldl (takeIn A) (self.takeIn A det)).ids.Nodup :=
        fun hall => hstep (hall.sublist (ids_sublist_foldl_takeIn rest (self.takeIn A det)))
      rw [← takeIn_ids_nodup_iff h det]
      exact ⟨fun hall => absurd hall hlost, fun hboth => absurd hboth.1 hstep⟩

/-- Deciding it regime by regime. -/
def decidePushesFresh (A : Arithmetic F) : (self : RegimeManager F) → (detected : List (Regime F)) →
    Decidable (self.PushesFresh A detected)
  | _, [] => .isTrue trivial
  | self, det :: rest =>
    have := decidePushesFresh A (self.takeIn A det) rest
    inferInstanceAs (Decidable (_ ∧ _))

instance (self : RegimeManager F) (detected : List (Regime F)) :
    Decidable (self.PushesFresh A detected) :=
  decidePushesFresh A self detected

theorem updateFromDetection_ids_nodup (h : self.ids.Nodup) {detected : List (Regime F)}
    (hfresh : self.PushesFresh A detected) :
    (self.updateFromDetection A detected).ids.Nodup :=
  mergeRounds_ids_nodup chooses_overLimit (mergeRounds_ids_nodup chooses_mergeable
    ((foldl_takeIn_ids_nodup_iff h detected).mpr hfresh) _) _

theorem merge_ids_nodup (h : self.ids.Nodup) (regimeIdA regimeIdB : String) :
    (self.merge A regimeIdA regimeIdB).ids.Nodup := by
  simp only [merge]
  split
  · next i j hi hj =>
    split
    · next hne =>
      have hilt := (List.findIdx?_eq_some_iff_getElem.mp hi).1
      have hjlt := (List.findIdx?_eq_some_iff_getElem.mp hj).1
      exact mergePair_ids_nodup h ⟨hne, hilt, hjlt⟩
    · exact h
  · exact h

/-- Where ids are unique, an id is the id of one regime. -/
theorem filter_id_eq (h : self.ids.Nodup) {r : Regime F} (hr : r ∈ self.regimes) :
    self.regimes.filter (·.regimeId == r.regimeId) = [r] := by
  obtain ⟨front, back, hsplit⟩ := List.append_of_mem hr
  have hids : (front.map Regime.regimeId ++ r.regimeId :: back.map Regime.regimeId).Nodup := by
    simpa only [ids, hsplit, List.map_append, List.map_cons] using h
  obtain ⟨-, hlast, hapart⟩ := List.nodup_append.mp hids
  have hfront : front.filter (·.regimeId == r.regimeId) = [] := by
    refine List.filter_eq_nil_iff.mpr fun r' hr' heq => ?_
    exact hapart _ (List.mem_map_of_mem hr') _ List.mem_cons_self (beq_iff_eq.mp heq)
  have hback : back.filter (·.regimeId == r.regimeId) = [] := by
    refine List.filter_eq_nil_iff.mpr fun r' hr' heq => ?_
    exact (List.nodup_cons.mp hlast).1 (List.mem_map.mpr ⟨r', hr', beq_iff_eq.mp heq⟩)
  simp only [hsplit, List.filter_append, hfront, hback, List.filter_cons, beq_self_eq_true, if_true,
    List.nil_append]

end RegimeManager

/-! ## The result -/

open RegimeManager (PushesFresh)

/-- **One operation.**  Only pushing a regime can give an id twice. -/
theorem step_ids_nodup (self : RegimeManager F) (op : Operation F) (h : self.ids.Nodup)
    (hfresh : self.PushesFresh A (op.detected A)) : (step A self op).ids.Nodup := by
  cases op with
  | detect detector features now => exact RegimeManager.updateFromDetection_ids_nodup h hfresh
  | analyse rank result features now =>
    exact RegimeManager.updateFromDetection_ids_nodup h hfresh
  | rename regimeId name =>
    rw [step, RegimeManager.ids_rename]
    exact h
  | delete regimeId => exact RegimeManager.ids_delete_nodup h regimeId
  | merge regimeIdA regimeIdB => exact RegimeManager.merge_ids_nodup h regimeIdA regimeIdB
  | markSeen regimeId timestamp =>
    rw [step, RegimeManager.ids_markSeen]
    exact h
  | runMaintenance now =>
    rw [step, RegimeManager.ids_runMaintenance]
    exact h

/-- **Ids stay unique** in every run from no regimes in which what a detection pushes has an id no
    regime has; every id is then the id of one regime. -/
theorem regime_ids_unique {self : RegimeManager F} (hempty : self.regimes = [])
    {ops : List (Operation F)}
    (hfresh : Along (step A) (fun s op => s.PushesFresh A (op.detected A)) self ops) :
    ∀ s ∈ states (step A) self ops, s.ids.Nodup ∧
      ∀ r ∈ s.regimes, s.regimes.filter (·.regimeId == r.regimeId) = [r] := by
  have hstart : self.ids.Nodup := by
    rw [RegimeManager.ids, hempty]
    exact List.nodup_nil
  intro s hs
  have hids : s.ids.Nodup := states_invariant (step_ids_nodup A) hstart hfresh s hs
  exact ⟨hids, fun r hr => RegimeManager.filter_id_eq hids hr⟩

/-! ## Runs -/

/-- Thousandths, rounded down. -/
def thousandths : Arithmetic Int where
  zero := 0
  half := 500
  infinity := 1000000000
  negInfinity := -1000000000
  epsilon := 0
  ofNat n := 1000 * n
  decimal n d := 1000 * n / d
  add := (· + ·)
  sub := (· - ·)
  mul x y := x * y / 1000
  div x y := x * 1000 / y
  sqrt x := Nat.sqrt (1000 * x.toNat)
  max := max
  lt x y := decide (x < y)
  eq x y := decide (x = y)

/-- The detector with four points being enough. -/
def smallDetector : RegimeDetector Int :=
  (RegimeDetector.new thousandths).withMinSamples 4

/-- Coding, at one rate and at another, two points each. -/
def codingAt (rate rate' : Int) : List (RegimeFeatures Int) :=
  [⟨1000, 0, 0, rate, 0, 0, 0⟩, ⟨1000, 0, 0, rate, 0, 0, 0⟩, ⟨1000, 0, 0, rate', 0, 0, 0⟩,
    ⟨1000, 0, 0, rate', 0, 0, 0⟩]

/-- The same rates found twice, a regime renamed, merged into the other and aged. -/
def steadyRun : List (Operation Int) :=
  [.detect smallDetector (codingAt 0 1000) 0, .rename "regime-0" "Morning",
    .detect smallDetector (codingAt 0 1000) 60, .merge "regime-0" "regime-1",
    .markSeen "regime-0" 90, .runMaintenance 5000000]

theorem regime_ids_unique_steadyRun :
    let s := steadyRun.foldl (step thousandths) (.new thousandths)
    s.ids.Nodup ∧ ∀ r ∈ s.regimes, s.regimes.filter (·.regimeId == r.regimeId) = [r] :=
  regime_ids_unique thousandths rfl (by decide +kernel) _ (Lib.foldl_mem_states _ steadyRun)

/-- A half is not close to zero or to one: the regime found there is a new one and called `regime-0`,
    like the first. -/
theorem second_detection_reuses_id :
    ¬ ∀ s ∈ states (step thousandths) (.new thousandths)
        [.detect smallDetector (codingAt 0 1000) 0, .detect smallDetector (codingAt 500 0) 60],
      s.ids.Nodup := by
  decide +kernel

end Oneshim.Regimes
