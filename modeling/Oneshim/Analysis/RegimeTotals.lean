/-
  What a detection keeps (`oneshim-analysis/src/regime_manager.rs`).

  A detection is taken in, similar small regimes are merged until there are none, and the closest
  ones while there are too many.  Through all of it regimes are taken out of one list by their
  indices and pushed at its end.

  1. **One step** (`Takes`) — so many samples come, and the regimes that are not active stay.
     Adding, pushing and merging each do this for some number of samples.

  2. **The loops** (`takes_updateFromDetection`) — steps one after another.

  3. **Names** (`lost_of_merged`) — a name is lost only where two regimes with names are merged.

  4. **The result** (`update_conserves`).
-/
import Mathlib.Algebra.GroupWithZero.Nat
import Mathlib.Algebra.Order.BigOperators.Group.List
import Mathlib.Algebra.Order.Group.Nat
import Oneshim.Analysis.RegimeManager

namespace Oneshim.Regimes

variable {F : Type} {A : Arithmetic F}

/-- The samples of some regimes. -/
def samples (regimes : List (Regime F)) : Nat := (regimes.map (·.sampleCount)).sum

theorem samples_append (a b : List (Regime F)) : samples (a ++ b) = samples a + samples b := by
  simp [samples]

theorem samples_perm {a b : List (Regime F)} (h : a.Perm b) : samples a = samples b :=
  (h.map _).sum_eq

variable {regimes : List (Regime F)}

theorem sampleCount_le_samples {r : Regime F} (h : r ∈ regimes) :
    r.sampleCount ≤ samples regimes :=
  List.single_le_sum (fun _ _ => Nat.zero_le _) _ (List.mem_map_of_mem h)

/-- The regimes that are not active, in order. -/
def dormant (regimes : List (Regime F)) : List (Regime F) :=
  regimes.filter fun r => r.status ≠ .active

/-- The names that users have given. -/
def names (regimes : List (Regime F)) : List String := regimes.filterMap (·.name)

variable {name : String}

theorem mem_names :
    name ∈ names regimes ↔ ∃ r ∈ regimes, r.name = some name := List.mem_filterMap

namespace RegimeManager

/-! ## One step -/

/-- From `before` to `after` so many samples have come; the regimes that are not active are the
    same, and the limit is. -/
structure Takes (n : Nat) (before after : RegimeManager F) : Prop where
  samples_eq : samples after.regimes = samples before.regimes + n
  dormant_eq : dormant after.regimes = dormant before.regimes
  maxActive_eq : after.maxActive = before.maxActive

theorem Takes.refl (self : RegimeManager F) : Takes 0 self self := ⟨rfl, rfl, rfl⟩

theorem Takes.trans {n m : Nat} {self next last : RegimeManager F} (h : Takes n self next)
    (h' : Takes m next last) : Takes (n + m) self last where
  samples_eq := by rw [h'.samples_eq, h.samples_eq, Nat.add_assoc]
  dormant_eq := h'.dormant_eq.trans h.dormant_eq
  maxActive_eq := h'.maxActive_eq.trans h.maxActive_eq

/-- A regime that was added to another. -/
theorem samples_modify {i : Nat} (h : i < regimes.length) (det : Regime F) :
    samples (regimes.modify i (absorb A · det)) = samples regimes + det.sampleCount := by
  induction regimes generalizing i with
  | nil => cases h
  | cons r rest ih =>
    cases i with
    | zero =>
      simp only [List.modify_zero_cons, samples, List.map_cons, List.sum_cons, absorb]
      omega
    | succ i =>
      have hrest := ih (Nat.lt_of_succ_lt_succ h)
      simp only [samples] at hrest
      simp only [List.modify_succ_cons, samples, List.map_cons, List.sum_cons, hrest]
      omega

/-- The one it was added to keeps its status. -/
theorem dormant_modify {i : Nat} {r : Regime F} (hr : regimes[i]? = some r)
    (hactive : r.status = .active) (det : Regime F) :
    dormant (regimes.modify i (absorb A · det)) = dormant regimes := by
  induction regimes generalizing i with
  | nil => cases hr
  | cons first rest ih =>
    cases i with
    | zero =>
      cases hr
      have hsame : (absorb A r det).status = .active := hactive
      simp [dormant, hactive, hsame]
    | succ i =>
      have hrest := ih hr
      unfold dormant at hrest ⊢
      rw [List.modify_succ_cons, List.filter_cons, List.filter_cons, hrest]

/-- A regime an index of which is listed as active. -/
theorem active_of_mem_zipIdx {r : Regime F × Nat}
    (h : r ∈ regimes.zipIdx.filter fun r => r.1.status = .active) :
    regimes[r.2]? = some r.1 ∧ r.1.status = .active := by
  obtain ⟨hmem, hactive⟩ := List.mem_filter.mp h
  exact ⟨List.mk_mem_zipIdx_iff_getElem?.mp hmem, of_decide_eq_true hactive⟩

variable {self : RegimeManager F}

/-- What is close is active. -/
theorem active_of_closeMatch {det : Regime F} {i : Nat} (h : self.closeMatch A det = some i) :
    ∃ r, self.regimes[i]? = some r ∧ r.status = .active := by
  unfold closeMatch at h
  cases hbest : self.bestMatch A det with
  | none =>
    rw [hbest] at h
    cases h
  | some best =>
    rw [hbest] at h
    dsimp only at h
    have hidx : best.1 = i := by
      split at h
      · exact Option.some.inj h
      · cases h
    unfold bestMatch at hbest
    cases hactive : self.regimes.zipIdx.filter fun r => r.1.status = .active with
    | nil =>
      rw [hactive] at hbest
      cases hbest
    | cons first rest =>
      rw [hactive] at hbest
      -- the best so far is one of those looked at
      have hmem : ∀ (items : List (Regime F × Nat)) (start : Regime F × Nat),
          start ∈ first :: rest → (∀ r ∈ items, r ∈ first :: rest) →
          items.foldl (fun best r =>
            if partialCmp A (euclideanDistance A best.1.centroid det.centroid)
              (euclideanDistance A r.1.centroid det.centroid) = .gt then r else best) start ∈
            first :: rest := by
        intro items start hstart hitems
        refine List.foldlRecOn (motive := (· ∈ first :: rest)) items _ hstart ?_
        intro best hbest r hr
        split
        · exact hitems r hr
        · exact hbest
      have hin := hmem rest first List.mem_cons_self fun r hr => List.mem_cons_of_mem _ hr
      rw [← hactive] at hin
      obtain ⟨hat, hstatus⟩ := active_of_mem_zipIdx hin
      cases hbest
      dsimp only at hidx
      exact ⟨_, hidx ▸ hat, hstatus⟩

/-- **A detected regime** is added to an active one or pushed. -/
theorem takes_takeIn (self : RegimeManager F) {det : Regime F} (hdet : det.status = .active) :
    Takes det.sampleCount self (self.takeIn A det) := by
  unfold takeIn
  cases hclose : self.closeMatch A det with
  | none =>
    refine ⟨?_, ?_, rfl⟩
    · rw [samples_append]
      rfl
    · simp [dormant, hdet]
  | some i =>
    obtain ⟨r, hr, hactive⟩ := active_of_closeMatch hclose
    have hlt := (List.getElem?_eq_some_iff.mp hr).1
    exact ⟨samples_modify hlt det, dormant_modify hr hactive det, rfl⟩

/-- Taking out what is not in a selection leaves the selection. -/
theorem filter_eraseIdx {α : Type} {p : α → Bool} {l : List α} {i : Nat} {x : α}
    (hx : l[i]? = some x) (hp : p x = false) : (l.eraseIdx i).filter p = l.filter p := by
  induction l generalizing i with
  | nil => cases hx
  | cons y rest ih =>
    cases i with
    | zero =>
      cases hx
      rw [List.eraseIdx_cons_zero, List.filter_cons, hp, if_neg Bool.false_ne_true]
    | succ i =>
      rw [List.eraseIdx_cons_succ, List.filter_cons, List.filter_cons, ih hx]

/-- Two active regimes, the first one with the lower index or not. -/
structure ActivePair (manager : RegimeManager F) (i j : Nat) (a b : Regime F) : Prop where
  ne : i ≠ j
  first : manager.regimes[i]? = some a
  second : manager.regimes[j]? = some b
  activeA : a.status = .active
  activeB : b.status = .active

/-- **Merging a pair**: what is left, and the merged regime. -/
theorem mergePair_eq {i j : Nat} {a b : Regime F} (h : ActivePair self i j a b) :
    ∃ rest, (a :: b :: rest).Perm self.regimes ∧ dormant rest = dormant self.regimes ∧
      self.mergePair A i j = { self with regimes := rest ++ [mergeTwo A a b] } := by
  have hnone (r : Regime F) (hr : r.status = .active) :
      decide (r.status ≠ .active) = false := by simp [hr]
  rcases Nat.lt_or_gt_of_ne h.ne with hlt | hgt
  · refine ⟨_, perm_eraseIdx_eraseIdx hlt h.first h.second, ?_, ?_⟩
    · have hlo : (self.regimes.eraseIdx j)[i]? = some a := by
        rw [List.getElem?_eraseIdx_of_lt hlt, h.first]
      exact (filter_eraseIdx hlo (hnone a h.activeA)).trans
        (filter_eraseIdx h.second (hnone b h.activeB))
    · simp only [mergePair, h.first, h.second, if_pos hlt]
  · refine ⟨_, (List.Perm.swap b a _).trans (perm_eraseIdx_eraseIdx hgt h.second h.first), ?_, ?_⟩
    · have hlo : (self.regimes.eraseIdx i)[j]? = some b := by
        rw [List.getElem?_eraseIdx_of_lt hgt, h.second]
      exact (filter_eraseIdx hlo (hnone b h.activeB)).trans
        (filter_eraseIdx h.first (hnone a h.activeA))
    · simp only [mergePair, h.first, h.second, if_neg (Nat.lt_asymm hgt)]

/-- No sample comes from merging. -/
theorem takes_mergePair {i j : Nat} {a b : Regime F} (h : ActivePair self i j a b) :
    Takes 0 self (self.mergePair A i j) := by
  obtain ⟨rest, hperm, hdormant, hs⟩ := mergePair_eq (A := A) h
  rw [hs]
  refine ⟨?_, ?_, rfl⟩
  · rw [samples_append, ← samples_perm hperm]
    simp only [samples, List.map_cons, List.map_nil, List.sum_cons, List.sum_nil, mergeTwo]
    omega
  · have hmerged : dormant [mergeTwo A a b] = [] := rfl
    show (rest ++ [mergeTwo A a b]).filter _ = _
    rw [List.filter_append]
    exact (congrArg₂ (· ++ ·) hdormant hmerged).trans (List.append_nil _)

/-- The indices that are looked at belong to active regimes. -/
theorem activePair_of_mem {p : Nat × Nat} (hp : p ∈ pairs self.activeIndices) :
    ∃ a b, ActivePair self p.1 p.2 a b := by
  obtain ⟨hne, h1, h2⟩ := ne_of_mem_pairs self.activeIndices_nodup hp
  obtain ⟨⟨a, i⟩, ha, hi⟩ := List.mem_map.mp h1
  obtain ⟨⟨b, j⟩, hb, hj⟩ := List.mem_map.mp h2
  obtain ⟨hfirst, hactiveA⟩ := active_of_mem_zipIdx ha
  obtain ⟨hsecond, hactiveB⟩ := active_of_mem_zipIdx hb
  exact ⟨a, b, hne, hi ▸ hfirst, hj ▸ hsecond, hactiveA, hactiveB⟩

/-! ## The loops -/

theorem takes_foldl_takeIn (self : RegimeManager F) {detected : List (Regime F)}
    (hactive : ∀ det ∈ detected, det.status = .active) :
    Takes (samples detected) self (detected.foldl (takeIn A) self) := by
  induction detected generalizing self with
  | nil => exact .refl self
  | cons det rest ih =>
    obtain ⟨hdet, hrest⟩ := List.forall_mem_cons.mp hactive
    have hsplit : samples (det :: rest) = det.sampleCount + samples rest := rfl
    rw [hsplit, List.foldl_cons]
    exact (takes_takeIn self hdet).trans (ih _ hrest)

theorem takes_mergeRounds {choose : RegimeManager F → Option (Nat × Nat)}
    (hchoose : Chooses choose) (rounds : Nat) (self : RegimeManager F) :
    Takes 0 self (mergeRounds A choose rounds self) := by
  induction rounds generalizing self with
  | zero => exact .refl self
  | succ rounds ih =>
    simp only [mergeRounds]
    split
    · next hpair =>
      obtain ⟨a, b, hab⟩ := activePair_of_mem (hchoose _ _ hpair)
      exact (takes_mergePair hab).trans (ih _)
    · exact .refl self

/-- **A detection** brings its samples and nothing else. -/
theorem takes_updateFromDetection (self : RegimeManager F) {detected : List (Regime F)}
    (hactive : ∀ det ∈ detected, det.status = .active) :
    Takes (samples detected) self (self.updateFromDetection A detected) :=
  (takes_foldl_takeIn self hactive).trans
    ((takes_mergeRounds chooses_mergeable _ _).trans (takes_mergeRounds chooses_overLimit _ _))

theorem length_activeIndices (self : RegimeManager F) :
    self.activeIndices.length = self.activeCount := by
  have hmap : (self.regimes.zipIdx.filter fun r => r.1.status = .active).map (·.1) =
      self.regimes.filter fun r => r.status = .active := by
    conv_rhs => rw [← List.zipIdx_map_fst 0 self.regimes, List.filter_map]
    rfl
  rw [activeIndices, List.length_map, activeCount, List.countP_eq_length_filter, ← hmap,
    List.length_map]

/-- Once there is a pair, there is a best one. -/
theorem isSome_foldl_closest {items : List (Nat × Nat)} {best : Option (Nat × Nat × F)}
    (hbest : best.isSome = true) :
    (items.foldl (fun (best : Option (Nat × Nat × F)) p =>
      match regimes[p.1]?, regimes[p.2]? with
      | some ri, some rj =>
        let d := euclideanDistance A ri.centroid rj.centroid
        match best with
        | none => some (p.1, p.2, d)
        | some b => if A.lt d b.2.2 then some (p.1, p.2, d) else best
      | _, _ => best) best).isSome = true := by
  refine List.foldlRecOn (motive := fun (best : Option (Nat × Nat × F)) => best.isSome = true)
    items _ hbest ?_
  intro best hbest p _
  split
  · dsimp only
    split
    · rfl
    · split
      · rfl
      · exact hbest
  · exact hbest

/-- **Two active regimes** are a pair to merge. -/
theorem findClosestActivePair_isSome (h : 2 ≤ self.activeCount) :
    (self.findClosestActivePair A).isSome = true := by
  rw [← length_activeIndices] at h
  unfold findClosestActivePair
  rw [Option.isSome_map]
  rcases hindices : self.activeIndices with _ | ⟨i, _ | ⟨j, rest⟩⟩
  · rw [hindices] at h
    cases h
  · rw [hindices] at h
    simp at h
  · have hpair : (i, j) ∈ pairs self.activeIndices := by
      rw [hindices]
      exact List.mem_cons_self
    obtain ⟨a, b, hab⟩ := activePair_of_mem hpair
    have hfirst := hab.first
    have hsecond := hab.second
    simp only [pairs, List.map_cons, List.cons_append, List.foldl_cons, hfirst, hsecond]
    exact isSome_foldl_closest rfl

/-- The limit is kept, or one active regime is left. -/
theorem activeCount_enforceMaxActive (self : RegimeManager F) :
    (self.enforceMaxActive A).activeCount ≤ max self.maxActive 1 := by
  have hmax : (self.enforceMaxActive A).maxActive = self.maxActive :=
    (takes_mergeRounds chooses_overLimit _ _).maxActive_eq
  rcases enforceMaxActive_done (A := A) self with hlimit | hnone
  · omega
  · have hone : ¬ 2 ≤ (self.enforceMaxActive A).activeCount := by
      intro htwo
      have hsome := findClosestActivePair_isSome (A := A) htwo
      rw [hnone] at hsome
      cases hsome
    omega

/-! ## Names -/

/-- The pairs that a loop merges. -/
def mergedPairs (A : Arithmetic F) (choose : RegimeManager F → Option (Nat × Nat)) :
    (rounds : Nat) → RegimeManager F → List (Regime F × Regime F)
  | 0, _ => []
  | rounds + 1, self =>
    match choose self with
    | some (i, j) =>
      (self.regimes[i]?.toList.zip self.regimes[j]?.toList) ++
        mergedPairs A choose rounds (self.mergePair A i j)
    | none => []

/-- The pairs that `update_from_detection` merges. -/
def updateMerges (A : Arithmetic F) (self : RegimeManager F) (detected : List (Regime F)) :
    List (Regime F × Regime F) :=
  let taken := detected.foldl (takeIn A) self
  let small := taken.mergeSimilarSmallRegimes A
  mergedPairs A (findMergeablePair A) taken.regimes.length taken ++
    mergedPairs A (pairOverLimit A) small.regimes.length small

/-- Two named regimes were merged, and the name of the second is this one. -/
def LostIn (merges : List (Regime F × Regime F)) (name : String) : Prop :=
  ∃ pair ∈ merges, pair.1.name.isSome = true ∧ pair.2.name = some name

theorem LostIn.append {merges merges' : List (Regime F × Regime F)}
    (h : LostIn merges name ∨ LostIn merges' name) : LostIn (merges ++ merges') name := by
  rcases h with ⟨pair, hmem, hlost⟩ | ⟨pair, hmem, hlost⟩
  · exact ⟨pair, List.mem_append_left _ hmem, hlost⟩
  · exact ⟨pair, List.mem_append_right _ hmem, hlost⟩

/-- Names stay where a detected regime is added or pushed. -/
theorem mem_names_takeIn (h : name ∈ names self.regimes) (det : Regime F) :
    name ∈ names (self.takeIn A det).regimes := by
  unfold takeIn
  cases self.closeMatch A det with
  | none =>
    show name ∈ names (self.regimes ++ [det])
    rw [names, List.filterMap_append]
    exact List.mem_append_left _ h
  | some i =>
    have hsame : names (self.regimes.modify i (absorb A · det)) = names self.regimes := by
      generalize self.regimes = regimes
      unfold names
      induction regimes generalizing i with
      | nil => simp
      | cons r rest ih =>
        cases i with
        | zero => rfl
        | succ i => rw [List.modify_succ_cons, List.filterMap_cons, List.filterMap_cons, ih]
    exact hsame ▸ h

/-- **Merging keeps a name**, unless it is the second of two. -/
theorem mem_names_mergePair {i j : Nat} {a b : Regime F} (hab : ActivePair self i j a b)
    (h : name ∈ names self.regimes) :
    name ∈ names (self.mergePair A i j).regimes ∨ a.name.isSome = true ∧ b.name = some name := by
  obtain ⟨rest, hperm, -, hs⟩ := mergePair_eq (A := A) hab
  rw [hs]
  show name ∈ names (rest ++ [mergeTwo A a b]) ∨ _
  obtain ⟨r, hr, hname⟩ := mem_names.mp h
  have hmerged : mergeTwo A a b ∈ rest ++ [mergeTwo A a b] :=
    List.mem_append_right _ (List.mem_singleton_self _)
  rcases List.mem_cons.mp (hperm.mem_iff.mpr hr) with rfl | hr
  · refine .inl (mem_names.mpr ⟨_, hmerged, ?_⟩)
    show r.name.or b.name = some name
    rw [hname, Option.some_or]
  · rcases List.mem_cons.mp hr with rfl | hr
    · cases ha : a.name with
      | none =>
        refine .inl (mem_names.mpr ⟨_, hmerged, ?_⟩)
        show a.name.or r.name = some name
        rw [ha, Option.none_or, hname]
      | some other => exact .inr ⟨rfl, hname⟩
    · exact .inl (mem_names.mpr ⟨r, List.mem_append_left _ hr, hname⟩)

/-- A name is there after the rounds, or one of the merges has lost it. -/
theorem mem_names_mergeRounds {choose : RegimeManager F → Option (Nat × Nat)}
    (hchoose : Chooses choose) {rounds : Nat} (h : name ∈ names self.regimes) :
    name ∈ names (mergeRounds A choose rounds self).regimes ∨
      LostIn (mergedPairs A choose rounds self) name := by
  induction rounds generalizing self with
  | zero => exact .inl h
  | succ rounds ih =>
    simp only [mergeRounds, mergedPairs]
    cases hpair : choose self with
    | none => exact .inl h
    | some p =>
      obtain ⟨i, j⟩ := p
      obtain ⟨a, b, hab⟩ := activePair_of_mem (hchoose _ _ hpair)
      simp only [hab.first, hab.second, Option.toList_some, List.zip_cons_cons, List.zip_nil_left]
      rcases mem_names_mergePair (A := A) hab h with hkept | hlost
      · exact (ih hkept).imp_right fun hlater => .append (.inr hlater)
      · exact .inr ⟨(a, b), List.mem_append_left _ (List.mem_singleton_self _), hlost⟩

/-- **A name is lost** only where two named regimes are merged. -/
theorem mem_names_updateFromDetection (h : name ∈ names self.regimes) (detected : List (Regime F)) :
    name ∈ names (self.updateFromDetection A detected).regimes ∨
      LostIn (updateMerges A self detected) name := by
  have htaken : name ∈ names (detected.foldl (takeIn A) self).regimes :=
    List.foldlRecOn (motive := fun (s : RegimeManager F) => name ∈ names s.regimes) detected _ h
      fun s hs det _ => mem_names_takeIn hs det
  rcases mem_names_mergeRounds (A := A) chooses_mergeable htaken with hsmall | hlost
  · exact (mem_names_mergeRounds chooses_overLimit hsmall).imp_right fun hlost =>
      .append (.inr hlost)
  · exact .inr (.append (.inl hlost))

end RegimeManager

/-! ## The result -/

/-- **What a detection keeps.** -/
structure Conserves (A : Arithmetic F) (manager : RegimeManager F) (detected : List (Regime F)) :
    Prop where
  /-- The first loop ends because no two regimes are left to merge, -/
  similarEnds : ((detected.foldl (RegimeManager.takeIn A) manager).mergeSimilarSmallRegimes
    A).findMergeablePair A = none
  /-- the second because the limit is kept or there are no two. -/
  limitEnds : (manager.updateFromDetection A detected).activeCount ≤
      (manager.updateFromDetection A detected).maxActive ∨
    (manager.updateFromDetection A detected).findClosestActivePair A = none
  samples_eq : samples (manager.updateFromDetection A detected).regimes =
    samples manager.regimes + samples detected
  fits : ∀ r ∈ (manager.updateFromDetection A detected).regimes, r.sampleCount < 2 ^ 64
  dormant_eq : dormant (manager.updateFromDetection A detected).regimes = dormant manager.regimes
  active_le : (manager.updateFromDetection A detected).activeCount ≤ max manager.maxActive 1
  names_kept : ∀ name ∈ names manager.regimes,
    name ∈ names (manager.updateFromDetection A detected).regimes ∨
      ∃ pair ∈ RegimeManager.updateMerges A manager detected,
        pair.1.name.isSome = true ∧ pair.2.name = some name

/-- **A detection conserves samples and bounds the active regimes**, whatever the arithmetic. -/
theorem update_conserves (A : Arithmetic F) (manager : RegimeManager F)
    (detected : List (Regime F)) (hactive : ∀ det ∈ detected, det.status = .active)
    (hfits : samples manager.regimes + samples detected < 2 ^ 64) :
    Conserves A manager detected := by
  have htakes := RegimeManager.takes_updateFromDetection (A := A) manager hactive
  have hmax := (RegimeManager.takes_foldl_takeIn (A := A) manager hactive).maxActive_eq.symm
  have hsimilar : ((detected.foldl (RegimeManager.takeIn A) manager).mergeSimilarSmallRegimes
      A).maxActive = _ :=
      (RegimeManager.takes_mergeRounds RegimeManager.chooses_mergeable _ _).maxActive_eq
  refine
    { similarEnds := RegimeManager.mergeSimilarSmallRegimes_done _
      limitEnds := RegimeManager.enforceMaxActive_done _
      samples_eq := htakes.samples_eq
      fits := fun r hr => ?_
      dormant_eq := htakes.dormant_eq
      active_le := ?_
      names_kept := fun name hname => RegimeManager.mem_names_updateFromDetection hname detected }
  · refine Nat.lt_of_le_of_lt (sampleCount_le_samples hr) ?_
    rw [htakes.samples_eq]
    exact hfits
  · rw [hmax, ← hsimilar]
    exact RegimeManager.activeCount_enforceMaxActive _

/-- A regime of ten samples. -/
def tenSamples (regimeId : String) (name : Option String) (rate : Int) (status : RegimeStatus) :
    Regime Int :=
  ⟨regimeId, name, "Mixed", ⟨0, 0, 0, rate, 0, 0, 0⟩, 10, 0, 0, status⟩

/-- Two active regimes, one of them named, and an archived one; a third active one is found, and is
    one too many. -/
theorem update_conserves_third :
    Conserves thousandths
      ⟨[tenSamples "a" (some "Morning") 0 .active, tenSamples "b" none 1000 .active,
        tenSamples "c" none 0 .archived], 2, 14, 30, 100, 5⟩
      [tenSamples "d" none 2000 .active] :=
  update_conserves thousandths _ _ (by decide) (by decide)

end Oneshim.Regimes
