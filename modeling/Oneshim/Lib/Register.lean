/-
  Last-writer-wins registers.

  A register holds at most one VERSION — a value together with its rank in a linear order — and
  `accept` replaces it exactly when the offered version ranks strictly above.  What such a
  register holds after a run of offers does not depend on the order or the multiplicity of the
  offers: it is the latest version among the starting one and the offered ones.

  `LatestOver base S cur` states that, for an arbitrary set `S` of offers:

  * `latestOver_refl`   — before any offer the register holds its base;
  * `LatestOver.accept` — one offer extends `S` by one version (the step lemma);
  * `LatestOver.unique` — `base` and `S` determine `cur`, as long as no two versions of `S` share
    a rank and differ in value.

  A tie with the version already there is a REFUSAL; that is what makes a repeated offer a no-op.

  A `RegisterBank` is a program that keeps one register per key and whose steps, when they
  succeed, are offers.  Whatever its state looks like, a successful run over a list of items
  leaves the latest offered version in every register (`RegisterBank.run_latest`).
-/
import Mathlib.Data.List.Induction
import Mathlib.Data.List.MinMax
import Mathlib.Data.Set.Insert
import Mathlib.Logic.Function.Basic
import Mathlib.Order.Lattice
import Oneshim.Lib.Outcome
import Oneshim.Lib.Table

namespace Lib

variable {τ α : Type} [LinearOrder τ]

/-- Offer the version `v` to a register holding `cur`. -/
def accept (cur : Option (τ × α)) (v : τ × α) : Option (τ × α) :=
  match cur with
  | none => some v
  | some w => if w.1 < v.1 then some v else some w

/-- The register holds a version that ranks at least `t`. -/
def Covers (cur : Option (τ × α)) (t : τ) : Prop := ∃ w, cur = some w ∧ t ≤ w.1

/-- `cur` is the latest version among `base` and the offers `S`; `base` wins ties. -/
structure LatestOver (base : Option (τ × α)) (S : Set (τ × α)) (cur : Option (τ × α)) : Prop where
  /-- Every offer is covered. -/
  offers : ∀ v ∈ S, Covers cur v.1
  /-- So is the version the register started from. -/
  start : ∀ b, base = some b → Covers cur b.1
  /-- What is stored was there before, or is an offer that beat it. -/
  source : cur = base ∨ ∃ v ∈ S, cur = some v ∧ ∀ b, base = some b → b.1 < v.1

theorem accept_none (v : τ × α) : accept none v = some v := rfl

theorem accept_of_lt {w v : τ × α} (h : w.1 < v.1) : accept (some w) v = some v := if_pos h

theorem accept_of_not_lt {w v : τ × α} (h : ¬ w.1 < v.1) : accept (some w) v = some w := if_neg h

/-- A register that covers an offer refuses it. -/
theorem accept_of_covers {cur : Option (τ × α)} {v : τ × α} (h : Covers cur v.1) :
    accept cur v = cur := by
  obtain ⟨w, rfl, hle⟩ := h
  exact accept_of_not_lt (not_lt.mpr hle)

/-- An accepted offer is covered. -/
theorem covers_accept_self (cur : Option (τ × α)) (v : τ × α) : Covers (accept cur v) v.1 := by
  cases cur with
  | none => exact ⟨v, rfl, le_rfl⟩
  | some w =>
    by_cases h : w.1 < v.1
    · exact ⟨v, accept_of_lt h, le_rfl⟩
    · exact ⟨w, accept_of_not_lt h, not_lt.mp h⟩

/-- Ranks only grow: what was covered stays covered. -/
theorem Covers.accept {cur : Option (τ × α)} {t : τ} (h : Covers cur t) (v : τ × α) :
    Covers (accept cur v) t := by
  obtain ⟨w, rfl, hle⟩ := h
  by_cases hlt : w.1 < v.1
  · exact ⟨v, accept_of_lt hlt, hle.trans hlt.le⟩
  · exact ⟨w, accept_of_not_lt hlt, hle⟩

/-! ## The register holds the latest version -/

theorem latestOver_refl (base : Option (τ × α)) : LatestOver base ∅ base where
  offers := fun _ hv => (nomatch hv)
  start := fun b hb => ⟨b, hb, le_rfl⟩
  source := Or.inl rfl

/-- **The step lemma**: one offer extends the offered set by one version. -/
theorem LatestOver.accept {base cur : Option (τ × α)} {S : Set (τ × α)}
    (h : LatestOver base S cur) (v : τ × α) :
    LatestOver base (insert v S) (accept cur v) where
  offers := by
    intro w hw
    rcases Set.mem_insert_iff.mp hw with rfl | hin
    · exact covers_accept_self cur w
    · exact (h.offers w hin).accept v
  start := fun b hb => (h.start b hb).accept v
  source := by
    cases cur with
    | none =>
      -- an empty register had no base, so the offer beats nothing
      refine .inr ⟨v, Set.mem_insert _ _, rfl, ?_⟩
      intro b hb
      obtain ⟨w, hw, _⟩ := h.start b hb
      nomatch hw
    | some w =>
      by_cases hlt : w.1 < v.1
      · refine .inr ⟨v, Set.mem_insert _ _, accept_of_lt hlt, ?_⟩
        intro b hb
        obtain ⟨u, hu, hle⟩ := h.start b hb
        cases hu
        exact hle.trans_lt hlt
      · rw [accept_of_not_lt hlt]
        rcases h.source with heq | ⟨u, hu, heq, hbeat⟩
        · exact .inl heq
        · exact .inr ⟨u, Set.mem_insert_of_mem _ hu, heq, hbeat⟩

/-- **Convergence**: the base and the set of offers determine the stored version. -/
theorem LatestOver.unique {base c₁ c₂ : Option (τ × α)} {S : Set (τ × α)}
    (hS : ∀ v ∈ S, ∀ w ∈ S, v.1 = w.1 → v = w)
    (h₁ : LatestOver base S c₁) (h₂ : LatestOver base S c₂) : c₁ = c₂ := by
  -- the base cannot be what one run keeps if the other run stores an offer that beats it
  have hmixed : ∀ {c : Option (τ × α)}, LatestOver base S c → c = base →
      ∀ v ∈ S, (∀ b, base = some b → b.1 < v.1) → False := by
    intro c hc hcb v hv hbeat
    obtain ⟨w, hw, hle⟩ := hc.offers v hv
    exact absurd (hbeat w (hcb.symm.trans hw)) (not_lt.mpr hle)
  rcases h₁.source with e₁ | ⟨v, hv, e₁, hb₁⟩
  · rcases h₂.source with e₂ | ⟨w, hw, e₂, hb₂⟩
    · rw [e₁, e₂]
    · exact (hmixed h₁ e₁ w hw hb₂).elim
  · rcases h₂.source with e₂ | ⟨w, hw, e₂, hb₂⟩
    · exact (hmixed h₂ e₂ v hv hb₁).elim
    · obtain ⟨w', hw', hle₁⟩ := h₁.offers w hw
      obtain ⟨v', hv', hle₂⟩ := h₂.offers v hv
      obtain rfl : v = w' := Option.some.inj (e₁.symm.trans hw')
      obtain rfl : w = v' := Option.some.inj (e₂.symm.trans hv')
      rw [e₁, e₂, hS v hv w hw (le_antisymm hle₂ hle₁)]

/-! ## Banks of registers -/

/-- A fallible step function whose state holds a register per key and whose successful steps
    offer one version to one key. -/
structure RegisterBank (σ ι κ τ α ε : Type) [LinearOrder τ] [DecidableEq κ] where
  /-- The registers of a state. -/
  register : σ → κ → Option (τ × α)
  /-- The key an item goes to, and the version it offers there. -/
  offer : ι → Option (κ × τ × α)
  /-- Process one item. -/
  step : σ → ι → Except ε σ
  /-- What the states have to satisfy. -/
  inv : σ → Prop
  /-- The items the invariant speaks about. -/
  fits : ι → Prop
  /-- Steps keep the invariant. -/
  step_inv : ∀ {s s' : σ} {i : ι}, fits i → inv s → step s i = .ok s' → inv s'
  /-- A successful step is an offer. -/
  step_offers : ∀ {s s' : σ} {i : ι}, fits i → inv s → step s i = .ok s' →
    ∃ k v, offer i = some (k, v) ∧
      register s' = Function.update (register s) k (Lib.accept (register s k) v)

namespace RegisterBank

variable {σ ι κ ε : Type} [DecidableEq κ] (B : RegisterBank σ ι κ τ α ε)

/-- The versions a list of items offers to `k`. -/
def offered (items : List ι) (k : κ) : Set (τ × α) := { v | ∃ i ∈ items, B.offer i = some (k, v) }

theorem offered_nil (k : κ) : B.offered [] k = ∅ := by
  apply Set.ext
  intro v
  simp [offered]

theorem offered_append (xs ys : List ι) (k : κ) :
    B.offered (xs ++ ys) k = B.offered xs k ∪ B.offered ys k := by
  apply Set.ext
  intro v
  simp only [offered, List.mem_append, Set.mem_ofPred_eq, Set.mem_union]
  constructor
  · rintro ⟨i, hx | hy, ho⟩
    · exact .inl ⟨i, hx, ho⟩
    · exact .inr ⟨i, hy, ho⟩
  · rintro (⟨i, hx, ho⟩ | ⟨i, hy, ho⟩)
    · exact ⟨i, .inl hx, ho⟩
    · exact ⟨i, .inr hy, ho⟩

/-- One successful step, seen at one key. -/
theorem step_latest {s s' : σ} {i : ι} (hfit : B.fits i) (hinv : B.inv s)
    (hstep : B.step s i = .ok s') {k : κ}
    {base : Option (τ × α)} {S : Set (τ × α)} (h : LatestOver base S (B.register s k)) :
    LatestOver base (S ∪ B.offered [i] k) (B.register s' k) := by
  obtain ⟨k', v, ho, hreg⟩ := B.step_offers hfit hinv hstep
  rw [hreg]
  by_cases hk : k = k'
  · subst hk
    have hS : S ∪ B.offered [i] k = insert v S := by
      apply Set.ext
      intro w
      simp only [offered, List.mem_singleton, exists_eq_left, Set.mem_union, Set.mem_ofPred_eq, ho,
        Option.some.injEq, Prod.mk.injEq, true_and, Set.mem_insert_iff]
      constructor
      · rintro (hw | rfl)
        · exact .inr hw
        · exact .inl rfl
      · rintro (rfl | hw)
        · exact .inr rfl
        · exact .inl hw
    rw [hS, Function.update_self]
    exact h.accept v
  · have hS : S ∪ B.offered [i] k = S := by
      have hempty : B.offered [i] k = ∅ := by
        apply Set.ext
        intro w
        simp only [offered, List.mem_singleton, exists_eq_left, Set.mem_ofPred_eq, ho,
          Option.some.injEq, Prod.mk.injEq, Set.mem_empty_iff_false, iff_false]
        rintro ⟨rfl, -⟩
        exact hk rfl
      rw [hempty, Set.union_empty]
    rw [hS, Function.update_of_ne hk]
    exact h

/-- **The run lemma**: a successful run leaves the latest of the base and the offers. -/
theorem run_latest {s s' : σ} {items : List ι} (hfit : ∀ i ∈ items, B.fits i) (hinv : B.inv s)
    (hrun : items.foldlM B.step s = .ok s') {k : κ} {base : Option (τ × α)} {S : Set (τ × α)}
    (h : LatestOver base S (B.register s k)) :
    LatestOver base (S ∪ B.offered items k) (B.register s' k) := by
  -- along the run: the invariant, and the latest version over what has been consumed
  have hP := foldlM_induction
    (P := fun seen s => B.inv s ∧ LatestOver base (S ∪ B.offered seen k) (B.register s k))
    (fun seen i s s' hi hP hs => by
      refine ⟨B.step_inv (hfit i hi) hP.1 hs, ?_⟩
      rw [B.offered_append, ← Set.union_assoc]
      exact B.step_latest (hfit i hi) hP.1 hs hP.2)
    [] ⟨hinv, by rw [B.offered_nil, Set.union_empty]; exact h⟩ hrun
  exact hP.2

/-- After a successful run every item has made its offer, and its register covers it. -/
theorem run_absorbs {s s' : σ} {items : List ι} (hfit : ∀ i ∈ items, B.fits i) (hinv : B.inv s)
    (hrun : items.foldlM B.step s = .ok s') :
    ∀ i ∈ items, ∃ k v, B.offer i = some (k, v) ∧ Covers (B.register s' k) v.1 := by
  have hoffers : ∀ i ∈ items, ∃ k v, B.offer i = some (k, v) :=
    (foldlM_induction (P := fun seen s => B.inv s ∧ ∀ i ∈ seen, ∃ k v, B.offer i = some (k, v))
      (fun seen i s s' hi hP hs => by
        refine ⟨B.step_inv (hfit i hi) hP.1 hs, ?_⟩
        intro j hj
        rcases List.mem_append.mp hj with hseen | hnew
        · exact hP.2 j hseen
        · obtain ⟨k, v, ho, -⟩ := B.step_offers (hfit i hi) hP.1 hs
          exact ⟨k, v, by rw [List.mem_singleton.mp hnew]; exact ho⟩)
      [] ⟨hinv, fun _ h => (nomatch h)⟩ hrun).2
  intro i hi
  obtain ⟨k, v, ho⟩ := hoffers i hi
  have hlatest := B.run_latest hfit hinv hrun (latestOver_refl (B.register s k))
  exact ⟨k, v, ho, hlatest.offers v (.inr ⟨i, hi, ho⟩)⟩

end RegisterBank

/-! ## A keyed table as a family of registers -/

section KeyedTable

variable {κ ρ : Type} [DecidableEq κ] {key : ρ → κ}

omit [LinearOrder τ] in
/-- The version a table holds under a key: the row's value, when the row has a rank. -/
def tableRegister (rank : ρ → Option τ) (value : ρ → α) (t : Table key) (k : κ) :
    Option (τ × α) :=
  (t.find? k).bind (fun r => (rank r).map (fun x => (x, value r)))

omit [LinearOrder τ] in
theorem tableRegister_insert? (rank : ρ → Option τ) (value : ρ → α) {t t' : Table key} {r : ρ}
    {x : τ} (h : t.insert? r = some t') (hr : rank r = some x) :
    tableRegister rank value t (key r) = none ∧
      tableRegister rank value t' =
        Function.update (tableRegister rank value t) (key r) (some (x, value r)) := by
  obtain ⟨hnone, -⟩ := Table.insert?_eq_some_iff.mp h
  refine ⟨by rw [tableRegister, hnone]; rfl, ?_⟩
  funext k
  rw [tableRegister, Table.find?_insert? h]
  by_cases hk : key r = k
  · subst hk
    rw [if_pos rfl, Function.update_self, Option.bind_some, hr, Option.map_some]
  · rw [if_neg hk, Function.update_of_ne (Ne.symm hk), tableRegister]

omit [LinearOrder τ] in
theorem tableRegister_replace (rank : ρ → Option τ) (value : ρ → α) {t : Table key} {r old : ρ}
    {x : τ} (h : t.find? (key r) = some old) (hr : rank r = some x) :
    tableRegister rank value (t.replace r) =
      Function.update (tableRegister rank value t) (key r) (some (x, value r)) := by
  funext k
  rw [tableRegister, Table.find?_replace]
  by_cases hk : key r = k
  · subst hk
    rw [if_pos rfl, Function.update_self, h, Option.map_some, Option.bind_some, hr,
      Option.map_some]
  · rw [if_neg hk, Function.update_of_ne (Ne.symm hk), tableRegister]

end KeyedTable

/-! ## A list that is read at its head

A table that should hold one row per key but is not told so: a store looks at the FIRST row only.
It appends when there is none, or when the first row has no rank; it overwrites the first row when
that ranks below, and drops the value otherwise. -/

section HeadStore

variable {ι ρ : Type}

/-- Store `v`, ranked `t`, into a list that is read at its head. -/
def headStore (rank : ρ → Option τ) (l : List ρ) (t : τ) (v : ρ) : List ρ :=
  match l with
  | [] => [v]
  | r :: rest =>
    match rank r with
    | none => (r :: rest) ++ [v]
    | some s => if s < t then v :: rest else r :: rest

variable (rank : ρ → Option τ) (t : ι → τ) (v : ι → ρ)

/-- Behind a head without rank everything is kept. -/
theorem foldl_headStore_unranked {r : ρ} (hr : rank r = none) (rest : List ρ) (items : List ι) :
    items.foldl (fun l i => headStore rank l (t i) (v i)) (r :: rest)
      = (r :: rest) ++ items.map v := by
  induction items generalizing rest with
  | nil => simp
  | cons i items ih =>
    rw [List.foldl_cons, headStore, hr]
    show List.foldl _ (r :: (rest ++ [v i])) items = _
    rw [ih, List.map_cons, List.cons_append, List.cons_append, List.append_assoc]
    rfl

/-- Into an empty list, only the first of the highest ranks survives. -/
theorem foldl_headStore_nil {items : List ι} (hv : ∀ i ∈ items, rank (v i) = some (t i)) :
    items.foldl (fun l i => headStore rank l (t i) (v i)) []
      = ((items.argmax t).map v).toList := by
  induction items using List.reverseRecOn with
  | nil => rfl
  | append_singleton items i ih =>
    have hseen := ih (fun j hj => hv j (List.mem_append_left _ hj))
    rw [List.foldl_append, List.foldl_cons, List.foldl_nil, hseen, List.argmax_concat]
    cases hmax : items.argmax t with
    | none => rfl
    | some c =>
      have hc := hv c (List.mem_append_left _ (List.argmax_mem hmax))
      show headStore rank [v c] (t i) (v i) = ((if t c < t i then some i else some c).map v).toList
      rw [headStore, hc]
      by_cases hlt : t c < t i
      · rw [if_pos hlt]
        simp [hlt]
      · rw [if_neg hlt]
        simp [hlt]

/-- Behind a ranked head, the first of the highest ranks replaces it if it ranks above. -/
theorem foldl_headStore_ranked {items : List ι} (hv : ∀ i ∈ items, rank (v i) = some (t i)) {r : ρ}
    {s : τ} (hr : rank r = some s) (rest : List ρ) :
    (∃ c, items.argmax t = some c ∧ s < t c ∧
      items.foldl (fun l i => headStore rank l (t i) (v i)) (r :: rest) = v c :: rest) ∨
    ((∀ c, items.argmax t = some c → ¬ s < t c) ∧
      items.foldl (fun l i => headStore rank l (t i) (v i)) (r :: rest) = r :: rest) := by
  induction items using List.reverseRecOn with
  | nil => exact .inr ⟨fun c hc => (nomatch hc), rfl⟩
  | append_singleton items i ih =>
    rw [List.foldl_append, List.foldl_cons, List.foldl_nil, List.argmax_concat]
    rcases ih (fun j hj => hv j (List.mem_append_left _ hj)) with
      ⟨c, hmax, hlt, hfold⟩ | ⟨hnone, hfold⟩
    · have hc := hv c (List.mem_append_left _ (List.argmax_mem hmax))
      rw [hfold, hmax]
      left
      by_cases hci : t c < t i
      · refine ⟨i, if_pos hci, hlt.trans hci, ?_⟩
        rw [headStore, hc]
        exact if_pos hci
      · refine ⟨c, if_neg hci, hlt, ?_⟩
        rw [headStore, hc]
        exact if_neg hci
    · rw [hfold, headStore, hr]
      by_cases hsi : s < t i
      · -- nothing before `i` beat the head, so `i` is the highest rank so far
        left
        refine ⟨i, ?_, hsi, if_pos hsi⟩
        cases hmax : items.argmax t with
        | none => rfl
        | some c => exact if_pos ((not_lt.mp (hnone c hmax)).trans_lt hsi)
      · refine .inr ⟨?_, if_neg hsi⟩
        cases hmax : items.argmax t with
        | none =>
          intro c hc
          cases hc
          exact hsi
        | some c =>
          intro d hd
          by_cases hci : t c < t i
          · obtain rfl : i = d := Option.some.inj ((if_pos hci).symm.trans hd)
            exact hsi
          · obtain rfl : c = d := Option.some.inj ((if_neg hci).symm.trans hd)
            exact hnone c hmax

end HeadStore

end Lib
