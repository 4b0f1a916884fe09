/-
  Serial tables: rows numbered by an `AUTOINCREMENT` key.

  A serial table hands out its keys itself: every inserted row gets the number AFTER the largest
  one ever used, and a deleted number never returns.  Rows therefore stand in key order, and a
  scan that stops at its first hit (`SELECT … LIMIT 1`, or reading one row of a query) sees the
  OLDEST matching row.  Both facts are fields, so they need no proof at the use sites.

  * `insert` — append a row under the next number;
  * `update` — overwrite the row that carries the new row's number;
  * `first?` — the oldest row that passes a test.
-/
import Mathlib.Data.List.Nodup

namespace Lib

/-- Rows in key order, and a counter no key exceeds. -/
structure SerialTable {ρ : Type} (key : ρ → Nat) where
  /-- The rows, oldest first. -/
  rows : List ρ
  /-- The largest number handed out so far. -/
  seq : Nat
  /-- Numbers grow along the table. -/
  sorted : rows.Pairwise (fun r s => key r < key s)
  /-- No row is numbered above the counter. -/
  bounded : ∀ r ∈ rows, key r ≤ seq

namespace SerialTable

variable {ρ : Type} {key : ρ → Nat}

@[ext] theorem ext {s t : SerialTable key} (hrows : s.rows = t.rows) (hseq : s.seq = t.seq) :
    s = t := by
  cases s; cases t; cases hrows; cases hseq; rfl

/-- The table without rows. -/
def empty : SerialTable key := ⟨[], 0, List.Pairwise.nil, by simp⟩

/-- Append the row that `mk` builds under the next number. -/
def insert (t : SerialTable key) (mk : Nat → ρ) (hmk : ∀ n, key (mk n) = n) :
    SerialTable key where
  rows := t.rows ++ [mk (t.seq + 1)]
  seq := t.seq + 1
  sorted := by
    refine List.pairwise_append.mpr ⟨t.sorted, List.pairwise_singleton _ _, ?_⟩
    intro r hr s hs
    rw [List.mem_singleton.mp hs, hmk]
    exact Nat.lt_succ_of_le (t.bounded r hr)
  bounded := by
    intro r hr
    rcases List.mem_append.mp hr with hin | hnew
    · exact Nat.le_succ_of_le (t.bounded r hin)
    · rw [List.mem_singleton.mp hnew]
      exact Nat.le_of_eq (hmk _)

/-- Rewrite every row by a key-preserving `f`. -/
def mapRows (t : SerialTable key) (f : ρ → ρ) (hf : ∀ x, key (f x) = key x) :
    SerialTable key where
  rows := t.rows.map f
  seq := t.seq
  sorted := List.pairwise_map.mpr (t.sorted.imp (by intro a b h; rw [hf, hf]; exact h))
  bounded := by
    intro r hr
    obtain ⟨x, hx, rfl⟩ := List.mem_map.mp hr
    rw [hf]
    exact t.bounded x hx

/-- Overwrite the row numbered like `r`; a table without that number is left alone. -/
def update (t : SerialTable key) (r : ρ) : SerialTable key :=
  t.mapRows (fun x => if key x = key r then r else x) (by
    intro x
    by_cases hx : key x = key r
    · rw [if_pos hx, hx]
    · rw [if_neg hx])

/-- Keep the rows that pass `p`; the counter stays. -/
def filterRows (t : SerialTable key) (p : ρ → Bool) : SerialTable key where
  rows := t.rows.filter p
  seq := t.seq
  sorted := t.sorted.filter p
  bounded := fun r hr => t.bounded r (List.mem_filter.mp hr).1

/-- The oldest row that passes `p`. -/
def first? (t : SerialTable key) (p : ρ → Bool) : Option ρ := t.rows.find? p

/-! ## What the statements do -/

@[simp] theorem rows_update (t : SerialTable key) (r : ρ) :
    (t.update r).rows = t.rows.map (fun x => if key x = key r then r else x) := rfl

variable {t : SerialTable key}

/-- A row's number tells it apart. -/
theorem eq_of_key_eq {r s : ρ} (hr : r ∈ t.rows) (hs : s ∈ t.rows) (h : key r = key s) : r = s := by
  have hnd : (t.rows.map key).Nodup := List.pairwise_map.mpr (t.sorted.imp Nat.ne_of_lt)
  exact List.inj_on_of_nodup_map hnd hr hs h

theorem mem_update {r x : ρ} (h : x ∈ (t.update r).rows) :
    x ∈ t.rows ∨ x = r := by
  obtain ⟨y, hy, rfl⟩ := List.mem_map.mp h
  by_cases hk : key y = key r
  · rw [if_pos hk]
    exact .inr rfl
  · rw [if_neg hk]
    exact .inl hy

/-- The oldest hit is the head of the hits. -/
theorem first?_eq_head? (t : SerialTable key) (p : ρ → Bool) :
    t.first? p = (t.rows.filter p).head? := List.head?_filter.symm

/-- Overwriting a row does not disturb a test that neither the old nor the new row passes. -/
theorem filter_update_of_not {r r' : ρ} (hr : r ∈ t.rows) (hkey : key r' = key r) {p : ρ → Bool}
    (hp : p r = false) (hp' : p r' = false) :
    (t.update r').rows.filter p = t.rows.filter p := by
  have huniq : ∀ x ∈ t.rows, key x = key r' → x = r :=
    fun x hx hk => eq_of_key_eq hx hr (hk.trans hkey)
  rw [rows_update]
  revert huniq
  induction t.rows with
  | nil => intro _; rfl
  | cons x xs ih =>
    intro huniq
    have htail := ih (fun y hy => huniq y (List.mem_cons_of_mem _ hy))
    rw [List.map_cons]
    by_cases hx : key x = key r'
    · obtain rfl := huniq x List.mem_cons_self hx
      rw [if_pos hx, List.filter_cons_of_neg (by simp [hp']),
        List.filter_cons_of_neg (by simp [hp])]
      exact htail
    · rw [if_neg hx, List.filter_cons, List.filter_cons, htail]

/-- Overwriting the oldest hit by another hit changes the head of the hits only. -/
theorem filter_update_of_first {r r' : ρ} {p : ρ → Bool} (hfirst : t.first? p = some r)
    (hkey : key r' = key r) (hp' : p r' = true) :
    (t.update r').rows.filter p = r' :: (t.rows.filter p).tail := by
  have hp : p r = true := List.find?_some hfirst
  have hsorted := t.sorted
  unfold first? at hfirst
  rw [rows_update]
  revert hfirst hsorted
  induction t.rows with
  | nil => intro h; nomatch h
  | cons x xs ih =>
    intro hfirst hsorted
    rw [List.map_cons]
    by_cases hpx : p x = true
    · -- the head is the hit, and no later row carries its number
      rw [List.find?_cons_of_pos hpx] at hfirst
      cases hfirst
      have htail : xs.map (fun y => if key y = key r' then r' else y) = xs := by
        conv_rhs => rw [← List.map_id xs]
        refine List.map_congr_left (fun y hy => if_neg ?_)
        have hlt := List.rel_of_pairwise_cons hsorted hy
        omega
      rw [if_pos hkey.symm, htail, List.filter_cons_of_pos hp', List.filter_cons_of_pos hpx]
      rfl
    · rw [List.find?_cons_of_neg hpx] at hfirst
      have hr : r ∈ xs := List.mem_of_find?_eq_some hfirst
      have hx : ¬ key x = key r' := by
        have hlt := List.rel_of_pairwise_cons hsorted hr
        omega
      rw [if_neg hx, List.filter_cons_of_neg hpx, List.filter_cons_of_neg hpx]
      exact ih hfirst (List.Pairwise.of_cons hsorted)

theorem first?_update_of_not {r r' : ρ} (hr : r ∈ t.rows) (hkey : key r' = key r) {p : ρ → Bool}
    (hp : p r = false) (hp' : p r' = false) :
    (t.update r').first? p = t.first? p := by
  rw [first?_eq_head?, first?_eq_head?, filter_update_of_not hr hkey hp hp']

theorem first?_update_of_first {r r' : ρ} {p : ρ → Bool} (hfirst : t.first? p = some r)
    (hkey : key r' = key r) (hp' : p r' = true) :
    (t.update r').first? p = some r' := by
  rw [first?_eq_head?, filter_update_of_first hfirst hkey hp', List.head?_cons]

end SerialTable
end Lib
