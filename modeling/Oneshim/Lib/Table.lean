/-
  Keyed tables: a finite list of rows with AT MOST ONE row per key.

  A relational table with a primary (or `UNIQUE`) key is a list of rows together with the fact
  that no key occurs twice.  `Table key` carries that fact as a field, so a table that violates
  its key constraint cannot be written down, and the statements on it are total functions that
  either keep the constraint or refuse:

  * `find?`      — the row stored under a key (`SELECT … WHERE key = ?`);
  * `insert?`    — append a row, `none` when its key is taken (`INSERT`, `UNIQUE` violated);
  * `replace`    — overwrite the row stored under the new row's key (`UPDATE … WHERE key = ?`);
  * `upsert`     — store a row under its key, over whatever is there;
  * `mapRows`    — rewrite every row without touching its key (`UPDATE … SET`);
  * `filterRows` — keep the rows that pass a test (`DELETE … WHERE NOT`);
  * `remove`     — drop the row stored under a key (`DELETE … WHERE key = ?`).

  Rows stand in insertion order; `find?` reads them by key, so the order is visible only to a
  scan.  The lemmas say what each statement does to `find?` and to membership.
-/
import Mathlib.Data.List.Nodup

namespace Lib

/-- A list of rows in which no key occurs twice. -/
structure Table {κ ρ : Type} (key : ρ → κ) where
  /-- The rows, in insertion order. -/
  rows : List ρ
  /-- The key constraint. -/
  nodup : (rows.map key).Nodup

namespace Table

variable {κ ρ : Type} [DecidableEq κ] {key : ρ → κ}

omit [DecidableEq κ] in
@[ext] theorem ext {s t : Table key} (h : s.rows = t.rows) : s = t := by
  cases s; cases t; cases h; rfl

/-- The table without rows. -/
def empty : Table key := ⟨[], List.nodup_nil⟩

/-- The row stored under `k`. -/
def find? (t : Table key) (k : κ) : Option ρ := t.rows.find? (fun r => decide (key r = k))

/-- Append `r`, unless its key is taken. -/
def insert? (t : Table key) (r : ρ) : Option (Table key) :=
  if h : key r ∈ t.rows.map key then none
  else some ⟨t.rows ++ [r], by
    rw [List.map_append]
    exact t.nodup.append (List.nodup_singleton _) (by simpa using h)⟩

/-- Overwrite the row stored under `r`'s key; a table without such a row is left alone. -/
def replace (t : Table key) (r : ρ) : Table key where
  rows := t.rows.map (fun x => if key x = key r then r else x)
  nodup := by
    have hkeys : (t.rows.map (fun x => if key x = key r then r else x)).map key
        = t.rows.map key := by
      rw [List.map_map]
      apply List.map_congr_left
      intro x _
      by_cases hx : key x = key r
      · rw [Function.comp_apply, if_pos hx, hx]
      · rw [Function.comp_apply, if_neg hx]
    rw [hkeys]
    exact t.nodup

/-- Store `r` under its key, whatever was there. -/
def upsert (t : Table key) (r : ρ) : Table key := (t.insert? r).getD (t.replace r)

/-- Rewrite every row by a key-preserving `f`. -/
def mapRows (t : Table key) (f : ρ → ρ) (hf : ∀ x, key (f x) = key x) : Table key where
  rows := t.rows.map f
  nodup := by
    have hkeys : (t.rows.map f).map key = t.rows.map key := by
      rw [List.map_map]
      exact List.map_congr_left (fun x _ => hf x)
    rw [hkeys]
    exact t.nodup

omit [DecidableEq κ] in
/-- Keep the rows that pass `p`. -/
def filterRows (t : Table key) (p : ρ → Bool) : Table key where
  rows := t.rows.filter p
  nodup := t.nodup.sublist (List.filter_sublist.map key)

/-- The table without the row stored under `k`. -/
def remove (t : Table key) (k : κ) : Table key := t.filterRows (fun r => decide (key r ≠ k))

/-! ## Reading a table by key -/

variable {t : Table key} {r : ρ}

/-- A row is found under its own key. -/
theorem find?_eq_some_iff {k : κ} :
    t.find? k = some r ↔ r ∈ t.rows ∧ key r = k := by
  constructor
  · intro h
    exact ⟨List.mem_of_find?_eq_some h, by simpa using List.find?_some h⟩
  · rintro ⟨hmem, hk⟩
    obtain ⟨rs, hnd⟩ := t
    unfold find?
    -- the first row under `k` is the only one, by the key constraint
    induction rs with
    | nil => exact absurd hmem List.not_mem_nil
    | cons x xs ih =>
      rw [List.map_cons, List.nodup_cons] at hnd
      by_cases hx : key x = k
      · rcases List.mem_cons.mp hmem with rfl | hin
        · simp [hk]
        · exact absurd (List.mem_map.mpr ⟨r, hin, hk.trans hx.symm⟩) hnd.1
      · have hne : r ≠ x := fun e => hx (e ▸ hk)
        rw [List.find?_cons_of_neg (by simpa using hx)]
        exact ih hnd.2 ((List.mem_cons.mp hmem).resolve_left hne)

theorem find?_eq_none_iff {k : κ} :
    t.find? k = none ↔ ∀ r ∈ t.rows, key r ≠ k := by
  simp [find?]

theorem find?_key (h : r ∈ t.rows) : t.find? (key r) = some r :=
  find?_eq_some_iff.mpr ⟨h, rfl⟩

/-- A stored key is the key of exactly one row. -/
theorem eq_of_key_eq {r s : ρ} (hr : r ∈ t.rows) (hs : s ∈ t.rows) (h : key r = key s) : r = s := by
  have hfind := find?_key hr
  rw [h, find?_key hs] at hfind
  exact (Option.some.inj hfind).symm

/-! ## What the statements do -/

theorem insert?_eq_some_iff {t t' : Table key} :
    t.insert? r = some t' ↔ t.find? (key r) = none ∧ t'.rows = t.rows ++ [r] := by
  unfold insert?
  split
  case isTrue h =>
    obtain ⟨x, hx, hk⟩ := List.mem_map.mp h
    simp only [reduceCtorEq, false_iff, not_and]
    intro hnone
    exact absurd hk (find?_eq_none_iff.mp hnone x hx)
  case isFalse h =>
    have hnone : t.find? (key r) = none :=
      find?_eq_none_iff.mpr (fun x hx hk => h (List.mem_map.mpr ⟨x, hx, hk⟩))
    constructor
    · intro he
      cases he
      exact ⟨hnone, rfl⟩
    · rintro ⟨-, hrows⟩
      exact congrArg some (Table.ext hrows.symm)

theorem insert?_eq_none_iff :
    t.insert? r = none ↔ ∃ s, t.find? (key r) = some s := by
  unfold insert?
  split
  case isTrue h =>
    obtain ⟨x, hx, hk⟩ := List.mem_map.mp h
    exact iff_of_true rfl ⟨x, find?_eq_some_iff.mpr ⟨hx, hk⟩⟩
  case isFalse h =>
    refine iff_of_false (by simp) ?_
    rintro ⟨x, hx⟩
    obtain ⟨hmem, hk⟩ := find?_eq_some_iff.mp hx
    exact h (List.mem_map.mpr ⟨x, hmem, hk⟩)

/-- A fresh key can always be inserted. -/
theorem insert?_of_fresh (h : t.find? (key r) = none) :
    ∃ t', t.insert? r = some t' ∧ t'.rows = t.rows ++ [r] := by
  cases hins : t.insert? r with
  | none =>
    obtain ⟨s, hs⟩ := insert?_eq_none_iff.mp hins
    rw [h] at hs
    nomatch hs
  | some t' => exact ⟨t', rfl, (insert?_eq_some_iff.mp hins).2⟩

theorem find?_insert? {t t' : Table key} (h : t.insert? r = some t') (k : κ) :
    t'.find? k = if key r = k then some r else t.find? k := by
  obtain ⟨hnone, hrows⟩ := insert?_eq_some_iff.mp h
  unfold find? at hnone ⊢
  rw [hrows, List.find?_append]
  by_cases hk : key r = k
  · subst hk
    rw [hnone]
    simp
  · simp [hk]

theorem mem_insert? {t t' : Table key} (h : t.insert? r = some t') {x : ρ} :
    x ∈ t'.rows ↔ x ∈ t.rows ∨ x = r := by
  rw [(insert?_eq_some_iff.mp h).2]
  simp

/-- A row that is replaced is found in place of the old one. -/
theorem find?_replace (t : Table key) (r : ρ) (k : κ) :
    (t.replace r).find? k = if key r = k then (t.find? k).map (fun _ => r) else t.find? k := by
  show List.find? (fun x => decide (key x = k))
      (t.rows.map (fun x => if key x = key r then r else x)) = _
  unfold find?
  -- row by row: the rewritten row answers to the same key as the one it replaces
  induction t.rows with
  | nil => simp
  | cons x xs ih =>
    simp only [List.map_cons]
    by_cases hx : key x = key r
    · by_cases hk : key r = k
      · simp [hx, hk]
      · rw [if_neg hk] at ih ⊢
        rw [if_pos hx, List.find?_cons_of_neg (by simpa using hk),
          List.find?_cons_of_neg (by simpa [hx] using hk)]
        exact ih
    · by_cases hxk : key x = k
      · have hk : ¬ key r = k := fun e => hx (hxk.trans e.symm)
        rw [if_neg hx, if_neg hk, List.find?_cons_of_pos (by simpa using hxk),
          List.find?_cons_of_pos (by simpa using hxk)]
      · rw [if_neg hx, List.find?_cons_of_neg (by simpa using hxk),
          List.find?_cons_of_neg (by simpa using hxk)]
        exact ih

/-- What is stored after an `upsert`: the new row under its key, the old ones elsewhere. -/
theorem find?_upsert (t : Table key) (r : ρ) (k : κ) :
    (t.upsert r).find? k = if key r = k then some r else t.find? k := by
  unfold upsert
  cases hins : t.insert? r with
  | some t' => exact find?_insert? hins k
  | none =>
    obtain ⟨s, hs⟩ := insert?_eq_none_iff.mp hins
    rw [Option.getD_none, find?_replace]
    by_cases hk : key r = k
    · rw [if_pos hk, if_pos hk, ← hk, hs, Option.map_some]
    · rw [if_neg hk, if_neg hk]

/-- A fresh key is stored behind the other rows. -/
theorem rows_upsert_of_fresh (h : t.find? (key r) = none) :
    (t.upsert r).rows = t.rows ++ [r] := by
  obtain ⟨t', hins, hrows⟩ := insert?_of_fresh h
  rw [upsert, hins, Option.getD_some, hrows]

theorem mem_iff_find? : r ∈ t.rows ↔ t.find? (key r) = some r :=
  ⟨find?_key, fun h => (find?_eq_some_iff.mp h).1⟩

theorem mem_upsert {r x : ρ} :
    x ∈ (t.upsert r).rows ↔ x = r ∨ (x ∈ t.rows ∧ key r ≠ key x) := by
  rw [mem_iff_find?, find?_upsert]
  by_cases hk : key r = key x
  · rw [if_pos hk]
    exact ⟨fun h => .inl (Option.some.inj h).symm, fun h => h.elim (fun e => e ▸ rfl)
      (fun e => absurd hk e.2)⟩
  · rw [if_neg hk, ← mem_iff_find?]
    exact ⟨fun h => .inr ⟨h, hk⟩, fun h => h.elim (fun e => absurd (e ▸ rfl) hk) And.left⟩

theorem mem_remove {k : κ} :
    r ∈ (t.remove k).rows ↔ r ∈ t.rows ∧ key r ≠ k := by
  show r ∈ t.rows.filter _ ↔ _
  rw [List.mem_filter, decide_eq_true_eq]

/-- What is stored after a `remove`: the other rows, where they were. -/
theorem find?_remove_of_ne {k k' : κ} (h : k' ≠ k) :
    (t.remove k).find? k' = t.find? k' := by
  cases hfind : t.find? k' with
  | none =>
    rw [find?_eq_none_iff] at hfind ⊢
    exact fun r hr => hfind r (mem_remove.mp hr).1
  | some r =>
    obtain ⟨hmem, hkey⟩ := find?_eq_some_iff.mp hfind
    exact find?_eq_some_iff.mpr ⟨mem_remove.mpr ⟨hmem, hkey ▸ h⟩, hkey⟩

/-- What is stored after a `remove`. -/
theorem find?_remove (t : Table key) (k k' : κ) :
    (t.remove k).find? k' = if k' = k then none else t.find? k' := by
  by_cases h : k' = k
  · rw [if_pos h, find?_eq_none_iff]
    intro r hr
    rw [h]
    exact (mem_remove.mp hr).2
  · rw [if_neg h]
    exact find?_remove_of_ne h

theorem find?_remove_eq_some_iff {k k' : κ} :
    (t.remove k).find? k' = some r ↔ k' ≠ k ∧ t.find? k' = some r := by
  rw [find?_remove]
  by_cases h : k' = k
  · rw [if_pos h]
    exact iff_of_false nofun (fun hne => hne.1 h)
  · rw [if_neg h]
    exact (and_iff_right h).symm

/-- The rows of an `upsert` over a stored key stand where they stood. -/
theorem rows_upsert_of_stored {r s : ρ} (h : t.find? (key r) = some s) :
    (t.upsert r).rows = t.rows.map (fun x => if key x = key r then r else x) := by
  have hins : t.insert? r = none := insert?_eq_none_iff.mpr ⟨s, h⟩
  rw [upsert, hins, Option.getD_none]
  rfl

/-- Storing a row changes nothing exactly when it is the row that is stored. -/
theorem upsert_eq_self_iff :
    t.upsert r = t ↔ t.find? (key r) = some r := by
  constructor
  · intro h
    rw [← h, find?_upsert, if_pos rfl]
  · intro h
    apply Table.ext
    rw [rows_upsert_of_stored h]
    conv_rhs => rw [← List.map_id t.rows]
    apply List.map_congr_left
    intro x hx
    show (if key x = key r then r else x) = x
    by_cases hk : key x = key r
    · rw [if_pos hk]
      exact eq_of_key_eq (find?_eq_some_iff.mp h).1 hx hk.symm
    · rw [if_neg hk]

theorem mem_replace {r x : ρ} (h : x ∈ (t.replace r).rows) :
    x ∈ t.rows ∨ x = r := by
  obtain ⟨y, hy, rfl⟩ := List.mem_map.mp h
  by_cases hk : key y = key r
  · rw [if_pos hk]
    exact .inr rfl
  · rw [if_neg hk]
    exact .inl hy

end Table
end Lib
