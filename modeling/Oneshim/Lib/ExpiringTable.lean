/-
  Tables of bounded size whose rows expire.

  A server that hands out short-lived entries keeps them in a map and cleans up when it adds one:
  drop what is older than the time to live, evict the OLDEST entry when the map is still full, then
  store the new one (`enroll`).  An entry is looked up by its key, and may be taken out
  (`Table.remove`).

  Two facts are all that is needed of such a map: `enroll` never lets it grow beyond its capacity
  (`length_enroll_le`), and everything in it has been enrolled (`mem_enroll`).

  Which of several oldest entries goes depends on the order in which the map is iterated, about
  which nothing is known; an `Iteration` is any order, and each call may come with another one.
-/
import Mathlib.Data.List.MinMax
import Oneshim.Lib.Table

namespace Lib

/-- An order in which the entries of a map are visited. -/
structure Iteration (ρ : Type) where
  order : List ρ → List ρ
  /-- Each entry is visited once. -/
  perm : ∀ l, (order l).Perm l

/-- The order of the list itself. -/
def Iteration.id (ρ : Type) : Iteration ρ := ⟨fun l => l, fun l => List.Perm.refl l⟩

namespace Table

variable {κ ρ : Type} [DecidableEq κ] {key : ρ → κ}

/-- Remove the row with the least `createdAt`, the first one visited of several. -/
def evictOldest (createdAt : ρ → Nat) (iteration : Iteration ρ) (t : Table key) : Table key :=
  match (iteration.order t.rows).argmin createdAt with
  | none => t
  | some oldest => t.remove (key oldest)

/-- Drop what has expired, make room, and store `row`. -/
def enroll (createdAt : ρ → Nat) (ttl capacity now : Nat) (iteration : Iteration ρ) (row : ρ)
    (t : Table key) : Table key :=
  let live := t.filterRows (fun r => decide (now - createdAt r < ttl))
  let room := if capacity ≤ live.rows.length then live.evictOldest createdAt iteration else live
  room.upsert row

variable {t : Table key} {createdAt : ρ → Nat} {iteration : Iteration ρ}

theorem mem_evictOldest {r : ρ} (h : r ∈ (t.evictOldest createdAt iteration).rows) :
    r ∈ t.rows := by
  unfold evictOldest at h
  split at h
  · exact h
  · exact (mem_remove.mp h).1

/-- Everything in the table is the new row, or was there before. -/
theorem mem_enroll {ttl capacity now : Nat} {row r : ρ}
    (h : r ∈ (t.enroll createdAt ttl capacity now iteration row).rows) : r = row ∨ r ∈ t.rows := by
  rcases mem_upsert.mp h with hnew | ⟨hroom, -⟩
  · exact .inl hnew
  · right
    split at hroom
    · exact (List.mem_filter.mp (mem_evictOldest hroom)).1
    · exact (List.mem_filter.mp hroom).1

/-! ## Capacity -/

theorem length_upsert_le (r : ρ) : (t.upsert r).rows.length ≤ t.rows.length + 1 := by
  unfold upsert
  cases hins : t.insert? r with
  | some t' =>
    obtain ⟨-, hrows⟩ := insert?_eq_some_iff.mp hins
    rw [Option.getD_some, hrows, List.length_append, List.length_singleton]
  | none =>
    show (t.rows.map _).length ≤ _
    rw [List.length_map]
    omega

/-- An eviction makes room. -/
theorem length_evictOldest_lt (h : t.rows ≠ []) :
    (t.evictOldest createdAt iteration).rows.length < t.rows.length := by
  have hperm := iteration.perm t.rows
  unfold evictOldest
  cases hmin : (iteration.order t.rows).argmin createdAt with
  | none =>
    rw [List.argmin_eq_none] at hmin
    rw [hmin] at hperm
    exact absurd hperm.symm.eq_nil h
  | some oldest =>
    have hmem : oldest ∈ t.rows := hperm.mem_iff.mp (List.argmin_mem hmin)
    show (t.rows.filter _).length < t.rows.length
    refine List.length_filter_lt_length_iff_exists.mpr ⟨oldest, hmem, ?_⟩
    simp

/-- **The table never exceeds its capacity.** -/
theorem length_enroll_le {ttl capacity now : Nat} {row : ρ} (hpos : 0 < capacity)
    (h : t.rows.length ≤ capacity) :
    (t.enroll createdAt ttl capacity now iteration row).rows.length ≤ capacity := by
  have hlive : (t.filterRows (fun r => decide (now - createdAt r < ttl))).rows.length
      ≤ t.rows.length := List.length_filter_le _ _
  unfold enroll
  refine (length_upsert_le row).trans ?_
  generalize t.filterRows (fun r => decide (now - createdAt r < ttl)) = live at hlive ⊢
  split
  · next hfull =>
    have hne : live.rows ≠ [] := by
      intro hnil
      rw [hnil, List.length_nil] at hfull
      omega
    have hroom : (live.evictOldest createdAt iteration).rows.length < live.rows.length :=
      length_evictOldest_lt hne
    omega
  · omega

end Table
end Lib
