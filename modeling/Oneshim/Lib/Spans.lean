/-
  Spans of time in a row.

  A list of things with a start and a finish is IN A ROW between two times when each starts no earlier
  than the one before has finished, the first no earlier than the one time, and the last finishes no
  later than the other.

  * `InRow` — by recursion on the list; `InRow.snoc` — one more at the end;
  * `InRow.inside`, `InRow.pairwise` — every span lies between the two times, and no two overlap;
  * `InRow.sum_le` — together they are no longer than the time between.
-/
import Mathlib.Algebra.Order.Group.Defs
import Mathlib.Algebra.BigOperators.Group.List.Basic
import Mathlib.Tactic.Abel

namespace Lib

variable {α T : Type} [LinearOrder T] {start finish : α → T}

/-- The spans follow one another between two times. -/
def InRow (start finish : α → T) : T → List α → T → Prop
  | first, [], last => first ≤ last
  | first, a :: as, last =>
    first ≤ start a ∧ start a ≤ finish a ∧ InRow start finish (finish a) as last

namespace InRow

variable {as : List α}

theorem le {first last : T} (h : InRow start finish first as last) :
    first ≤ last := by
  induction as generalizing first with
  | nil => exact h
  | cons a as ih => exact h.1.trans (h.2.1.trans (ih h.2.2))

/-- There may be more time at the end. -/
theorem mono {first last last' : T} (h : InRow start finish first as last) (hle : last ≤ last') :
    InRow start finish first as last' := by
  induction as generalizing first with
  | nil => exact le_trans (show first ≤ last from h) hle
  | cons a as ih => exact ⟨h.1, h.2.1, ih h.2.2⟩

/-- **One more.** -/
theorem snoc {first last last' : T} {a : α} (h : InRow start finish first as last)
    (hstart : last ≤ start a) (hspan : start a ≤ finish a) (hlast : finish a ≤ last') :
    InRow start finish first (as ++ [a]) last' := by
  induction as generalizing first with
  | nil => exact ⟨le_trans (show first ≤ last from h) hstart, hspan, hlast⟩
  | cons b as ih => exact ⟨h.1, h.2.1, ih h.2.2⟩

/-- They begin as late as the first of them. -/
theorem raise {first first' last : T} (h : InRow start finish first as last)
    (hfirst : ∀ a ∈ as, first' ≤ start a) (hlast : first' ≤ last) :
    InRow start finish first' as last := by
  cases as with
  | nil => exact hlast
  | cons a as => exact ⟨hfirst a List.mem_cons_self, h.2.1, h.2.2⟩

/-- Every span lies between the two times. -/
theorem inside {first last : T} (h : InRow start finish first as last) :
    ∀ a ∈ as, first ≤ start a ∧ finish a ≤ last := by
  induction as generalizing first with
  | nil => exact fun a ha => absurd ha List.not_mem_nil
  | cons b as ih =>
    intro a ha
    rcases List.mem_cons.mp ha with rfl | ha
    · exact ⟨h.1, h.2.2.le⟩
    · obtain ⟨hfirst, hlast⟩ := ih h.2.2 a ha
      exact ⟨h.1.trans (h.2.1.trans hfirst), hlast⟩

/-- No two overlap. -/
theorem pairwise {first last : T} (h : InRow start finish first as last) :
    as.Pairwise fun a b => finish a ≤ start b := by
  induction as generalizing first with
  | nil => exact .nil
  | cons a as ih => exact .cons (fun b hb => (h.2.2.inside b hb).1) (ih h.2.2)

/-- **Together they fit.** -/
theorem sum_le {T : Type} [AddCommGroup T] [LinearOrder T] [IsOrderedAddMonoid T]
    {start finish : α → T} {first last : T} (h : InRow start finish first as last) :
    (as.map fun a => finish a - start a).sum ≤ last - first := by
  induction as generalizing first with
  | nil => simpa using (show first ≤ last from h)
  | cons a as ih =>
    calc ((a :: as).map fun a => finish a - start a).sum
        = (finish a - start a) + (as.map fun a => finish a - start a).sum := by
          rw [List.map_cons, List.sum_cons]
      _ ≤ (finish a - start a) + (last - finish a) := by
          gcongr
          exact ih h.2.2
      _ = last - start a := by abel
      _ ≤ last - first := sub_le_sub_left h.1 last

end InRow

end Lib
