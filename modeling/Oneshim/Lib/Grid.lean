/-
  A property that changes on a grid only, and looking at it now and then.

  Times are integers.  A property is GRIDDED by a step when it is the same at a time and at the last
  multiple of the step.  It is looked at every step, from some time on that need not be a multiple.

  * `Gridded.change` — what is between two looks: one multiple of the step, and the property is that
    of the first look before it and that of the second look from it on;
  * `Gridded.edge` — where the property begins to hold, the look before does not find it and the
    next look does.
-/
import Mathlib.Algebra.Order.Group.Int
import Mathlib.Tactic.Ring

namespace Lib

/-- `P` changes at multiples of `step` only. -/
def Gridded (step : Int) (P : Int → Prop) : Prop := ∀ time, P time ↔ P (time / step * step)

/-- The last multiple of `step` that is not after `time`. -/
def lastMultiple (step time : Int) : Int := time / step * step

theorem lastMultiple_le {step : Int} (hstep : 0 < step) (time : Int) :
    lastMultiple step time ≤ time :=
  Int.ediv_mul_le time (by omega)

theorem lt_lastMultiple_add {step : Int} (hstep : 0 < step) (time : Int) :
    time < lastMultiple step time + step := by
  have hlt := Int.lt_ediv_add_one_mul_self time hstep
  rw [Int.add_mul, Int.one_mul] at hlt
  exact hlt

theorem add_step_ediv {step : Int} (hstep : 0 < step) (time : Int) :
    (time + step) / step = time / step + 1 := by
  have h := Int.add_mul_ediv_right time 1 (show step ≠ 0 by omega)
  rwa [Int.one_mul] at h

namespace Gridded

variable {step : Int} {P : Int → Prop}

/-- The same between two multiples. -/
theorem iff_of_ediv_eq (h : Gridded step P) {s t : Int} (heq : s / step = t / step) :
    P s ↔ P t := by
  rw [h s, h t, heq]

/-- Some of several. -/
theorem exists_mem {ι : Type} {members : List ι} {Q : ι → Int → Prop}
    (h : ∀ i ∈ members, Gridded step (Q i)) : Gridded step fun time => ∃ i ∈ members, Q i time :=
  fun time => exists_congr fun i => and_congr_right fun hi => h i hi time

/-- **Between two looks.** -/
theorem change (h : Gridded step P) (hstep : 0 < step) (look : Int) :
    look < lastMultiple step (look + step) ∧ lastMultiple step (look + step) ≤ look + step ∧
      (P (lastMultiple step (look + step)) ↔ P (look + step)) ∧
      ∀ time, look ≤ time → time < lastMultiple step (look + step) → (P time ↔ P look) := by
  have hle := lastMultiple_le hstep (look + step)
  have hlt := lt_lastMultiple_add hstep (look + step)
  refine ⟨by omega, hle, (h (look + step)).symm, ?_⟩
  intro time hfrom hbefore
  apply h.iff_of_ediv_eq
  have hlow : look / step ≤ time / step := Int.ediv_le_ediv hstep hfrom
  have hhigh : time / step < (look + step) / step :=
    (Int.ediv_lt_iff_lt_mul hstep).mpr hbefore
  rw [add_step_ediv hstep] at hhigh
  omega

/-- **Where it begins.** -/
theorem edge (h : Gridded step P) (hstep : 0 < step) {look time : Int} (hon : P time)
    (hoff : ¬ P (time - 1)) (hfrom : look < time) (hto : time ≤ look + step) :
    ¬ P look ∧ P (look + step) ∧ time = lastMultiple step (look + step) := by
  have hle : (time - 1) / step ≤ time / step := Int.ediv_le_ediv hstep (by omega)
  have hne : (time - 1) / step ≠ time / step := fun heq =>
    hoff ((h.iff_of_ediv_eq heq).mpr hon)
  have hlow : look / step ≤ (time - 1) / step := Int.ediv_le_ediv hstep (by omega)
  have hhigh : time / step ≤ (look + step) / step := Int.ediv_le_ediv hstep hto
  have hadd := add_step_ediv hstep look
  have hlook : look / step = (time - 1) / step := by omega
  have hnext : time / step = (look + step) / step := by omega
  refine ⟨?_, (h.iff_of_ediv_eq hnext).mp hon, ?_⟩
  · intro hfound
    exact hoff ((h.iff_of_ediv_eq hlook).mp hfound)
  · -- a time that is no multiple is in one step with the time before
    have hmultiple : lastMultiple step time ≤ time := lastMultiple_le hstep time
    by_contra hnot
    refine hne (Int.le_antisymm hle ((Int.le_ediv_iff_mul_le hstep).mpr ?_))
    unfold lastMultiple at hmultiple hnot
    rw [← hnext] at hnot
    omega

end Gridded

/-- The looks are close enough: a time after the first one is between two of them. -/
theorem exists_look {step start time : Int} (hstep : 0 < step) (hfrom : start < time) :
    ∃ j : Nat, start + j * step < time ∧ time ≤ start + j * step + step := by
  have hnonneg : 0 ≤ (time - 1 - start) / step := Int.ediv_nonneg (by omega) (by omega)
  have hle : lastMultiple step (time - 1 - start) ≤ time - 1 - start := lastMultiple_le hstep _
  have hlt := lt_lastMultiple_add hstep (time - 1 - start)
  refine ⟨((time - 1 - start) / step).toNat, ?_, ?_⟩
  · rw [Int.toNat_of_nonneg hnonneg]
    unfold lastMultiple at hle
    omega
  · rw [Int.toNat_of_nonneg hnonneg]
    unfold lastMultiple at hlt
    omega

end Lib
