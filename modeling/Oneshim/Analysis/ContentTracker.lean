/-
  The content tracker (`oneshim-analysis/src/content_tracker.rs`).

  What the user works on has a label; while the label stays the same the tracker averages what is
  measured, and when it changes the content is finalized with its duration.

  What is measured (engagement, confidence, the work type, the GUI summary) is of any type: its
  averages are floating-point numbers, and `blend` stands for them.
-/
import Oneshim.Focus.FocusAnalyzer
import Oneshim.Lib.Spans

namespace Oneshim.Analysis

open Focus (second durationSecs)

/-- `ContentActivity`. -/
structure ContentActivity (δ : Type) where
  contentLabel : String
  startTime : Int
  durationSecs : Nat
  details : δ
deriving DecidableEq

/-- When an activity ended. -/
def ContentActivity.endTime {δ : Type} (self : ContentActivity δ) : Int :=
  self.startTime + self.durationSecs * second

/-- `ActiveContent`. -/
structure ActiveContent (δ : Type) where
  contentLabel : String
  startTime : Int
  updateCount : Nat
  details : δ

/-- `ContentUpdateInput`. -/
structure ContentUpdateInput (δ : Type) where
  contentLabel : String
  timestamp : Int
  details : δ

/-- `ContentTracker`. -/
structure ContentTracker (δ : Type) where
  current : Option (ActiveContent δ)
  completed : List (ContentActivity δ)

namespace ContentTracker

variable {δ : Type} (blend : Nat → δ → δ → δ)

/-- `ContentTracker::new`. -/
def new : ContentTracker δ := ⟨none, []⟩

/-- `finalize_current`: the activity, if there is one. -/
def finalizeCurrent (self : ContentTracker δ) (endTime : Int) : Option (ContentActivity δ) :=
  self.current.map fun current =>
    { contentLabel := current.contentLabel
      startTime := current.startTime
      durationSecs := durationSecs endTime current.startTime
      details := current.details }

/-- `update`. -/
def update (self : ContentTracker δ) (input : ContentUpdateInput δ) :
    Option (ContentActivity δ) × ContentTracker δ :=
  match self.current with
  | some current =>
    if current.contentLabel ≠ input.contentLabel then
      let finalized := self.finalizeCurrent input.timestamp
      (finalized,
        { current := some ⟨input.contentLabel, input.timestamp, 1, input.details⟩
          completed := self.completed ++ finalized.toList })
    else
      (none,
        { self with current := some { current with
            updateCount := current.updateCount + 1
            details := blend (current.updateCount + 1) current.details input.details } })
  | none =>
    (none, { self with current := some ⟨input.contentLabel, input.timestamp, 1, input.details⟩ })

/-- `drain_all`. -/
def drainAll (self : ContentTracker δ) (endTime : Int) :
    List (ContentActivity δ) × ContentTracker δ :=
  (self.completed ++ (self.finalizeCurrent endTime).toList, .new)

/-! ## What has been tracked -/

theorem endTime_sub {δ : Type} (activity : ContentActivity δ) :
    activity.endTime - activity.startTime = activity.durationSecs * second :=
  add_sub_cancel_left _ _

/-- The durations of activities, in seconds. -/
theorem sum_endTime_sub {δ : Type} (activities : List (ContentActivity δ)) :
    (activities.map fun activity => activity.endTime - activity.startTime).sum =
      ((activities.map (·.durationSecs)).sum : Nat) * second := by
  induction activities with
  | nil => simp
  | cons activity activities ih =>
    simp only [List.map_cons, List.sum_cons]
    rw [ih, endTime_sub, Nat.cast_add, add_mul]

/-- The activities follow one another between two times, and the content that goes on comes last. -/
def Tracks (self : ContentTracker δ) (first last : Int) : Prop :=
  Lib.InRow ContentActivity.startTime ContentActivity.endTime first self.completed
      ((self.current.map (·.startTime)).getD last) ∧
    ∀ current ∈ self.current, current.startTime ≤ last

theorem tracks_new {first last : Int} (h : first ≤ last) :
    (new : ContentTracker δ).Tracks first last :=
  ⟨h, fun _ h => by cases h⟩

theorem endTime_le {startTime endTime : Int} (h : startTime ≤ endTime) :
    startTime + durationSecs endTime startTime * second ≤ endTime := by
  rw [durationSecs, second, Int.tdiv_eq_ediv_of_nonneg (sub_nonneg.mpr h)]
  omega

variable {self : ContentTracker δ}

/-- Time goes by. -/
theorem Tracks.mono {first last last' : Int} (h : self.Tracks first last) (hle : last ≤ last') :
    self.Tracks first last' := by
  obtain ⟨hrow, hcurrent⟩ := h
  refine ⟨?_, fun current hmem => (hcurrent current hmem).trans hle⟩
  cases hc : self.current with
  | none =>
    rw [hc] at hrow
    exact hrow.mono hle
  | some current => rwa [hc] at hrow

/-- Nothing was tracked before a later time. -/
theorem Tracks.raise {first first' last : Int} (h : self.Tracks first last) (hlast : first' ≤ last)
    (hcompleted : ∀ activity ∈ self.completed, first' ≤ activity.startTime)
    (hcurrent : ∀ current ∈ self.current, first' ≤ current.startTime) :
    self.Tracks first' last := by
  refine ⟨h.1.raise hcompleted ?_, h.2⟩
  cases hc : self.current with
  | none => exact hlast
  | some current => exact hcurrent current hc

/-- **What is drained** lies between the two times. -/
theorem Tracks.drained {first last : Int} (h : self.Tracks first last) :
    Lib.InRow ContentActivity.startTime ContentActivity.endTime first (self.drainAll last).1
      last := by
  obtain ⟨hrow, hcurrent⟩ := h
  unfold drainAll finalizeCurrent
  cases hc : self.current with
  | none =>
    rw [hc] at hrow
    simpa using hrow
  | some current =>
    rw [hc] at hrow
    have hle := hcurrent current hc
    refine hrow.snoc le_rfl ?_ (endTime_le hle)
    unfold ContentActivity.endTime second
    omega

/-- **An update** at the end of it. -/
theorem Tracks.update {first : Int} {input : ContentUpdateInput δ}
    (h : self.Tracks first input.timestamp) :
    (self.update blend input).2.Tracks first input.timestamp := by
  have hdrained := h.drained
  obtain ⟨hrow, hcurrent⟩ := h
  unfold ContentTracker.update
  cases hc : self.current with
  | none =>
    rw [hc] at hrow
    exact ⟨hrow, fun _ h => by cases h; exact le_rfl⟩
  | some current =>
    simp only
    split
    · exact ⟨hdrained, fun _ h => by cases h; exact le_rfl⟩
    · rw [hc] at hrow
      exact ⟨hrow, fun _ h => by cases h; exact hcurrent current hc⟩

end ContentTracker

end Oneshim.Analysis
