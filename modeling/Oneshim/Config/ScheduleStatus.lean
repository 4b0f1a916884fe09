/-
  When the mute ends, as the settings page shows it
  (`src-tauri/src/commands/tracking_schedule.rs`).

  The status looks at the wall clock minute by minute.  Windows open and close at whole minutes, so
  in a zone with one offset a look finds every change, less than a minute late.

  1. **The next start** (`next_right`) — the first later instant at which a window becomes active.

  2. **The end** (`ends_with_window`) — `compute_ends_at` follows ONE window, the first in the list
     that is active.  Capture resumes when NO window is active: the end shown says that exactly when
     none is active at the instant at which the one closes.

  A window that was accepted closes within a day, so the cap of 24 hours is not reached.
-/
import Mathlib.Order.Bounds.Basic
import Oneshim.Lib.Grid
import Oneshim.Config.TrackingSchedule

namespace Oneshim.Config

open Lib (Gridded lastMultiple exists_look)

/-! ## What the status should say -/

section

variable (zones : Zones) (cfg : TrackingScheduleConfig)

/-- The wall clock of the configured zone. -/
def wallAt (instant : Int) : Int := convertToTargetTz zones instant cfg.timezone

/-- Some window is active. -/
def ActiveAt (instant : Int) : Prop :=
  ∃ window ∈ cfg.windows, window.Covers (wallAt zones cfg instant)

/-- Later than `now`, no window is active, or 24 hours are over. -/
def Resumes (now instant : Int) : Prop :=
  now < instant ∧ (¬ ActiveAt zones cfg instant ∨ now + day ≤ instant)

/-- The end that is shown is within a minute after the first instant at which capture resumes. -/
def EndsRight (now later : Int) : Prop :=
  ∃ endsAt resumes, (getTrackingScheduleStatus zones cfg now later).endsAt = some endsAt ∧
    IsLeast {instant | Resumes zones cfg now instant} resumes ∧
    resumes ≤ endsAt ∧ endsAt < resumes + minute

/-- Within seven days after `now` some window becomes active where none was. -/
def Opens (now instant : Int) : Prop :=
  now < instant ∧ instant ≤ now + 7 * day ∧
    ActiveAt zones cfg instant ∧ ¬ ActiveAt zones cfg (instant - 1)

/-- The start that is shown is within a minute after the first such instant, and none is shown when
    there is no such instant. -/
def NextRight (now later : Int) : Prop :=
  (∀ startsAt, (getTrackingScheduleStatus zones cfg now later).nextStartsAt = some startsAt →
    ∃ opens, IsLeast {instant | Opens zones cfg later instant} opens ∧
      opens ≤ startsAt ∧ startsAt < opens + minute) ∧
  ((getTrackingScheduleStatus zones cfg now later).nextStartsAt = none →
    ∀ instant, ¬ Opens zones cfg later instant)

/-- The instant at which a window that is active at `now` closes. -/
def Closes (now : Int) (window : TrackingWindow) (instant : Int) : Prop :=
  IsLeast {t | now < t ∧ ¬ window.Covers (wallAt zones cfg t)} instant

/-- The end that is shown is within a minute after a window closes and less than 24 hours away, and
    it is the end of the mute exactly when no window is active then. -/
def EndsWith (now later : Int) (window : TrackingWindow) : Prop :=
  ∃ endsAt closes, (getTrackingScheduleStatus zones cfg now later).endsAt = some endsAt ∧
    Closes zones cfg now window closes ∧ closes ≤ endsAt ∧ endsAt < closes + minute ∧
    endsAt < now + day ∧ (EndsRight zones cfg now later ↔ ¬ ActiveAt zones cfg closes)

end

/-! ## Windows and minutes -/

theorem minute_pos : 0 < minute := by decide

/-- A window changes at whole minutes only. -/
theorem covers_gridded (window : TrackingWindow) : Gridded minute window.Covers := by
  intro wall
  unfold TrackingWindow.Covers
  refine exists_congr fun number => exists_congr fun startTime => exists_congr fun endTime => ?_
  refine and_congr_right fun hstart => and_congr_right fun hend => and_congr_right fun _ => ?_
  obtain ⟨starts, hstarts, rfl⟩ := parseHhmm_minutes hstart
  obtain ⟨ends, hends, rfl⟩ := parseHhmm_minutes hend
  unfold minute day
  constructor
  · rintro ⟨hfrom, hto⟩
    split at hto <;> omega
  · rintro ⟨hfrom, hto⟩
    split at hto <;> omega

variable {window : TrackingWindow}

/-- The start and the end of a window that was accepted are different. -/
theorem times_of_validate (h : window.validate = .ok ()) :
    ∃ startTime endTime, parseHhmm window.start "start" = .ok startTime ∧
      parseHhmm window.stop "end" = .ok endTime ∧ startTime ≠ endTime := by
  unfold TrackingWindow.validate at h
  cases hstart : parseHhmm window.start "start" with
  | error message =>
    rw [hstart] at h
    cases h
  | ok startTime =>
    cases hend : parseHhmm window.stop "end" with
    | error message =>
      rw [hstart, hend] at h
      cases h
    | ok endTime =>
      refine ⟨startTime, endTime, rfl, rfl, ?_⟩
      rintro rfl
      rw [hstart, hend] at h
      simp only [bind, Except.bind, if_true] at h
      cases h

/-- **A window that was accepted closes** within a day, at a whole minute, and covers all the time
    until then. -/
theorem exists_closing (hvalid : window.validate = .ok ()) {wall : Int}
    (hcovers : window.Covers wall) :
    ∃ closing, wall < closing ∧ closing ≤ wall + day - minute ∧
      closing = lastMultiple minute closing ∧ ¬ window.Covers closing ∧
      ∀ time, wall ≤ time → time < closing → window.Covers time := by
  obtain ⟨_, _, hparse, hparse', hne⟩ := times_of_validate hvalid
  obtain ⟨number, startTime, endTime, hstart, hend, hday, hfrom, hto⟩ := hcovers
  rw [hstart] at hparse
  rw [hend] at hparse'
  cases hparse
  cases hparse'
  obtain ⟨starts, hstarts, rfl⟩ := parseHhmm_minutes hstart
  obtain ⟨ends, hends, rfl⟩ := parseHhmm_minutes hend
  refine ⟨_, hto, ?_, ?_, ?_, ?_⟩
  · unfold minute day at *
    split <;> omega
  · unfold lastMultiple minute day
    split <;> omega
  · -- neither the day's own window nor a neighbour's covers the end
    rintro ⟨other, _, _, hstart', hend', -, hfrom', hto'⟩
    rw [hstart] at hstart'
    rw [hend] at hend'
    cases hstart'
    cases hend'
    unfold minute day at *
    split at hfrom' <;> split at hto' <;> omega
  · intro time htime hbefore
    exact ⟨number, _, _, hstart, hend, hday, hfrom.trans htime, hbefore⟩

/-! ## The loops -/

/-- `compute_ends_at` stops at the first minute at which the window is closed. -/
theorem closingMinute_spec (window : TrackingWindow) (wall : Int) (left tried : Nat) :
    closingMinute window wall tried left ≤ tried + left ∧
      (∀ j, tried < j → j < closingMinute window wall tried left →
        window.windowIsActive (wall + j * minute) = true) ∧
      (closingMinute window wall tried left < tried + left →
        tried < closingMinute window wall tried left ∧
        window.windowIsActive (wall + closingMinute window wall tried left * minute) = false) := by
  induction left generalizing tried with
  | zero =>
    refine ⟨Nat.le_refl _, ?_, fun h => absurd h (Nat.lt_irrefl _)⟩
    intro j hfrom hto
    exact absurd hto (Nat.lt_asymm hfrom)
  | succ left ih =>
    cases hactive : window.windowIsActive (wall + (tried + 1) * minute) with
    | false =>
      rw [closingMinute, hactive, if_pos (by decide)]
      refine ⟨by omega, ?_, ?_⟩
      · intro j hfrom hto
        omega
      · intro _
        refine ⟨Nat.lt_succ_self tried, ?_⟩
        rwa [Nat.cast_add_one]
    | true =>
      rw [closingMinute, hactive, if_neg (by decide)]
      obtain ⟨hle, hbefore, hstop⟩ := ih (tried + 1)
      refine ⟨by omega, ?_, ?_⟩
      · intro j hfrom hto
        rcases Nat.lt_or_eq_of_le (Nat.succ_le_of_lt hfrom) with hlater | rfl
        · exact hbefore j hlater hto
        · rwa [Nat.cast_add_one]
      · intro hlt
        obtain ⟨htried, hclosed⟩ := hstop (by omega)
        exact ⟨by omega, hclosed⟩

/-- The windows open between two minutes. -/
def Rises (windows : List TrackingWindow) (wall : Int) (j : Nat) : Prop :=
  windows.any (·.windowIsActive (wall + j * minute)) = false ∧
    windows.any (·.windowIsActive (wall + (j + 1) * minute)) = true

/-- `compute_next_starts_at` stops at the first minute at which a window has opened. -/
theorem openingMinute_spec (windows : List TrackingWindow) (wall : Int) (left tried : Nat) :
    match openingMinute windows wall tried
      (windows.any (·.windowIsActive (wall + tried * minute))) left with
    | some found => ∃ j, found = j + 1 ∧ tried ≤ j ∧ j < tried + left ∧ Rises windows wall j ∧
        ∀ i, tried ≤ i → i < j → ¬ Rises windows wall i
    | none => ∀ i, tried ≤ i → i < tried + left → ¬ Rises windows wall i := by
  induction left generalizing tried with
  | zero =>
    intro i hfrom hto
    omega
  | succ left ih =>
    rw [openingMinute]
    by_cases hrises : Rises windows wall tried
    · obtain ⟨hclosed, hopen⟩ := hrises
      simp only [hclosed, hopen, Bool.not_false, Bool.true_and, if_true]
      refine ⟨tried, rfl, Nat.le_refl _, by omega, ⟨hclosed, hopen⟩, ?_⟩
      intro i hfrom hto
      omega
    · have hstill : ¬ ((!windows.any (·.windowIsActive (wall + tried * minute))) &&
          windows.any (·.windowIsActive (wall + (tried + 1) * minute))) = true := by
        rw [Bool.and_eq_true, Bool.not_eq_true']
        exact hrises
      simp only [if_neg hstill]
      have hnext := ih (tried + 1)
      rw [Nat.cast_add_one] at hnext
      revert hnext
      cases openingMinute windows wall (tried + 1)
        (windows.any (·.windowIsActive (wall + (tried + 1) * minute))) left with
      | none =>
        intro hnone i hfrom hto
        rcases Nat.lt_or_eq_of_le hfrom with hlater | rfl
        · exact hnone i hlater (by omega)
        · exact hrises
      | some found =>
        rintro ⟨j, hfound, hfrom, hto, hj, hfirst⟩
        refine ⟨j, hfound, by omega, by omega, hj, ?_⟩
        intro i hi hlt
        rcases Nat.lt_or_eq_of_le hi with hlater | rfl
        · exact hfirst i hlater hlt
        · exact hrises

/-! ## The instants -/

section

variable {zones : Zones} {cfg : TrackingScheduleConfig} {offset now later : Int}

/-- Some window is active, by the wall clock. -/
def ActiveWall (windows : List TrackingWindow) (wall : Int) : Prop :=
  ∃ window ∈ windows, window.Covers wall

theorem activeWall_gridded (windows : List TrackingWindow) :
    Gridded minute (ActiveWall windows) :=
  Gridded.exists_mem fun window _ => covers_gridded window

theorem rises_iff {windows : List TrackingWindow} {wall : Int} {j : Nat} :
    Rises windows wall j ↔ ¬ ActiveWall windows (wall + j * minute) ∧
      ActiveWall windows (wall + j * minute + minute) := by
  have hnext : wall + (j + 1) * minute = wall + j * minute + minute := by
    unfold minute
    omega
  rw [Rises, hnext, ← Bool.not_eq_true, any_windowIsActive_iff, any_windowIsActive_iff]
  rfl

/-- In a zone with one offset. -/
theorem activeAt_iff (hzone : ∀ t, convertToTargetTz zones t cfg.timezone = t + offset)
    (instant : Int) : ActiveAt zones cfg instant ↔ ActiveWall cfg.windows (instant + offset) := by
  unfold ActiveAt wallAt
  rw [hzone]
  rfl

/-- An instant at which a window becomes active is between two looks, and the second finds it. -/
theorem rises_of_opens (hzone : ∀ t, convertToTargetTz zones t cfg.timezone = t + offset)
    {instant : Int} (h : Opens zones cfg now instant) :
    ∃ j : Nat, j < 7 * 24 * 60 ∧ Rises cfg.windows (now + offset) j ∧
      instant + offset = lastMultiple minute (now + offset + j * minute + minute) := by
  obtain ⟨hlater, hhorizon, hon, hoff⟩ := h
  rw [activeAt_iff hzone] at hon hoff
  obtain ⟨j, hlook, hnext⟩ :=
    exists_look minute_pos (show now + offset < instant + offset by omega)
  obtain ⟨hclosed, hopen, hgrid⟩ := (activeWall_gridded cfg.windows).edge minute_pos hon
    (by rwa [show instant + offset - 1 = instant - 1 + offset by omega]) hlook hnext
  refine ⟨j, ?_, rises_iff.mpr ⟨hclosed, hopen⟩, hgrid⟩
  unfold minute at hlook
  unfold day at hhorizon
  omega

/-- Between two looks of which only the second finds a window, one becomes active. -/
theorem opens_of_rises (hzone : ∀ t, convertToTargetTz zones t cfg.timezone = t + offset) {j : Nat}
    (hj : j < 7 * 24 * 60) (h : Rises cfg.windows (now + offset) j) :
    Opens zones cfg now (lastMultiple minute (now + offset + j * minute + minute) - offset) := by
  obtain ⟨hclosed, hopen⟩ := rises_iff.mp h
  obtain ⟨hafter, hle, hsame, hbefore⟩ :=
    (activeWall_gridded cfg.windows).change minute_pos (now + offset + j * minute)
  refine ⟨?_, ?_, ?_, ?_⟩
  · unfold minute at *
    omega
  · unfold minute day at *
    omega
  · rw [activeAt_iff hzone, Int.sub_add_cancel]
    exact hsame.mpr hopen
  · rw [activeAt_iff hzone]
    refine fun hactive => hclosed ((hbefore _ ?_ ?_).mp hactive)
    · omega
    · omega

/-- **The next start is right.** -/
theorem next_right (hzone : ∀ t, convertToTargetTz zones t cfg.timezone = t + offset)
    (henabled : cfg.enabled = true) : NextRight zones cfg now later := by
  have hstatus : (getTrackingScheduleStatus zones cfg now later).nextStartsAt =
      computeNextStartsAt zones cfg later := by
    unfold getTrackingScheduleStatus
    dsimp only
    split
    · rfl
    · split <;> rfl
  unfold NextRight
  rw [hstatus, computeNextStartsAt, henabled, Bool.not_true, Bool.false_or]
  by_cases hempty : cfg.windows.isEmpty = true
  · rw [if_pos hempty]
    refine ⟨fun startsAt h => (by cases h), fun _ instant hopens => ?_⟩
    obtain ⟨window, hmem, -⟩ := hopens.2.2.1
    exact List.ne_nil_of_mem hmem (List.isEmpty_iff.mp hempty)
  · rw [if_neg hempty, hzone]
    have hspec := openingMinute_spec cfg.windows (later + offset) (7 * 24 * 60) 0
    rw [Int.ofNat_zero, Int.zero_mul, Int.add_zero] at hspec
    dsimp only
    generalize openingMinute cfg.windows (later + offset) 0
      (cfg.windows.any (·.windowIsActive (later + offset))) (7 * 24 * 60) = result at hspec ⊢
    cases result with
    | none =>
      refine ⟨fun startsAt h => (by cases h), fun _ instant hopens => ?_⟩
      obtain ⟨j, hj, hrises, -⟩ := rises_of_opens hzone hopens
      exact hspec j (Nat.zero_le j) (by omega) hrises
    | some found =>
      refine ⟨fun startsAt h => ?_, fun h => (by cases h)⟩
      obtain ⟨j, rfl, -, hj, hrises, hfirst⟩ := hspec
      cases h
      obtain ⟨hafter, hle, -, -⟩ :=
        (activeWall_gridded cfg.windows).change minute_pos (later + offset + j * minute)
      have hlt := Lib.lt_lastMultiple_add minute_pos (later + offset + j * minute + minute)
      refine ⟨_, ⟨opens_of_rises hzone (by omega) hrises, ?_⟩, ?_, ?_⟩
      · -- no earlier look finds an opening
        intro instant hopens
        obtain ⟨i, -, hi, hinstant⟩ := rises_of_opens hzone hopens
        have hji : j ≤ i := Nat.le_of_not_lt fun hlt => hfirst i (Nat.zero_le i) hlt hi
        have hafter' := (activeWall_gridded cfg.windows).change minute_pos
          (later + offset + i * minute)
        rcases Nat.lt_or_eq_of_le hji with hlt | rfl
        · unfold minute at *
          omega
        · omega
      · unfold minute at *
        push_cast
        omega
      · unfold minute at *
        push_cast
        omega

/-- **The loop stops within a minute after the window has closed.** -/
theorem closingMinute_eq {wall closing : Int} {j : Nat} (hlook : wall + j * minute < closing)
    (hnext : closing ≤ wall + j * minute + minute) (hday : closing ≤ wall + day - minute)
    (hgrid : closing = lastMultiple minute closing) (hclosed : ¬ window.Covers closing)
    (hcovers : ∀ time, wall ≤ time → time < closing → window.Covers time) :
    closingMinute window wall 0 (24 * 60) = j + 1 := by
  obtain ⟨hle, hbefore, hstop⟩ := closingMinute_spec window wall (24 * 60) 0
  rw [Nat.zero_add] at hle hstop
  have hbound : j + 1 < 24 * 60 := by
    unfold minute day at *
    omega
  have hopen : ∀ i ≤ j, window.windowIsActive (wall + i * minute) = true := by
    intro i hi
    refine (windowIsActive_iff_covers window _).mpr (hcovers _ ?_ ?_)
    · unfold minute
      omega
    · unfold minute at *
      omega
  have hshut : window.windowIsActive (wall + (j + 1 : Nat) * minute) = false := by
    rw [← Bool.not_eq_true, windowIsActive_iff_covers]
    refine fun hactive => hclosed (((covers_gridded window).iff_of_ediv_eq ?_).mp hactive)
    unfold lastMultiple minute at *
    push_cast
    omega
  rcases Nat.lt_trichotomy (closingMinute window wall 0 (24 * 60)) (j + 1) with hlt | heq | hgt
  · have hfound := (hstop (by omega)).2
    rw [hopen _ (by omega)] at hfound
    cases hfound
  · exact heq
  · have hfound := hbefore (j + 1) (by omega) hgt
    rw [hshut] at hfound
    cases hfound

/-- What the status shows as the end. -/
theorem endsAt_eq (hzone : ∀ t, convertToTargetTz zones t cfg.timezone = t + offset)
    (henabled : cfg.enabled = true)
    (hfind : cfg.windows.find? (·.windowIsActive (now + offset)) = some window) :
    (getTrackingScheduleStatus zones cfg now later).endsAt =
      some (now + closingMinute window (now + offset) 0 (24 * 60) * minute) := by
  have hnonempty : cfg.windows.isEmpty = false :=
    List.isEmpty_eq_false_iff.mpr (List.ne_nil_of_mem (List.mem_of_find?_eq_some hfind))
  unfold getTrackingScheduleStatus
  dsimp only
  rw [henabled, hnonempty, hzone, hfind]
  rfl

/-- **The end that is shown is that of the first active window.** -/
theorem ends_with_window (hvalid : ∀ window ∈ cfg.windows, window.validate = .ok ())
    (hzone : ∀ t, convertToTargetTz zones t cfg.timezone = t + offset)
    (henabled : cfg.enabled = true)
    (hfind : cfg.windows.find? (·.windowIsActive (now + offset)) = some window) :
    EndsWith zones cfg now later window := by
  have hmem := List.mem_of_find?_eq_some hfind
  have hactive : window.Covers (now + offset) :=
    (windowIsActive_iff_covers window _).mp (by simpa using List.find?_some hfind)
  obtain ⟨closing, hafter, hday, hgrid, hclosed, hcovers⟩ :=
    exists_closing (hvalid window hmem) hactive
  obtain ⟨j, hlook, hnext⟩ := exists_look minute_pos hafter
  have hends : (getTrackingScheduleStatus zones cfg now later).endsAt = _ :=
    endsAt_eq hzone henabled hfind
  rw [closingMinute_eq hlook hnext hday hgrid hclosed hcovers] at hends
  have hshown : now + ((j + 1 : Nat) : Int) * minute = now + j * minute + minute := by
    unfold minute
    push_cast
    omega
  rw [hshown] at hends
  have hcloses : Closes zones cfg now window (closing - offset) := by
    unfold Closes wallAt
    refine ⟨⟨by omega, ?_⟩, ?_⟩
    · rwa [hzone, Int.sub_add_cancel]
    · rintro t ⟨hlater, hshut⟩
      rw [hzone] at hshut
      have hnot : ¬ t + offset < closing := fun hbefore =>
        hshut (hcovers (t + offset) (by omega) hbefore)
      omega
  -- until the window closes it is active itself
  have huntil (t : Int) (hfrom : now < t) (hto : t < closing - offset) : ActiveAt zones cfg t :=
    (activeAt_iff hzone t).mpr ⟨window, hmem, hcovers _ (by omega) (by omega)⟩
  refine ⟨_, closing - offset, hends, hcloses, by omega, by omega, ?_, ?_, ?_⟩
  · unfold minute day at *
    omega
  · rintro ⟨endsAt, resumes, hshown, ⟨⟨hresumes, hwhy⟩, -⟩, hle, -⟩ hon
    rw [hends] at hshown
    cases hshown
    rcases hwhy with hoff | hcap
    · refine hoff ?_
      by_cases hbefore : resumes < closing - offset
      · exact huntil resumes hresumes hbefore
      · -- in the minute of the closing nothing changes
        rw [activeAt_iff hzone] at hon ⊢
        refine ((activeWall_gridded cfg.windows).iff_of_ediv_eq ?_).mp hon
        unfold lastMultiple minute at *
        omega
    · unfold minute day at *
      omega
  · intro hnone
    refine ⟨_, closing - offset, hends, ⟨⟨by omega, .inl hnone⟩, ?_⟩, by omega, by omega⟩
    rintro t ⟨hlater, hoff | hcap⟩
    · exact Int.not_lt.mp fun hbefore => hoff (huntil t hlater hbefore)
    · unfold minute day at *
      omega

/-- The end and the next start are those of the mute. -/
def StatusRight (zones : Zones) (cfg : TrackingScheduleConfig) (now later : Int) : Prop :=
  EndsRight zones cfg now later ∧ NextRight zones cfg now later

end

/-- **What the status shows.**  For every schedule that was accepted, in a zone with one offset, at
    every instant inside a window: the end of the first active window of the list, which is the end
    of the mute exactly when no other one is active then, and the next start of the mute. -/
theorem status_shows_first_window (zones : Zones) (schedule : AcceptedSchedule zones)
    (offset now later : Int)
    (hzone : ∀ t, convertToTargetTz zones t schedule.cfg.timezone = t + offset)
    (hinside : schedule.cfg.InWindow (wallAt zones schedule.cfg now)) :
    (∃ window, schedule.cfg.windows.find? (·.windowIsActive (wallAt zones schedule.cfg now)) =
        some window ∧ EndsWith zones schedule.cfg now later window) ∧
      NextRight zones schedule.cfg now later := by
  obtain ⟨henabled, hactive⟩ := hinside
  refine ⟨?_, next_right hzone henabled⟩
  rw [show wallAt zones schedule.cfg now = now + offset from hzone now] at hactive ⊢
  cases hfind : schedule.cfg.windows.find? (·.windowIsActive (now + offset)) with
  | none =>
    rw [← any_windowIsActive_iff, List.any_eq_true] at hactive
    obtain ⟨window, hmem, hopen⟩ := hactive
    exact absurd hopen (List.find?_eq_none.mp hfind window hmem)
  | some window =>
    exact ⟨window, rfl, ends_with_window schedule.windows hzone henabled hfind⟩

theorem seoul_offset (t : Int) :
    convertToTargetTz seoulOnUtcMachine t "Asia/Seoul" = t + 32400000000000 := by
  simp [convertToTargetTz, seoulOnUtcMachine]

/-- Office hours alone, at ten in Seoul: the end of the window is the end of the mute. -/
theorem status_shows_first_window_officeHours :
    StatusRight seoulOnUtcMachine officeHours.cfg 3600000000000 3600000000000 := by
  obtain ⟨⟨window, hfind, endsAt, closes, -, ⟨⟨-, hclosed⟩, -⟩, -, -, -, hends⟩, hnext⟩ :=
    status_shows_first_window seoulOnUtcMachine officeHours 32400000000000 3600000000000
      3600000000000 seoul_offset ⟨rfl, any_windowIsActive_iff.mp (by decide +kernel)⟩
  refine ⟨hends.mpr ?_, hnext⟩
  rintro ⟨other, hother, hcovers⟩
  have hwindow := List.mem_singleton.mp (List.mem_of_find?_eq_some hfind)
  rw [hwindow] at hclosed
  rw [List.mem_singleton.mp hother] at hcovers
  exact hclosed hcovers

/-- A morning and an afternoon in Seoul, with no time between them. -/
def morningAndAfternoon : AcceptedSchedule seoulOnUtcMachine where
  cfg := ⟨true, [⟨"09:00", "12:00", [.mon, .tue, .wed, .thu, .fri], "morning"⟩,
    ⟨"12:00", "18:00", [.mon, .tue, .wed, .thu, .fri], "afternoon"⟩], "Asia/Seoul"⟩
  windows := by decide +kernel
  zone := by decide +kernel

/-- At ten in the morning the end shown is noon, and capture does not resume before six. -/
theorem morning_ends_too_early :
    ¬ ∀ (zones : Zones) (schedule : AcceptedSchedule zones) (offset now later : Int),
      (∀ t, convertToTargetTz zones t schedule.cfg.timezone = t + offset) →
        schedule.cfg.InWindow (wallAt zones schedule.cfg now) →
          StatusRight zones schedule.cfg now later := by
  intro h
  have hright := h seoulOnUtcMachine morningAndAfternoon 32400000000000 3600000000000 3600000000000
    seoul_offset ⟨rfl, any_windowIsActive_iff.mp (by decide +kernel)⟩
  obtain ⟨endsAt, closes, -, hcloses, -, -, -, hends⟩ :
      EndsWith seoulOnUtcMachine morningAndAfternoon.cfg 3600000000000 3600000000000 _ :=
    ends_with_window morningAndAfternoon.windows seoul_offset rfl
      (show _ = some ⟨"09:00", "12:00", [.mon, .tue, .wed, .thu, .fri], "morning"⟩ by
        decide +kernel)
  have hnoon : Closes seoulOnUtcMachine morningAndAfternoon.cfg 3600000000000
      ⟨"09:00", "12:00", [.mon, .tue, .wed, .thu, .fri], "morning"⟩ 10800000000000 := by
    refine ⟨⟨by decide, ?_⟩, ?_⟩
    · -- closed at noon
      rw [← windowIsActive_iff_covers]
      decide +kernel
    · -- open since nine, on day 0
      rintro t ⟨hlater, hclosed⟩
      by_contra hbefore
      refine hclosed ⟨0, 32400000000000, 43200000000000, by decide +kernel, by decide +kernel,
        by decide, ?_, ?_⟩
      · rw [wallAt, morningAndAfternoon, seoul_offset]
        omega
      · rw [wallAt, morningAndAfternoon, seoul_offset]
        simp only [day]
        omega
  rw [IsLeast.unique hcloses hnoon] at hends
  exact hends.mp hright.1 (any_windowIsActive_iff.mp (by decide +kernel))

end Oneshim.Config
