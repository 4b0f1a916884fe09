/-
  The tracking schedule (`oneshim-core/src/config/sections/tracking_schedule.rs`,
  `src-tauri/src/scheduler/loops/tracking_schedule_helper.rs`,
  `src-tauri/src/commands/tracking_schedule.rs`).

  Wall-clock windows during which capture is muted.  The scheduler asks whether one of them is active
  (`trackingScheduleActive`), and the settings page shows a status of its own
  (`getTrackingScheduleStatus`).

  1. **Windows** — reading `HH:MM`, validation, and `windowIsActive`, on a wall clock.

  2. **What a window covers** (`TrackingWindow.Covers`) — from its start on a configured day to its
     next end; `windowIsActive_iff_covers` says that the code computes that.

  3. **Two conversions** — the scheduler looks at the wall clock of the MACHINE, the status at that
     of the configured zone.

  4. **The result** (`gate_agrees_iff`) — the gate is right, and agrees with the status, exactly when
     the schedule is disabled or the two wall clocks are both inside some window or both outside.

  Instants are nanoseconds since 1970-01-01 UTC, wall clocks nanoseconds since that midnight of their
  own.  The zone database is left open: a zone is its offset at each instant.
-/
import Oneshim.Lib.Text

namespace Oneshim.Config

open Lib.Text

/-! ## Windows -/

/-- `Weekday`. -/
inductive Weekday where
  | mon | tue | wed | thu | fri | sat | sun
  deriving DecidableEq

/-- `weekday_succ`. -/
def weekdaySucc : Weekday → Weekday
  | .mon => .tue
  | .tue => .wed
  | .wed => .thu
  | .thu => .fri
  | .fri => .sat
  | .sat => .sun
  | .sun => .mon

/-- The nanoseconds of a minute. -/
def minute : Int := 60000000000

/-- The nanoseconds of a day. -/
def day : Int := 86400000000000

/-- `DateTime::time`, in nanoseconds since midnight. -/
def timeOfDay (wall : Int) : Int := wall % day

/-- The day of a wall clock; day 0 is 1970-01-01. -/
def dayNumber (wall : Int) : Int := wall / day

/-- The weekday of a day; 1970-01-01 was a Thursday. -/
def weekdayOfDay (number : Int) : Weekday :=
  if number % 7 = 0 then .thu
  else if number % 7 = 1 then .fri
  else if number % 7 = 2 then .sat
  else if number % 7 = 3 then .sun
  else if number % 7 = 4 then .mon
  else if number % 7 = 5 then .tue
  else .wed

/-- `DateTime::weekday`. -/
def weekday (wall : Int) : Weekday := weekdayOfDay (dayNumber wall)

/-- The bytes of a text. -/
def byteLength (s : List Char) : Nat := (String.ofList s).utf8ByteSize

/-- `parse_hhmm`, in nanoseconds since midnight. -/
def parseHhmm (s : String) (field : String) : Except String Int :=
  if s.isEmpty then .error s!"validation.invalid_field: '{field}' must not be empty"
  else
    let malformed :=
      s!"validation.invalid_field: '{field}' is not a valid HH:MM value (got '{s}')"
    match cutAt [':'] s.toList with
    | none => .error malformed
    | some (hours, minutes) =>
      if byteLength hours ≠ 2 ∨ byteLength minutes ≠ 2 then .error malformed
      else
        match parseUnsigned (2 ^ 32) hours with
        | none => .error s!"validation.invalid_field: '{field}' hour is not a number (got '{s}')"
        | some h =>
          match parseUnsigned (2 ^ 32) minutes with
          | none =>
            .error s!"validation.invalid_field: '{field}' minute is not a number (got '{s}')"
          | some m =>
            if h < 24 ∧ m < 60 then .ok ((h * 60 + m : Nat) * minute)
            else .error s!"validation.invalid_field: '{field}' is out of range (got '{s}')"

/-- `TrackingWindow`. -/
structure TrackingWindow where
  start : String
  stop : String
  daysOfWeek : List Weekday
  label : String
  deriving DecidableEq

/-- `TryFrom<TrackingWindowRaw>`: the checks; the window itself is not changed. -/
def TrackingWindow.validate (window : TrackingWindow) : Except String Unit := do
  let startTime ← parseHhmm window.start "start"
  let endTime ← parseHhmm window.stop "end"
  if startTime = endTime then
    throw s!"validation.invalid_field: 'start' and 'end' must not be equal (got '{window.start}')"
  if endTime < startTime then
    let wrap := endTime / minute + 24 * 60 - startTime / minute
    if wrap > 16 * 60 then
      throw (s!"validation.invalid_field: overnight window '{window.start}–{window.stop}' spans " ++
        s!"{wrap / 60}h {wrap % 60}m which exceeds the 16-hour safety threshold; did you swap " ++
        "start/end? Use a shorter window or split into two windows.")

/-- `TrackingWindow::window_is_active`; only the time and the weekday of the wall clock are used. -/
def TrackingWindow.windowIsActive (window : TrackingWindow) (wall : Int) : Bool :=
  if window.daysOfWeek.isEmpty then false
  else
    match parseHhmm window.start "start", parseHhmm window.stop "end" with
    | .ok startTime, .ok endTime =>
      let nowTime := timeOfDay wall
      let nowWeekday := weekday wall
      if endTime > startTime then
        window.daysOfWeek.contains nowWeekday && nowTime ≥ startTime && nowTime < endTime
      else
        let isStartDay := window.daysOfWeek.contains nowWeekday
        let isCarryOverDay := window.daysOfWeek.any fun d => weekdaySucc d == nowWeekday
        (isStartDay && nowTime ≥ startTime) || (isCarryOverDay && nowTime < endTime)
    | _, _ => false

/-! ## The schedule -/

/-- The machine's zone and the zone database: the offset from UTC at an instant. -/
structure Zones where
  localOffset : Int → Int
  /-- `parse::<chrono_tz::Tz>`. -/
  parse : String → Option (Int → Int)

/-- `TrackingScheduleConfig`. -/
structure TrackingScheduleConfig where
  enabled : Bool
  windows : List TrackingWindow
  timezone : String
  deriving DecidableEq

/-- `TryFrom<TrackingScheduleConfigRaw>`: the check of the zone. -/
def TrackingScheduleConfig.validate (zones : Zones) (cfg : TrackingScheduleConfig) :
    Except String Unit :=
  if cfg.timezone ≠ "Local" then
    match zones.parse cfg.timezone with
    | some _ => .ok ()
    | none => .error s!"config.invalid: unknown timezone '{cfg.timezone}'"
  else .ok ()

/-- A configuration that has been accepted. -/
structure AcceptedSchedule (zones : Zones) where
  cfg : TrackingScheduleConfig
  windows : ∀ window ∈ cfg.windows, window.validate = .ok ()
  zone : cfg.validate zones = .ok ()

/-- The wall clock of the machine: a `DateTime<Local>`. -/
def localWall (zones : Zones) (instant : Int) : Int := instant + zones.localOffset instant

/-- `tracking_schedule_active`. -/
def trackingScheduleActive (zones : Zones) (cfg : TrackingScheduleConfig) (now : Int) : Bool :=
  if !cfg.enabled then false else cfg.windows.any (·.windowIsActive (localWall zones now))

/-- `capture_permitted_now`: consent, active hours, schedule and the tray toggle. -/
def capturePermittedNow (zones : Zones) (cfg : TrackingScheduleConfig)
    (screenCapture shouldRunNow capturePaused : Bool) (now : Int) : Bool :=
  screenCapture && shouldRunNow && !trackingScheduleActive zones cfg now && !capturePaused

/-- `convert_to_target_tz`, the wall clock. -/
def convertToTargetTz (zones : Zones) (instant : Int) (tzName : String) : Int :=
  if tzName = "Local" then localWall zones instant
  else
    match zones.parse tzName with
    | some offset => instant + offset instant
    | none => localWall zones instant

/-- The loop of `compute_ends_at`: the first minute, of `left` to try, at which the window is closed;
    the minutes are counted from `now`. -/
def closingMinute (window : TrackingWindow) (wall : Int) (tried : Nat) : Nat → Nat
  | 0 => tried
  | left + 1 =>
    if !window.windowIsActive (wall + (tried + 1) * minute) then tried + 1
    else closingMinute window wall (tried + 1) left

/-- `compute_ends_at`, the instant. -/
def computeEndsAt (now wall : Int) (window : TrackingWindow) : Int :=
  now + closingMinute window wall 0 (24 * 60) * minute

/-- The loop of `compute_next_starts_at`: the first of `left` minutes at which a window opens. -/
def openingMinute (windows : List TrackingWindow) (wall : Int) (tried : Nat) (prevActive : Bool) :
    Nat → Option Nat
  | 0 => none
  | left + 1 =>
    let curActive := windows.any (·.windowIsActive (wall + (tried + 1) * minute))
    if !prevActive && curActive then some (tried + 1)
    else openingMinute windows wall (tried + 1) curActive left

/-- `compute_next_starts_at`, the instant. -/
def computeNextStartsAt (zones : Zones) (cfg : TrackingScheduleConfig) (now : Int) : Option Int :=
  if !cfg.enabled || cfg.windows.isEmpty then none
  else
    let wall := convertToTargetTz zones now cfg.timezone
    (openingMinute cfg.windows wall 0 (cfg.windows.any (·.windowIsActive wall)) (7 * 24 * 60)).map
      fun minutes => now + minutes * minute

/-- `TrackingScheduleStatus`. -/
structure TrackingScheduleStatus where
  activeNow : Bool
  endsAt : Option Int
  nextStartsAt : Option Int
  label : String

/-- `get_tracking_schedule_status_inner`; `later` is when the clock is read again for the next
    start. -/
def getTrackingScheduleStatus (zones : Zones) (cfg : TrackingScheduleConfig) (now later : Int) :
    TrackingScheduleStatus :=
  let nextStartsAt := computeNextStartsAt zones cfg later
  if !cfg.enabled || cfg.windows.isEmpty then ⟨false, none, nextStartsAt, ""⟩
  else
    let wall := convertToTargetTz zones now cfg.timezone
    match cfg.windows.find? (·.windowIsActive wall) with
    | some window => ⟨true, some (computeEndsAt now wall window), nextStartsAt, window.label⟩
    | none => ⟨false, none, nextStartsAt, ""⟩

/-! ## What a window covers -/

/-- **The wall clocks of a window**: on a configured day from its start to its next end, which is on
    the following day when the end is not after the start. -/
def TrackingWindow.Covers (window : TrackingWindow) (wall : Int) : Prop :=
  ∃ number startTime endTime, parseHhmm window.start "start" = .ok startTime ∧
    parseHhmm window.stop "end" = .ok endTime ∧ weekdayOfDay number ∈ window.daysOfWeek ∧
    number * day + startTime ≤ wall ∧
    wall < number * day + (if startTime < endTime then endTime else endTime + day)

/-- The schedule is in force and some window covers the wall clock. -/
def TrackingScheduleConfig.InWindow (cfg : TrackingScheduleConfig) (wall : Int) : Prop :=
  cfg.enabled = true ∧ ∃ window ∈ cfg.windows, window.Covers wall

/-- A time of day in whole minutes. -/
theorem parseHhmm_minutes {s field : String} {time : Int} (h : parseHhmm s field = .ok time) :
    ∃ minutes : Nat, minutes < 1440 ∧ time = minutes * minute := by
  unfold parseHhmm at h
  split at h
  · cases h
  · dsimp only at h
    split at h
    · cases h
    · split at h
      · cases h
      · split at h
        · cases h
        · split at h
          · cases h
          · split at h
            · next hrange =>
              cases h
              exact ⟨_, by omega, rfl⟩
            · cases h

/-- A time of day is within a day. -/
theorem parseHhmm_bounds {s field : String} {time : Int} (h : parseHhmm s field = .ok time) :
    0 ≤ time ∧ time < day := by
  obtain ⟨minutes, hlt, rfl⟩ := parseHhmm_minutes h
  unfold minute day
  constructor <;> omega

/-- The days of the week follow each other. -/
theorem weekdayOfDay_add_one (number : Int) :
    weekdayOfDay (number + 1) = weekdaySucc (weekdayOfDay number) := by
  have hcases : number % 7 = 0 ∨ number % 7 = 1 ∨ number % 7 = 2 ∨ number % 7 = 3 ∨
      number % 7 = 4 ∨ number % 7 = 5 ∨ number % 7 = 6 := by omega
  have hnext : (number + 1) % 7 = (number % 7 + 1) % 7 := by omega
  unfold weekdayOfDay
  rw [hnext]
  rcases hcases with h | h | h | h | h | h | h <;> rw [h] <;> rfl

theorem weekdaySucc_injective {d e : Weekday} (h : weekdaySucc d = weekdaySucc e) : d = e := by
  cases d <;> cases e <;> first | rfl | cases h

/-- A wall clock is a day and a time of that day. -/
theorem wall_eq (wall : Int) : wall = dayNumber wall * day + timeOfDay wall ∧
    0 ≤ timeOfDay wall ∧ timeOfDay wall < day := by
  unfold dayNumber timeOfDay day
  omega

/-- The day before a configured one. -/
theorem carryOver_iff {daysOfWeek : List Weekday} {wall : Int} :
    (daysOfWeek.any fun d => weekdaySucc d == weekday wall) = true ↔
      weekdayOfDay (dayNumber wall - 1) ∈ daysOfWeek := by
  have hsucc : weekday wall = weekdaySucc (weekdayOfDay (dayNumber wall - 1)) := by
    rw [← weekdayOfDay_add_one]
    unfold weekday
    congr 1
    omega
  rw [List.any_eq_true, hsucc]
  constructor
  · rintro ⟨d, hd, heq⟩
    rwa [← weekdaySucc_injective (beq_iff_eq.mp heq)]
  · intro hmem
    exact ⟨_, hmem, beq_self_eq_true _⟩

/-- **`window_is_active` computes what the window covers.** -/
theorem windowIsActive_iff_covers (window : TrackingWindow) (wall : Int) :
    window.windowIsActive wall = true ↔ window.Covers wall := by
  obtain ⟨hwall, hpos, hlt⟩ := wall_eq wall
  have hday : day = 86400000000000 := rfl
  unfold TrackingWindow.windowIsActive TrackingWindow.Covers
  cases hstart : parseHhmm window.start "start" with
  | error message => simp
  | ok startTime =>
    cases hend : parseHhmm window.stop "end" with
    | error message => simp
    | ok endTime =>
      obtain ⟨hs0, hs1⟩ := parseHhmm_bounds hstart
      obtain ⟨he0, he1⟩ := parseHhmm_bounds hend
      simp only [Except.ok.injEq]
      constructor
      · intro h
        split at h
        · cases h
        · split at h
          · next horder =>
            simp only [Bool.and_eq_true, decide_eq_true_eq, List.contains_iff_mem] at h
            refine ⟨dayNumber wall, startTime, endTime, rfl, rfl, h.1.1, by omega, ?_⟩
            rw [if_pos horder]
            omega
          · next horder =>
            simp only [Bool.or_eq_true, Bool.and_eq_true, decide_eq_true_eq, List.contains_iff_mem,
              carryOver_iff] at h
            -- it is open since today's start, or since yesterday's
            rcases h with ⟨hmem, htime⟩ | ⟨hmem, htime⟩
            · refine ⟨dayNumber wall, startTime, endTime, rfl, rfl, hmem, by omega, ?_⟩
              rw [if_neg horder]
              omega
            · refine ⟨dayNumber wall - 1, startTime, endTime, rfl, rfl, hmem, ?_, ?_⟩
              · rw [Int.sub_mul]
                omega
              · rw [if_neg horder, Int.sub_mul]
                omega
      · rintro ⟨number, _, _, rfl, rfl, hmem, hfrom, huntil⟩
        have hne : window.daysOfWeek.isEmpty = false :=
          List.isEmpty_eq_false_iff.mpr (List.ne_nil_of_mem hmem)
        rw [hne, if_neg (by simp)]
        by_cases horder : startTime < endTime
        · rw [if_pos horder] at huntil ⊢
          have hnumber : number = dayNumber wall := by
            rw [hday] at hwall hlt hs1 he1 hfrom huntil
            omega
          subst hnumber
          simp only [Bool.and_eq_true, decide_eq_true_eq, List.contains_iff_mem]
          exact ⟨⟨hmem, by omega⟩, by omega⟩
        · rw [if_neg horder] at huntil ⊢
          simp only [Bool.or_eq_true, Bool.and_eq_true, decide_eq_true_eq, List.contains_iff_mem,
            carryOver_iff]
          have hnumber : number = dayNumber wall ∨ number = dayNumber wall - 1 := by
            rw [hday] at hwall hlt hs1 he1 hfrom huntil
            omega
          rcases hnumber with rfl | rfl
          · exact .inl ⟨hmem, by omega⟩
          · rw [Int.sub_mul] at huntil
            exact .inr ⟨hmem, by omega⟩

theorem any_windowIsActive_iff {windows : List TrackingWindow} {wall : Int} :
    (windows.any (·.windowIsActive wall)) = true ↔ ∃ window ∈ windows, window.Covers wall := by
  rw [List.any_eq_true]
  exact exists_congr fun window => and_congr_right fun _ => windowIsActive_iff_covers window wall

/-! ## The gate and the status -/

section

variable (zones : Zones) (cfg : TrackingScheduleConfig) (now later : Int)

/-- The gate looks at the wall clock of the machine. -/
theorem trackingScheduleActive_iff :
    trackingScheduleActive zones cfg now = true ↔ cfg.InWindow (localWall zones now) := by
  unfold trackingScheduleActive TrackingScheduleConfig.InWindow
  cases cfg.enabled with
  | false => simp
  | true => simpa using any_windowIsActive_iff

/-- The status looks at the wall clock of the configured zone. -/
theorem activeNow_iff :
    (getTrackingScheduleStatus zones cfg now later).activeNow = true ↔
      cfg.InWindow (convertToTargetTz zones now cfg.timezone) := by
  have hfind : (cfg.windows.find? (·.windowIsActive (convertToTargetTz zones now cfg.timezone))).isSome
      = true ↔ ∃ window ∈ cfg.windows, window.Covers (convertToTargetTz zones now cfg.timezone) := by
    rw [List.find?_isSome, ← any_windowIsActive_iff, List.any_eq_true]
  unfold getTrackingScheduleStatus TrackingScheduleConfig.InWindow
  dsimp only
  by_cases hoff : (!cfg.enabled || cfg.windows.isEmpty) = true
  · rw [if_pos hoff]
    refine iff_of_false (fun h => by cases h) ?_
    rintro ⟨henabled, window, hmem, -⟩
    rw [henabled] at hoff
    exact List.ne_nil_of_mem hmem (List.isEmpty_iff.mp (by simpa using hoff))
  · rw [if_neg hoff]
    have henabled : cfg.enabled = true := by
      cases h : cfg.enabled with
      | true => rfl
      | false => exact absurd (by rw [h]; rfl) hoff
    rw [and_iff_right henabled, ← hfind]
    cases cfg.windows.find? (·.windowIsActive (convertToTargetTz zones now cfg.timezone)) with
    | none => exact iff_of_false (fun h => by cases h) (fun h => by cases h)
    | some window => exact iff_of_true rfl rfl

/-- **The promise** of the gate: it mutes exactly inside the windows, by the wall clock of the
    configured zone, and the status says the same. -/
def GateAgrees : Prop :=
  (trackingScheduleActive zones cfg now = true ↔
    cfg.InWindow (convertToTargetTz zones now cfg.timezone)) ∧
  trackingScheduleActive zones cfg now = (getTrackingScheduleStatus zones cfg now later).activeNow

/-- **When gate and status agree.**  For every zone database, schedule and instant: exactly when the
    schedule is disabled, or the wall clocks of the machine and of the configured zone are both in
    some window or both outside. -/
theorem gate_agrees_iff :
    GateAgrees zones cfg now later ↔
      (cfg.enabled = true →
        ((∃ window ∈ cfg.windows, window.Covers (localWall zones now)) ↔
          ∃ window ∈ cfg.windows, window.Covers (convertToTargetTz zones now cfg.timezone))) := by
  have hgate := trackingScheduleActive_iff zones cfg now
  have hstatus := activeNow_iff zones cfg now later
  have hsame : trackingScheduleActive zones cfg now =
      (getTrackingScheduleStatus zones cfg now later).activeNow ↔
      (cfg.InWindow (localWall zones now) ↔
        cfg.InWindow (convertToTargetTz zones now cfg.timezone)) := by
    rw [Bool.eq_iff_iff, hgate, hstatus]
  unfold GateAgrees
  rw [hsame, hgate, and_self]
  exact and_congr_right_iff

end

/-- A machine on UTC, with one more zone nine hours ahead. -/
def seoulOnUtcMachine : Zones :=
  ⟨fun _ => 0, fun name => if name = "Asia/Seoul" then some fun _ => 32400000000000 else none⟩

/-- Office hours in Seoul. -/
def officeHours : AcceptedSchedule seoulOnUtcMachine where
  cfg := ⟨true, [⟨"09:00", "18:00", [.mon, .tue, .wed, .thu, .fri], "office"⟩], "Asia/Seoul"⟩
  windows := by decide +kernel
  zone := by decide +kernel

/-- At 10:00 in Seoul the status says that a window is active, and the machine, at 01:00 UTC, goes on
    capturing. -/
theorem office_hours_not_muted :
    ¬ ∀ (zones : Zones) (schedule : AcceptedSchedule zones) (now later : Int),
      GateAgrees zones schedule.cfg now later := by
  intro h
  have hagrees := (h seoulOnUtcMachine officeHours 3600000000000 3600000000000).2
  exact absurd hagrees (by decide +kernel)

end Oneshim.Config
