/-
  The notifications of the tracking schedule
  (`src-tauri/src/scheduler/loops/tracking_schedule_helper.rs`).

  At every tick of the monitor loop the schedule is evaluated, and a desktop notification says that
  a window has been entered or left.  One debounce of 60 seconds is shared by both directions: within
  it a change is not announced, and it is not announced later either, since the state it is compared
  with moves on.

  1. **Code** — `evaluateAndNotifyTransitions` and the tick around it.

  2. **Changes** — the ticks at which the state is another one than before; after an even number of
     them it is the one it was (`stateAfter_eq_iff`).

  3. **The last notification** (`last_notice_true_iff`) — since it was shown every change came
     within the debounce, and it tells the truth when there was an even number of them.
-/
import Mathlib.Algebra.Group.Nat.Even
import Mathlib.Data.List.Induction
import Oneshim.Config.TrackingSchedule

namespace Oneshim.Scheduler

open Config

/-! ## The code -/

/-- What `notify_ts` shows. -/
structure TsNotification where
  title : String
  body : String
  deriving DecidableEq

/-- `NotificationManager`, the switch `config.enabled`. -/
structure NotificationManager where
  enabled : Bool

/-- `NotificationManager::notify`; what the desktop makes of it is ignored. -/
def NotificationManager.notify (self : NotificationManager) (notification : TsNotification) :
    List TsNotification :=
  if !self.enabled then [] else [notification]

/-- The notification of a state. -/
def announcement (nowActive : Bool) : TsNotification :=
  if nowActive then
    ⟨"Tracking Schedule Active", "Capture/telemetry paused during configured window"⟩
  else ⟨"Tracking Schedule Ended", "Capture/telemetry resumed"⟩

/-- `evaluate_and_notify_transitions`: the new `last_notified_at` and what is shown.  `now` is
    `Instant::now()`, in nanoseconds; `duration_since` is 0 for a later `last`. -/
def evaluateAndNotifyTransitions (trackingScheduleEnabled prevActive nowActive : Bool) (now : Nat)
    (lastNotifiedAt : Option Nat) (notifier : Option NotificationManager) :
    Option Nat × List TsNotification :=
  if !trackingScheduleEnabled then (lastNotifiedAt, [])
  else if prevActive = nowActive then (lastNotifiedAt, [])
  else if lastNotifiedAt.any fun last => (now - last) / 1000000000 < 60 then (lastNotifiedAt, [])
  else
    (some now,
      match notifier with
      | some manager => manager.notify (announcement nowActive)
      | none => [])

/-- What a tick finds: the configuration, the notifier, and the two clocks. -/
structure TsTick where
  cfg : TrackingScheduleConfig
  /-- `cfg.notification.tracking_schedule_enabled`. -/
  trackingScheduleEnabled : Bool
  notifier : Option NotificationManager
  /-- `chrono::Local::now()`. -/
  localNow : Int
  /-- `Instant::now()`. -/
  now : Nat

/-- `ts_notify_state` of the monitor loop, and what has been shown. -/
structure TsNotifyState where
  prevTsActive : Bool
  lastTsNotifiedAt : Option Nat
  shown : List TsNotification

/-- The state of the loop before its first tick. -/
def TsNotifyState.start : TsNotifyState := ⟨false, none, []⟩

section

variable (zones : Zones)

/-- The schedule at the tick. -/
def TsTick.active (tick : TsTick) : Bool := trackingScheduleActive zones tick.cfg tick.localNow

/-- `tick_ts_notifications`. -/
def tickTsNotifications (self : TsNotifyState) (tick : TsTick) : TsNotifyState :=
  let nowActive := tick.active zones
  let notified := evaluateAndNotifyTransitions tick.trackingScheduleEnabled self.prevTsActive
    nowActive tick.now self.lastTsNotifiedAt tick.notifier
  ⟨nowActive, notified.1, self.shown ++ notified.2⟩

/-- The state after the ticks. -/
def TsNotifyState.run (ticks : List TsTick) : TsNotifyState :=
  ticks.foldl (tickTsNotifications zones) .start

/-! ## Changes -/

/-- The state after the ticks, from one before them. -/
def stateAfter (before : Bool) (ticks : List TsTick) : Bool :=
  ticks.foldl (fun _ tick => tick.active zones) before

/-- The ticks at which the state is not the one before. -/
def changes : Bool → List TsTick → List TsTick
  | _, [] => []
  | before, tick :: ticks =>
    if tick.active zones = before then changes before ticks
    else tick :: changes (tick.active zones) ticks

variable {zones} {before : Bool} {ticks : List TsTick} {tick : TsTick}

theorem stateAfter_append_singleton :
    stateAfter zones before (ticks ++ [tick]) = tick.active zones := by
  rw [stateAfter, List.foldl_append]
  rfl

/-- One more tick is a change when it differs from the state before it. -/
theorem changes_append_singleton :
    changes zones before (ticks ++ [tick]) =
      changes zones before ticks ++
        if tick.active zones = stateAfter zones before ticks then [] else [tick] := by
  induction ticks generalizing before with
  | nil => rfl
  | cons first ticks ih =>
    show (if first.active zones = before then changes zones before (ticks ++ [tick])
      else first :: changes zones (first.active zones) (ticks ++ [tick])) = _
    rw [changes]
    by_cases hsame : first.active zones = before
    · rw [if_pos hsame, if_pos hsame, ih]
      subst hsame
      rfl
    · rw [if_neg hsame, if_neg hsame, ih]
      rfl

/-- **After an even number of changes the state is the one it was.** -/
theorem stateAfter_eq_iff (before : Bool) (ticks : List TsTick) :
    stateAfter zones before ticks = before ↔ Even (changes zones before ticks).length := by
  induction ticks generalizing before with
  | nil => exact iff_of_true rfl ⟨0, rfl⟩
  | cons tick ticks ih =>
    show stateAfter zones (tick.active zones) ticks = before ↔ _
    rw [changes]
    by_cases hsame : tick.active zones = before
    · rw [if_pos hsame, hsame, ih]
    · -- one more change, and the other state
      obtain rfl : before = !tick.active zones := Bool.eq_not_of_ne (Ne.symm hsame)
      rw [if_neg hsame, List.length_cons, Nat.even_add_one, ← ih, Bool.eq_not]

/-! ## The last notification -/

/-- The notifications are switched on: the one of the schedule, and those of the application. -/
def TsTick.NotificationsOn (tick : TsTick) : Prop :=
  tick.trackingScheduleEnabled = true ∧ tick.notifier = some ⟨true⟩

/-- Less than 60 seconds after `last`. -/
def Debounced (last now : Nat) : Prop := now - last < 60000000000

theorem debounced_iff {last now : Nat} : (now - last) / 1000000000 < 60 ↔ Debounced last now := by
  unfold Debounced
  omega

/-- Nothing happens at a tick that finds the state as it was. -/
theorem tick_of_same {self : TsNotifyState} (hsame : tick.active zones = self.prevTsActive) :
    tickTsNotifications zones self tick = self := by
  have hnone : evaluateAndNotifyTransitions tick.trackingScheduleEnabled self.prevTsActive
      (tick.active zones) tick.now self.lastTsNotifiedAt tick.notifier =
        (self.lastTsNotifiedAt, []) := by
    unfold evaluateAndNotifyTransitions
    by_cases hoff : (!tick.trackingScheduleEnabled) = true
    · rw [if_pos hoff]
    · rw [if_neg hoff, if_pos hsame.symm]
  simp only [tickTsNotifications, hnone, List.append_nil]
  rw [hsame]

/-- **What a tick does at a change**: it is announced, unless the last notification is too young. -/
theorem tick_of_change {self : TsNotifyState} (hon : tick.NotificationsOn)
    (hchange : tick.active zones ≠ self.prevTsActive) :
    ((∃ last, self.lastTsNotifiedAt = some last ∧ Debounced last tick.now) ∧
      tickTsNotifications zones self tick = { self with prevTsActive := tick.active zones }) ∨
    tickTsNotifications zones self tick =
      ⟨tick.active zones, some tick.now, self.shown ++ [announcement (tick.active zones)]⟩ := by
  obtain ⟨henabled, hnotifier⟩ := hon
  simp only [tickTsNotifications, evaluateAndNotifyTransitions, henabled, hnotifier, Bool.not_true,
    Bool.false_eq_true, if_false, if_neg hchange.symm]
  by_cases hyoung :
      (self.lastTsNotifiedAt.any fun last => (tick.now - last) / 1000000000 < 60) = true
  · left
    rw [if_pos hyoung]
    obtain ⟨last, hlast, hwithin⟩ := (Option.any_eq_true _ _).mp hyoung
    refine ⟨⟨last, hlast, debounced_iff.mp (of_decide_eq_true hwithin)⟩, ?_⟩
    rw [List.append_nil]
  · right
    rw [if_neg hyoung]
    rfl

/-- The tick `notice` showed the last notification, and every change since came within the
    debounce. -/
structure LastNotice (zones : Zones) (ticks before : List TsTick) (notice : TsTick)
    (after : List TsTick) : Prop where
  split : ticks = before ++ notice :: after
  shown : (TsNotifyState.run zones ticks).shown =
    (TsNotifyState.run zones before).shown ++ [announcement (notice.active zones)]
  since : (TsNotifyState.run zones ticks).lastTsNotifiedAt = some notice.now
  debounced : ∀ change ∈ changes zones (notice.active zones) after,
    Debounced notice.now change.now

theorem run_append_singleton (zones : Zones) (ticks : List TsTick) (tick : TsTick) :
    TsNotifyState.run zones (ticks ++ [tick]) =
      tickTsNotifications zones (TsNotifyState.run zones ticks) tick := by
  rw [TsNotifyState.run, List.foldl_append]
  rfl

theorem prevTsActive_run (ticks : List TsTick) :
    (TsNotifyState.run zones ticks).prevTsActive = stateAfter zones false ticks := by
  induction ticks using List.reverseRecOn with
  | nil => rfl
  | append_singleton ticks tick ih =>
    rw [run_append_singleton, stateAfter_append_singleton]
    rfl

theorem LastNotice.prevTsActive {before after : List TsTick} {notice : TsTick}
    (h : LastNotice zones ticks before notice after) :
    (TsNotifyState.run zones ticks).prevTsActive =
      stateAfter zones (notice.active zones) after := by
  rw [prevTsActive_run, h.split, stateAfter, List.foldl_append]
  rfl

/-- **The run so far**: nothing has been announced, or there is a last notification. -/
theorem run_cases (ticks : List TsTick) (hon : ∀ tick ∈ ticks, tick.NotificationsOn) :
    ((TsNotifyState.run zones ticks).shown = [] ∧
      (TsNotifyState.run zones ticks).lastTsNotifiedAt = none) ∨
    ∃ before notice after, LastNotice zones ticks before notice after := by
  induction ticks using List.reverseRecOn with
  | nil => exact .inl ⟨rfl, rfl⟩
  | append_singleton ticks tick ih =>
    specialize ih (fun tick htick => hon tick (List.mem_append_left _ htick))
    have hrun := run_append_singleton zones ticks tick
    by_cases hsame : tick.active zones = (TsNotifyState.run zones ticks).prevTsActive
    · rw [tick_of_same hsame] at hrun
      rcases ih with hnone | ⟨before, notice, after, h⟩
      · exact .inl (hrun ▸ hnone)
      · refine .inr ⟨before, notice, after ++ [tick], ?_, ?_, ?_, ?_⟩
        · rw [h.split, List.append_assoc, List.cons_append]
        · rw [hrun, h.shown]
        · rw [hrun, h.since]
        · rw [changes_append_singleton, if_pos (hsame.trans h.prevTsActive), List.append_nil]
          exact h.debounced
    · rcases tick_of_change (hon tick (by simp)) hsame with ⟨⟨last, hlast, hyoung⟩, htick⟩ | htick
      · -- a change that is not announced comes after a notification
        rw [htick] at hrun
        rcases ih with ⟨-, hnone⟩ | ⟨before, notice, after, h⟩
        · rw [hnone] at hlast
          exact absurd hlast (by simp)
        · obtain rfl := Option.some.inj (h.since.symm.trans hlast)
          refine .inr ⟨before, notice, after ++ [tick], ?_, ?_, ?_, ?_⟩
          · rw [h.split, List.append_assoc, List.cons_append]
          · rw [hrun, ← h.shown]
          · rw [hrun, ← h.since]
          · rw [changes_append_singleton, if_neg (fun heq => hsame (heq.trans h.prevTsActive.symm))]
            intro change hchange
            rcases List.mem_append.mp hchange with hold | hnew
            · exact h.debounced change hold
            · rw [List.mem_singleton.mp hnew]
              exact hyoung
      · rw [htick] at hrun
        refine .inr ⟨ticks, tick, [], rfl, ?_, ?_, ?_⟩
        · rw [hrun]
        · rw [hrun]
        · intro change hchange
          exact absurd hchange List.not_mem_nil

theorem announcement_injective {a b : Bool} (h : announcement a = announcement b) : a = b := by
  revert h
  revert a b
  decide

/-- **The last notification tells the truth** exactly when an even number of changes came after it;
    all of them fell under its debounce. -/
theorem last_notice_true_iff (zones : Zones) (ticks : List TsTick)
    (hon : ∀ tick ∈ ticks, tick.NotificationsOn) (notification : TsNotification)
    (hlast : (TsNotifyState.run zones ticks).shown.getLast? = some notification) :
    ∃ before notice after, LastNotice zones ticks before notice after ∧
      notification = announcement (notice.active zones) ∧
      (notification = announcement (TsNotifyState.run zones ticks).prevTsActive ↔
        Even (changes zones (notice.active zones) after).length) := by
  rcases run_cases ticks hon with ⟨hnil, -⟩ | ⟨before, notice, after, h⟩
  · rw [hnil] at hlast
    exact absurd hlast (by simp)
  · rw [h.shown, List.getLast?_concat] at hlast
    obtain rfl := Option.some.inj hlast
    refine ⟨before, notice, after, h, rfl, ?_⟩
    rw [h.prevTsActive, ← stateAfter_eq_iff]
    constructor
    · exact fun heq => (announcement_injective heq).symm
    · exact fun heq => by rw [heq]

end

/-- A tick, in seconds since the first midnight on both clocks; a window ends after its first
    minute. -/
def sampleTick (seconds : Nat) : TsTick where
  cfg := ⟨true, [⟨"00:00", "00:01", [.thu], "break"⟩], "Local"⟩
  trackingScheduleEnabled := true
  notifier := some ⟨true⟩
  localNow := seconds * 1000000000
  now := seconds * 1000000000

/-- A machine on UTC. -/
def utcMachine : Zones := ⟨fun _ => 0, fun _ => none⟩

/-- The window is found active half a minute before it ends. -/
def lateStart : List TsTick := [sampleTick 30, sampleTick 60, sampleTick 130]

theorem lateStart_on : ∀ tick ∈ lateStart, tick.NotificationsOn := by
  intro tick htick
  unfold lateStart at htick
  simp only [List.mem_cons, List.not_mem_nil, or_false] at htick
  rcases htick with rfl | rfl | rfl
  · exact ⟨rfl, rfl⟩
  · exact ⟨rfl, rfl⟩
  · exact ⟨rfl, rfl⟩

theorem shown_lateStart :
    (TsNotifyState.run utcMachine lateStart).shown.getLast? = some (announcement true) := by
  decide +kernel

theorem last_notice_true_iff_lateStart :
    ∃ before notice after, LastNotice utcMachine lateStart before notice after ∧
      announcement true = announcement (notice.active utcMachine) ∧
      (announcement true = announcement (TsNotifyState.run utcMachine lateStart).prevTsActive ↔
        Even (changes utcMachine (notice.active utcMachine) after).length) :=
  last_notice_true_iff utcMachine lateStart lateStart_on (announcement true) shown_lateStart

/-- The state has been the same for at least 60 seconds of ticks. -/
def Settled (zones : Zones) (ticks : List TsTick) : Prop :=
  ∃ before first stay, ticks = before ++ first :: stay ∧
    (∀ tick ∈ stay, tick.active zones = first.active zones) ∧
    ∃ last, (first :: stay).getLast? = some last ∧ first.now + 60000000000 ≤ last.now

/-- **The end of a window can stay unannounced**: it comes within 60 seconds after the notification
    of the window, and a minute later that notification is still the last one. -/
theorem ended_window_not_announced :
    ¬ ∀ (zones : Zones) (ticks : List TsTick), (∀ tick ∈ ticks, tick.NotificationsOn) →
      Settled zones ticks → ∀ notification,
        (TsNotifyState.run zones ticks).shown.getLast? = some notification →
        notification = announcement (TsNotifyState.run zones ticks).prevTsActive := by
  intro h
  have hsettled : Settled utcMachine lateStart := by
    refine ⟨[sampleTick 30], sampleTick 60, [sampleTick 130], rfl, ?_, sampleTick 130, rfl, ?_⟩
    · intro tick htick
      rw [List.mem_singleton.mp htick]
      decide +kernel
    · decide
  exact absurd (h utcMachine lateStart lateStart_on hsettled (announcement true) shown_lateStart)
    (by decide +kernel)

end Oneshim.Scheduler
