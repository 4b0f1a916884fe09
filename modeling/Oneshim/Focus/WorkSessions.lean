/-
  Work sessions at a switch (`src-tauri/src/focus_analyzer/`).

  Almost everything that a switch books changes rows that are there or adds an interruption.  A work
  session begins at one place only, when a deep-work app comes to the front and no session is open
  (`sessionIds_onAppSwitch_iff`).
-/
import Oneshim.Focus.FocusAnalyzer

namespace Oneshim.Focus

variable (setup : Setup)

/-- The work sessions in the storage. -/
def FocusStorage.sessionIds (self : FocusStorage) : List Nat :=
  self.workSessions.rows.map (·.id)

/-- A switch begins a work session. -/
structure FocusAnalyzer.StartsSession (analyzer : FocusAnalyzer) (app : String) : Prop where
  switched : analyzer.tracker.current.map Prod.fst ≠ some app
  deepWork : (AppCategory.fromAppName setup.toLowercase app).isDeepWork = true
  noSession : analyzer.tracker.activeSessionId = none

/-- An update keeps the sessions. -/
theorem sessionIds_updateWorkSession (storage : FocusStorage) (sessionId : Nat)
    (f : WorkSession → WorkSession) (hf : ∀ s, (f s).id = s.id) :
    (storage.updateWorkSession sessionId f hf).sessionIds = storage.sessionIds := by
  simp only [FocusStorage.sessionIds, FocusStorage.updateWorkSession, Lib.SerialTable.mapRows,
    List.map_map]
  refine List.map_congr_left fun session _ => ?_
  rw [Function.comp_apply]
  split
  · exact hf session
  · rfl

@[simp] theorem sessionIds_addDeepWorkSecs (storage : FocusStorage) (sessionId secs : Nat) :
    (storage.addDeepWorkSecs sessionId secs).sessionIds = storage.sessionIds := by
  rw [FocusStorage.addDeepWorkSecs, sessionIds_updateWorkSession]

@[simp] theorem sessionIds_incrementWorkSessionInterruption (storage : FocusStorage)
    (sessionId : Nat) :
    (storage.incrementWorkSessionInterruption sessionId).sessionIds = storage.sessionIds := by
  rw [FocusStorage.incrementWorkSessionInterruption, sessionIds_updateWorkSession]

@[simp] theorem sessionIds_endWorkSession (storage : FocusStorage) (sessionId : Nat) (now : Int) :
    (storage.endWorkSession sessionId now).sessionIds = storage.sessionIds := by
  rw [FocusStorage.endWorkSession, sessionIds_updateWorkSession]

theorem sessionIds_startWorkSession (storage : FocusStorage) (primaryApp : String)
    (category : AppCategory) (now : Int) :
    (storage.startWorkSession primaryApp category now).1.sessionIds =
      storage.sessionIds ++ [storage.workSessions.seq + 1] := by
  simp only [FocusStorage.sessionIds, FocusStorage.startWorkSession, Lib.SerialTable.insert,
    List.map_append, List.map_cons, List.map_nil]

/-- Booking the time of the app that is left keeps the sessions, and which one is open. -/
theorem sessionIds_bookPrevious (self : FocusAnalyzer) (prevCat : AppCategory) (start now : Int) :
    (self.bookPrevious prevCat start now).storage.sessionIds = self.storage.sessionIds ∧
      (self.bookPrevious prevCat start now).tracker.activeSessionId =
        self.tracker.activeSessionId := by
  simp only [FocusAnalyzer.bookPrevious]
  split
  · refine ⟨?_, rfl⟩
    cases self.tracker.activeSessionId with
    | none => rfl
    | some sessionId => exact sessionIds_addDeepWorkSecs _ _ _
  · exact ⟨rfl, rfl⟩

/-- So does leaving it. -/
theorem sessionIds_leave (self : FocusAnalyzer) (prevApp : String) (prevCat : AppCategory)
    (start : Int) (newCategory : AppCategory) (sw : Switch) :
    (self.leave setup prevApp prevCat start newCategory sw).1.storage.sessionIds =
        self.storage.sessionIds ∧
      (self.leave setup prevApp prevCat start newCategory sw).1.tracker.activeSessionId =
        self.tracker.activeSessionId := by
  obtain ⟨hids, hactive⟩ := sessionIds_bookPrevious self prevCat start sw.now
  simp only [FocusAnalyzer.leave]
  split
  · refine ⟨Eq.trans ?_ hids, hactive⟩
    simp only [FocusAnalyzer.interrupt]
    cases (self.bookPrevious prevCat start sw.now).tracker.activeSessionId with
    | none => rfl
    | some sessionId => exact sessionIds_incrementWorkSessionInterruption _ _
  · split
    · simp only [FocusAnalyzer.resume]
      split
      · exact ⟨hids, hactive⟩
      · exact ⟨hids, hactive⟩
    · exact ⟨hids, hactive⟩

/-- **The work session of a switch.** -/
theorem sessionIds_switchSession_iff (self : FocusAnalyzer) (newCategory : AppCategory)
    (sw : Switch) :
    (self.switchSession newCategory sw).storage.sessionIds = self.storage.sessionIds ↔
      ¬ (newCategory.isDeepWork = true ∧ self.tracker.activeSessionId = none) := by
  simp only [FocusAnalyzer.switchSession]
  split
  · next hcommunication =>
    refine iff_of_true ?_ fun h => ?_
    · cases self.tracker.activeSessionId with
      | none => rfl
      | some sessionId => exact sessionIds_endWorkSession _ _ _
    · rw [AppCategory.isCommunication_of_isDeepWork h.1] at hcommunication
      cases hcommunication
  · split
    · next hstarts =>
      obtain ⟨hdeep, hnone⟩ := Bool.and_eq_true_iff.mp hstarts
      refine iff_of_false (fun h => ?_) (not_not.mpr ⟨hdeep, Option.isNone_iff_eq_none.mp hnone⟩)
      have hids := sessionIds_startWorkSession self.storage sw.app newCategory sw.sessionAt
      exact absurd (List.append_right_eq_self.mp (hids.symm.trans h)) (List.cons_ne_nil _ _)
    · next hstays =>
      refine iff_of_true rfl fun h => hstays ?_
      rw [h.1, h.2]
      rfl

/-- What comes after the session is about the suggestion alone. -/
theorem sessionIds_arrive (self : FocusAnalyzer) (outcome : Outcome) (newCategory : AppCategory)
    (sw : Switch) :
    (self.arrive setup outcome newCategory sw).1.storage.sessionIds =
      (self.switchSession newCategory sw).storage.sessionIds := by
  simp only [FocusAnalyzer.arrive]
  split
  · simp only [FocusAnalyzer.maybeSuggestRestoreContext]
    split
    · rfl
    · split
      · rfl
      · split
        · rfl
        · rfl
  · rfl

/-- **When a switch adds no work session.** -/
theorem sessionIds_onAppSwitch_iff (self : FocusAnalyzer) (sw : Switch) :
    (self.onAppSwitchWithContext setup sw).1.storage.sessionIds = self.storage.sessionIds ↔
      ¬ self.StartsSession setup sw.app := by
  simp only [FocusAnalyzer.onAppSwitchWithContext]
  split
  · next hsame => exact iff_of_true rfl fun h => h.switched hsame
  · next hswitched =>
    have hiff (left : FocusAnalyzer) (outcome : Outcome)
        (hids : left.storage.sessionIds = self.storage.sessionIds)
        (hactive : left.tracker.activeSessionId = self.tracker.activeSessionId) :
        (left.arrive setup outcome (.fromAppName setup.toLowercase sw.app) sw).1.storage.sessionIds =
            self.storage.sessionIds ↔ ¬ self.StartsSession setup sw.app := by
      rw [sessionIds_arrive, ← hids, sessionIds_switchSession_iff, hactive]
      exact not_congr ⟨fun h => ⟨hswitched, h.1, h.2⟩, fun h => ⟨h.deepWork, h.noSession⟩⟩
    cases hcurrent : self.tracker.current with
    | none => exact hiff self {} rfl rfl
    | some current =>
      obtain ⟨hids, hactive⟩ := sessionIds_leave setup self current.1 current.2.1 current.2.2
        (.fromAppName setup.toLowercase sw.app) sw
      exact hiff _ _ hids hactive

end Oneshim.Focus
