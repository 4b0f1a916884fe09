/-
  The focus analyzer (`src-tauri/src/focus_analyzer/`, `sqlite/edge_intelligence/`).

  Every app switch books the time of the app that is left, notes an interruption when a deep-work app
  is left for a communication app, and notes its end at the switch back.

  1. **Categories** — an app name says what kind of work it is.

  2. **Storage** — the metrics of each date, the interruptions, the work sessions.  Storage is taken
     to be reliable: every operation succeeds.

  3. **A switch** (`onAppSwitchWithContext`) — what is left (`leave`), the work session
     (`switchSession`), and the suggestion to restore the context, which looks the pending
     interruption up AGAIN, after the resumed one has been marked.

  Times are nanoseconds; the readings of the clock that a switch makes are its data.
-/
import Mathlib.Data.List.Basic
import Oneshim.Lib.SerialTable
import Oneshim.Lib.Table
import Oneshim.Lib.Text

namespace Oneshim.Focus

/-! ## Categories -/

/-- `AppCategory`. -/
inductive AppCategory where
  | communication | development | documentation | browser | design | media | system | other
  deriving DecidableEq

/-- The parts of app names, category by category, in the order in which they are looked for. -/
def categoryParts : List (AppCategory × List String) :=
  [(.communication, ["slack", "teams", "discord", "zoom", "meet", "mail", "outlook", "gmail",
      "messages", "kakaotalk", "telegram", "thunderbird", "whatsapp"]),
    (.development, ["code", "visual studio", "intellij", "pycharm", "webstorm", "android studio",
      "xcode", "terminal", "iterm", "warp", "alacritty", "cursor", "vim", "neovim", "emacs", "git",
      "sourcetree", "postman", "insomnia"]),
    (.documentation, ["notion", "confluence", "word", "excel", "powerpoint", "pages", "numbers",
      "keynote", "google docs", "obsidian", "typora"]),
    (.browser, ["chrome", "safari", "firefox", "edge", "arc", "brave", "opera"]),
    (.design, ["figma", "sketch", "photoshop", "illustrator", "canva"]),
    (.media, ["spotify", "music", "youtube", "netflix", "vlc"]),
    (.system, ["finder", "explorer", "settings", "system preferences", "activity monitor",
      "task manager"])]

/-- `from_app_name`. -/
def AppCategory.fromAppName (toLowercase : String → String) (appName : String) : AppCategory :=
  let name := toLowercase appName
  match categoryParts.find? fun (_, parts) =>
    parts.any fun part => Lib.Text.contains name.toList part.toList with
  | some (category, _) => category
  | none => .other

/-- `is_communication`. -/
def AppCategory.isCommunication (self : AppCategory) : Bool := self == .communication

/-- `is_deep_work`. -/
def AppCategory.isDeepWork (self : AppCategory) : Bool :=
  self == .development || self == .documentation || self == .design

/-- Deep work is no communication. -/
theorem AppCategory.isCommunication_of_isDeepWork {self : AppCategory}
    (h : self.isDeepWork = true) : self.isCommunication = false := by
  revert h
  cases self <;> decide

/-! ## Time -/

/-- A second. -/
def second : Int := 1000000000

/-- A day. -/
def day : Int := 86400000000000

/-- The date of an instant, `format("%Y-%m-%d")`, as the number of its day. -/
def dateOf (t : Int) : Int := t / day

/-- How much of a date has elapsed at an instant. -/
def elapsedOf (date t : Int) : Int := max 0 (min day (t - date * day))

/-! ## Storage -/

/-- `FocusMetrics`: the row of a date. -/
structure FocusMetrics where
  date : Int
  totalActiveSecs : Nat := 0
  deepWorkSecs : Nat := 0
  communicationSecs : Nat := 0
  contextSwitches : Nat := 0
  interruptionCount : Nat := 0

/-- `Interruption`. -/
structure Interruption where
  id : Nat
  interruptedAt : Int
  fromApp : String
  fromCategory : AppCategory
  toApp : String
  toCategory : AppCategory
  resumedAt : Option Int
  resumedToApp : Option String

/-- `WorkSession`. -/
structure WorkSession where
  id : Nat
  startedAt : Int
  endedAt : Option Int
  primaryApp : String
  category : AppCategory
  interruptionCount : Nat
  deepWorkSecs : Nat

/-- `FocusStorage`. -/
structure FocusStorage where
  focusMetrics : Lib.Table FocusMetrics.date
  interruptions : Lib.SerialTable Interruption.id
  workSessions : Lib.SerialTable WorkSession.id

/-- `get_or_create_focus_metrics`. -/
def FocusStorage.getOrCreateFocusMetrics (self : FocusStorage) (date : Int) : FocusMetrics :=
  (self.focusMetrics.find? date).getD { date := date }

/-- `increment_focus_metrics`. -/
def FocusStorage.incrementFocusMetrics (self : FocusStorage) (date : Int)
    (totalActiveSecs deepWorkSecs communicationSecs contextSwitches interruptionCount : Nat) :
    FocusStorage :=
  let row := self.getOrCreateFocusMetrics date
  { self with
    focusMetrics := self.focusMetrics.upsert
      { row with
        date := date
        totalActiveSecs := row.totalActiveSecs + totalActiveSecs
        deepWorkSecs := row.deepWorkSecs + deepWorkSecs
        communicationSecs := row.communicationSecs + communicationSecs
        contextSwitches := row.contextSwitches + contextSwitches
        interruptionCount := row.interruptionCount + interruptionCount } }

/-- `start_work_session`; the id of the session. -/
def FocusStorage.startWorkSession (self : FocusStorage) (primaryApp : String)
    (category : AppCategory) (now : Int) : FocusStorage × Nat :=
  ({ self with
      workSessions := self.workSessions.insert
        (fun id => ⟨id, now, none, primaryApp, category, 0, 0⟩) fun _ => rfl },
    self.workSessions.seq + 1)

/-- `UPDATE work_sessions SET … WHERE id = ?`. -/
def FocusStorage.updateWorkSession (self : FocusStorage) (sessionId : Nat)
    (f : WorkSession → WorkSession) (hf : ∀ s, (f s).id = s.id) : FocusStorage :=
  { self with
    workSessions := self.workSessions.mapRows (fun s => if s.id = sessionId then f s else s)
      fun s => by split <;> simp [hf] }

/-- `end_work_session`. -/
def FocusStorage.endWorkSession (self : FocusStorage) (sessionId : Nat) (now : Int) : FocusStorage :=
  self.updateWorkSession sessionId (fun s => { s with endedAt := some now }) fun _ => rfl

/-- `increment_work_session_interruption`. -/
def FocusStorage.incrementWorkSessionInterruption (self : FocusStorage) (sessionId : Nat) :
    FocusStorage :=
  self.updateWorkSession sessionId
    (fun s => { s with interruptionCount := s.interruptionCount + 1 }) fun _ => rfl

/-- `add_deep_work_secs`. -/
def FocusStorage.addDeepWorkSecs (self : FocusStorage) (sessionId secs : Nat) : FocusStorage :=
  self.updateWorkSession sessionId
    (fun s => { s with deepWorkSecs := s.deepWorkSecs + secs }) fun _ => rfl

/-- `record_interruption`; the id of the interruption. -/
def FocusStorage.recordInterruption (self : FocusStorage) (interruption : Interruption) :
    FocusStorage × Nat :=
  ({ self with
      interruptions := self.interruptions.insert
        (fun id => { interruption with id := id, resumedAt := none, resumedToApp := none })
        fun _ => rfl },
    self.interruptions.seq + 1)

/-- `record_interruption_resume`. -/
def FocusStorage.recordInterruptionResume (self : FocusStorage) (interruptionId : Nat)
    (resumedToApp : String) (now : Int) : FocusStorage :=
  { self with
    interruptions := self.interruptions.mapRows
      (fun i => if i.id = interruptionId then
        { i with resumedAt := some now, resumedToApp := some resumedToApp } else i)
      fun i => by split <;> rfl }

/-- `get_pending_interruption`: the newest that is not resumed. -/
def FocusStorage.getPendingInterruption (self : FocusStorage) : Option Interruption :=
  self.interruptions.rows.reverse.find? fun i => i.resumedAt.isNone

/-! ## A switch -/

/-- `SessionTracker`; the app, its category and its start are set together. -/
structure SessionTracker where
  activeSessionId : Option Nat := none
  current : Option (String × AppCategory × Int) := none
  continuousDeepWorkSecs : Nat := 0
  pendingInterruptionId : Option Nat := none

/-- `FocusAnalyzer`, with the only cooldown that a switch back looks at. -/
structure FocusAnalyzer where
  tracker : SessionTracker := {}
  lastRestoreContext : Option Int := none
  storage : FocusStorage

/-- An app switch: the new app and what the clock shows at each reading. -/
structure Switch where
  app : String
  now : Int
  interruptedAt : Int
  resumedAt : Int
  sessionAt : Int
  cooldownCheckedAt : Int
  cooldownSetAt : Int

/-- The suggestion to restore a context: the interruption it is computed from, and its text. -/
structure RestoreSuggestion where
  interruption : Interruption
  content : String

/-- What a switch does that the books are about. -/
structure Outcome where
  recorded : Option Nat := none
  /-- The switch is one from a communication app back to a deep-work app. -/
  returned : Bool := false
  resumed : Option Nat := none
  suggested : Option RestoreSuggestion := none

/-- What the analyzer is given: `str::to_lowercase` and the cooldown of its configuration. -/
structure Setup where
  toLowercase : String → String
  suggestionCooldownSecs : Nat

variable (setup : Setup)

/-- `num_seconds().max(0)` of a difference. -/
def durationSecs (now start : Int) : Nat := ((now - start).tdiv second).toNat

/-- `num_minutes` of a difference. -/
def durationMins (now start : Int) : Int := (now - start).tdiv (60 * second)

/-- The time of the app that is left is booked on the date of the switch. -/
def FocusAnalyzer.bookPrevious (self : FocusAnalyzer) (prevCat : AppCategory) (start now : Int) :
    FocusAnalyzer :=
  let secs := durationSecs now start
  let deepWork := if prevCat.isDeepWork then secs else 0
  let comm := if prevCat.isDeepWork then 0 else if prevCat.isCommunication then secs else 0
  let storage := self.storage.incrementFocusMetrics (dateOf now) secs deepWork comm 1 0
  if prevCat.isDeepWork then
    { self with
      tracker := { self.tracker with
        continuousDeepWorkSecs := self.tracker.continuousDeepWorkSecs + secs }
      storage := match self.tracker.activeSessionId with
        | some sessionId => storage.addDeepWorkSecs sessionId secs
        | none => storage }
  else { self with storage := storage }

/-- A deep-work app is left for a communication app. -/
def FocusAnalyzer.interrupt (self : FocusAnalyzer) (prevApp : String) (sw : Switch) :
    FocusAnalyzer × Outcome :=
  let interruption : Interruption :=
    { id := 0
      interruptedAt := sw.interruptedAt
      fromApp := prevApp
      fromCategory := .fromAppName setup.toLowercase prevApp
      toApp := sw.app
      toCategory := .fromAppName setup.toLowercase sw.app
      resumedAt := none
      resumedToApp := none }
  let (storage, id) := self.storage.recordInterruption interruption
  let storage := match self.tracker.activeSessionId with
    | some sessionId => storage.incrementWorkSessionInterruption sessionId
    | none => storage
  ({ self with
      tracker := { self.tracker with pendingInterruptionId := some id }
      storage := storage.incrementFocusMetrics (dateOf sw.now) 0 0 0 0 1 },
    { recorded := some id })

/-- A communication app is left for a deep-work app. -/
def FocusAnalyzer.resume (self : FocusAnalyzer) (sw : Switch) : FocusAnalyzer × Outcome :=
  match self.tracker.pendingInterruptionId with
  | some id =>
    ({ self with
        tracker := { self.tracker with pendingInterruptionId := none }
        storage := self.storage.recordInterruptionResume id sw.app sw.resumedAt },
      { returned := true, resumed := some id })
  | none => (self, { returned := true })

/-- The app that was in front is left. -/
def FocusAnalyzer.leave (self : FocusAnalyzer) (prevApp : String) (prevCat : AppCategory)
    (start : Int) (newCategory : AppCategory) (sw : Switch) : FocusAnalyzer × Outcome :=
  let self := self.bookPrevious prevCat start sw.now
  if prevCat.isDeepWork && newCategory.isCommunication then self.interrupt setup prevApp sw
  else if prevCat.isCommunication && newCategory.isDeepWork then self.resume sw
  else (self, {})

/-- The work session ends at a communication app and starts at a deep-work app. -/
def FocusAnalyzer.switchSession (self : FocusAnalyzer) (newCategory : AppCategory) (sw : Switch) :
    FocusAnalyzer :=
  if newCategory.isCommunication then
    match self.tracker.activeSessionId with
    | some sessionId =>
      { self with
        tracker := { self.tracker with activeSessionId := none, continuousDeepWorkSecs := 0 }
        storage := self.storage.endWorkSession sessionId sw.sessionAt }
    | none => self
  else if newCategory.isDeepWork && self.tracker.activeSessionId.isNone then
    let (storage, id) := self.storage.startWorkSession sw.app newCategory sw.sessionAt
    { self with
      tracker := { self.tracker with activeSessionId := some id }
      storage := storage }
  else self

/-- `check_cooldown` of `RestoreContext`. -/
def FocusAnalyzer.checkCooldown (self : FocusAnalyzer) (now : Int) : Bool :=
  match self.lastRestoreContext with
  | some last => decide (setup.suggestionCooldownSecs * second < now - last)
  | none => true

/-- `maybe_suggest_restore_context`. -/
def FocusAnalyzer.maybeSuggestRestoreContext (self : FocusAnalyzer) (sw : Switch) :
    FocusAnalyzer × Option RestoreSuggestion :=
  if !self.checkCooldown setup sw.cooldownCheckedAt then (self, none)
  else match self.storage.getPendingInterruption with
    | none => (self, none)
    | some interruption =>
      let mins := durationMins sw.now interruption.interruptedAt
      if 30 < mins then (self, none)
      else
        ({ self with lastRestoreContext := some sw.cooldownSetAt },
          some ⟨interruption, "You were interrupted from " ++ sw.app ++ " about " ++ toString mins ++
            " minutes ago. Consider restoring your previous context."⟩)

/-- The new app is in front. -/
def FocusAnalyzer.front (self : FocusAnalyzer) (newCategory : AppCategory) (sw : Switch) :
    FocusAnalyzer :=
  let moved := self.switchSession newCategory sw
  { moved with tracker := { moved.tracker with current := some (sw.app, newCategory, sw.now) } }

/-- The new app is in front, and after a return the context may be suggested. -/
def FocusAnalyzer.arrive (self : FocusAnalyzer) (outcome : Outcome) (newCategory : AppCategory)
    (sw : Switch) : FocusAnalyzer × Outcome :=
  let arrived := self.front newCategory sw
  if outcome.resumed.isSome then
    let (done, suggested) := arrived.maybeSuggestRestoreContext setup sw
    (done, { outcome with suggested := suggested })
  else (arrived, outcome)

/-- `on_app_switch_with_context`. -/
def FocusAnalyzer.onAppSwitchWithContext (self : FocusAnalyzer) (sw : Switch) :
    FocusAnalyzer × Outcome :=
  let newCategory := AppCategory.fromAppName setup.toLowercase sw.app
  if self.tracker.current.map Prod.fst = some sw.app then (self, {})
  else match self.tracker.current with
    | some (prevApp, prevCat, start) =>
      let (left, outcome) := self.leave setup prevApp prevCat start newCategory sw
      left.arrive setup outcome newCategory sw
    | none => self.arrive setup {} newCategory sw

end Oneshim.Focus
