/-
  What gets past the gate of the monitor loop (`src-tauri/src/scheduler/loops/monitor.rs`).

  A tick with the gate closed should leave no trace of what the user does: no event, frame,
  interaction or work session stored, nothing enqueued for upload, nothing sent to the analysis
  provider (`Silent`).

  1. **What is asked** (`asked_after`) — five components, one after the other.

  2. **The result** (`closed_tick_silent_iff`) — the gate plays no part: such a tick is silent exactly
     when none of the stages outside has anything to do (`Quiet`).
-/
import Oneshim.Scheduler.MonitorTick

namespace Oneshim.MonitorLoop

open Config (TrackingScheduleConfig)
open Focus (durationSecs)
open Monitor (WindowLayoutTracker)

variable {κ δ F : Type} {setup : Setup κ δ F}

namespace MonitorState

/-! ## Silence -/

/-- The work sessions in the storage. -/
def sessionIds (self : MonitorState κ δ F) : Option (List Nat) :=
  self.focus.map fun focus => focus.storage.sessionIds

/-- **Nothing about what the user does is stored, enqueued or sent.** -/
structure Silent (earlier later : MonitorState κ δ F) : Prop where
  events : later.events = earlier.events
  files : later.frameStorage = earlier.frameStorage
  frames : later.frames = earlier.frames
  interactions : later.interactions = earlier.interactions
  sessions : later.sessionIds = earlier.sessionIds
  enqueued : later.uploader = earlier.uploader
  asked : later.asked = earlier.asked

/-- **Nothing to do outside the gate.**  A change of the window layout has an event that is stored
    already and is not uploaded; a switch begins no work session and is too soon after the last
    answer, or the recent events cannot be read; the work type is in the cache; a segment that closes
    is too short; there are no clicks, and no elements to ask about; coaching has no message. -/
structure Quiet (setup : Setup κ δ F) (monitor : MonitorState κ δ F) (reading : Reading δ F)
    (front : Front) : Prop where
  layout : ∀ event ∈ monitor.layoutEvent setup reading front,
    monitor.events.holds event.extractEventId = true ∧
      (monitor.uploader = none ∨ prepare setup event = none)
  session : monitor.switches front = true → ∀ focus ∈ monitor.focus,
    ¬ focus.StartsSession (focusSetup setup) front.appName
  switch : monitor.switches front = true → ∀ analyzer ∈ monitor.contextAnalyzer,
    analyzer.shouldAnalyze reading.times.analysis = false ∨ reading.recentEvents = none
  workType : ∀ adaptive ∈ monitor.adaptive, ∀ refiner ∈ adaptive.llmWorkTypeRefiner,
    ∃ cached ∈ refiner.peek ⟨front.appName, front.windowTitle, reading.baseline⟩,
      cached.isExpired reading.times.cache = false
  segment : ∀ adaptive ∈ monitor.adaptive, ∀ summarizer ∈ adaptive.llmSummarizer,
    ∀ start ∈ adaptive.pipeline.trigger.closing reading.evaluation reading.times.tick,
      summarizer.enabled = true →
        durationSecs reading.times.tick start < summarizer.minSegmentDurationSecs
  clicks : monitor.gui ≠ none → reading.snapshot.mouse.clickCount = 0
  elements : ∀ gui ∈ monitor.gui, monitor.analysisProvider = true →
    gui.feedbackTickCounter + 1 < 30 ∨ gui.uncertainQueue = []
  coaching : monitor.analysisProvider = true →
    monitor.coachingMessage setup reading (monitor.adaptive.bind fun _ => reading.regimeId) = none

/-! ## Before the gate -/

theorem saveEvent_eq_self_iff {table : EventTable} {event : Event} :
    table.saveEvent event = table ↔ table.holds event.extractEventId = true := by
  unfold EventTable.saveEvent
  split
  · next hholds => exact iff_of_true rfl hholds
  · next hfresh =>
    refine iff_of_false (fun h => ?_) hfresh
    exact absurd (congrArg EventTable.nextId h) (Nat.succ_ne_self _)

/-- **The window layout leaves no trace** when its event is there already and is not enqueued. -/
theorem trackLayout_iff {self : MonitorState κ δ F} {reading : Reading δ F} {front : Front} :
    ((self.before setup reading front).events = self.events ∧
        (self.before setup reading front).uploader = self.uploader) ↔
      ∀ event ∈ self.layoutEvent setup reading front,
        self.events.holds event.extractEventId = true ∧
          (self.uploader = none ∨ prepare setup event = none) := by
  have hevent : (self.extractElement reading).layoutEvent setup reading front =
      self.layoutEvent setup reading front := rfl
  simp only [before, trackLayout, hevent]
  cases self.layoutEvent setup reading front with
  | none => simp [extractElement]
  | some event =>
    simp only [extractElement, saveEvent_eq_self_iff, Option.bind_some, Option.mem_def,
      Option.some.injEq, forall_eq']
    refine and_congr_right fun _ => ?_
    cases self.uploader with
    | none => simp
    | some queue => cases hprepare : prepare setup event <;> simp

/-! ## What is asked -/

variable {self : MonitorState κ δ F} {reading : Reading δ F} {front : Front} {ocrHint : Option String}

/-- The pipeline keeps the GUI part. -/
theorem gui_runAnalysisTick : (self.runAnalysisTick setup reading front).gui = self.gui := by
  unfold runAnalysisTick gui
  cases self.adaptive with
  | none => rfl
  | some adaptive => rfl

/-- After it the regime is the one that the tick has found. -/
theorem coachingRegime_runGui :
    ((self.runAnalysisTick setup reading front).runGui reading front).coachingRegime =
      self.adaptive.bind fun _ => reading.regimeId := by
  unfold runGui runAnalysisTick coachingRegime
  cases self.adaptive with
  | none => rfl
  | some adaptive =>
    exact Analysis.currentRegimeId_runAnalysisTick (analysisSetup setup) adaptive.pipeline _

/-- Coaching asks for the same with the pipelines moved on. -/
theorem personalQuestion_runGui (regimeId : Option String) :
    ((self.runAnalysisTick setup reading front).runGui reading front).personalQuestion setup reading
        regimeId = self.personalQuestion setup reading regimeId := by
  have hpresent : ((self.runAnalysisTick setup reading front).runGui reading front).adaptive.isSome =
      self.adaptive.isSome := by
    unfold runGui runAnalysisTick
    cases self.adaptive with
    | none => rfl
    | some adaptive => rfl
  unfold personalQuestion coachingMessage evaluate coachingQuery
  rw [hpresent]
  rfl

/-- The GUI part asks for the same, too. -/
theorem elementsQuestion_runAnalysisTick :
    (self.runAnalysisTick setup reading front).elementsQuestion reading =
      self.elementsQuestion reading := by
  unfold elementsQuestion
  rw [gui_runAnalysisTick]
  rfl

/-- **What the stages after the gate ask**, in order. -/
theorem asked_after :
    (self.after setup reading front ocrHint).asked = self.asked ++
      (((self.switchQuestion reading front ocrHint).map .switch).toList ++
      (((self.workTypeQuestion reading front).map .workType).toList ++
      ((self.segmentQuestions setup reading front).map .segment ++
      (((self.elementsQuestion reading).map .elements).toList ++
      ((self.personalQuestion setup reading (self.adaptive.bind fun _ => reading.regimeId)).map
        fun message => .personalize message.templateText
          ((self.adaptive.bind fun _ => reading.regimeId).getD "Unknown")).toList)))) := by
  let asking := (self.bookSwitch setup reading front).handleEventAnalysis reading front ocrHint
  let coaching := (asking.runAnalysisTick setup reading front).runGui reading front
  have hregime : coaching.coachingRegime = self.adaptive.bind fun _ => reading.regimeId :=
    coachingRegime_runGui
  have hpersonal (regimeId : Option String) : coaching.personalQuestion setup reading regimeId =
      self.personalQuestion setup reading regimeId := personalQuestion_runGui regimeId
  have helements : (asking.runAnalysisTick setup reading front).elementsQuestion reading =
      self.elementsQuestion reading := elementsQuestion_runAnalysisTick
  have hasking : asking.asked = self.asked ++
      ((self.switchQuestion reading front ocrHint).map .switch).toList := rfl
  have hcoaching : coaching.asked = asking.asked ++
      ((self.workTypeQuestion reading front).map .workType).toList ++
      (self.segmentQuestions setup reading front).map .segment ++
      ((self.elementsQuestion reading).map .elements).toList := by
    rw [← helements]
    rfl
  calc (self.after setup reading front ocrHint).asked
      = coaching.asked ++ ((coaching.personalQuestion setup reading coaching.coachingRegime).map
          fun message => .personalize message.templateText
            (coaching.coachingRegime.getD "Unknown")).toList := rfl
    _ = _ := by rw [hregime, hpersonal, hcoaching, hasking]; simp only [List.append_assoc]

/-! ## When nothing is asked -/

theorem switchQuestion_eq_none_iff :
    self.switchQuestion reading front ocrHint = none ↔
      (self.switches front = true → ∀ analyzer ∈ self.contextAnalyzer,
        analyzer.shouldAnalyze reading.times.analysis = false ∨ reading.recentEvents = none) := by
  unfold switchQuestion
  cases self.switches front with
  | false => simp
  | true =>
    cases self.contextAnalyzer with
    | none => simp
    | some analyzer =>
      simp [significantEvent, Analysis.ContextAnalyzer.onSignificantEvent_eq_none_iff]

theorem workTypeQuestion_eq_none_iff :
    self.workTypeQuestion reading front = none ↔
      ∀ adaptive ∈ self.adaptive, ∀ refiner ∈ adaptive.llmWorkTypeRefiner,
        ∃ cached ∈ refiner.peek ⟨front.appName, front.windowTitle, reading.baseline⟩,
          cached.isExpired reading.times.cache = false := by
  unfold workTypeQuestion
  cases self.adaptive with
  | none => simp
  | some adaptive =>
    cases hrefiner : adaptive.llmWorkTypeRefiner with
    | none => simp [hrefiner]
    | some refiner => simp [hrefiner, refine, Analysis.LlmWorkTypeRefiner.refine_eq_none_iff]

/-- The model is not asked when no closing segment is long enough for its summary. -/
theorem segmentQuestions_eq_nil_iff :
    self.segmentQuestions setup reading front = [] ↔
      ∀ adaptive ∈ self.adaptive, ∀ summarizer ∈ adaptive.llmSummarizer,
        ∀ start ∈ adaptive.pipeline.trigger.closing reading.evaluation reading.times.tick,
          summarizer.enabled = true →
            durationSecs reading.times.tick start < summarizer.minSegmentDurationSecs := by
  unfold segmentQuestions
  cases self.adaptive with
  | none => simp
  | some adaptive =>
    cases hsummarizer : adaptive.llmSummarizer with
    | none => simp [hsummarizer]
    | some summarizer =>
      simp only [hsummarizer, Analysis.closedBy_filter_eq_nil_iff, Option.mem_def,
        Option.some.injEq, forall_eq']
      rfl

theorem feedback_eq_none_iff {gui : GuiPipelineState} {provider : Bool} :
    (gui.feedback provider).2 = none ↔
      (provider = true → gui.feedbackTickCounter + 1 < 30 ∨ gui.uncertainQueue = []) := by
  cases hqueue : gui.uncertainQueue with
  | nil => simp [GuiPipelineState.feedback, hqueue]
  | cons element rest =>
    by_cases hdue : 30 ≤ gui.feedbackTickCounter + 1
    · cases provider with
      | false => simp [GuiPipelineState.feedback, hqueue, hdue]
      | true => simp [GuiPipelineState.feedback, GuiPipelineState.processGuiFeedback, hqueue, hdue]
    · have hlt : gui.feedbackTickCounter + 1 < 30 := by omega
      simp [GuiPipelineState.feedback, hqueue, hlt, hdue]

/-- Without clicks the queue of elements is the one from before. -/
theorem elementsQuestion_eq_none_iff
    (hclicks : self.gui ≠ none → reading.snapshot.mouse.clickCount = 0) :
    self.elementsQuestion reading = none ↔
      ∀ gui ∈ self.gui, self.analysisProvider = true →
        gui.feedbackTickCounter + 1 < 30 ∨ gui.uncertainQueue = [] := by
  unfold elementsQuestion
  cases hgui : self.gui with
  | none => simp
  | some gui =>
    have hnone := hclicks (by rw [hgui]; exact Option.some_ne_none gui)
    have hsame : gui.runGuiTick reading.snapshot.mouse.clickCount reading.uncertain = gui := by
      unfold GuiPipelineState.runGuiTick
      rw [hnone, if_neg (by decide)]
    simp only [guiTick, hsame, Option.bind_some, feedback_eq_none_iff, Option.mem_def,
      Option.some.injEq, forall_eq']

theorem interaction_eq_none_iff :
    self.interaction reading front = none ↔
      (self.gui ≠ none → reading.snapshot.mouse.clickCount = 0) := by
  unfold interaction
  cases self.gui with
  | none => simp
  | some gui => simp

theorem personalQuestion_eq_none_iff {regimeId : Option String} :
    self.personalQuestion setup reading regimeId = none ↔
      (self.analysisProvider = true → self.coachingMessage setup reading regimeId = none) := by
  unfold personalQuestion
  cases self.analysisProvider <;> simp

/-- No work session begins unless the focus analyzer sees a switch that starts one. -/
theorem sessionIds_bookSwitch_iff :
    (self.bookSwitch setup reading front).sessionIds = self.sessionIds ↔
      (self.switches front = true → ∀ focus ∈ self.focus,
        ¬ focus.StartsSession (focusSetup setup) front.appName) := by
  unfold bookSwitch sessionIds
  cases self.switches front with
  | false => simp
  | true =>
    cases self.focus with
    | none => simp
    | some focus =>
      have hiff : (focus.onAppSwitchWithContext (focusSetup setup)
          (switchOf reading front)).1.storage.sessionIds = focus.storage.sessionIds ↔
            ¬ focus.StartsSession (focusSetup setup) front.appName :=
        Focus.sessionIds_onAppSwitch_iff (focusSetup setup) focus (switchOf reading front)
      simpa using hiff

/-! ## A tick with the gate closed -/

/-- The interactions after the stages. -/
theorem interactions_after :
    (self.after setup reading front ocrHint).interactions =
      self.interactions ++ (self.interaction reading front).toList := by
  let asking := (self.bookSwitch setup reading front).handleEventAnalysis reading front ocrHint
  have hgui : (asking.runAnalysisTick setup reading front).gui = self.gui := gui_runAnalysisTick
  have hinteraction : (asking.runAnalysisTick setup reading front).interaction reading front =
      self.interaction reading front := by
    unfold interaction
    rw [hgui]
  rw [← hinteraction]
  rfl

/-- **When nothing is asked** after the gate. -/
theorem asked_after_iff :
    (self.after setup reading front ocrHint).asked = self.asked ↔
      self.switchQuestion reading front ocrHint = none ∧
      self.workTypeQuestion reading front = none ∧
      self.segmentQuestions setup reading front = [] ∧
      self.elementsQuestion reading = none ∧
      self.personalQuestion setup reading (self.adaptive.bind fun _ => reading.regimeId) = none := by
  rw [asked_after, List.append_right_eq_self]
  simp only [List.append_eq_nil_iff, Option.toList_eq_nil_iff, Option.map_eq_none_iff,
    List.map_eq_nil_iff]

theorem interactions_after_iff :
    (self.after setup reading front ocrHint).interactions = self.interactions ↔
      (self.gui ≠ none → reading.snapshot.mouse.clickCount = 0) := by
  rw [interactions_after, List.append_right_eq_self, Option.toList_eq_nil_iff,
    interaction_eq_none_iff]

/-- The stages before the gate change what no later one looks at. -/
theorem before_eq : ∃ tracker element table queue, self.before setup reading front =
    { self with
      windowTracker := tracker
      lastFocusedElement := element
      events := table
      uploader := queue } := ⟨_, _, _, _, rfl⟩

/-- **The stages without the gate are silent** exactly when they have nothing to do. -/
theorem after_before_silent_iff :
    self.Silent ((self.before setup reading front).after setup reading front none) ↔
      self.Quiet setup reading front := by
  have hlayout : ((self.before setup reading front).events = self.events ∧
      (self.before setup reading front).uploader = self.uploader) ↔ _ := trackLayout_iff
  obtain ⟨tracker, element, table, queue, heq⟩ :
      ∃ tracker element table queue, self.before setup reading front = _ := before_eq
  rw [heq] at hlayout ⊢
  constructor
  · intro h
    have hclicks := interactions_after_iff.mp h.interactions
    obtain ⟨hswitch, hwork, hsegment, helements, hpersonal⟩ := asked_after_iff.mp h.asked
    have hsession := sessionIds_bookSwitch_iff.mp h.sessions
    have hsoon := switchQuestion_eq_none_iff.mp hswitch
    have hcached := workTypeQuestion_eq_none_iff.mp hwork
    have hshort := segmentQuestions_eq_nil_iff.mp hsegment
    have hempty := (elementsQuestion_eq_none_iff hclicks).mp helements
    have hmessage := personalQuestion_eq_none_iff.mp hpersonal
    exact
      { layout := hlayout.mp ⟨h.events, h.enqueued⟩
        session := hsession
        switch := hsoon
        workType := hcached
        segment := hshort
        clicks := hclicks
        elements := hempty
        coaching := hmessage }
  · intro h
    obtain ⟨hevents, henqueued⟩ := hlayout.mpr h.layout
    exact
      { events := hevents
        files := rfl
        frames := rfl
        interactions := interactions_after_iff.mpr h.clicks
        sessions := sessionIds_bookSwitch_iff.mpr h.session
        enqueued := henqueued
        asked := asked_after_iff.mpr ⟨switchQuestion_eq_none_iff.mpr h.switch,
          workTypeQuestion_eq_none_iff.mpr h.workType, segmentQuestions_eq_nil_iff.mpr h.segment,
          (elementsQuestion_eq_none_iff h.clicks).mpr h.elements,
          personalQuestion_eq_none_iff.mpr h.coaching⟩ }

end MonitorState

/-- **A tick with the gate closed is silent exactly when** its context cannot be collected, or the
    stages outside the gate have nothing to do.  Any state and reading, any components. -/
theorem closed_tick_silent_iff [LT F] [DecidableLT F] [LE F] [DecidableLE F] (setup : Setup κ δ F)
    (monitor : MonitorState κ δ F) (reading : Reading δ F) (hclosed : reading.permitted setup = false) :
    monitor.Silent (monitor.tick setup reading) ↔
      ∀ window ∈ reading.context, monitor.Quiet setup reading (frontOf window) := by
  cases hcontext : reading.context with
  | none =>
    have htick : monitor.tick setup reading = monitor := by
      unfold MonitorState.tick
      rw [hcontext]
    rw [htick]
    exact iff_of_true ⟨rfl, rfl, rfl, rfl, rfl, rfl, rfl⟩ fun _ h => by cases h
  | some window =>
    have htick : monitor.tick setup reading = (monitor.before setup reading (frontOf window)).after
        setup reading (frontOf window) none := by
      simp only [MonitorState.tick, hcontext, hclosed, Bool.false_eq_true, if_false]
    rw [htick, MonitorState.after_before_silent_iff]
    simp only [Option.mem_def, Option.some.injEq, forall_eq']

/-! ## A muted window switch -/

/-- No zones, an egress policy that lets everything through, a coach without messages. -/
def exampleSetup : Setup Unit Unit Nat where
  toLowercase := String.toLower
  sanitizeTitleWithLevel := fun title _ => title
  screenRatio := fun _ _ => ⟨0⟩
  zones := ⟨fun _ => 0, fun _ => none⟩
  egress := ⟨true, .allowFiltered, .default⟩
  suggestionCooldownSecs := 600
  blend := fun _ _ _ => ()
  coaching := ⟨fun _ _ => 0, fun _ _ _ => (), fun _ _ _ => ((), none), fun _ _ _ _ => ()⟩
  focusThreshold := 7
  noThreshold := 0
  elapsedMinutes := 0

/-- Ten o'clock on a Thursday. -/
def ten : Int := 36000 * Focus.second

/-- Muted from nine to five. -/
def exampleSchedule : TrackingScheduleConfig :=
  ⟨true, [⟨"09:00", "17:00", [.thu], "work"⟩], "Local"⟩

/-- A chat is in front at ten; consent has been given. -/
def mutedReading : Reading Unit Nat where
  times := ⟨ten, ten, ten, ten, ten, ten, ten, ten, ten, ten⟩
  context := some (some ⟨"Slack", "general", some ⟨0, 0, 800, 600⟩⟩)
  extracts := false
  focusedElement := none
  inputActivityLevel := ⟨0⟩
  consent := some { screenCapture := true }
  schedule := some exampleSchedule
  shouldRunNow := true
  capturePaused := false
  focusMode := false
  thumbnail := none
  forcedThumbnail := none
  captureRequest := none
  processed := none
  piiFilterLevel := .standard
  switch := ⟨"Slack", ten, ten, ten, ten, ten, ten⟩
  recentEvents := some []
  answers := true
  snapshot := ⟨ten, 1, ⟨0, ⟨0⟩, 0, none, 0, 0⟩, ⟨0, 0, 0, 0, 0⟩, "Slack", none⟩
  baseline := .unknown
  content := none
  regimeId := none
  evaluation := ⟨false, false, 60, 3600⟩
  segmentId := "segment-1"
  uncertain := none
  interactionId := "interaction-1"
  driftDetected := false

/-- An application is in front, an analyzer and an uploader are there, nothing is stored yet. -/
def exampleMonitor (appName windowTitle : String) : MonitorState Unit Unit Nat where
  prevApp := some appName
  windowTracker :=
    { WindowLayoutTracker.new with
      prevState := some ⟨appName, windowTitle, (0, 0), (800, 600), false⟩ }
  ringBuffer := .new 6 2 5
  lastFocusedElement := none
  events := .empty
  sessionEvents := 0
  sessionFrames := 0
  frameStorage := some []
  frames := []
  interactions := []
  uploader := some []
  focus := none
  contextAnalyzer := some ⟨none, 60⟩
  adaptive := none
  coachingEngine := some ()
  coachingTick := ⟨none, none⟩
  coachingStorage := none
  analysisProvider := true
  asked := []

/-- A muted tick in the same window is silent. -/
theorem closed_tick_silent_iff_same :
    (exampleMonitor "Slack" "general").Silent
      ((exampleMonitor "Slack" "general").tick exampleSetup mutedReading) := by
  refine (closed_tick_silent_iff exampleSetup (exampleMonitor "Slack" "general") mutedReading
    (by decide +kernel)).mpr fun window hwindow => ?_
  cases hwindow
  have hsame : (exampleMonitor "Slack" "general").switches (frontOf (some
      ⟨"Slack", "general", some ⟨0, 0, 800, 600⟩⟩)) = false := by decide +kernel
  have hlayout : (exampleMonitor "Slack" "general").layoutEvent exampleSetup mutedReading (frontOf
      (some ⟨"Slack", "general", some ⟨0, 0, 800, 600⟩⟩)) = none := by decide +kernel
  exact
    { layout := fun event hevent => by rw [hlayout] at hevent; cases hevent
      session := fun h => by rw [hsame] at h; cases h
      switch := fun h => by rw [hsame] at h; cases h
      workType := fun _ h => by cases h
      segment := fun _ h => by cases h
      clicks := fun _ => rfl
      elements := fun _ h => by cases h
      coaching := fun _ => rfl }

/-- **The gate does not silence a tick**: the schedule mutes it, and the switch to the chat is stored,
    enqueued and sent to the analysis provider. -/
theorem muted_switch_stored :
    let muted := (exampleMonitor "Code" "main.rs").tick exampleSetup mutedReading
    Config.trackingScheduleActive exampleSetup.zones exampleSchedule ten = true ∧
      mutedReading.permitted exampleSetup = false ∧
      muted.events.rows.map (·.eventType) = ["window_Focus"] ∧
      muted.uploader.map List.length = some 1 ∧ muted.asked.length = 1 ∧
      ¬ (exampleMonitor "Code" "main.rs").Silent muted := by
  intro muted
  have hstored : muted.events.rows.map (·.eventType) = ["window_Focus"] := by decide +kernel
  have hsilent : ¬ (exampleMonitor "Code" "main.rs").Silent muted := by
    intro h
    rw [h.events] at hstored
    cases hstored
  exact ⟨by decide +kernel, by decide +kernel, hstored, by decide +kernel, by decide +kernel, hsilent⟩

end Oneshim.MonitorLoop
