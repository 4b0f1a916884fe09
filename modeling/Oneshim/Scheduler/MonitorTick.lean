/-
  A tick of the monitor loop (`src-tauri/src/scheduler/loops/monitor.rs`).

  A tick looks at the window in front and hands what it finds from one component to the next.  The
  gate asks for consent, active hours, the tracking schedule and the tray toggle; it encloses the
  frames and the context event, and NOTHING else.

  1. **State and readings** — every component that may be there, and what a tick reads.

  2. **The stages** of a tick, in the order of the source; each changes the fields it names.

  Storage is taken to be reliable.  The capture trigger, the image processing, the parsers and the
  classifiers are read, the coaching engine is left open (`CoachingPort`).  The idle check before the
  stages, and the overlays and the retention after them, are left out.
-/
import Oneshim.Analysis.Questions
import Oneshim.Config.TrackingSchedule
import Oneshim.Core.Consent
import Oneshim.Focus.WorkSessions
import Oneshim.Monitor.WindowLayout
import Oneshim.Privacy.Upload
import Oneshim.Storage.Events
import Oneshim.Vision.RingBuffer

namespace Oneshim.MonitorLoop

open Analysis (ContextAnalyzer LlmWorkTypeRefiner LlmSegmentSummarizer SwitchQuestion
  WorkTypeQuestion WorkType SegmentSummary AdaptiveTriggerState Evaluation)
open Config (Zones TrackingScheduleConfig capturePermittedNow)
open Focus (FocusAnalyzer durationSecs)
open Monitor (WindowBounds WindowLayoutTracker)
open Vision (CaptureRingBuffer RingRequest RingCall)

/-! ## Frames -/

/-- The bytes of an image. -/
abbrev Bytes := List UInt8

/-- `RingFrame`, as far as a flush saves it. -/
structure RingFrame where
  timestamp : Int
  thumbnailData : Bytes

/-- `CaptureRequest`; its importance is a floating-point number. -/
structure CaptureRequest (F : Type) where
  importance : F

/-- `ImagePayload`: the data, if it can be decoded, and the text that was recognized. -/
structure ImagePayload where
  data : Option Bytes
  ocrText : Option String

/-- `ProcessedFrame`. -/
structure ProcessedFrame where
  timestamp : Int
  imagePayload : Option ImagePayload

/-- A row of `frames`; of the path, whether there is one. -/
structure FrameRow where
  timestamp : Int
  hasFile : Bool
  ocrText : Option String
  windowBounds : Option WindowBounds

/-- A call of the ring buffer; no other one interrupts it. -/
def ringCall {F : Type} [LT F] [DecidableLT F] (ring : CaptureRingBuffer F RingFrame)
    (request : RingRequest F RingFrame) : CaptureRingBuffer F RingFrame × RingCall F RingFrame :=
  let (ring, call) := ring.turn request.call
  ring.turn call

/-! ## GUI activity -/

/-- `UncertainElement`; the features of its image are left out. -/
structure UncertainElement where
  appName : String
  text : String
  currentType : String

/-- `GuiPipelineState`, as far as the language model is asked about elements. -/
structure GuiPipelineState where
  uncertainQueue : List UncertainElement
  feedbackTickCounter : Nat

/-- `MAX_UNCERTAIN_QUEUE`. -/
def maxUncertainQueue : Nat := 20

namespace GuiPipelineState

/-- `run_gui_tick`; `found` is the clicked element if its type is uncertain. -/
def runGuiTick (self : GuiPipelineState) (clickCount : UInt32) (found : Option UncertainElement) :
    GuiPipelineState :=
  if 0 < clickCount then
    match found with
    | some element =>
      if self.uncertainQueue.length < maxUncertainQueue then
        { self with uncertainQueue := self.uncertainQueue ++ [element] }
      else self
    | none => self
  else self

/-- `process_gui_feedback`: what is asked. -/
def processGuiFeedback (self : GuiPipelineState) :
    GuiPipelineState × Option (List UncertainElement) :=
  let batch := self.uncertainQueue.take 5
  let self := { self with uncertainQueue := self.uncertainQueue.drop 5 }
  if batch.isEmpty then (self, none) else (self, some batch)

/-- The feedback of a tick; the counter starts again without a provider, too. -/
def feedback (self : GuiPipelineState) (provider : Bool) :
    GuiPipelineState × Option (List UncertainElement) :=
  let self := { self with feedbackTickCounter := self.feedbackTickCounter + 1 }
  if 30 ≤ self.feedbackTickCounter ∧ self.uncertainQueue.isEmpty = false then
    let self := { self with feedbackTickCounter := 0 }
    if provider then self.processGuiFeedback else (self, none)
  else (self, none)

end GuiPipelineState

/-- `NewGuiInteraction`; what is always absent is left out. -/
structure NewGuiInteraction where
  eventId : String
  timestamp : Int
  elementType : String
  interactionType : String
  appName : String

/-! ## Coaching -/

/-- What the coaching engine is asked. -/
structure CoachingQuery where
  regimeId : Option String
  regimeLabel : String
  regimeDurationSecs : Nat
  avgRegimeDurationSecs : Nat
  driftDetected : Bool
  appName : String

/-- `CoachingMessage`, as far as it is delivered. -/
structure CoachingMessage where
  messageId : String
  templateText : String

/-- The operations of `CoachingEngine`. -/
structure CoachingPort (κ : Type) where
  avgRegimeDurationSecs : κ → String → Nat
  recordMinutes : κ → String → Nat → κ
  evaluate : κ → Int → CoachingQuery → κ × Option CoachingMessage
  registerPendingFeedback : κ → CoachingMessage → Option String → String → κ

/-- `CoachingTickState`. -/
structure CoachingTickState where
  regimeEnteredAt : Option Int
  prevCoachingRegimeId : Option String

/-- The regime is another one: its time starts again. -/
def CoachingTickState.enter (self : CoachingTickState) (regimeId : Option String) (now : Int) :
    CoachingTickState :=
  if regimeId ≠ self.prevCoachingRegimeId then ⟨some now, regimeId⟩ else self

/-- `CoachingEventRow`, as far as it is set to anything but a name. -/
structure CoachingEventRow where
  eventId : String
  regimeId : Option String
  messageTemplate : String

/-! ## Questions -/

/-- What is sent to the analysis provider. -/
inductive Question (δ : Type) where
  | switch (question : SwitchQuestion)
  | workType (question : WorkTypeQuestion)
  | segment (summary : SegmentSummary δ)
  | elements (batch : List UncertainElement)
  | personalize (templateText regime : String)

/-! ## The loop -/

/-- What `AdaptiveTriggerState` has for this: the pipeline, and the parts that may be there. -/
structure Adaptive (δ : Type) where
  pipeline : AdaptiveTriggerState δ
  llmWorkTypeRefiner : Option LlmWorkTypeRefiner
  llmSummarizer : Option LlmSegmentSummarizer
  guiPipelineState : Option GuiPipelineState

/-- `FocusedElementInfo`, as far as it is asked about. -/
structure FocusedElementInfo where
  role : String
  extractedText : Option String

/-- The monitor loop between two ticks, with what it stores.  A component that is not there is
    `none`; `uploader` holds what has been enqueued, `asked` what has been sent to the analysis
    provider, by any component. -/
structure MonitorState (κ δ F : Type) where
  prevApp : Option String
  windowTracker : WindowLayoutTracker
  ringBuffer : CaptureRingBuffer F RingFrame
  lastFocusedElement : Option FocusedElementInfo
  events : EventTable
  sessionEvents : Nat
  sessionFrames : Nat
  frameStorage : Option (List (Int × Bytes))
  frames : List FrameRow
  interactions : List NewGuiInteraction
  uploader : Option (List Event)
  focus : Option FocusAnalyzer
  contextAnalyzer : Option ContextAnalyzer
  adaptive : Option (Adaptive δ)
  coachingEngine : Option κ
  coachingTick : CoachingTickState
  coachingStorage : Option (List CoachingEventRow)
  analysisProvider : Bool
  asked : List (Question δ)

/-- What does not change while the loop runs.  `focusThreshold` and `noThreshold` are 0.7 and 0.0,
    `elapsedMinutes` is made from the interval of the loop with floating-point numbers. -/
structure Setup (κ δ F : Type) where
  toLowercase : String → String
  sanitizeTitleWithLevel : String → PiiFilterLevel → String
  screenRatio : UInt32 × UInt32 → UInt32 × UInt32 → F32
  zones : Zones
  egress : PlatformEgressPolicy
  suggestionCooldownSecs : Nat
  blend : Nat → δ → δ → δ
  coaching : CoachingPort κ
  focusThreshold : F
  noThreshold : F
  elapsedMinutes : Nat

/-- The window in front. -/
structure Front where
  appName : String
  windowTitle : String
  bounds : Option WindowBounds

/-- The clock, whenever it is read. -/
structure Times where
  layout : Int
  event : Int
  gate : Int
  frame : Int
  analysis : Int
  answered : Int
  cache : Int
  tick : Int
  click : Int
  coaching : Int

/-- What a tick reads.  `context` is `none` when it cannot be collected; the window of a context may
    be missing.  The schedule is `none` without a configuration. -/
structure Reading (δ F : Type) where
  times : Times
  context : Option (Option Front)
  extracts : Bool
  focusedElement : Option FocusedElementInfo
  inputActivityLevel : F32
  consent : Option ConsentPermissions
  schedule : Option TrackingScheduleConfig
  shouldRunNow : Bool
  capturePaused : Bool
  focusMode : Bool
  thumbnail : Option Bytes
  forcedThumbnail : Option Bytes
  captureRequest : Option (CaptureRequest F)
  processed : Option ProcessedFrame
  piiFilterLevel : PiiFilterLevel
  /-- The clock of the focus analyzer. -/
  switch : Focus.Switch
  recentEvents : Option (List Event)
  answers : Bool
  snapshot : InputActivityEvent
  baseline : WorkType
  /-- The content in the title bar; its details depend on the work type. -/
  content : Option (String × (WorkType → δ))
  regimeId : Option String
  evaluation : Evaluation
  segmentId : String
  uncertain : Option UncertainElement
  interactionId : String
  driftDetected : Bool

variable {κ δ F : Type} (setup : Setup κ δ F)

/-- The gate. -/
def Reading.permitted (self : Reading δ F) : Bool :=
  let consent := self.consent.getD {}
  match self.schedule with
  | some schedule =>
    capturePermittedNow setup.zones schedule consent.screenCapture self.shouldRunNow
      self.capturePaused self.times.gate
  | none => !self.capturePaused

/-- What the loop makes of a missing window. -/
def frontOf (window : Option Front) : Front := window.getD ⟨"", "", none⟩

/-- `prepare_event_for_upload`. -/
def prepare (event : Event) : Option Event :=
  setup.egress.prepareEventForUpload setup.toLowercase setup.sanitizeTitleWithLevel event

namespace MonitorState

/-! ## Before the gate -/

/-- The focused element is extracted, if there is an extractor. -/
def extractElement (self : MonitorState κ δ F) (reading : Reading δ F) : MonitorState κ δ F :=
  { self with
    lastFocusedElement := if reading.extracts then reading.focusedElement
      else self.lastFocusedElement }

/-- The event of the window layout. -/
def layoutEvent (self : MonitorState κ δ F) (reading : Reading δ F) (front : Front) : Option Event :=
  (self.windowTracker.update setup.screenRatio reading.times.layout front.appName front.windowTitle
    front.bounds).2.map .window

/-- The window layout is tracked; a change is stored and enqueued. -/
def trackLayout (self : MonitorState κ δ F) (reading : Reading δ F) (front : Front) : MonitorState κ δ F :=
  { self with
    windowTracker := (self.windowTracker.update setup.screenRatio reading.times.layout front.appName
      front.windowTitle front.bounds).1
    events := match self.layoutEvent setup reading front with
      | some event => self.events.saveEvent event
      | none => self.events
    uploader := self.uploader.map fun queue =>
      queue ++ ((self.layoutEvent setup reading front).bind (prepare setup)).toList }

/-! ## Behind the gate -/

variable [LT F] [DecidableLT F] [LE F] [DecidableLE F]

/-- The ring buffer gets a thumbnail. -/
def pushThumbnail (self : MonitorState κ δ F) (reading : Reading δ F) : MonitorState κ δ F :=
  match reading.thumbnail with
  | some data =>
    { self with ringBuffer := (ringCall self.ringBuffer (.push ⟨reading.times.frame, data⟩)).1 }
  | none => self

/-- The frames from before a significant capture are saved. -/
def flushFrames (self : MonitorState κ δ F) (reading : Reading δ F) (request : CaptureRequest F) :
    MonitorState κ δ F :=
  match self.frameStorage with
  | none => self
  | some files =>
    match ringCall self.ringBuffer
      (.checkAndFlush request.importance ⟨reading.times.frame, []⟩) with
    | (ringBuffer, .flushed (some flush)) =>
      let batch := (flush.preEventFrames.filter fun frame => !frame.thumbnailData.isEmpty).map
        fun frame => (frame.timestamp, frame.thumbnailData)
      { self with ringBuffer, frameStorage := some (files ++ batch) }
    | (ringBuffer, _) => { self with ringBuffer }

/-- `handle_frame_capture`, and the text that it has recognized. -/
def handleFrameCapture (self : MonitorState κ δ F) (reading : Reading δ F) (front : Front) :
    MonitorState κ δ F × Option String :=
  match reading.processed with
  | none => (self, none)
  | some frame =>
    let data := frame.imagePayload.bind (·.data)
    let ocrText := frame.imagePayload.bind (·.ocrText)
    ({ self with
        frameStorage := self.frameStorage.map fun files =>
          files ++ (data.map fun bytes => (frame.timestamp, bytes)).toList
        frames := self.frames ++ [⟨frame.timestamp, self.frameStorage.isSome && data.isSome,
          ocrText.map fun raw => setup.sanitizeTitleWithLevel raw reading.piiFilterLevel,
          front.bounds⟩]
        sessionFrames := self.sessionFrames + 1 },
      ocrText)

/-- A forced capture after an event. -/
def saveForced (self : MonitorState κ δ F) (reading : Reading δ F) : MonitorState κ δ F :=
  { self with
    frameStorage := self.frameStorage.map fun files =>
      files ++ (reading.forcedThumbnail.map fun data => (reading.times.frame, data)).toList }

/-- The capture of a tick, and the text that it has recognized. -/
def captureFrame (self : MonitorState κ δ F) (reading : Reading δ F) (front : Front) :
    MonitorState κ δ F × Option String :=
  let (ringBuffer, forced) := ringCall self.ringBuffer .shouldForcePostCapture
  let self := { self with ringBuffer }
  let threshold := if reading.focusMode then setup.focusThreshold else setup.noThreshold
  match reading.captureRequest.filter fun request => threshold ≤ request.importance with
  | some request => (self.flushFrames reading request).handleFrameCapture setup reading front
  | none =>
    match forced with
    | .forced true => (self.saveForced reading, none)
    | _ => (self, none)

/-- The context event is stored and enqueued. -/
def saveContext (self : MonitorState κ δ F) (reading : Reading δ F) (front : Front) : MonitorState κ δ F :=
  let event : Event := .context
    { appName := front.appName
      windowTitle := front.windowTitle
      prevAppName := self.prevApp
      timestamp := reading.times.event
      inputActivityLevel := reading.inputActivityLevel }
  { self with
    events := self.events.saveEvent event
    sessionEvents := self.sessionEvents + 1
    uploader := self.uploader.map fun queue => queue ++ (prepare setup event).toList }

/-- What the gate encloses. -/
def capture (self : MonitorState κ δ F) (reading : Reading δ F) (front : Front) :
    MonitorState κ δ F × Option String :=
  let (self, ocrHint) := (self.pushThumbnail reading).captureFrame setup reading front
  (self.saveContext setup reading front, ocrHint)

/-! ## After the gate -/

/-- The app in front is another one. -/
def switches (self : MonitorState κ δ F) (front : Front) : Bool :=
  decide (self.prevApp ≠ some front.appName)

/-- The analyzer's event of a switch. -/
def switchOf (reading : Reading δ F) (front : Front) : Focus.Switch :=
  { reading.switch with app := front.appName }

/-- The setup of the focus analyzer. -/
def focusSetup : Focus.Setup := ⟨setup.toLowercase, setup.suggestionCooldownSecs⟩

/-- The focus analyzer books an app switch. -/
def bookSwitch (self : MonitorState κ δ F) (reading : Reading δ F) (front : Front) : MonitorState κ δ F :=
  { self with
    focus := if self.switches front then
        self.focus.map fun focus =>
          (focus.onAppSwitchWithContext (focusSetup setup) (switchOf reading front)).1
      else self.focus }

/-- `on_significant_event` at a tick. -/
def significantEvent (reading : Reading δ F) (front : Front) (ocrHint : Option String)
    (analyzer : ContextAnalyzer) : ContextAnalyzer × Option SwitchQuestion :=
  analyzer.onSignificantEvent reading.times.analysis reading.times.answered front.appName
    front.windowTitle ocrHint reading.recentEvents reading.answers

/-- What an app switch is asked about. -/
def switchQuestion (self : MonitorState κ δ F) (reading : Reading δ F) (front : Front)
    (ocrHint : Option String) : Option SwitchQuestion :=
  if self.switches front then
    self.contextAnalyzer.bind fun analyzer => (significantEvent reading front ocrHint analyzer).2
  else none

/-- `handle_event_analysis`; the suggestions that come back are left out. -/
def handleEventAnalysis (self : MonitorState κ δ F) (reading : Reading δ F) (front : Front)
    (ocrHint : Option String) : MonitorState κ δ F :=
  { self with
    contextAnalyzer := if self.switches front then
        self.contextAnalyzer.map fun analyzer => (significantEvent reading front ocrHint analyzer).1
      else self.contextAnalyzer
    asked := self.asked ++ ((self.switchQuestion reading front ocrHint).map .switch).toList }

/-- The refinement of the work type. -/
def refine (reading : Reading δ F) (front : Front) (element : Option FocusedElementInfo)
    (refiner : LlmWorkTypeRefiner) :
    LlmWorkTypeRefiner × Option WorkType × Option WorkTypeQuestion :=
  refiner.refine reading.times.cache reading.baseline front.appName front.windowTitle
    (element.map (·.role)) (element.bind (·.extractedText))

/-- What a work type is asked about. -/
def workTypeQuestion (self : MonitorState κ δ F) (reading : Reading δ F) (front : Front) :
    Option WorkTypeQuestion :=
  (self.adaptive.bind (·.llmWorkTypeRefiner)).bind fun refiner =>
    (refine reading front self.lastFocusedElement refiner).2.2

/-- What the pipeline is given. -/
def analysisTick (self : MonitorState κ δ F) (reading : Reading δ F) (front : Front)
    (adaptive : Adaptive δ) : Analysis.Tick δ :=
  let workType := (adaptive.llmWorkTypeRefiner.bind fun refiner =>
    (refine reading front self.lastFocusedElement refiner).2.1).getD reading.baseline
  { now := reading.times.tick
    appName := front.appName
    prevApp := self.prevApp
    appChanged := self.switches front
    content := reading.content.map fun (label, details) => (label, details workType)
    regimeId := reading.regimeId
    evaluation := reading.evaluation
    segmentId := reading.segmentId }

/-- The setup of the pipeline. -/
def analysisSetup : Analysis.Setup δ := ⟨setup.toLowercase, setup.blend⟩

/-- The segments that are summarized. -/
def segmentQuestions (self : MonitorState κ δ F) (reading : Reading δ F) (front : Front) :
    List (SegmentSummary δ) :=
  match self.adaptive with
  | some adaptive =>
    match adaptive.llmSummarizer with
    | some summarizer =>
      (adaptive.pipeline.closedBy (analysisSetup setup)
        (self.analysisTick reading front adaptive)).filter summarizer.asks
    | none => []
  | none => []

/-- `run_analysis_tick`. -/
def runAnalysisTick (self : MonitorState κ δ F) (reading : Reading δ F) (front : Front) :
    MonitorState κ δ F :=
  { self with
    adaptive := self.adaptive.map fun adaptive =>
      { adaptive with
        llmWorkTypeRefiner := adaptive.llmWorkTypeRefiner.map fun refiner =>
          (refine reading front self.lastFocusedElement refiner).1
        pipeline := adaptive.pipeline.runAnalysisTick (analysisSetup setup)
          (self.analysisTick reading front adaptive) }
    asked := self.asked ++ ((self.workTypeQuestion reading front).map .workType).toList ++
      (self.segmentQuestions setup reading front).map .segment }

/-- The elements of a tick, with the question about them. -/
def guiTick (self : MonitorState κ δ F) (reading : Reading δ F) (gui : GuiPipelineState) :
    GuiPipelineState × Option (List UncertainElement) :=
  (gui.runGuiTick reading.snapshot.mouse.clickCount reading.uncertain).feedback
    self.analysisProvider

/-- The GUI pipeline, if there is one. -/
def gui (self : MonitorState κ δ F) : Option GuiPipelineState :=
  self.adaptive.bind (·.guiPipelineState)

/-- The interaction that is stored: any clicks are one row. -/
def interaction (self : MonitorState κ δ F) (reading : Reading δ F) (front : Front) :
    Option NewGuiInteraction :=
  self.gui.bind fun _ =>
    if 0 < reading.snapshot.mouse.clickCount then
      some ⟨reading.interactionId, reading.times.click, "Click", "Click", front.appName⟩
    else none

/-- The elements that are asked about. -/
def elementsQuestion (self : MonitorState κ δ F) (reading : Reading δ F) :
    Option (List UncertainElement) :=
  self.gui.bind fun gui => (self.guiTick reading gui).2

/-- The GUI pipeline of a tick. -/
def runGui (self : MonitorState κ δ F) (reading : Reading δ F) (front : Front) : MonitorState κ δ F :=
  { self with
    adaptive := self.adaptive.map fun adaptive =>
      { adaptive with
        guiPipelineState := adaptive.guiPipelineState.map fun gui => (self.guiTick reading gui).1 }
    interactions := self.interactions ++ (self.interaction reading front).toList
    asked := self.asked ++ ((self.elementsQuestion reading).map .elements).toList }

/-- The regime that coaching is about. -/
def coachingRegime (self : MonitorState κ δ F) : Option String :=
  self.adaptive.bind fun adaptive => adaptive.pipeline.currentRegimeId

/-- The engine, with the minutes of the tick recorded. -/
def recordMinutes (regimeId : Option String) (engine : κ) : κ :=
  if 0 < setup.elapsedMinutes then
    setup.coaching.recordMinutes engine (regimeId.getD "Unknown") setup.elapsedMinutes
  else engine

/-- What the engine is asked. -/
def coachingQuery (self : MonitorState κ δ F) (reading : Reading δ F) (regimeId : Option String)
    (engine : κ) : CoachingQuery :=
  let regimeLabel := regimeId.getD "Unknown"
  let entered := self.coachingTick.enter regimeId reading.times.coaching
  { regimeId
    regimeLabel
    regimeDurationSecs := match entered.regimeEnteredAt with
      | some start => durationSecs reading.times.coaching start
      | none => 0
    avgRegimeDurationSecs := setup.coaching.avgRegimeDurationSecs engine regimeLabel
    driftDetected := self.adaptive.isSome && reading.driftDetected
    appName := self.prevApp.getD "" }

/-- What the engine answers. -/
def evaluate (self : MonitorState κ δ F) (reading : Reading δ F) (regimeId : Option String)
    (engine : κ) : κ × Option CoachingMessage :=
  setup.coaching.evaluate (recordMinutes setup regimeId engine) reading.times.coaching
    (self.coachingQuery setup reading regimeId engine)

/-- The engine that a tick asks: none in focus mode. -/
def activeEngine (self : MonitorState κ δ F) (reading : Reading δ F) : Option κ :=
  if reading.focusMode then none else self.coachingEngine

/-- The message of a tick. -/
def coachingMessage (self : MonitorState κ δ F) (reading : Reading δ F) (regimeId : Option String) :
    Option CoachingMessage :=
  (self.activeEngine reading).bind fun engine => (self.evaluate setup reading regimeId engine).2

/-- The message that the provider is asked to make personal. -/
def personalQuestion (self : MonitorState κ δ F) (reading : Reading δ F) (regimeId : Option String) :
    Option CoachingMessage :=
  if self.analysisProvider then self.coachingMessage setup reading regimeId else none

/-- The engine after a tick: a message waits for feedback. -/
def coached (self : MonitorState κ δ F) (reading : Reading δ F) (regimeId : Option String)
    (engine : κ) : κ :=
  match self.evaluate setup reading regimeId engine with
  | (engine, some message) =>
    setup.coaching.registerPendingFeedback engine message regimeId (self.prevApp.getD "")
  | (engine, none) => engine

/-- `evaluate_and_deliver`, unless the focus mode is on. -/
def evaluateAndDeliver (self : MonitorState κ δ F) (reading : Reading δ F) : MonitorState κ δ F :=
  let regimeId := self.coachingRegime
  { self with
    coachingEngine := if reading.focusMode then self.coachingEngine
      else self.coachingEngine.map (self.coached setup reading regimeId)
    coachingTick := if (self.activeEngine reading).isSome then
        self.coachingTick.enter regimeId reading.times.coaching
      else self.coachingTick
    coachingStorage := self.coachingStorage.map fun rows =>
      rows ++ ((self.coachingMessage setup reading regimeId).map fun message =>
        ⟨message.messageId, regimeId, message.templateText⟩).toList
    asked := self.asked ++ ((self.personalQuestion setup reading regimeId).map fun message =>
      .personalize message.templateText (regimeId.getD "Unknown")).toList }

/-! ## The tick -/

/-- The stages before the gate. -/
def before (self : MonitorState κ δ F) (reading : Reading δ F) (front : Front) : MonitorState κ δ F :=
  (self.extractElement reading).trackLayout setup reading front

/-- The stages after the gate. -/
def after (self : MonitorState κ δ F) (reading : Reading δ F) (front : Front)
    (ocrHint : Option String) : MonitorState κ δ F :=
  let self := (self.bookSwitch setup reading front).handleEventAnalysis reading front ocrHint
  let self := (self.runAnalysisTick setup reading front).runGui reading front
  { self.evaluateAndDeliver setup reading with prevApp := some front.appName }

/-- A tick. -/
def tick (self : MonitorState κ δ F) (reading : Reading δ F) : MonitorState κ δ F :=
  match reading.context with
  | none => self
  | some window =>
    let front := frontOf window
    let self := self.before setup reading front
    let (self, ocrHint) := if reading.permitted setup then self.capture setup reading front
      else (self, none)
    self.after setup reading front ocrHint

end MonitorState

end Oneshim.MonitorLoop
