/-
  Segments (`oneshim-analysis/src/adaptive_trigger.rs`, `segment_buffer.rs`, `segment_summarizer.rs`;
  `scheduler/analysis_pipeline/`).

  A tick of the monitor loop tells the content tracker what is worked on and asks the trigger whether
  a segment opens, closes, or closes and opens again.  What the tracker has then is drained into the
  segment that closes.

  1. **Trigger** (`decide`) — the score is a floating-point number; what it is compared with, and the
     two durations, come from parameters that are resolved at every tick, so the comparisons are the
     environment's.

  2. **Lifecycle** (`handleSegmentLifecycle`, `runAnalysisTick`) — in the order of the source: the
     tracker is updated first, whether or not a segment is open.

  3. **Closed segments** (`segments_in_order`, `segments_hold_their_content`) — they never overlap;
     their content lies inside them as long as nothing is tracked when a segment opens.
-/
import Mathlib.Algebra.Order.Group.Int
import Oneshim.Analysis.ContentTracker
import Oneshim.Lib.Calls

namespace Oneshim.Analysis

open Focus (AppCategory second durationSecs)

/-! ## Trigger and buffer -/

/-- `TriggerInput`, as far as the pipeline makes it. -/
inductive TriggerInput where
  | appSwitchNew (appName prevApp : String) (category : AppCategory)
  | appPoll (appName : String)

/-- `TriggerDecision`. -/
inductive TriggerDecision where
  | continue
  | openSegment
  | restartSegment
  | closeSegment
  | forceCloseSegment

/-- What the score says, and the durations of the resolved parameters. -/
structure Evaluation where
  belowLow : Bool
  aboveHigh : Bool
  minSegmentSecs : Nat
  maxSegmentSecs : Nat

/-- `AdaptiveTrigger`, without its signals. -/
structure AdaptiveTrigger where
  segmentStart : Option Int
  segmentEventCount : Nat
  lastDensityUpdate : Option Int

namespace AdaptiveTrigger

/-- `AdaptiveTrigger::new`. -/
def new : AdaptiveTrigger := ⟨none, 0, none⟩

/-- `decide`. -/
def decide (self : AdaptiveTrigger) (evaluation : Evaluation) (timestamp : Int) :
    TriggerDecision × AdaptiveTrigger :=
  let self := { self with segmentEventCount := self.segmentEventCount + 1 }
  match self.segmentStart with
  | some start =>
    let ageSecs := durationSecs timestamp start
    if evaluation.maxSegmentSecs ≤ ageSecs then (.forceCloseSegment, self)
    else if evaluation.belowLow ∧ evaluation.minSegmentSecs ≤ ageSecs then (.closeSegment, self)
    else if evaluation.aboveHigh ∧ evaluation.minSegmentSecs ≤ ageSecs then (.restartSegment, self)
    else (.continue, self)
  | none => if evaluation.aboveHigh then (.openSegment, self) else (.continue, self)

/-- `process_event`, up to the calibration entry. -/
def processEvent (self : AdaptiveTrigger) (evaluation : Evaluation) (timestamp : Int) :
    TriggerDecision × AdaptiveTrigger :=
  { self with lastDensityUpdate := some timestamp }.decide evaluation timestamp

/-- `start_new_segment`. -/
def startNewSegment (self : AdaptiveTrigger) (timestamp : Int) : AdaptiveTrigger :=
  { self with segmentStart := some timestamp, segmentEventCount := 0 }

/-- `close_segment`. -/
def closeSegment (self : AdaptiveTrigger) : AdaptiveTrigger :=
  { self with segmentStart := none, segmentEventCount := 0 }

end AdaptiveTrigger

/-- `SegmentBuffer`. -/
structure SegmentBuffer where
  events : List (Int × TriggerInput)
  capacity : Nat
  segmentStart : Option Int

namespace SegmentBuffer

/-- `SegmentBuffer::new`. -/
def new (capacity : Nat) : SegmentBuffer := ⟨[], max capacity 1, none⟩

/-- `push`. -/
def push (self : SegmentBuffer) (timestamp : Int) (input : TriggerInput) : SegmentBuffer :=
  let events := if self.capacity ≤ self.events.length then
      self.events.drop (max (self.capacity / 5) 1) else self.events
  { self with events := events ++ [(timestamp, input)] }

/-- `drain_all`. -/
def drainAll (self : SegmentBuffer) : List (Int × TriggerInput) × SegmentBuffer :=
  (self.events, { self with events := [], segmentStart := none })

/-- `start_segment`. -/
def startSegment (self : SegmentBuffer) (timestamp : Int) : SegmentBuffer :=
  { self with segmentStart := some timestamp }

end SegmentBuffer

/-! ## Summaries -/

/-- `TriggerReason`. -/
inductive TriggerReason where
  | scoreHigh
  | scoreLow
  | forcedMaxDuration
deriving DecidableEq

/-- `SegmentSummary`; what it says about events is left out, since it is always given none. -/
structure SegmentSummary (δ : Type) where
  segmentId : String
  startTime : Int
  endTime : Int
  durationSecs : Nat
  regimeId : Option String
  triggerReason : TriggerReason
  contentActivities : List (ContentActivity δ)
deriving DecidableEq

variable {δ : Type}

/-- `summarize`. -/
def summarize (segmentId : String) (startTime endTime : Int)
    (contentActivities : List (ContentActivity δ)) (triggerReason : TriggerReason)
    (regimeId : Option String) : SegmentSummary δ :=
  { segmentId, startTime, endTime, durationSecs := durationSecs endTime startTime, regimeId,
    triggerReason, contentActivities }

/-! ## Lifecycle -/

/-- `AdaptiveTriggerState`, and the segments that have been closed. -/
structure AdaptiveTriggerState (δ : Type) where
  trigger : AdaptiveTrigger
  segmentBuffer : SegmentBuffer
  contentTracker : ContentTracker δ
  currentRegimeId : Option String
  closed : List (SegmentSummary δ)

/-- At the start. -/
def AdaptiveTriggerState.new (capacity : Nat) : AdaptiveTriggerState δ :=
  ⟨.new, .new capacity, .new, none, []⟩

/-- What a tick is given: the time, the app in front, the content that the parsers and classifiers
    have found, the regime, the evaluation, and the id of a segment that may close. -/
structure Tick (δ : Type) where
  now : Int
  appName : String
  prevApp : Option String
  appChanged : Bool
  content : Option (String × δ)
  regimeId : Option String
  evaluation : Evaluation
  segmentId : String

/-- The reason of a decision. -/
def TriggerDecision.reason : TriggerDecision → TriggerReason
  | .closeSegment => .scoreLow
  | .forceCloseSegment => .forcedMaxDuration
  | _ => .scoreHigh

namespace AdaptiveTriggerState

/-- `handle_segment_close`: the summary goes to the embedding pipeline and to the language model. -/
def handleSegmentClose (self : AdaptiveTriggerState δ) (decision : TriggerDecision) (now : Int)
    (segmentId : String) : AdaptiveTriggerState δ :=
  let (_, segmentBuffer) := self.segmentBuffer.drainAll
  let (contentActivities, contentTracker) := self.contentTracker.drainAll now
  let closed := match self.trigger.segmentStart with
    | some start => self.closed ++
        [summarize segmentId start now contentActivities decision.reason self.currentRegimeId]
    | none => self.closed
  { self with segmentBuffer, contentTracker, closed, trigger := self.trigger.closeSegment }

/-- A segment begins. -/
def startSegment (self : AdaptiveTriggerState δ) (now : Int) : AdaptiveTriggerState δ :=
  { self with
    trigger := self.trigger.startNewSegment now
    segmentBuffer := self.segmentBuffer.startSegment now }

/-- An event is kept. -/
def push (self : AdaptiveTriggerState δ) (now : Int) (input : TriggerInput) :
    AdaptiveTriggerState δ :=
  { self with segmentBuffer := self.segmentBuffer.push now input }

/-- `handle_segment_lifecycle`. -/
def handleSegmentLifecycle (self : AdaptiveTriggerState δ) (decision : TriggerDecision)
    (input : TriggerInput) (now : Int) (segmentId : String) : AdaptiveTriggerState δ :=
  match decision with
  | .openSegment => (self.startSegment now).push now input
  | .restartSegment => (self.handleSegmentClose decision now segmentId).startSegment now
  | .closeSegment | .forceCloseSegment => self.handleSegmentClose decision now segmentId
  | .continue => self.push now input

end AdaptiveTriggerState

/-- What the pipeline is given: `str::to_lowercase` and the averages of the tracker. -/
structure Setup (δ : Type) where
  toLowercase : String → String
  blend : Nat → δ → δ → δ

variable (setup : Setup δ)

/-- The event of a tick. -/
def Tick.input (tick : Tick δ) : TriggerInput :=
  if tick.appChanged then
    .appSwitchNew tick.appName (tick.prevApp.getD "") (.fromAppName setup.toLowercase tick.appName)
  else .appPoll tick.appName

/-- The tracker is told what is worked on. -/
def AdaptiveTriggerState.updateContent (self : AdaptiveTriggerState δ) (tick : Tick δ) :
    AdaptiveTriggerState δ :=
  match tick.content with
  | some (label, details) =>
    { self with contentTracker :=
        (self.contentTracker.update setup.blend ⟨label, tick.now, details⟩).2 }
  | none => self

/-- `run_analysis_tick`. -/
def AdaptiveTriggerState.runAnalysisTick (self : AdaptiveTriggerState δ) (tick : Tick δ) :
    AdaptiveTriggerState δ :=
  let self := { self.updateContent setup tick with currentRegimeId := tick.regimeId }
  let (decision, trigger) := self.trigger.processEvent tick.evaluation tick.now
  { self with trigger }.handleSegmentLifecycle decision (tick.input setup) tick.now tick.segmentId

/-! ## Closed segments -/

/-- The content of a segment lies inside it, and is no longer than it. -/
structure SegmentSummary.HoldsContent (segment : SegmentSummary δ) : Prop where
  inside : ∀ activity ∈ segment.contentActivities,
    segment.startTime ≤ activity.startTime ∧ activity.endTime ≤ segment.endTime
  total : (segment.contentActivities.map (·.durationSecs)).sum ≤ segment.durationSecs

/-- Times do not go back. -/
def AdaptiveTriggerState.InOrder (self : AdaptiveTriggerState δ) (now : Int) : Prop :=
  ∀ last ∈ self.trigger.lastDensityUpdate, last ≤ now

/-- What the statement on content asks of a tick: when it opens a segment, the tracker has nothing
    that was started before. -/
def OpensClean (self : AdaptiveTriggerState δ) (tick : Tick δ) : Prop :=
  self.trigger.segmentStart = none → tick.evaluation.aboveHigh = true →
    (∀ activity ∈ self.contentTracker.completed, tick.now ≤ activity.startTime) ∧
      ∀ current ∈ self.contentTracker.current, tick.now ≤ current.startTime

/-- **What a tick can do.** -/
inductive Effect (self : AdaptiveTriggerState δ) (tick : Tick δ) :
    AdaptiveTriggerState δ → Prop where
  | push (self' : AdaptiveTriggerState δ)
    (hstart : self'.trigger.segmentStart = self.trigger.segmentStart)
    (htracker : self'.contentTracker = (self.updateContent setup tick).contentTracker)
    (hclosed : self'.closed = self.closed) : Effect self tick self'
  | opens (self' : AdaptiveTriggerState δ) (hnone : self.trigger.segmentStart = none)
    (hhigh : tick.evaluation.aboveHigh = true) (hstart : self'.trigger.segmentStart = some tick.now)
    (htracker : self'.contentTracker = (self.updateContent setup tick).contentTracker)
    (hclosed : self'.closed = self.closed) : Effect self tick self'
  | closes (self' : AdaptiveTriggerState δ) (start : Int) (reason : TriggerReason)
    (hsome : self.trigger.segmentStart = some start)
    (hstart : self'.trigger.segmentStart = none ∨ self'.trigger.segmentStart = some tick.now)
    (htracker : self'.contentTracker = .new)
    (hclosed : self'.closed = self.closed ++ [summarize tick.segmentId start tick.now
      ((self.updateContent setup tick).contentTracker.drainAll tick.now).1 reason tick.regimeId]) :
    Effect self tick self'

theorem updateContent_frame (self : AdaptiveTriggerState δ) (tick : Tick δ) :
    (self.updateContent setup tick).trigger = self.trigger ∧
      (self.updateContent setup tick).closed = self.closed := by
  unfold AdaptiveTriggerState.updateContent
  split <;> exact ⟨rfl, rfl⟩

theorem decide_frame (self : AdaptiveTrigger) (evaluation : Evaluation) (timestamp : Int) :
    (self.decide evaluation timestamp).2.segmentStart = self.segmentStart ∧
      (self.decide evaluation timestamp).2.lastDensityUpdate = self.lastDensityUpdate := by
  simp only [AdaptiveTrigger.decide]
  repeat' split
  all_goals exact ⟨rfl, rfl⟩

/-- **The decision, and where it is made.** -/
theorem decide_cases (self : AdaptiveTrigger) (evaluation : Evaluation) (timestamp : Int) :
    (self.decide evaluation timestamp).1 = .continue ∨
      (self.segmentStart = none ∧ evaluation.aboveHigh = true ∧
        (self.decide evaluation timestamp).1 = .openSegment) ∨
      ∃ start, self.segmentStart = some start ∧
        ((self.decide evaluation timestamp).1 = .restartSegment ∨
          (self.decide evaluation timestamp).1 = .closeSegment ∨
          (self.decide evaluation timestamp).1 = .forceCloseSegment) := by
  simp only [AdaptiveTrigger.decide]
  split
  · next start hstart =>
    split
    · exact .inr (.inr ⟨start, hstart, .inr (.inr rfl)⟩)
    · split
      · exact .inr (.inr ⟨start, hstart, .inr (.inl rfl)⟩)
      · split
        · exact .inr (.inr ⟨start, hstart, .inl rfl⟩)
        · exact .inl rfl
  · next hnone =>
    split
    · next hhigh => exact .inr (.inl ⟨hnone, hhigh, rfl⟩)
    · exact .inl rfl

/-- **Every tick has one of the effects**, and remembers its time. -/
theorem effect_tick (self : AdaptiveTriggerState δ) (tick : Tick δ) :
    Effect setup self tick (self.runAnalysisTick setup tick) ∧
      (self.runAnalysisTick setup tick).trigger.lastDensityUpdate = some tick.now := by
  obtain ⟨htrigger, hclosed⟩ := updateContent_frame setup self tick
  have hframe := decide_frame { self.trigger with lastDensityUpdate := some tick.now }
    tick.evaluation tick.now
  simp only [AdaptiveTriggerState.runAnalysisTick, AdaptiveTrigger.processEvent, htrigger]
  rcases decide_cases { self.trigger with lastDensityUpdate := some tick.now } tick.evaluation
    tick.now with hdecision | ⟨hnone, hhigh, hdecision⟩ | ⟨start, hsome, hdecision⟩
  · rw [hdecision]
    exact ⟨.push _ hframe.1 rfl hclosed, hframe.2⟩
  · rw [hdecision]
    exact ⟨.opens _ hnone hhigh rfl rfl hclosed, hframe.2⟩
  · have hstart := hframe.1.trans hsome
    rcases hdecision with hdecision | hdecision | hdecision
    · rw [hdecision]
      refine ⟨.closes _ start .scoreHigh hsome (.inr rfl) rfl ?_, hframe.2⟩
      simp only [AdaptiveTriggerState.handleSegmentLifecycle,
        AdaptiveTriggerState.handleSegmentClose, AdaptiveTriggerState.startSegment, hstart, hclosed,
        TriggerDecision.reason]
    · rw [hdecision]
      refine ⟨.closes _ start .scoreLow hsome (.inl rfl) rfl ?_, hframe.2⟩
      simp only [AdaptiveTriggerState.handleSegmentLifecycle,
        AdaptiveTriggerState.handleSegmentClose, hstart, hclosed, TriggerDecision.reason]
    · rw [hdecision]
      refine ⟨.closes _ start .forcedMaxDuration hsome (.inl rfl) rfl ?_, hframe.2⟩
      simp only [AdaptiveTriggerState.handleSegmentLifecycle,
        AdaptiveTriggerState.handleSegmentClose, hstart, hclosed, TriggerDecision.reason]

/-- Closed segments follow one another, and the open one comes last. -/
def AdaptiveTriggerState.Ordered (self : AdaptiveTriggerState δ) (now : Int) : Prop :=
  (∃ first, Lib.InRow SegmentSummary.startTime SegmentSummary.endTime first self.closed
      (self.trigger.segmentStart.getD now)) ∧
    ∀ start ∈ self.trigger.segmentStart, start ≤ now

theorem AdaptiveTriggerState.Ordered.mono {self : AdaptiveTriggerState δ} {now now' : Int}
    (h : self.Ordered now) (hle : now ≤ now') : self.Ordered now' := by
  obtain ⟨⟨first, hrow⟩, hstart⟩ := h
  refine ⟨⟨first, ?_⟩, fun start hmem => (hstart start hmem).trans hle⟩
  cases hs : self.trigger.segmentStart with
  | none =>
    rw [hs] at hrow
    exact hrow.mono hle
  | some start => rwa [hs] at hrow

/-- **A tick keeps the order.** -/
theorem Effect.ordered {self self' : AdaptiveTriggerState δ} {tick : Tick δ}
    (h : Effect setup self tick self') (hself : self.Ordered tick.now) :
    self'.Ordered tick.now := by
  obtain ⟨⟨first, hrow⟩, hle⟩ := hself
  cases h with
  | push hstart _ hclosed => exact ⟨⟨first, by rwa [hclosed, hstart]⟩, by rwa [hstart]⟩
  | opens hnone _ hstart _ hclosed =>
    rw [hnone] at hrow
    refine ⟨⟨first, ?_⟩, ?_⟩
    · rw [hclosed, hstart]
      exact hrow
    · rw [hstart]
      exact fun _ h => by cases h; exact le_rfl
  | closes start reason hsome hstart _ hclosed =>
    rw [hsome] at hrow
    have hspan := hle start hsome
    have hrow' := hrow.snoc (a := summarize tick.segmentId start tick.now
      ((self.updateContent setup tick).contentTracker.drainAll tick.now).1 reason tick.regimeId)
      le_rfl hspan (le_refl tick.now)
    rw [← hclosed] at hrow'
    rcases hstart with hstart | hstart
    · exact ⟨⟨first, by rw [hstart]; exact hrow'⟩, by rw [hstart]; exact fun _ h => by cases h⟩
    · refine ⟨⟨first, by rw [hstart]; exact hrow'⟩, ?_⟩
      rw [hstart]
      exact fun _ h => by cases h; exact le_rfl

/-- What is tracked lies within the open segment, and closed segments hold their content. -/
structure AdaptiveTriggerState.Holding (state : AdaptiveTriggerState δ) (now : Int) : Prop where
  tracks : ∃ first, (∀ start ∈ state.trigger.segmentStart, start = first) ∧
    state.contentTracker.Tracks first now
  holds : ∀ segment ∈ state.closed, segment.HoldsContent

theorem AdaptiveTriggerState.Holding.mono {self : AdaptiveTriggerState δ} {now now' : Int}
    (h : self.Holding now) (hle : now ≤ now') : self.Holding now' := by
  obtain ⟨first, hstart, htracks⟩ := h.tracks
  exact ⟨⟨first, hstart, htracks.mono hle⟩, h.holds⟩

theorem tracks_updateContent {self : AdaptiveTriggerState δ} {tick : Tick δ} {first : Int}
    (h : self.contentTracker.Tracks first tick.now) :
    (self.updateContent setup tick).contentTracker.Tracks first tick.now := by
  unfold AdaptiveTriggerState.updateContent
  split
  · exact ContentTracker.Tracks.update setup.blend h
  · exact h

/-- **A segment holds what lies in it.** -/
theorem holdsContent_summarize {segmentId : String} {startTime endTime : Int}
    {contentActivities : List (ContentActivity δ)} {reason : TriggerReason}
    {regimeId : Option String}
    (h : Lib.InRow ContentActivity.startTime ContentActivity.endTime startTime contentActivities
      endTime) :
    (summarize segmentId startTime endTime contentActivities reason regimeId).HoldsContent := by
  refine ⟨h.inside, ?_⟩
  have hsum := h.sum_le
  rw [ContentTracker.sum_endTime_sub] at hsum
  have hle := h.le
  simp only [summarize, durationSecs, Int.tdiv_eq_ediv_of_nonneg (sub_nonneg.mpr hle)]
  unfold second at hsum ⊢
  omega

/-- **A tick that opens no segment over earlier content keeps it.** -/
theorem Effect.holding {self self' : AdaptiveTriggerState δ} {tick : Tick δ}
    (h : Effect setup self tick self') (hself : self.Holding tick.now)
    (hclean : OpensClean self tick) : self'.Holding tick.now := by
  obtain ⟨⟨first, hfirst, htracks⟩, hholds⟩ := hself
  cases h with
  | push hstart htracker hclosed =>
    refine ⟨⟨first, by rwa [hstart], ?_⟩, by rwa [hclosed]⟩
    rw [htracker]
    exact tracks_updateContent setup htracks
  | opens hnone hhigh hstart htracker hclosed =>
    obtain ⟨hcompleted, hcurrent⟩ := hclean hnone hhigh
    refine ⟨⟨tick.now, ?_, ?_⟩, by rwa [hclosed]⟩
    · rw [hstart]
      exact fun _ h => by cases h; rfl
    · rw [htracker]
      exact tracks_updateContent setup (htracks.raise le_rfl hcompleted hcurrent)
  | closes start reason hsome hstart htracker hclosed =>
    refine ⟨⟨tick.now, ?_, ?_⟩, ?_⟩
    · rcases hstart with hstart | hstart
      · rw [hstart]
        exact fun _ h => by cases h
      · rw [hstart]
        exact fun _ h => by cases h; rfl
    · rw [htracker]
      exact ContentTracker.tracks_new le_rfl
    · intro segment hsegment
      rw [hclosed] at hsegment
      rcases List.mem_append.mp hsegment with hsegment | hsegment
      · exact hholds segment hsegment
      · rw [List.mem_singleton.mp hsegment, hfirst start hsome]
        exact holdsContent_summarize (tracks_updateContent setup htracks).drained

/-! ## Runs -/

/-- A run of ticks. -/
abbrev run (ticks : List (Tick δ)) (capacity : Nat) : List (AdaptiveTriggerState δ) :=
  Lib.states (AdaptiveTriggerState.runAnalysisTick setup) (.new capacity) ticks

/-- **Segments are in order.**  As long as times do not go back, closed segments never overlap. -/
theorem segments_in_order (capacity : Nat) (ticks : List (Tick δ))
    (htimes : Lib.Along (AdaptiveTriggerState.runAnalysisTick setup)
      (fun self tick => self.InOrder tick.now) (.new capacity) ticks) :
    ∀ self ∈ run setup ticks capacity,
      self.closed.Pairwise fun earlier later => earlier.endTime ≤ later.startTime := by
  have hinv : ∀ self ∈ run setup ticks capacity, ∀ now, self.InOrder now → self.Ordered now :=
    Lib.states_invariant (fun self tick hself htime now hnow => by
      obtain ⟨heffect, hlast⟩ := effect_tick setup self tick
      exact (heffect.ordered setup (hself tick.now htime)).mono (hnow tick.now hlast))
    (fun now _ => ⟨⟨now, le_refl now⟩, fun _ h => by cases h⟩) htimes
  intro self hself
  obtain ⟨⟨first, hrow⟩, -⟩ :=
    hinv self hself (self.trigger.lastDensityUpdate.getD 0) fun last hlast => by
      rw [Option.mem_def.mp hlast]
      exact le_rfl
  exact hrow.pairwise

/-- **Segments hold their content.**  When times do not go back and no segment opens while something
    that was started earlier is tracked, closed segments never overlap, and the content of each lies
    inside it and is no longer than it. -/
theorem segments_hold_their_content (capacity : Nat) (ticks : List (Tick δ))
    (h : Lib.Along (AdaptiveTriggerState.runAnalysisTick setup)
      (fun self tick => self.InOrder tick.now ∧ OpensClean self tick) (.new capacity) ticks) :
    ∀ self ∈ run setup ticks capacity,
      (self.closed.Pairwise fun earlier later => earlier.endTime ≤ later.startTime) ∧
        ∀ segment ∈ self.closed, segment.HoldsContent := by
  have htimes : Lib.Along (AdaptiveTriggerState.runAnalysisTick setup)
      (fun self tick => self.InOrder tick.now) (.new capacity) ticks :=
    @Lib.along_imp _ _ _ _ (fun _ => True) _ _ (fun _ _ _ _ => trivial) (fun _ _ _ h => h.1) _
      trivial h
  have hinv : ∀ self ∈ run setup ticks capacity, ∀ now, self.InOrder now → self.Holding now :=
    Lib.states_invariant (fun self tick hself hallowed now hnow => by
      obtain ⟨heffect, hlast⟩ := effect_tick setup self tick
      exact (heffect.holding setup (hself tick.now hallowed.1) hallowed.2).mono
        (hnow tick.now hlast))
    (fun now _ => ⟨⟨now, fun _ h => (by cases h), ContentTracker.tracks_new le_rfl⟩,
      fun _ h => by cases h⟩) h
  intro self hself
  refine ⟨segments_in_order setup capacity ticks htimes self hself, ?_⟩
  exact (hinv self hself (self.trigger.lastDensityUpdate.getD 0) fun last hlast => by
    rw [Option.mem_def.mp hlast]
    exact le_rfl).holds

/-- Nothing is measured. -/
def plain : Setup Unit := ⟨id, fun _ _ details => details⟩

/-- A tick after some seconds; the score is high when the app has changed. -/
def tickAt (secs : Int) (label : String) (belowLow aboveHigh : Bool) : Tick Unit :=
  { now := secs * second, appName := "code", prevApp := none, appChanged := aboveHigh,
    content := some (label, ()), regimeId := none, evaluation := ⟨belowLow, aboveHigh, 0, 1800⟩,
    segmentId := "segment" }

/-- A segment from the first tick on, with two files. -/
def twoFiles : List (Tick Unit) :=
  [tickAt 0 "main.rs" false true, tickAt 20 "lib.rs" false false, tickAt 30 "lib.rs" true false]

/-- Two files in one segment, which holds what was done in each. -/
theorem two_files_held :
    (∃ segment, (twoFiles.foldl (AdaptiveTriggerState.runAnalysisTick plain) (.new 10)).closed =
      [segment]) ∧
    ∀ self ∈ run plain twoFiles 10,
      (self.closed.Pairwise fun earlier later => earlier.endTime ≤ later.startTime) ∧
        ∀ segment ∈ self.closed, segment.HoldsContent := by
  refine ⟨⟨_, rfl⟩, segments_hold_their_content plain 10 twoFiles ⟨⟨?_, ?_⟩, ⟨?_, ?_⟩, ⟨?_, ?_⟩,
    trivial⟩⟩
  · exact fun _ h => by cases h
  · exact fun _ _ => ⟨fun _ h => absurd h List.not_mem_nil, fun _ h => by cases h⟩
  · exact fun _ h => by cases h; decide
  · exact fun h => by cases h
  · exact fun _ h => by cases h; decide
  · exact fun h => by cases h

/-- A segment that opens at a switch, ten seconds after the first file. -/
def lateSegment : List (Tick Unit) :=
  [tickAt 0 "main.rs" false false, tickAt 10 "index.html" false true,
    tickAt 30 "index.html" true false]

/-- **Content from before a segment is counted in it.**  Together the two contents have lasted longer
    than the segment. -/
theorem earlier_content_counted :
    let state := lateSegment.foldl (AdaptiveTriggerState.runAnalysisTick plain) (.new 10)
    state.closed = [summarize "segment" (10 * second) (30 * second)
      [⟨"main.rs", 0, 10, ()⟩, ⟨"index.html", 10 * second, 20, ()⟩] .scoreLow none] ∧
      ¬ ∀ segment ∈ state.closed, segment.HoldsContent := by
  have hclosed : (lateSegment.foldl (AdaptiveTriggerState.runAnalysisTick plain)
      (.new 10)).closed = [summarize "segment" (10 * second) (30 * second)
        [⟨"main.rs", 0, 10, ()⟩, ⟨"index.html", 10 * second, 20, ()⟩] .scoreLow none] := by
    decide +kernel
  refine ⟨hclosed, fun hholds => ?_⟩
  rw [hclosed] at hholds
  have hinside := (hholds _ List.mem_cons_self).inside _ List.mem_cons_self
  exact absurd hinside.1 (by decide)

end Oneshim.Analysis
