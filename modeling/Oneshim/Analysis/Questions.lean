/-
  Questions to the language model (`oneshim-analysis/src/analyzer.rs`, `llm_work_type_refiner.rs`,
  `llm_segment_summarizer.rs`).

  Three components ask the analysis provider in the course of a tick of the monitor loop.

  1. **Switches** (`ContextAnalyzer`) — an app switch is analyzed, unless the last answer is too
     recent.

  2. **Work types** (`LlmWorkTypeRefiner`) — what a window is used for is asked in the background,
     unless a fresh answer is in the cache.

  3. **Segments** (`LlmSegmentSummarizer`) — a segment that closes is summarized, unless it is too
     short.  Which one closes is decided before the tick (`closedBy_eq`).

  What is asked is kept as it is before it becomes JSON.  Confidences are floating-point numbers; it
  is the environment's whether one is high enough.
-/
import Oneshim.Analysis.Analyzer
import Oneshim.Analysis.Segments

namespace Oneshim.Analysis

open Focus (second durationSecs)

/-! ## Switches -/

/-- `as u64`, which truncates. -/
def asU64 (n : Int) : Nat := (n % 18446744073709551616).toNat

/-- `ContextAnalyzer`, as far as an event-driven analysis uses it. -/
structure ContextAnalyzer where
  lastAnalysisAt : Option Int
  throttleSecs : Nat

/-- What an app switch is asked about. -/
structure SwitchQuestion where
  appName : String
  windowTitle : String
  ocrHint : Option String
  events : List Event

namespace ContextAnalyzer

/-- `should_analyze`. -/
def shouldAnalyze (self : ContextAnalyzer) (now : Int) : Bool :=
  match self.lastAnalysisAt with
  | none => true
  | some last => decide (self.throttleSecs ≤ asU64 ((now - last).tdiv second))

/-- `on_significant_event`: the question, if there is one.  The recent events are what the storage
    answers, and an answer of the provider is remembered by its time. -/
def onSignificantEvent (self : ContextAnalyzer) (now answeredAt : Int)
    (appName windowTitle : String) (ocrText : Option String) (events : Option (List Event))
    (answers : Bool) : ContextAnalyzer × Option SwitchQuestion :=
  if !self.shouldAnalyze now then (self, none)
  else match events with
    | none => (self, none)
    | some events =>
      (if answers then { self with lastAnalysisAt := some answeredAt } else self,
        some ⟨appName, windowTitle, ocrText, events⟩)

/-- **When a switch is not asked about.** -/
theorem onSignificantEvent_eq_none_iff {self : ContextAnalyzer} {now answeredAt : Int}
    {appName windowTitle : String} {ocrText : Option String} {events : Option (List Event)}
    {answers : Bool} :
    (self.onSignificantEvent now answeredAt appName windowTitle ocrText events answers).2 = none ↔
      self.shouldAnalyze now = false ∨ events = none := by
  unfold onSignificantEvent
  cases self.shouldAnalyze now with
  | false => exact iff_of_true rfl (.inl rfl)
  | true =>
    cases events with
    | none => exact iff_of_true rfl (.inr rfl)
    | some events => simp

end ContextAnalyzer

/-! ## Work types -/

/-- `WorkType`. -/
inductive WorkType where
  | activeCoding | codeReview | writing | reading | designing | formFilling | browsing
  | passiveMeeting | activeMeeting | navigation
  | terminalCommands | logReading | documentWriting | documentReading | chatComposing
  | unknown
deriving DecidableEq

/-- `CacheKey`. -/
structure CacheKey where
  appName : String
  windowTitle : String
  baseline : WorkType
deriving DecidableEq

/-- `CachedResult`, with whether the confidence reaches the threshold. -/
structure CachedResult where
  refined : WorkType
  confident : Bool
  cachedAt : Int

/-- `CACHE_TTL_SECS`. -/
def cacheTtlSecs : Nat := 300

/-- `is_expired`. -/
def CachedResult.isExpired (self : CachedResult) (now : Int) : Bool :=
  decide (cacheTtlSecs < durationSecs now self.cachedAt)

/-- `LlmWorkTypeRefiner`: the cache, the most recently used result first. -/
structure LlmWorkTypeRefiner where
  cache : List (CacheKey × CachedResult)

/-- What a work type is asked about; the rate of keystrokes is left out. -/
structure WorkTypeQuestion where
  key : CacheKey
  focusedRole : Option String
  ocrSample : Option String

namespace LlmWorkTypeRefiner

/-- What is in the cache. -/
def peek (self : LlmWorkTypeRefiner) (key : CacheKey) : Option CachedResult :=
  (self.cache.find? fun entry => entry.1 = key).map Prod.snd

/-- `LruCache::get`. -/
def get (self : LlmWorkTypeRefiner) (key : CacheKey) : LlmWorkTypeRefiner × Option CachedResult :=
  match self.peek key with
  | some cached => (⟨(key, cached) :: self.cache.filter fun entry => entry.1 ≠ key⟩, some cached)
  | none => (self, none)

/-- `refine`: the work type of the cache, or a question in the background. -/
def refine (self : LlmWorkTypeRefiner) (now : Int) (baseline : WorkType)
    (appName windowTitle : String) (focusedRole ocrSample : Option String) :
    LlmWorkTypeRefiner × Option WorkType × Option WorkTypeQuestion :=
  let key : CacheKey := ⟨appName, windowTitle, baseline⟩
  let question : WorkTypeQuestion :=
    ⟨key, focusedRole, ocrSample.map fun sample => String.ofList (sample.toList.take 200)⟩
  let (self, cached) := self.get key
  match cached with
  | some cached =>
    if !cached.isExpired now then
      (self, if cached.confident ∧ cached.refined ≠ baseline then some cached.refined else none, none)
    else (self, none, some question)
  | none => (self, none, some question)

/-- **When a work type is not asked about**: a result in the cache has not expired. -/
theorem refine_eq_none_iff {self : LlmWorkTypeRefiner} {now : Int} {baseline : WorkType}
    {appName windowTitle : String} {focusedRole ocrSample : Option String} :
    (self.refine now baseline appName windowTitle focusedRole ocrSample).2.2 = none ↔
      ∃ cached ∈ self.peek ⟨appName, windowTitle, baseline⟩, cached.isExpired now = false := by
  simp only [refine, get]
  cases self.peek ⟨appName, windowTitle, baseline⟩ with
  | none => simp
  | some cached => cases hexpired : cached.isExpired now <;> simp [hexpired]

end LlmWorkTypeRefiner

/-! ## Segments -/

/-- `LlmSegmentSummarizer`. -/
structure LlmSegmentSummarizer where
  enabled : Bool
  minSegmentDurationSecs : Nat

/-- `summarize`: whether the provider is asked. -/
def LlmSegmentSummarizer.asks {δ : Type} (self : LlmSegmentSummarizer)
    (summary : SegmentSummary δ) : Bool :=
  !(!self.enabled || decide (summary.durationSecs < self.minSegmentDurationSecs))

/-- The start of the segment that closes, when the trigger decides. -/
def AdaptiveTrigger.closing (self : AdaptiveTrigger) (evaluation : Evaluation) (now : Int) :
    Option Int :=
  match self.segmentStart with
  | some start =>
    let ageSecs := durationSecs now start
    if evaluation.maxSegmentSecs ≤ ageSecs ∨
        (evaluation.belowLow ∨ evaluation.aboveHigh) ∧ evaluation.minSegmentSecs ≤ ageSecs then
      some start
    else none
  | none => none

variable {δ : Type} (setup : Setup δ)

/-- The segments that a tick closes. -/
def AdaptiveTriggerState.closedBy (self : AdaptiveTriggerState δ) (tick : Tick δ) :
    List (SegmentSummary δ) :=
  (self.runAnalysisTick setup tick).closed.drop self.closed.length

/-- **The segment that closes** is the open one, when the trigger decides against it. -/
theorem decide_of_closing {self : AdaptiveTrigger} {evaluation : Evaluation} {now start : Int}
    (h : self.closing evaluation now = some start) :
    self.segmentStart = some start ∧
      ((self.decide evaluation now).1 = .restartSegment ∨
        (self.decide evaluation now).1 = .closeSegment ∨
        (self.decide evaluation now).1 = .forceCloseSegment) := by
  simp only [AdaptiveTrigger.closing] at h
  split at h
  · next first hstart =>
    split at h
    · next hcloses =>
      cases h
      refine ⟨hstart, ?_⟩
      simp only [AdaptiveTrigger.decide, hstart]
      split
      · exact .inr (.inr rfl)
      · next hmax =>
        obtain ⟨hscore, hmin⟩ := hcloses.resolve_left hmax
        split
        · exact .inr (.inl rfl)
        · next hlow =>
          have hhigh := hscore.resolve_left fun hbelow => hlow ⟨hbelow, hmin⟩
          rw [if_pos ⟨hhigh, hmin⟩]
          exact .inl rfl
    · cases h
  · cases h

/-- Where no segment closes, the trigger goes on or opens one. -/
theorem decide_of_closing_none {self : AdaptiveTrigger} {evaluation : Evaluation} {now : Int}
    (h : self.closing evaluation now = none) :
    (self.decide evaluation now).1 = .continue ∨ (self.decide evaluation now).1 = .openSegment := by
  simp only [AdaptiveTrigger.closing] at h
  split at h
  · next start hstart =>
    split at h
    · cases h
    · next hstays =>
      obtain ⟨hmax, hscore⟩ := not_or.mp hstays
      simp only [AdaptiveTrigger.decide, hstart]
      rw [if_neg hmax, if_neg fun hlow => hscore ⟨.inl hlow.1, hlow.2⟩,
        if_neg fun hhigh => hscore ⟨.inr hhigh.1, hhigh.2⟩]
      exact .inl rfl
  · next hstart =>
    simp only [AdaptiveTrigger.decide, hstart]
    split
    · exact .inr rfl
    · exact .inl rfl

/-- **The segments that a tick closes** are known before it. -/
theorem closedBy_eq (self : AdaptiveTriggerState δ) (tick : Tick δ) :
    ∃ contentActivities reason, self.closedBy setup tick =
      (self.trigger.closing tick.evaluation tick.now).toList.map fun start =>
        summarize tick.segmentId start tick.now contentActivities reason tick.regimeId := by
  obtain ⟨htrigger, hclosed⟩ := updateContent_frame setup self tick
  have hsame : { self.trigger with lastDensityUpdate := some tick.now }.closing tick.evaluation
      tick.now = self.trigger.closing tick.evaluation tick.now := rfl
  have hframe := decide_frame { self.trigger with lastDensityUpdate := some tick.now }
    tick.evaluation tick.now
  simp only [AdaptiveTriggerState.closedBy, AdaptiveTriggerState.runAnalysisTick,
    AdaptiveTrigger.processEvent, htrigger, ← hsame]
  cases hcloses : { self.trigger with lastDensityUpdate := some tick.now }.closing tick.evaluation
      tick.now with
  | none =>
    refine ⟨[], .scoreHigh, ?_⟩
    rcases decide_of_closing_none hcloses with hdecision | hdecision
    · rw [hdecision]
      exact List.drop_eq_nil_of_le (by rw [← hclosed]; exact le_rfl)
    · rw [hdecision]
      exact List.drop_eq_nil_of_le (by rw [← hclosed]; exact le_rfl)
  | some start =>
    obtain ⟨hopen, hdecision⟩ := decide_of_closing hcloses
    have hstart := hframe.1.trans hopen
    refine ⟨((self.updateContent setup tick).contentTracker.drainAll tick.now).1,
      (({ self.trigger with lastDensityUpdate := some tick.now }.decide tick.evaluation
        tick.now).1).reason, ?_⟩
    rcases hdecision with hdecision | hdecision | hdecision
    · rw [hdecision]
      simp only [AdaptiveTriggerState.handleSegmentLifecycle,
        AdaptiveTriggerState.handleSegmentClose, AdaptiveTriggerState.startSegment, hstart, hclosed,
        List.drop_left]
      rfl
    · rw [hdecision]
      simp only [AdaptiveTriggerState.handleSegmentLifecycle,
        AdaptiveTriggerState.handleSegmentClose, hstart, hclosed, List.drop_left]
      rfl
    · rw [hdecision]
      simp only [AdaptiveTriggerState.handleSegmentLifecycle,
        AdaptiveTriggerState.handleSegmentClose, hstart, hclosed, List.drop_left]
      rfl

/-- The regime of a tick is the pipeline's after it. -/
theorem currentRegimeId_runAnalysisTick (self : AdaptiveTriggerState δ) (tick : Tick δ) :
    (self.runAnalysisTick setup tick).currentRegimeId = tick.regimeId := by
  simp only [AdaptiveTriggerState.runAnalysisTick, AdaptiveTriggerState.handleSegmentLifecycle]
  split
  · rfl
  · rfl
  · rfl
  · rfl
  · rfl

/-- **When no segment is summarized**: the one that closes is too short, if there is any. -/
theorem closedBy_filter_eq_nil_iff {summarizer : LlmSegmentSummarizer}
    {self : AdaptiveTriggerState δ} {tick : Tick δ} :
    (self.closedBy setup tick).filter summarizer.asks = [] ↔
      ∀ start ∈ self.trigger.closing tick.evaluation tick.now, summarizer.enabled = true →
        durationSecs tick.now start < summarizer.minSegmentDurationSecs := by
  obtain ⟨contentActivities, reason, hclosed⟩ := closedBy_eq setup self tick
  rw [hclosed]
  cases self.trigger.closing tick.evaluation tick.now with
  | none => simp
  | some start =>
    cases henabled : summarizer.enabled <;>
      simp [LlmSegmentSummarizer.asks, summarize, henabled]

end Oneshim.Analysis
