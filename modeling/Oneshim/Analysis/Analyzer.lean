/-
  What the analyzer reads (`oneshim-analysis/src/analyzer.rs`).

  An analysis asks the storage for the events of a span of time and derives from them the current
  activity, the metrics of the session, and the patterns.  All of it takes the last event for the
  latest; the storage gives the latest first.

  1. **Code** (`buildCurrentActivity`, `buildSessionMetrics`) — the difference of two times becomes an
     unsigned number by truncation.

  2. **Order** (`reads_in_time_order_iff`) — when the answers are right all the same.

  The focus scores are floating-point numbers and are left out; the ratio of communication is given
  by its two counts.
-/
import Oneshim.Analysis.PatternMiner
import Oneshim.Storage.Events

namespace Oneshim.Analysis

open Focus (AppCategory second)

/-! ## Code -/

/-- The context event, if it is one. -/
def contextOf : Event → Option ContextEvent
  | .context event => some event
  | _ => none

/-- The context events, in the order in which they are read. -/
def contexts (events : List Event) : List ContextEvent := events.filterMap contextOf

/-- `CurrentActivity`, as it is built from events. -/
structure CurrentActivity where
  appName : String
  windowTitle : String
  deepWorkMins : Nat
deriving DecidableEq

/-- What is reported of a context event. -/
def CurrentActivity.ofContext (event : ContextEvent) : CurrentActivity :=
  ⟨event.appName, event.windowTitle, 0⟩

/-- `build_current_activity`. -/
def buildCurrentActivity (events : List Event) : CurrentActivity :=
  match events.reverse.findSome? contextOf with
  | some event => .ofContext event
  | none => ⟨"Unknown", "Unknown", 0⟩

/-- `num_minutes` of a difference. -/
def numMinutes (later earlier : Int) : Int := (later - earlier).tdiv (60 * second)

/-- `as u32`, which truncates. -/
def asU32 (n : Int) : Nat := (n % 4294967296).toNat

/-- `SessionMetrics`. -/
structure SessionMetrics where
  totalWorkMins : Nat
  contextSwitches : Nat
  communicationCount : Nat
  contextCount : Nat

/-- `total_work_mins`. -/
def totalWorkMins (events : List ContextEvent) : Nat :=
  if 2 ≤ events.length then
    match events.head?, events.getLast? with
    | some first, some last => max (asU32 (numMinutes last.timestamp first.timestamp)) 1
    | _, _ => 0
  else 0

/-- `build_session_metrics`. -/
def buildSessionMetrics (toLowercase : String → String) (events : List Event) : SessionMetrics :=
  let read := contexts events
  { totalWorkMins := totalWorkMins read
    contextSwitches := ((read.zip read.tail).filter fun (a, b) => a.appName ≠ b.appName).length
    communicationCount := (read.filter fun event =>
      AppCategory.fromAppName toLowercase (toLowercase event.appName) == .communication).length
    contextCount := read.length }

/-- `extract_app_sequence`. -/
def extractAppSequence (events : List Event) : List Switch :=
  (contexts events).map fun event => ⟨event.timestamp, event.appName⟩

/-! ## Order -/

/-- An event of a list that no other one is later than. -/
def IsLatest (events : List ContextEvent) (event : ContextEvent) : Prop :=
  event ∈ events ∧ ∀ other ∈ events, other.timestamp ≤ event.timestamp

/-- An event of a list that no other one is earlier than. -/
def IsEarliest (events : List ContextEvent) (event : ContextEvent) : Prop :=
  event ∈ events ∧ ∀ other ∈ events, event.timestamp ≤ other.timestamp

/-- **What reading in time order means**: the current activity is that of a latest context event, the
    work time is the span from an earliest to a latest one in minutes, at least one, and every
    sequence and block that is reported was seen in chronological order. -/
structure InTimeOrder (toLowercase : String → String) (events : List Event) : Prop where
  current : contexts events ≠ [] →
    ∃ latest, IsLatest (contexts events) latest ∧ buildCurrentActivity events = .ofContext latest
  workMins : 2 ≤ (contexts events).length →
    ∀ earliest latest, IsEarliest (contexts events) earliest → IsLatest (contexts events) latest →
      ((buildSessionMetrics toLowercase events).totalWorkMins : Int) =
        max (numMinutes latest.timestamp earliest.timestamp) 1
  sequences : ∀ order, ∀ pattern ∈ detectSequentialPatterns order (extractAppSequence events),
    ∀ window ∈ occurrences (extractAppSequence events) pattern.involvedApps, Chronological window
  blocks : ∀ block ∈ deepWorkBlocks toLowercase (extractAppSequence events), Chronological block

/-- **When it comes out right.**  The earliest context event names the app and title of a latest one;
    less than a minute lies between them, or 2^31 minutes, where the truncated difference is right by
    chance; and no sequence that occurs often enough goes through different times. -/
structure OrderHidden (events : List Event) : Prop where
  sameActivity : ∀ earliest ∈ (contexts events).getLast?, ∃ latest,
    IsLatest (contexts events) latest ∧ latest.appName = earliest.appName ∧
      latest.windowTitle = earliest.windowTitle
  shortSpan : ∀ latest ∈ (contexts events).head?, ∀ earliest ∈ (contexts events).getLast?,
    2 ≤ (contexts events).length → numMinutes latest.timestamp earliest.timestamp = 0 ∨
      numMinutes latest.timestamp earliest.timestamp = 2147483648
  sameTimes : ∀ size ∈ [2, 3, 4],
    ∀ window ∈ windows size (deduped none (extractAppSequence events)),
      minSupport ≤ support size (extractAppSequence events) (apps window) →
        ∀ a ∈ window, ∀ b ∈ window, a.time = b.time

theorem findSome_reverse (events : List Event) :
    events.reverse.findSome? contextOf = (contexts events).getLast? := by
  rw [contexts, ← List.head?_reverse, ← List.filterMap_reverse, List.head?_filterMap]

theorem context_timestamp {event : Event} {context : ContextEvent}
    (h : contextOf event = some context) : context.timestamp = event.extractTimestamp := by
  cases event with
  | context event =>
    cases h
    rfl
  | _ => cases h

/-- The context events come newest first as well. -/
theorem contexts_sorted {events : List Event}
    (h : events.Pairwise fun a b => b.extractTimestamp ≤ a.extractTimestamp) :
    (contexts events).Pairwise fun a b => b.timestamp ≤ a.timestamp := by
  rw [contexts, List.pairwise_filterMap]
  refine h.imp fun hle a ha b hb => ?_
  rw [context_timestamp ha, context_timestamp hb]
  exact hle

theorem newestFirst_extractAppSequence {events : List Event}
    (h : events.Pairwise fun a b => b.extractTimestamp ≤ a.extractTimestamp) :
    NewestFirst (extractAppSequence events) := by
  rw [NewestFirst, extractAppSequence, List.pairwise_map]
  exact contexts_sorted h

/-- The last one of the newest first is an earliest one. -/
theorem isEarliest_getLast {events : List ContextEvent}
    (h : events.Pairwise fun a b => b.timestamp ≤ a.timestamp) {earliest : ContextEvent}
    (hlast : earliest ∈ events.getLast?) : IsEarliest events earliest := by
  obtain ⟨front, rfl⟩ := List.getLast?_eq_some_iff.mp hlast
  refine ⟨List.mem_append_right _ List.mem_cons_self, fun other hother => ?_⟩
  rcases List.mem_append.mp hother with hother | hother
  · exact (List.pairwise_append.mp h).2.2 other hother earliest List.mem_cons_self
  · rw [List.mem_singleton.mp hother]

/-- The first one of the newest first is a latest one. -/
theorem isLatest_head {events : List ContextEvent}
    (h : events.Pairwise fun a b => b.timestamp ≤ a.timestamp) {latest : ContextEvent}
    (hfirst : latest ∈ events.head?) : IsLatest events latest := by
  obtain ⟨rest, rfl⟩ := List.head?_eq_some_iff.mp hfirst
  refine ⟨List.mem_cons_self, fun other hother => ?_⟩
  rcases List.mem_cons.mp hother with rfl | hother
  · exact le_refl _
  · exact (List.pairwise_cons.mp h).1 other hother

/-- A latest event is as late as any other latest one, an earliest one as early. -/
theorem IsLatest.timestamp_eq {events : List ContextEvent} {a b : ContextEvent}
    (ha : IsLatest events a) (hb : IsLatest events b) : a.timestamp = b.timestamp :=
  le_antisymm (hb.2 a ha.1) (ha.2 b hb.1)

theorem IsEarliest.timestamp_eq {events : List ContextEvent} {a b : ContextEvent}
    (ha : IsEarliest events a) (hb : IsEarliest events b) : a.timestamp = b.timestamp :=
  le_antisymm (ha.2 b hb.1) (hb.2 a ha.1)

/-- **The truncated difference**, of two times in the wrong order, against the span in minutes. -/
theorem workMins_iff {latest earliest : Int} (h : earliest ≤ latest) :
    ((max (asU32 (numMinutes earliest latest)) 1 : Nat) : Int) =
        max (numMinutes latest earliest) 1 ↔
      numMinutes latest earliest = 0 ∨ numMinutes latest earliest = 2147483648 := by
  have hneg : numMinutes earliest latest = -numMinutes latest earliest := by
    rw [numMinutes, numMinutes, ← neg_sub latest earliest, Int.neg_tdiv]
  have hnonneg : 0 ≤ numMinutes latest earliest :=
    Int.tdiv_nonneg (Int.sub_nonneg_of_le h) (by decide)
  rw [hneg, asU32]
  generalize numMinutes latest earliest = minutes at hnonneg
  omega

/-- The activity read off the oldest context is the latest one when the two name one window. -/
theorem current_iff {events : List Event} :
    (contexts events ≠ [] → ∃ latest, IsLatest (contexts events) latest ∧
        buildCurrentActivity events = .ofContext latest) ↔
      ∀ earliest ∈ (contexts events).getLast?, ∃ latest, IsLatest (contexts events) latest ∧
        latest.appName = earliest.appName ∧ latest.windowTitle = earliest.windowTitle := by
  unfold buildCurrentActivity
  rw [findSome_reverse]
  cases hlast : (contexts events).getLast? with
  | none =>
    have hnil := List.getLast?_eq_none_iff.mp hlast
    exact iff_of_true (fun h => absurd hnil h) fun _ h => by cases h
  | some earliest =>
    have hne : contexts events ≠ [] := fun hnil => by rw [hnil] at hlast; cases hlast
    constructor
    · rintro h _ ⟨⟩
      obtain ⟨latest, hlatest, hsame⟩ := h hne
      simp only [CurrentActivity.ofContext, CurrentActivity.mk.injEq, and_true] at hsame
      exact ⟨latest, hlatest, hsame.1.symm, hsame.2.symm⟩
    · intro h _
      obtain ⟨latest, hlatest, happ, htitle⟩ := h earliest rfl
      exact ⟨latest, hlatest, by simp only [CurrentActivity.ofContext, happ, htitle]⟩

/-- The minutes hide the order only where there are none, or 2³¹. -/
theorem totalWorkMins_iff {events : List ContextEvent}
    (hsorted : events.Pairwise fun a b => b.timestamp ≤ a.timestamp) :
    (2 ≤ events.length →
      ∀ earliest latest, IsEarliest events earliest → IsLatest events latest →
        (totalWorkMins events : Int) = max (numMinutes latest.timestamp earliest.timestamp) 1) ↔
      ∀ latest ∈ events.head?, ∀ earliest ∈ events.getLast?,
        2 ≤ events.length → numMinutes latest.timestamp earliest.timestamp = 0 ∨
          numMinutes latest.timestamp earliest.timestamp = 2147483648 := by
  unfold totalWorkMins
  constructor
  · intro h latest hlatest earliest hearliest htwo
    have hl := isLatest_head hsorted hlatest
    have he := isEarliest_getLast hsorted hearliest
    have hmins := h htwo earliest latest he hl
    rw [if_pos htwo, Option.mem_def.mp hlatest, Option.mem_def.mp hearliest] at hmins
    exact (workMins_iff (he.2 latest hl.1)).mp hmins
  · intro h htwo earliest latest he hl
    have hne : events ≠ [] := List.ne_nil_of_length_pos (by omega)
    obtain ⟨first, hfirst⟩ := Option.isSome_iff_exists.mp (List.isSome_head?.mpr hne)
    obtain ⟨last, hlast⟩ := Option.isSome_iff_exists.mp (List.getLast?_isSome.mpr hne)
    have hl' := isLatest_head hsorted hfirst
    have he' := isEarliest_getLast hsorted hlast
    rw [if_pos htwo, hfirst, hlast, hl.timestamp_eq hl', he.timestamp_eq he']
    exact (workMins_iff (he'.2 first hl'.1)).mpr (h first hfirst last hlast htwo)

/-- The sequences hide the order only where their switches have one time. -/
theorem sequences_iff {switches : List Switch} (hnewest : NewestFirst switches) :
    (∀ order, ∀ pattern ∈ detectSequentialPatterns order switches,
      ∀ window ∈ occurrences switches pattern.involvedApps, Chronological window) ↔
      ∀ size ∈ [2, 3, 4], ∀ window ∈ windows size (deduped none switches),
        minSupport ≤ support size switches (apps window) →
          ∀ a ∈ window, ∀ b ∈ window, a.time = b.time := by
  constructor
  · intro h size hsize window hwindow hsupport
    obtain ⟨pattern, hpattern, happs⟩ :
        ∃ pattern ∈ detectSequentialPatterns (fun _ => .asIs) switches,
          pattern.involvedApps = apps window :=
      exists_mem_detectSequentialPatterns hsize hwindow hsupport
    refine ((hnewest.window hwindow).chronological_iff).mp (h _ pattern hpattern window ?_)
    have hlength : (apps window).length = size := by
      rw [apps, List.length_map, (sublist_of_mem_windows hwindow).2]
    simpa [occurrences, happs, hlength] using hwindow
  · intro h order pattern hpattern window hoccurs
    obtain ⟨hwindow, happs⟩ := List.mem_filter.mp hoccurs
    obtain ⟨size, hsize, other, hother, hsame, hsupport⟩ := mem_detectSequentialPatterns hpattern
    have hlength : pattern.involvedApps.length = size := by
      rw [← hsame, apps, List.length_map, (sublist_of_mem_windows hother).2]
    rw [hlength] at hwindow
    refine ((hnewest.window hwindow).chronological_iff).mpr (h size hsize window hwindow ?_)
    rwa [of_decide_eq_true happs]

/-- **When the analyzer reads its events in time order**, whatever the table holds and the span of
    time is: just when the wrong order does not show. -/
theorem reads_in_time_order_iff (toLowercase : String → String) (content : EventContent)
    (start finish : Int) (limit : Nat) (events : List Event)
    (hread : content.Gets start finish limit events) :
    InTimeOrder toLowercase events ↔ OrderHidden events := by
  have hmins := totalWorkMins_iff (contexts_sorted hread.sorted)
  have hnewest := newestFirst_extractAppSequence hread.sorted
  have hsequences := sequences_iff hnewest
  have hblocks : ∀ block ∈ deepWorkBlocks toLowercase (extractAppSequence events),
      Chronological block := by
    rw [deepWorkBlocks_newestFirst toLowercase hnewest]
    exact fun _ h => absurd h List.not_mem_nil
  constructor
  · exact fun h => ⟨current_iff.mp h.current, hmins.mp h.workMins, hsequences.mp h.sequences⟩
  · exact fun h =>
      ⟨current_iff.mpr h.sameActivity, hmins.mpr h.shortSpan, hsequences.mpr h.sameTimes, hblocks⟩

/-- A context event after some seconds. -/
def contextAt (secs : Int) (appName : String) : Event :=
  .context ⟨appName, appName, none, secs * second, ⟨0⟩⟩

theorem printable_secs {secs : Int} (h : 0 ≤ secs) (hle : secs ≤ 86400) :
    Lib.Rfc3339.Printable (secs * second) := by
  simp only [Lib.Rfc3339.Printable, Lib.Rfc3339.InRange, Lib.Rfc3339.dayNanos, second]
  omega

/-- A table with two context events. -/
def twoContexts (later : Int) (h : 0 ≤ later) (hle : later ≤ 86400) (app app' : String) :
    EventContent :=
  .ofEvents [contextAt 0 app, contextAt later app'] (by
    intro event hevent
    rcases List.mem_cons.mp hevent with rfl | hevent
    · exact printable_secs le_rfl (by decide)
    · rw [List.mem_singleton.mp hevent]
      exact printable_secs h hle)

/-- A query of the day gives the later of the two contexts first. -/
theorem twoContexts_gets {later : Int} (h : 0 ≤ later) (hle : later ≤ 86400) (app app' : String) :
    (twoContexts later h hle app app').Gets 0 (86400 * second) 500
      [contextAt later app', contextAt 0 app] := by
  have hbetween (secs : Int) (h : 0 ≤ secs) (hle : secs ≤ 86400) (name : String) :
      (decide (0 ≤ (contextAt secs name).extractTimestamp) &&
        decide ((contextAt secs name).extractTimestamp ≤ 86400 * second)) = true := by
    refine Bool.and_eq_true_iff.mpr ⟨decide_eq_true ?_, decide_eq_true ?_⟩
    · exact Int.mul_nonneg h (by decide)
    · exact Int.mul_le_mul_of_nonneg_right hle (by decide)
  have hstart : Lib.Rfc3339.Printable 0 := by
    simpa using printable_secs le_rfl (by decide : (0 : Int) ≤ 86400)
  refine EventContent.gets_ofEvents [contextAt later app', contextAt 0 app] _ hstart
    (printable_secs (by decide) le_rfl) ?_ ?_ 500
  · simp only [List.filter_cons, hbetween 0 le_rfl (by decide) app, hbetween later h hle app',
      if_true, List.filter_nil]
    exact .swap _ _ []
  · refine .cons (fun other hother => ?_) (.cons (fun _ h => absurd h List.not_mem_nil) .nil)
    rw [List.mem_singleton.mp hother]
    simp only [contextAt, Event.extractTimestamp, second]
    omega

/-- Half a minute in one app: the order does not show. -/
theorem half_a_minute_in_order :
    InTimeOrder id [contextAt 30 "code", contextAt 0 "code"] := by
  refine (reads_in_time_order_iff id (twoContexts 30 (by decide) (by decide) "code" "code") 0
    (86400 * second) 500 _ (twoContexts_gets _ _ _ _)).mpr ⟨?_, ?_, ?_⟩
  · rintro _ ⟨⟩
    refine ⟨⟨"code", "code", none, 30 * second, ⟨0⟩⟩, isLatest_head ?_ rfl, rfl, rfl⟩
    exact contexts_sorted (twoContexts_gets (by decide) (by decide) "code" "code").sorted
  · rintro _ ⟨⟩ _ ⟨⟩ _
    exact .inl (by decide)
  · decide

/-- **Ten minutes, read backwards.**  The user has switched from the editor to the chat: the editor
    is reported as the current activity, and the ten minutes as 2^32 less ten. -/
theorem ten_minutes_backwards :
    (twoContexts 600 (by decide) (by decide) "code" "slack").Gets 0 (86400 * second) 500
        [contextAt 600 "slack", contextAt 0 "code"] ∧
      buildCurrentActivity [contextAt 600 "slack", contextAt 0 "code"] = ⟨"code", "code", 0⟩ ∧
      (buildSessionMetrics id [contextAt 600 "slack", contextAt 0 "code"]).totalWorkMins =
        4294967286 ∧
      ¬ InTimeOrder id [contextAt 600 "slack", contextAt 0 "code"] := by
  refine ⟨twoContexts_gets _ _ _ _, by decide, by decide, fun h => ?_⟩
  obtain ⟨latest, ⟨hmem, hlatest⟩, hcurrent⟩ := h.current (by decide)
  have hcode : buildCurrentActivity [contextAt 600 "slack", contextAt 0 "code"] =
    ⟨"code", "code", 0⟩ := by decide
  rw [hcode] at hcurrent
  have happ : latest.appName = "code" := (congrArg CurrentActivity.appName hcurrent).symm
  have hlate := hlatest ⟨"slack", "slack", none, 600 * second, ⟨0⟩⟩ List.mem_cons_self
  rcases List.mem_cons.mp hmem with rfl | hmem
  · exact absurd happ (by decide)
  · rw [List.mem_singleton.mp hmem] at hlate
    exact absurd hlate (by decide)

end Oneshim.Analysis
