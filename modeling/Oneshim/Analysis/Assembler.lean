/-
  The context for the language model (`oneshim-analysis/src/assembler.rs`).

  Activity data becomes one JSON object.  The assembler is given a filter for personal information
  and applies it to the window title, the OCR hint and the accessibility text.

  1. **Code** (`buildWithHistory`) — section by section, as the source's payload is serialized.

  2. **What goes through the filter** (`depends_through_filter_iff`) — everything that has the free
     texts of the user is a structure over the type of texts, so that "equal after filtering" is one
     equation.  App names, pattern descriptions, content labels and history summaries go around the
     filter.

  Floating-point numbers are bit patterns, and how one is printed is a parameter.
-/
import Mathlib.Data.Option.Basic
import Mathlib.Logic.Function.Basic
import Oneshim.Core.Event
import Oneshim.Lib.Rfc3339
import Oneshim.Lib.Text

namespace Oneshim.Assembler

/-! ## Input -/

/-- `CurrentActivity`. -/
structure CurrentActivity (τ : Type) where
  appName : τ
  windowTitle : τ
  ocrHint : Option τ
  focusScore : F32
  deepWorkMins : Nat
  accessibilityText : Option τ

/-- A context event, the only kind of event that is looked at. -/
structure ContextText (τ : Type) where
  timestamp : Int
  appName : τ
  windowTitle : τ

/-- `ActivityPattern`, with the text of its type. -/
structure ActivityPattern (τ : Type) where
  patternType : String
  description : τ
  confidence : F32

/-- `SessionMetrics`. -/
structure SessionMetrics where
  totalWorkMins : Nat
  contextSwitches : Nat
  communicationRatio : F32

/-- `ContentSummaryEntry`, with the texts of its types. -/
structure ContentSummaryEntry (τ : Type) where
  content : τ
  contentType : String
  workType : String
  mins : Nat
  guiSummaryLine : Option String

/-- `SegmentStats`. -/
structure SegmentStats (τ : Type) where
  durationMins : Nat
  regimeLabel : Option String
  eventCount : Nat
  contextSwitches : Nat
  dominantCategory : String
  contentSummary : List (ContentSummaryEntry τ)
  guiPatterns : List String

/-- `RelevantHistoryEntry`. -/
structure RelevantHistoryEntry (τ : Type) where
  when : String
  summary : τ
  similarity : F32

/-- All that `build_with_history` is given. -/
structure Input (τ : Type) where
  current : CurrentActivity τ
  contexts : List (ContextText τ)
  patterns : List (ActivityPattern τ)
  metrics : SessionMetrics
  segmentStats : Option (SegmentStats τ)
  relevantHistory : List (RelevantHistoryEntry τ)

section

variable {τ υ : Type} (f : τ → υ)

/-- The same with every free text replaced. -/
def CurrentActivity.map (self : CurrentActivity τ) : CurrentActivity υ :=
  ⟨f self.appName, f self.windowTitle, self.ocrHint.map f, self.focusScore, self.deepWorkMins,
    self.accessibilityText.map f⟩

@[inherit_doc CurrentActivity.map]
def ContextText.map (self : ContextText τ) : ContextText υ :=
  ⟨self.timestamp, f self.appName, f self.windowTitle⟩

@[inherit_doc CurrentActivity.map]
def ActivityPattern.map (self : ActivityPattern τ) : ActivityPattern υ :=
  ⟨self.patternType, f self.description, self.confidence⟩

@[inherit_doc CurrentActivity.map]
def ContentSummaryEntry.map (self : ContentSummaryEntry τ) : ContentSummaryEntry υ :=
  ⟨f self.content, self.contentType, self.workType, self.mins, self.guiSummaryLine⟩

@[inherit_doc CurrentActivity.map]
def SegmentStats.map (self : SegmentStats τ) : SegmentStats υ :=
  ⟨self.durationMins, self.regimeLabel, self.eventCount, self.contextSwitches,
    self.dominantCategory, self.contentSummary.map (·.map f), self.guiPatterns⟩

@[inherit_doc CurrentActivity.map]
def RelevantHistoryEntry.map (self : RelevantHistoryEntry τ) : RelevantHistoryEntry υ :=
  ⟨self.when, f self.summary, self.similarity⟩

@[inherit_doc CurrentActivity.map]
def Input.map (self : Input τ) : Input υ :=
  ⟨self.current.map f, self.contexts.map (·.map f), self.patterns.map (·.map f), self.metrics,
    self.segmentStats.map (·.map f), self.relevantHistory.map (·.map f)⟩

end

/-! ## Code -/

/-- What the assembler is given: the filter, `str::to_lowercase`, and how serde prints an `f32`. -/
structure Setup where
  piiFilter : String → String
  toLowercase : String → String
  number : F32 → Json

/-- `GuiActionCounts`. -/
structure GuiActionCounts where
  saves : Nat
  testRuns : Nat
  searches : Nat
  builds : Nat
  undoRedos : Nat
  copyPastes : Nat

/-- `extract_leading_number`. -/
def extractLeadingNumber (s : List Char) : Option Nat :=
  (Lib.Text.firstWord s).bind (Lib.Text.parseUnsigned 4294967296)

/-- `+=` of an `u32`. -/
def addU32 (a b : Nat) : Nat := (a + b) % 4294967296

/-- One part of a line in `parse_gui_action_counts`. -/
def GuiActionCounts.addPart (counts : GuiActionCounts) (part : List Char) : GuiActionCounts :=
  let part := Lib.Text.trim part
  let has (word : String) : Bool := Lib.Text.contains part word.toList
  match extractLeadingNumber part with
  | none => counts
  | some n =>
    if has "save" then { counts with saves := addU32 counts.saves n }
    else if has "test" then { counts with testRuns := addU32 counts.testRuns n }
    else if has "search" || has "find" then { counts with searches := addU32 counts.searches n }
    else if has "build" then { counts with builds := addU32 counts.builds n }
    else if has "undo" || has "redo" then { counts with undoRedos := addU32 counts.undoRedos n }
    else if has "copy" || has "paste" then { counts with copyPastes := addU32 counts.copyPastes n }
    else counts

/-- `parse_gui_action_counts`. -/
def parseGuiActionCounts (toLowercase : String → String) (counts : GuiActionCounts)
    (line : String) : GuiActionCounts :=
  (Lib.Text.split ',' (toLowercase line).toList).foldl GuiActionCounts.addPart counts

/-- A number of an unsigned type. -/
def nat (n : Nat) : Json := .int n

/-- A field that is skipped when there is nothing. -/
def optional (key : String) (value : Option Json) : List (String × Json) :=
  (value.map (key, ·)).toList

/-- `RecentEvent`. -/
structure RecentEvent where
  time : String
  app : String
  durationSecs : Nat

/-- `format("%H:%M")`. -/
def hourMinute (timestamp : Int) : String :=
  String.ofList ((Lib.Rfc3339.timeText
    ((timestamp % Lib.Rfc3339.dayNanos).toNat / 1000000000)).take 5)

/-- `extract_recent_events`, of the times and apps of the context events. -/
def extractRecentEvents : List (Int × String) → List RecentEvent
  | [] => []
  | [(timestamp, app)] => [⟨hourMinute timestamp, app, 0⟩]
  | (timestamp, app) :: (next, app') :: rest =>
    ⟨hourMinute timestamp, app, ((next - timestamp).tdiv 1000000000).natAbs⟩ ::
      extractRecentEvents ((next, app') :: rest)

section

variable (setup : Setup)

/-- `CurrentSnapshot`: the title, the hint and the text are filtered. -/
def currentJson (current : CurrentActivity String) : Json :=
  .obj ([("app", .str current.appName), ("window", .str (setup.piiFilter current.windowTitle))] ++
    optional "ocr_hint" (current.ocrHint.map fun text => .str (setup.piiFilter text)) ++
    [("focus_score", setup.number current.focusScore), ("deep_work_mins", nat current.deepWorkMins)] ++
    optional "accessibility_text"
      (current.accessibilityText.map fun text => .str (setup.piiFilter text)))

def recentJson (recent : RecentEvent) : Json :=
  .obj [("time", .str recent.time), ("app", .str recent.app),
    ("duration_secs", nat recent.durationSecs)]

/-- `PatternEntry`. -/
def patternJson (pattern : ActivityPattern String) : Json :=
  .obj [("type", .str pattern.patternType), ("desc", .str pattern.description),
    ("confidence", setup.number pattern.confidence)]

/-- `SessionSnapshot`. -/
def sessionJson (metrics : SessionMetrics) : Json :=
  .obj [("total_work_mins", nat metrics.totalWorkMins),
    ("context_switches", nat metrics.contextSwitches),
    ("communication_ratio", setup.number metrics.communicationRatio)]

/-- The content of an entry, with its GUI line. -/
def ContentSummaryEntry.enriched (entry : ContentSummaryEntry String) : String :=
  match entry.guiSummaryLine with
  | some line => entry.content ++ (" (" ++ line ++ ")")
  | none => entry.content

/-- `ContentSummaryItem`. -/
def contentJson (entry : ContentSummaryEntry String) : Json :=
  .obj [("content", .str entry.enriched), ("content_type", .str entry.contentType),
    ("work_type", .str entry.workType), ("mins", nat entry.mins)]

/-- `SegmentSnapshot`. -/
def segmentJson (stats : SegmentStats String) : Json :=
  .obj ([("duration_mins", nat stats.durationMins)] ++
    optional "regime_label" (stats.regimeLabel.map .str) ++
    [("event_count", nat stats.eventCount), ("context_switches", nat stats.contextSwitches),
      ("dominant_category", .str stats.dominantCategory),
      ("content_summary", .arr (stats.contentSummary.map contentJson))])

/-- `HistoryEntry`. -/
def historyJson (entry : RelevantHistoryEntry String) : Json :=
  .obj [("when", .str entry.when), ("summary", .str entry.summary),
    ("similarity", setup.number entry.similarity)]

/-- `GuiSection`, where there is one. -/
def guiJson (stats : SegmentStats String) : Option Json :=
  let lines := stats.contentSummary.filterMap (·.guiSummaryLine)
  if stats.guiPatterns.isEmpty && lines.isEmpty then none
  else
    let actions := lines.foldl (parseGuiActionCounts setup.toLowercase) ⟨0, 0, 0, 0, 0, 0⟩
    some (.obj [("patterns", .arr (stats.guiPatterns.map .str)),
      ("actions", .obj [("saves", nat actions.saves), ("test_runs", nat actions.testRuns),
        ("searches", nat actions.searches), ("builds", nat actions.builds),
        ("undo_redos", nat actions.undoRedos), ("copy_pastes", nat actions.copyPastes)])])

/-- The context of `build_with_history`. -/
def buildWithHistory (input : Input String) : Json :=
  .obj ([("current", currentJson setup input.current),
      ("recent_activity", .arr ((extractRecentEvents (input.contexts.map fun event =>
        (event.timestamp, event.appName))).map recentJson)),
      ("patterns", .arr (input.patterns.map (patternJson setup))),
      ("session", sessionJson setup input.metrics)] ++
    optional "current_segment" (input.segmentStats.map segmentJson) ++
    optional "relevant_history" (if input.relevantHistory.isEmpty then none
      else some (.arr (input.relevantHistory.map (historyJson setup)))) ++
    optional "gui" (input.segmentStats.bind (guiJson setup)))

end

/-! ## What can be read off the context -/

/-- The texts that two inputs share where the assembler does not filter. -/
structure SameUnfiltered (x y : Input String) : Prop where
  app : x.current.appName = y.current.appName
  recent : x.contexts.map (·.appName) = y.contexts.map (·.appName)
  patterns : x.patterns.map (·.description) = y.patterns.map (·.description)
  content : x.segmentStats.map (·.contentSummary.map (·.content)) =
    y.segmentStats.map (·.contentSummary.map (·.content))
  history : x.relevantHistory.map (·.summary) = y.relevantHistory.map (·.summary)

/-- A field of an object that is a string. -/
def text (key : String) (value : Json) : Option String := (value.get key).bind Json.asStr

/-- The elements of an array. -/
def elements : Json → List Json
  | .arr xs => xs
  | _ => []

/-- The strings under one key in the objects of an array. -/
def texts (key : String) (value : Json) : List (Option String) := (elements value).map (text key)

theorem lookup_optional (key : String) (value : Option Json) :
    (optional key value).lookup key = value := by
  cases value <;> simp [optional]

theorem lookup_optional_of_ne {key other : String} (value : Option Json) (h : key ≠ other) :
    (optional other value).lookup key = none := by
  cases value <;> simp [optional, List.lookup_cons, List.lookup_nil, beq_eq_false_iff_ne.mpr h]

theorem extractRecentEvents_apps (events : List (Int × String)) :
    (extractRecentEvents events).map (·.app) = events.map Prod.snd := by
  fun_induction extractRecentEvents events with
  | case1 => rfl
  | case2 timestamp app => rfl
  | case3 timestamp app next app' rest ih => simp [ih]

section

variable (setup : Setup) (input : Input String)

theorem get_current :
    (buildWithHistory setup input).get "current" = some (currentJson setup input.current) := rfl

theorem get_recent :
    (buildWithHistory setup input).get "recent_activity" =
      some (.arr ((extractRecentEvents (input.contexts.map fun event =>
        (event.timestamp, event.appName))).map recentJson)) := by
  simp [buildWithHistory, Json.get, List.lookup_cons]

theorem get_patterns :
    (buildWithHistory setup input).get "patterns" =
      some (.arr (input.patterns.map (patternJson setup))) := by
  simp [buildWithHistory, Json.get, List.lookup_cons]

theorem get_segment :
    (buildWithHistory setup input).get "current_segment" =
      input.segmentStats.map segmentJson := by
  simp [buildWithHistory, Json.get, List.lookup_cons, List.lookup_append, lookup_optional,
    lookup_optional_of_ne]

theorem get_history :
    (buildWithHistory setup input).get "relevant_history" =
      if input.relevantHistory.isEmpty then none
      else some (.arr (input.relevantHistory.map (historyJson setup))) := by
  simp [buildWithHistory, Json.get, List.lookup_cons, List.lookup_append, lookup_optional,
    lookup_optional_of_ne]

/-- The app names of the recent activity. -/
theorem texts_recent :
    ((buildWithHistory setup input).get "recent_activity").map (texts "app") =
      some ((input.contexts.map (·.appName)).map some) := by
  have happs := extractRecentEvents_apps
    (input.contexts.map fun event => (event.timestamp, event.appName))
  rw [get_recent, Option.map_some]
  simp only [texts, elements, List.map_map] at happs ⊢
  have hread : text "app" ∘ recentJson = some ∘ RecentEvent.app := rfl
  rw [hread, ← List.map_map, happs, List.map_map]
  rfl

/-- The descriptions of the patterns. -/
theorem texts_patterns :
    ((buildWithHistory setup input).get "patterns").map (texts "desc") =
      some ((input.patterns.map (·.description)).map some) := by
  rw [get_patterns, Option.map_some]
  simp only [texts, elements, List.map_map]
  rfl

/-- The summaries of the history, which is left out when it is empty. -/
theorem texts_history :
    (((buildWithHistory setup input).get "relevant_history").map (texts "summary")).getD [] =
      (input.relevantHistory.map (·.summary)).map some := by
  rw [get_history]
  cases input.relevantHistory with
  | nil => rfl
  | cons entry rest =>
    simp only [texts, elements, List.map_map, List.isEmpty_cons, Bool.false_eq_true, if_false,
      Option.map_some, Option.getD_some]
    rfl

/-- The contents of the segment, each with its GUI line. -/
theorem texts_content :
    ((buildWithHistory setup input).get "current_segment").map
        (fun segment => ((segment.get "content_summary").map (texts "content")).getD []) =
      input.segmentStats.map (·.contentSummary.map fun entry => some entry.enriched) := by
  rw [get_segment, Option.map_map]
  cases input.segmentStats with
  | none => rfl
  | some stats =>
    have hget : (segmentJson stats).get "content_summary" =
        some (.arr (stats.contentSummary.map contentJson)) := by
      simp [segmentJson, Json.get, List.lookup_cons, List.lookup_append, lookup_optional_of_ne]
    simp only [Option.map_some, Function.comp_apply, hget, texts, elements, List.map_map,
      Option.getD_some]
    rfl

end

/-! ## Equal after filtering -/

section

variable {α β γ δ : Type} {k : α → β} {u : α → γ} {g : α → δ}

/-- What agrees under two readings agrees under a third that follows from them. -/
theorem map_eq_of_map_eq {xs ys : List α} (hk : xs.map k = ys.map k) (hu : xs.map u = ys.map u)
    (hg : ∀ a b, k a = k b → u a = u b → g a = g b) : xs.map g = ys.map g := by
  induction xs generalizing ys with
  | nil =>
    cases ys with
    | nil => rfl
    | cons y ys => cases hk
  | cons x xs ih =>
    cases ys with
    | nil => cases hk
    | cons y ys =>
      simp only [List.map_cons, List.cons.injEq] at hk hu ⊢
      exact ⟨hg x y hk.1 hu.1, ih hk.2 hu.2⟩

@[inherit_doc map_eq_of_map_eq]
theorem optionMap_eq_of_map_eq {a b : Option α} (hk : a.map k = b.map k)
    (hu : a.map u = b.map u) (hg : ∀ a b, k a = k b → u a = u b → g a = g b) :
    a.map g = b.map g := by
  cases a with
  | none =>
    cases b with
    | none => rfl
    | some b => cases hk
  | some a =>
    cases b with
    | none => cases hk
    | some b => exact congrArg some (hg a b (Option.some.inj hk) (Option.some.inj hu))

end

variable {setup : Setup} {x y : Input String}

theorem ContentSummaryEntry.enriched_inj {f : String → String} {a b : ContentSummaryEntry String}
    (hf : a.map f = b.map f) : a.enriched = b.enriched ↔ a.content = b.content := by
  have hline : a.guiSummaryLine = b.guiSummaryLine := congrArg (·.guiSummaryLine) hf
  simp only [enriched, hline]
  cases b.guiSummaryLine with
  | none => rfl
  | some line => exact String.append_left_inj _

/-- **The unfiltered texts can be read off the context.** -/
theorem sameUnfiltered_of_eq (hf : x.map setup.piiFilter = y.map setup.piiFilter)
    (h : buildWithHistory setup x = buildWithHistory setup y) : SameUnfiltered x y where
  app := by
    have hcurrent := congrArg (fun v : Json => (v.get "current").bind (text "app")) h
    simpa only [get_current, Option.bind_some] using Option.some.inj hcurrent
  recent := by
    have hrecent := congrArg
      (fun v : Json => (v.get "recent_activity").map (texts "app")) h
    simp only [texts_recent, Option.some.injEq] at hrecent
    exact List.map_injective_iff.mpr (Option.some_injective _) hrecent
  patterns := by
    have hpatterns := congrArg (fun v : Json => (v.get "patterns").map (texts "desc")) h
    simp only [texts_patterns, Option.some.injEq] at hpatterns
    exact List.map_injective_iff.mpr (Option.some_injective _) hpatterns
  content := by
    have hcontent := congrArg (fun v : Json => (v.get "current_segment").map
      (fun segment => ((segment.get "content_summary").map (texts "content")).getD [])) h
    simp only [texts_content] at hcontent
    refine optionMap_eq_of_map_eq (congrArg Input.segmentStats hf) hcontent fun a b hmap hu => ?_
    refine map_eq_of_map_eq (congrArg SegmentStats.contentSummary hmap) hu fun c d hcd henriched => ?_
    exact (ContentSummaryEntry.enriched_inj hcd).mp (Option.some.inj henriched)
  history := by
    have hhistory := congrArg
      (fun v : Json => ((v.get "relevant_history").map (texts "summary")).getD []) h
    simp only [texts_history] at hhistory
    exact List.map_injective_iff.mpr (Option.some_injective _) hhistory

/-! ### Section by section -/

section

variable (setup : Setup)

theorem currentJson_eq {a b : CurrentActivity String}
    (hf : a.map setup.piiFilter = b.map setup.piiFilter) (happ : a.appName = b.appName) :
    currentJson setup a = currentJson setup b := by
  obtain ⟨aApp, aTitle, aHint, aFocus, aDeep, aText⟩ := a
  obtain ⟨bApp, bTitle, bHint, bFocus, bDeep, bText⟩ := b
  simp only [CurrentActivity.map, CurrentActivity.mk.injEq] at hf happ
  obtain ⟨-, htitle, hhint, rfl, rfl, htext⟩ := hf
  -- both sides see the hint and the text only through their filtered images
  have hfiltered (t : Option String) : t.map (fun text => Json.str (setup.piiFilter text)) =
      (t.map setup.piiFilter).map Json.str := by rw [Option.map_map]; rfl
  simp only [currentJson, hfiltered, happ, htitle, hhint, htext]

theorem patternJson_eq {a b : ActivityPattern String}
    (hf : a.map setup.piiFilter = b.map setup.piiFilter) (hdesc : a.description = b.description) :
    patternJson setup a = patternJson setup b := by
  have htype : a.patternType = b.patternType := congrArg (·.patternType) hf
  have hconfidence : a.confidence = b.confidence := congrArg (·.confidence) hf
  simp only [patternJson, htype, hconfidence, hdesc]

theorem historyJson_eq {a b : RelevantHistoryEntry String}
    (hf : a.map setup.piiFilter = b.map setup.piiFilter) (hsummary : a.summary = b.summary) :
    historyJson setup a = historyJson setup b := by
  have hwhen : a.when = b.when := congrArg (·.when) hf
  have hsimilarity : a.similarity = b.similarity := congrArg (·.similarity) hf
  simp only [historyJson, hwhen, hsimilarity, hsummary]

theorem contentSummaryEntry_eq {a b : ContentSummaryEntry String}
    (hf : a.map setup.piiFilter = b.map setup.piiFilter) (hcontent : a.content = b.content) :
    a = b := by
  cases a; cases b
  simp only [ContentSummaryEntry.map, ContentSummaryEntry.mk.injEq] at hf hcontent ⊢
  exact ⟨hcontent, hf.2⟩

/-- A segment has no other free text than the contents. -/
theorem segmentStats_eq {a b : SegmentStats String}
    (hf : a.map setup.piiFilter = b.map setup.piiFilter)
    (hcontent : a.contentSummary.map (·.content) = b.contentSummary.map (·.content)) : a = b := by
  have hentries : a.contentSummary = b.contentSummary := by
    have hmap := congrArg SegmentStats.contentSummary hf
    simpa using map_eq_of_map_eq (g := id) hmap hcontent
      fun c d hcd hu => contentSummaryEntry_eq setup hcd hu
  cases a; cases b
  simp only [SegmentStats.map, SegmentStats.mk.injEq] at hf hentries ⊢
  exact ⟨hf.1, hf.2.1, hf.2.2.1, hf.2.2.2.1, hf.2.2.2.2.1, hentries, hf.2.2.2.2.2.2⟩

end

/-- **Nothing else gets past the filter.** -/
theorem eq_of_sameUnfiltered (hf : x.map setup.piiFilter = y.map setup.piiFilter)
    (h : SameUnfiltered x y) : buildWithHistory setup x = buildWithHistory setup y := by
  have hcurrent := currentJson_eq setup (congrArg Input.current hf) h.app
  have hcontexts : (x.contexts.map fun event => (event.timestamp, event.appName)) =
      y.contexts.map fun event => (event.timestamp, event.appName) :=
    map_eq_of_map_eq (congrArg Input.contexts hf) h.recent fun a b hmap happ =>
      Prod.ext (congrArg (·.timestamp) hmap) happ
  have hpatterns : x.patterns.map (patternJson setup) = y.patterns.map (patternJson setup) :=
    map_eq_of_map_eq (congrArg Input.patterns hf) h.patterns fun _ _ => patternJson_eq setup
  have hmetrics : x.metrics = y.metrics := congrArg (·.metrics) hf
  have hhistory : x.relevantHistory.map (historyJson setup) =
      y.relevantHistory.map (historyJson setup) :=
    map_eq_of_map_eq (congrArg Input.relevantHistory hf) h.history
      fun _ _ => historyJson_eq setup
  have hempty : x.relevantHistory.isEmpty = y.relevantHistory.isEmpty := by
    have hlength := congrArg List.isEmpty h.history
    simpa using hlength
  have hstats : x.segmentStats = y.segmentStats := by
    simpa using optionMap_eq_of_map_eq (g := id) (congrArg Input.segmentStats hf) h.content
      fun a b => segmentStats_eq setup
  simp only [buildWithHistory, hcurrent, hcontexts, hpatterns, hmetrics, hhistory, hempty, hstats]

/-- A filter that hides nothing lets nothing differ. -/
theorem sameUnfiltered_of_injective (hinj : Function.Injective setup.piiFilter)
    (hf : x.map setup.piiFilter = y.map setup.piiFilter) : SameUnfiltered x y := by
  -- a list of texts is known from its filtered image
  have htexts {α β : Type} {as bs : List α} {image : α → β} (filtered : β → String)
      {reading : α → String} (himage : ∀ a, filtered (image a) = setup.piiFilter (reading a))
      (hmap : as.map image = bs.map image) : as.map reading = bs.map reading := by
    refine map_eq_of_map_eq hmap hmap fun a b hab _ => hinj ?_
    rw [← himage, ← himage, hab]
  have hstats := congrArg Input.segmentStats hf
  refine ⟨hinj (congrArg (·.current.appName) hf), ?_, ?_, ?_, ?_⟩
  · exact htexts ContextText.appName (fun _ => rfl) (congrArg Input.contexts hf)
  · exact htexts ActivityPattern.description (fun _ => rfl) (congrArg Input.patterns hf)
  · refine optionMap_eq_of_map_eq hstats hstats fun a b hab _ => ?_
    exact htexts ContentSummaryEntry.content (fun _ => rfl)
      (congrArg SegmentStats.contentSummary hab)
  · exact htexts RelevantHistoryEntry.summary (fun _ => rfl) (congrArg Input.relevantHistory hf)

/-- An input that is only the name of the app in front. -/
def onlyApp (appName : String) : Input String :=
  ⟨⟨appName, "", none, ⟨0⟩, 0, none⟩, [], [], ⟨0, 0, ⟨0⟩⟩, none, []⟩

/-- **The context depends on its texts through the filter for no filter that hides something.**
Two inputs that are equal after filtering give the same context exactly when they share the app
names, the descriptions of the patterns, the contents of the segment and the summaries of the
history as they are.  So equal inputs after filtering always give equal contexts only for a filter
that is injective. -/
theorem depends_through_filter_iff (setup : Setup) :
    (∀ x y : Input String, x.map setup.piiFilter = y.map setup.piiFilter →
      (buildWithHistory setup x = buildWithHistory setup y ↔ SameUnfiltered x y)) ∧
    ((∀ x y : Input String, x.map setup.piiFilter = y.map setup.piiFilter →
      buildWithHistory setup x = buildWithHistory setup y) ↔
        Function.Injective setup.piiFilter) := by
  have hpair (x y : Input String) (hf : x.map setup.piiFilter = y.map setup.piiFilter) :
      buildWithHistory setup x = buildWithHistory setup y ↔ SameUnfiltered x y :=
    ⟨sameUnfiltered_of_eq hf, eq_of_sameUnfiltered hf⟩
  refine ⟨hpair, fun hall a b hab => ?_, fun hinj x y hf => ?_⟩
  · have hf : (onlyApp a).map setup.piiFilter = (onlyApp b).map setup.piiFilter := by
      simp only [onlyApp, Input.map, CurrentActivity.map, hab]
    exact (sameUnfiltered_of_eq hf (hall _ _ hf)).app
  · exact eq_of_sameUnfiltered hf (sameUnfiltered_of_injective hinj hf)

/-- A filter that masks a text with an address in it. -/
def maskAddress (text : String) : String :=
  if Lib.Text.contains text.toList ['@'] then "[EMAIL]" else text

/-- A window title, and the content label that is parsed from it. -/
def mailTo (title : String) : Input String :=
  { onlyApp "Mail" with
    current := { (onlyApp "Mail").current with windowTitle := title }
    segmentStats := some ⟨5, none, 3, 0, "Communication", [⟨title, "Email", "Writing", 5, none⟩], []⟩ }

/-- The title of the window goes through the filter, and the label made of it goes around. -/
theorem label_not_filtered :
    ¬ ∀ (setup : Setup) (x y : Input String), x.map setup.piiFilter = y.map setup.piiFilter →
      buildWithHistory setup x = buildWithHistory setup y := by
  intro hall
  have hf : (mailTo "To alice@example.com").map maskAddress =
      (mailTo "To bob@example.com").map maskAddress := by
    have hmask : maskAddress "To alice@example.com" = maskAddress "To bob@example.com" := by
      decide +kernel
    simp only [mailTo, onlyApp, Input.map, CurrentActivity.map, SegmentStats.map,
      ContentSummaryEntry.map, Option.map_some, List.map_cons, List.map_nil, hmask]
  have hsame := sameUnfiltered_of_eq hf (hall ⟨maskAddress, id, fun _ => .null⟩ _ _ hf)
  have hlabels : some ["To alice@example.com"] = some ["To bob@example.com"] := hsame.content
  revert hlabels
  decide

end Oneshim.Assembler
